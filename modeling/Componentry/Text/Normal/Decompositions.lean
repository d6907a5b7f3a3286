import Componentry.Text.Normal.Compositions

/-!
# Decompositions of characters

Which characters stand for others: letters with marks for the letter and its marks, and other forms
of a letter, such as wide or raised ones, for the letter itself (the compatibility decompositions of
Unicode 14, in full). Hangul syllables are left out, since their parts can be computed.
-/

namespace Componentry.Text

/-- Characters that stand for one other. A row holds the first of several code points that follow
each other, its image, and how many there are; their images follow each other as well. -/
def imageRanges : List (Nat × Nat × Nat) :=
  [(178,50,2),(832,768,2),(1009,961,2),(7472,68,2),(7475,71,8),(7488,84,2),(7492,592,2),
  (7496,100,2),(7499,603,2),(7508,7446,2),(7511,116,2),(7517,946,3),(7520,966,2),(7524,117,2),
  (7526,946,2),(7529,966,2),(7588,616,3),(7598,626,4),(7603,642,2),(7606,649,2),(7609,651,2),
  (7612,656,3),(8308,52,6),(8317,40,2),(8320,48,10),(8333,40,2),(8342,107,4),(8347,115,2),
  (8473,80,3),(8492,66,2),(8496,69,2),(8501,1488,4),(8518,100,2),(8520,105,2),(8557,67,2),
  (8573,99,2),(9001,12296,2),(9312,49,9),(9398,65,26),(9424,97,26),(12345,21316,2),(12593,4352,2),
  (12597,4524,2),(12599,4355,3),(12602,4528,6),(12609,4358,3),(12613,4361,10),(12623,4449,21),
  (12645,4372,2),(12647,4551,2),(12657,4381,2),(12660,4386,2),(12664,4395,5),(12674,4593,2),
  (12676,4439,3),(12679,4484,2),(12682,4497,2),(12897,4354,2),(12899,4357,3),(12903,4363,2),
  (12905,4366,5),(13012,12458,2),(13028,12490,6),(13038,12510,5),(13045,12520,6),(13051,12527,4),
  (64082,31117,2),(64290,1491,2),(64292,1499,3),(64381,1670,2),(64415,1722,2),(65041,12289,2),
  (65043,58,2),(65047,12310,2),(65077,40,2),(65081,12308,2),(65083,12304,2),(65085,12298,2),
  (65087,12296,2),(65089,12300,4),(65113,40,2),(65117,12308,2),(65121,42,2),(65129,36,2),
  (65166,1575,2),(65170,1576,2),(65172,1577,2),(65176,1578,2),(65180,1579,2),(65184,1580,2),
  (65188,1581,2),(65192,1582,2),(65194,1583,2),(65196,1584,2),(65198,1585,2),(65200,1586,2),
  (65204,1587,2),(65208,1588,2),(65212,1589,2),(65216,1590,2),(65220,1591,2),(65224,1592,2),
  (65228,1593,2),(65236,1601,2),(65240,1602,2),(65244,1603,2),(65248,1604,2),(65252,1605,2),
  (65256,1606,2),(65260,1607,2),(65262,1608,2),(65264,1609,2),(65281,33,94),(65375,10629,2),
  (65378,12300,2),(65397,12458,2),(65413,12490,6),(65423,12510,5),(65430,12520,6),(65438,12441,2),
  (65441,4352,2),(65445,4524,2),(65447,4355,3),(65450,4528,6),(65457,4358,3),(65461,4361,10),
  (65474,4449,6),(65482,4455,6),(65490,4461,6),(65498,4467,3),(65504,162,2),(65513,8592,4),
  (67457,720,2),(67467,598,2),(67481,682,2),(67491,630,2),(67496,637,2),(67507,673,2),(67510,448,3),
  (119808,65,26),(119834,97,26),(119860,65,26),(119886,97,7),(119894,105,18),(119912,65,26),
  (119938,97,26),(119966,67,2),(119973,74,2),(119977,78,4),(119982,83,8),(119990,97,4),
  (119997,104,7),(120005,112,11),(120016,65,26),(120042,97,26),(120068,65,2),(120071,68,4),
  (120077,74,8),(120086,83,7),(120094,97,26),(120120,65,2),(120123,68,4),(120128,73,5),
  (120138,83,7),(120146,97,26),(120172,65,26),(120198,97,26),(120224,65,26),(120250,97,26),
  (120276,65,26),(120302,97,26),(120328,65,26),(120354,97,26),(120380,65,26),(120406,97,26),
  (120432,65,26),(120458,97,26),(120488,913,17),(120506,931,7),(120514,945,25),(120546,913,17),
  (120564,931,7),(120572,945,25),(120604,913,17),(120622,931,7),(120630,945,25),(120662,913,17),
  (120680,931,7),(120688,945,25),(120720,913,17),(120738,931,7),(120746,945,25),(120778,988,2),
  (120782,48,10),(120792,48,10),(120802,48,10),(120812,48,10),(120822,48,10),(126464,1575,2),
  (126474,1603,4),(126485,1578,2),(126506,1603,4),(126517,1578,2),(126572,1605,2),(126581,1578,2),
  (126592,1575,2),(126596,1607,2),(126603,1604,3),(126613,1578,2),(126635,1604,3),(126645,1578,2),
  (127280,65,26),(130032,48,10),(194601,21253,2),(194689,24033,2),(194805,27578,2),(194885,30494,2),
  (195048,37591,2)]

set_option maxRecDepth 20000 in
/-- Runs of other characters that stand for one other. -/
def imageRuns : List (Nat × List Nat) :=
  [(160,[32]),(170,[97]),(181,[956]),(185,[49,111]),(383,[115]),(688,[104,614,106,114,633,635,641,
  119,121]),(736,[611,108,115,120,661]),(835,[787]),(884,[697]),(894,[59]),(903,[183]),(976,[946,
  952,933]),(981,[966,960]),(1008,[954]),(1012,[920,949]),(1017,[931]),(3852,[3851]),(4348,[4316]),
  (7468,[65,198,66]),(7474,[398]),(7484,[79,546,80,82]),(7490,[87,97]),(7494,[7426,98]),
  (7498,[601]),(7501,[103]),(7503,[107,109,331,111,596]),(7510,[112]),(7513,[7453,623,118,7461]),
  (7522,[105,114]),(7528,[961]),(7544,[1085]),(7579,[594,99,597,240,604,102,607,609,613]),
  (7591,[7547,669,621,7557,671,625,624]),(7602,[632]),(7605,[427]),(7608,[7452]),(7611,[122]),
  (7615,[952]),(8126,[953]),(8175,[96]),(8192,[32,32,32,32,32,32,32,32,32,32,32]),(8209,[8208]),
  (8228,[46]),(8239,[32]),(8287,[32]),(8304,[48,105]),(8314,[43,8722,61]),(8319,[110]),(8330,[43,
  8722,61]),(8336,[97,101,111,120,601,104]),(8346,[112]),(8450,[67]),(8455,[400]),(8458,[103,72,72,
  72,104,295,73,73,76,108]),(8469,[78]),(8476,[82,82]),(8484,[90]),(8486,[937]),(8488,[90]),
  (8490,[75]),(8495,[101]),(8499,[77,111]),(8505,[105]),(8508,[960,947,915,928,8721]),(8517,[68]),
  (8544,[73]),(8548,[86]),(8553,[88]),(8556,[76]),(8559,[77,105]),(8564,[118]),(8569,[120]),
  (8572,[108]),(8575,[109]),(9450,[48]),(11388,[106,86]),(11631,[11617]),(11935,[27597]),
  (12019,[40863]),(12032,[19968,20008,20022,20031,20057,20101,20108,20128,20154,20799,20837,20843,
  20866,20886,20907,20960,20981,20992,21147,21241,21269,21274,21304,21313,21340,21353,21378,21430,
  21448,21475,22231,22303,22763,22786,22794,22805,22823,22899,23376,23424,23544,23567,23586,23608,
  23662,23665,24027,24037,24049,24062,24178,24186,24191,24308,24318,24331,24339,24400,24417,24435,
  24515,25096,25142,25163,25903,25908,25991,26007,26020,26041,26080,26085,26352,26376,26408,27424,
  27490,27513,27571,27595,27604,27611,27663,27668,27700,28779,29226,29238,29243,29247,29255,29273,
  29275,29356,29572,29577,29916,29926,29976,29983,29992,30000,30091,30098,30326,30333,30382,30399,
  30446,30683,30690,30707,31034,31160,31166,31348,31435,31481,31859,31992,32566,32593,32650,32701,
  32769,32780,32786,32819,32895,32905,33251,33258,33267,33276,33292,33307,33311,33390,33394,33400,
  34381,34411,34880,34892,34915,35198,35211,35282,35328,35895,35910,35925,35960,35997,36196,36208,
  36275,36523,36554,36763,36784,36789,37009,37193,37318,37324,37329,38263,38272,38428,38582,38585,
  38632,38737,38750,38754,38761,38859,38893,38899,38913,39080,39131,39135,39318,39321,39340,39592,
  39640,39647,39717,39727,39730,39740,39770,40165,40565,40575,40613,40635,40643,40653,40657,40697,
  40701,40718,40723,40736,40763,40778,40786,40845,40860,40864]),(12288,[32]),(12342,[12306]),
  (12344,[21313]),(12595,[4522,4354]),(12608,[4378]),(12612,[4385]),(12644,[4448]),(12649,[4556,
  4558,4563,4567,4569,4380,4573,4575]),(12659,[4384]),(12662,[4391,4393]),(12669,[4402,4406,4416,
  4423,4428]),(12681,[4488]),(12684,[4500,4510,4513]),(12690,[19968,20108,19977,22235,19978,20013,
  19979,30002,20057,19993,19969,22825,22320,20154]),(12868,[21839,24188,25991,31631]),
  (12896,[4352]),(12902,[4361]),(12928,[19968,20108,19977,22235,20116,20845,19971,20843,20061,21313,
  26376,28779,27700,26408,37329,22303,26085,26666,26377,31038,21517,29305,36001,31069,21172,31192,
  30007,22899,36969,20778,21360,27880,38917,20241,20889,27491,19978,20013,19979,24038,21491,21307,
  23447,23398,30435,20225,36039,21332,22812]),(13008,[12450,12452,12454,12456]),(13014,[12461,12463,
  12465,12467,12469,12471,12473,12475,12477,12479,12481,12484,12486,12488]),(13034,[12498,12501,
  12504,12507]),(13043,[12516,12518]),(42652,[1098,1100]),(42864,[42863]),(42994,[67,70,81]),
  (43000,[294,339]),(43868,[42791,43831,619,43858]),(43881,[653]),(63744,[35912,26356,36554,36040,
  28369,20018,21477,40860,40860,22865,37329,21895,22856,25078,30313,32645,34367,34746,35064,37007,
  27138,27931,28889,29662,33853,37226,39409,20098,21365,27396,29211,34349,40478,23888,28651,34253,
  35172,25289,33240,34847,24266,26391,28010,29436,37070,20358,20919,21214,25796,27347,29200,30439,
  32769,34310,34396,36335,38706,39791,40442,30860,31103,32160,33737,37636,40575,35542,22751,24324,
  31840,32894,29282,30922,36034,38647,22744,23650,27155,28122,28431,32047,32311,38475,21202,32907,
  20956,20940,31260,32190,33777,38517,35712,25295,27138,35582,20025,23527,24594,29575,30064,21271,
  30971,20415,24489,19981,27852,25976,32034,21443,22622,30465,33865,35498,27578,36784,27784,25342,
  33509,25504,30053,20142,20841,20937,26753,31975,33391,35538,37327,21237,21570,22899,24300,26053,
  28670,31018,38317,39530,40599,40654,21147,26310,27511,36706,24180,24976,25088,25754,28451,29001,
  29833,31178,32244,32879,36646,34030,36899,37706,21015,21155,21693,28872,35010,35498,24265,24565,
  25467,27566,31806,29557,20196,22265,23527,23994,24604,29618,29801,32666,32838,37428,38646,38728,
  38936,20363,31150,37300,38584,24801,20102,20698,23534,23615,26009,27138,29134,30274,34044,36988,
  40845,26248,38446,21129,26491,26611,27969,28316,29705,30041,30827,32016,39006,20845,25134,38520,
  20523,23833,28138,36650,24459,24900,26647,29575,38534,21033,21519,23653,26131,26446,26792,27877,
  29702,30178,32633,35023,35041,37324,38626,21311,28346,21533,29136,29848,34298,38563,40023,40607,
  26519,28107,33256,31435,31520,31890,29376,28825,35672,20160,33590,21050,20999,24230,25299,31958,
  23429,27934,26292,36667,34892,38477,35211,24275,20800,21952]),(64016,[22618]),(64018,[26228]),
  (64021,[20958,29482,30410,31036,31070,31077,31119,38742,31934,32701]),(64032,[34322]),
  (64034,[35576]),(64037,[36920,37117]),(64042,[39151,39164,39208,40372,37086,38583,20398,20711,
  20813,21193,21220,21329,21917,22022,22120,22592,22696,23652,23662,24724,24936,24974,25074,25935,
  26082,26257,26757,28023,28186,28450,29038,29227,29730,30865,31038,31049,31048,31056,31062,31069]),
  (64084,[31296,31361,31680,32244,32265,32321,32626,32773,33261,33401,33401,33879,35088,35222,35585,
  35641,36051,36104,36790,36920,38627,38911,38971,24693,148206,33304]),(64112,[20006,20917,20840,
  20352,20805,20864,21191,21242,21917,21845,21913,21986,22618,22707,22852,22868,23138,23336,24274,
  24281,24425,24493,24792,24910,24840,24974,24928,25074,25140,25540,25628,25682,25942,26228,26391,
  26395,26454,27513,27578,27969,28379,28363,28450,28702,29038,30631,29237,29359,29482,29809,29958,
  30011,30237,30239,30410,30427,30452,30538,30528,30924,31409,31680,31867,32091,32244,32574,32773,
  33618,33775,34681,35137,35206,35222,35519,35576,35531,35585,35582,35565,35641,35722,36104,36664,
  36978,37273,37494,38524,38627,38742,38875,38911,38923,38971,39698,40860,141386,141380,144341,
  15261,16408,16441,152137,154832,163539,40771,40846]),(64288,[1506,1488]),(64295,[1512,1514,43]),
  (64336,[1649,1649,1659,1659,1659,1659,1662,1662,1662,1662,1664,1664,1664,1664,1658,1658,1658,1658,
  1663,1663,1663,1663,1657,1657,1657,1657,1700,1700,1700,1700,1702,1702,1702,1702,1668,1668,1668,
  1668,1667,1667,1667,1667,1670,1670,1670]),(64383,[1671,1671,1671,1677,1677,1676,1676,1678,1678,
  1672,1672,1688,1688,1681,1681,1705,1705,1705,1705,1711,1711,1711,1711,1715,1715,1715,1715,1713,
  1713,1713,1713,1722]),(64417,[1723,1723,1723]),(64422,[1729,1729,1729,1729,1726,1726,1726,1726,
  1746,1746]),(64467,[1709,1709,1709,1709,1735,1735,1734,1734,1736,1736]),(64478,[1739,1739,1733,
  1733,1737,1737,1744,1744,1744,1744,1609,1609]),(64508,[1740,1740,1740,1740]),(65040,[44]),
  (65045,[33,63]),(65073,[8212,8211,95,95]),(65079,[123,125]),(65095,[91,93]),(65101,[95,95,95,44,
  12289,46]),(65108,[59,58,63,33,8212]),(65115,[123,125]),(65119,[35,38]),(65123,[45,60,62,61]),
  (65128,[92]),(65131,[64]),(65152,[1569]),(65165,[1575]),(65168,[1576,1576]),(65174,[1578,1578]),
  (65178,[1579,1579]),(65182,[1580,1580]),(65186,[1581,1581]),(65190,[1582,1582]),(65202,[1587,
  1587]),(65206,[1588,1588]),(65210,[1589,1589]),(65214,[1590,1590]),(65218,[1591,1591]),
  (65222,[1592,1592]),(65226,[1593,1593]),(65230,[1594,1594,1594,1601,1601,1601]),(65238,[1602,
  1602]),(65242,[1603,1603]),(65246,[1604,1604]),(65250,[1605,1605]),(65254,[1606,1606]),
  (65258,[1607,1607]),(65266,[1610,1610,1610]),(65377,[12290]),(65380,[12289,12539,12530,12449,
  12451,12453,12455,12457,12515,12517,12519,12483,12540,12450,12452,12454,12456]),(65399,[12461,
  12463,12465,12467,12469,12471,12473,12475,12477,12479,12481,12484,12486,12488]),(65419,[12498,
  12501,12504,12507]),(65428,[12516,12518]),(65436,[12527,12531]),(65440,[4448]),(65443,[4522,
  4354]),(65456,[4378]),(65460,[4385]),(65506,[172]),(65508,[166,165,8361]),(65512,[9474]),
  (65517,[9632,9675]),(67459,[230,665,595]),(67463,[675,43878,677,676]),(67469,[7569,600,606,681,
  612,610,608,667,295,668,615,644]),(67483,[620,122628,42894,622,122629,654,122630,248]),
  (67493,[113,634,122632]),(67498,[640,680,678,43879,679,648,11377]),(67506,[655]),(67509,[664]),
  (67513,[122634,122654]),(119964,[65]),(119970,[71]),(119995,[102]),(120134,[79]),(120484,[305,
  567]),(120505,[920]),(120513,[8711]),(120539,[8706,949,952,954,966,961,960]),(120563,[920]),
  (120571,[8711]),(120597,[8706,949,952,954,966,961,960]),(120621,[920]),(120629,[8711]),
  (120655,[8706,949,952,954,966,961,960]),(120679,[920]),(120687,[8711]),(120713,[8706,949,952,954,
  966,961,960]),(120737,[920]),(120745,[8711]),(120771,[8706,949,952,954,966,961,960]),
  (126466,[1580,1583]),(126469,[1608,1586,1581,1591,1610]),(126478,[1587,1593,1601,1589,1602,1585,
  1588]),(126487,[1582,1584,1590,1592,1594,1646,1722,1697,1647]),(126497,[1576,1580]),
  (126500,[1607]),(126503,[1581]),(126505,[1610]),(126510,[1587,1593,1601,1589,1602]),
  (126516,[1588]),(126519,[1582]),(126521,[1590]),(126523,[1594]),(126530,[1580]),(126535,[1581]),
  (126537,[1610]),(126539,[1604]),(126541,[1606,1587,1593]),(126545,[1589,1602]),(126548,[1588]),
  (126551,[1582]),(126553,[1590]),(126555,[1594]),(126557,[1722]),(126559,[1647]),(126561,[1576,
  1580]),(126564,[1607]),(126567,[1581,1591,1610,1603]),(126574,[1587,1593,1601,1589,1602]),
  (126580,[1588]),(126583,[1582]),(126585,[1590,1592,1594,1646]),(126590,[1697]),(126594,[1580,
  1583]),(126598,[1586,1581,1591,1610]),(126606,[1587,1593,1601,1589,1602,1585,1588]),(126615,[1582,
  1584,1590,1592,1594]),(126625,[1576,1580,1583]),(126629,[1608,1586,1581,1591,1610]),(126638,[1587,
  1593,1601,1589,1602,1585,1588]),(126647,[1582,1584,1590,1592,1594]),(127275,[67,82]),
  (127490,[12469]),(127504,[25163,23383,21452]),(127508,[20108,22810,35299,22825,20132,26144,28961,
  26009,21069,24460,20877,26032,21021,32066,29983,36009,22768,21561,28436,25237,25429,19968,19977,
  36938,24038,20013,21491,25351,36208,25171,31105,31354,21512,28288,26377,26376,30003,21106,21942,
  37197]),(127568,[24471,21487]),(194560,[20029,20024,20033,131362,20320,20398,20411,20482,20602,
  20633,20711,20687,13470,132666,20813,20820,20836,20855,132380,13497,20839,20877,132427,20887,
  20900,20172,20908,20917,168415,20981,20995,13535,21051,21062,21106,21111,13589,21191,21193,21220,
  21242]),(194603,[21271,21321,21329,21338,21363,21373,21375,21375,21375,133676,28784,21450,21471,
  133987,21483,21489,21510,21662,21560,21576,21608,21666,21750,21776,21843,21859,21892,21892,21913,
  21931,21939,21954,22294,22022,22295,22097,22132,20999,22766,22478,22516,22541,22411,22578,22577,
  22700,136420,22770,22775,22790,22810,22818,22882,136872,136938,23020,23067,23079,23000,23142,
  14062,14076,23304,23358,23358,137672,23491,23512,23527,23539,138008,23551,23558,24403,23586,14209,
  23648,23662,23744,23693,138724,23875,138726,23918,23915,23932]),(194691,[14383,24061,24104,24125,
  24169,14434,139651,14460,24240,24243,24246,24266,172946,24318,140081,140081,33281,24354,24354,
  14535,144056,156122,24418,24427,14563,24474,24525,24535,24569,24705,14650,14620,24724,141012,
  24775,24904,24908,24910,24908,24954,24974,25010,24996,25007,25054,25074,25078,25104,25115,25181,
  25265,25300,25424,142092,25405,25340,25448,25475,25572,142321,25634,25541,25513,14894,25705,25726,
  25757,25719,14956,25935,25964,143370,26083,26360,26185,15129,26257,15112,15076,20882,20885,26368,
  26268,32941,17369,26391,26395,26401,26462,26451,144323,15177,26618,26501,26706,26757,144493,26766,
  26655,26900,15261,26946,27043,27114,27304,145059,27355,15384,27425,145575,27476,15438,27506,
  27551]),(194807,[146061,138507,146170,27726,146620,27839,27853,27751,27926,27966,28023,27969,
  28009,28024,28037,146718,27956,28207,28270,15667,28363,28359,147153,28153,28526,147294,147342,
  28614,28729,28702,28699,15766,28746,28797,28791,28845,132389,28997,148067,29084,148395,29224,
  29237,29264,149000,29312,29333,149301,149524,29562,29579,16044,29605,16056,16056,29767,29788,
  29809,29829,29898,16155,29988,150582,30014,150674,30064,139679,30224,151457,151480,151620,16380,
  16392,30452,151795,151794,151833,151859]),(194887,[30495,30538,16441,30603,16454,16534,152605,
  30798,30860,30924,16611,153126,31062,153242,153285,31119,31211,16687,31296,31306,31311,153980,
  154279,154279,31470,16898,154539,31686,31689,16935,154752,31954,17056,31976,31971,32000,155526,
  32099,17153,32199,32258,32325,17204,156200,156231,17241,156377,32634,156478,32661,32762,32773,
  156890,156963,32864,157096,32880,144223,17365,32946,33027,17419,33086,23221,157607,157621,144275,
  144284,33281,33284,36766,17515,33425,33419,33437,21171,33457,33459,33469,33510,158524,33509,33565,
  33635,33709,33571,33725,33767,33879,33619,33738,33740,33756,158774,159083,158933,17707,34033,
  34035,34070,160714,34148,159532,17757,17761,159665,159954,17771,34384,34396,34407,34409,34473,
  34440,34574,34530,34681,34600,34667,34694,17879,34785,34817,17913,34912,34915,161383,35031,35038,
  17973,35066,13499,161966,162150,18110,18119,35488,35565,35722,35925,162984,36011,36033,36123,
  36215,163631,133124,36299,36284,36336,133342,36564,36664,165330,165357,37012,37105,37137,165678,
  37147,37432]),(195050,[37500,37881,37909,166906,38283,18837,38327,167287,18918,38595,23986,38691,
  168261,168474,19054,19062,38880,168970,19122,169110,38923,38923,38953,169398,39138,19251,39209,
  39335,39362,39422,19406,170800,39698,40000,40189,19662,19693,40295,172238,19704,172293,172558,
  172689,40635,19798,40697,40702,40709,40719,40726,40763,173568])]

/-- All characters that stand for one other, in rows as those of `imageRanges`. -/
def simpleImages : List (Nat × Nat × Nat) :=
  imageRanges ++ (rowsOf imageRuns).map fun (n, image) => (n, image, 1)

set_option maxRecDepth 20000 in
/-- Runs of characters that stand for several. -/
def partsRuns : List (Nat × List (List Nat)) :=
  [(168,[[32,776]]),(175,[[32,772]]),(180,[[32,769]]),(184,[[32,807]]),(188,[[49,8260,52],
  [49,8260,50],[51,8260,52]]),(306,[[73,74],[105,106]]),(319,[[76,183],[108,183]]),
  (329,[[700,110]]),(452,[[68,90,780],[68,122,780],[100,122,780],[76,74],[76,106],[108,106],[78,74],
  [78,106],[110,106]]),(469,[[85,776,772],[117,776,772],[85,776,769],[117,776,769],[85,776,780],
  [117,776,780],[85,776,768],[117,776,768]]),(478,[[65,776,772],[97,776,772],[65,775,772],
  [97,775,772]]),(492,[[79,808,772],[111,808,772]]),(497,[[68,90],[68,122],[100,122]]),
  (506,[[65,778,769],[97,778,769]]),(554,[[79,776,772],[111,776,772],[79,771,772],[111,771,772]]),
  (560,[[79,775,772],[111,775,772]]),(728,[[32,774],[32,775],[32,778],[32,808],[32,771],[32,779]]),
  (836,[[776,769]]),(890,[[32,837]]),(900,[[32,769],[32,776,769]]),(912,[[953,776,769]]),
  (944,[[965,776,769]]),(979,[[933,769],[933,776]]),(1415,[[1381,1410]]),(1653,[[1575,1652],
  [1608,1652],[1735,1652],[1610,1652]]),(2392,[[2325,2364],[2326,2364],[2327,2364],[2332,2364],
  [2337,2364],[2338,2364],[2347,2364],[2351,2364]]),(2524,[[2465,2492],[2466,2492]]),
  (2527,[[2479,2492]]),(2611,[[2610,2620]]),(2614,[[2616,2620]]),(2649,[[2582,2620],[2583,2620],
  [2588,2620]]),(2654,[[2603,2620]]),(2908,[[2849,2876],[2850,2876]]),(3275,[[3270,3266,3285]]),
  (3549,[[3545,3535,3530]]),(3635,[[3661,3634]]),(3763,[[3789,3762]]),(3804,[[3755,3737],
  [3755,3745]]),(3907,[[3906,4023]]),(3917,[[3916,4023]]),(3922,[[3921,4023]]),(3927,[[3926,4023]]),
  (3932,[[3931,4023]]),(3945,[[3904,4021]]),(3955,[[3953,3954]]),(3957,[[3953,3956],[4018,3968],
  [4018,3953,3968],[4019,3968],[4019,3953,3968]]),(3969,[[3953,3968]]),(3987,[[3986,4023]]),
  (3997,[[3996,4023]]),(4002,[[4001,4023]]),(4007,[[4006,4023]]),(4012,[[4011,4023]]),
  (4025,[[3984,4021]]),(7688,[[67,807,769],[99,807,769]]),(7700,[[69,772,768],[101,772,768],
  [69,772,769],[101,772,769]]),(7708,[[69,807,774],[101,807,774]]),(7726,[[73,776,769],
  [105,776,769]]),(7736,[[76,803,772],[108,803,772]]),(7756,[[79,771,769],[111,771,769],
  [79,771,776],[111,771,776],[79,772,768],[111,772,768],[79,772,769],[111,772,769]]),
  (7772,[[82,803,772],[114,803,772]]),(7780,[[83,769,775],[115,769,775],[83,780,775],[115,780,775],
  [83,803,775],[115,803,775]]),(7800,[[85,771,769],[117,771,769],[85,772,776],[117,772,776]]),
  (7834,[[97,702],[115,775]]),(7844,[[65,770,769],[97,770,769],[65,770,768],[97,770,768],
  [65,770,777],[97,770,777],[65,770,771],[97,770,771],[65,803,770],[97,803,770],[65,774,769],
  [97,774,769],[65,774,768],[97,774,768],[65,774,777],[97,774,777],[65,774,771],[97,774,771],
  [65,803,774],[97,803,774]]),(7870,[[69,770,769],[101,770,769],[69,770,768],[101,770,768],
  [69,770,777],[101,770,777],[69,770,771],[101,770,771],[69,803,770],[101,803,770]]),
  (7888,[[79,770,769],[111,770,769],[79,770,768],[111,770,768],[79,770,777],[111,770,777],
  [79,770,771],[111,770,771],[79,803,770],[111,803,770],[79,795,769],[111,795,769],[79,795,768],
  [111,795,768],[79,795,777],[111,795,777],[79,795,771],[111,795,771],[79,795,803],[111,795,803]]),
  (7912,[[85,795,769],[117,795,769],[85,795,768],[117,795,768],[85,795,777],[117,795,777],
  [85,795,771],[117,795,771],[85,795,803],[117,795,803]]),(7938,[[945,787,768],[945,788,768],
  [945,787,769],[945,788,769],[945,787,834],[945,788,834]]),(7946,[[913,787,768],[913,788,768],
  [913,787,769],[913,788,769],[913,787,834],[913,788,834]]),(7954,[[949,787,768],[949,788,768],
  [949,787,769],[949,788,769]]),(7962,[[917,787,768],[917,788,768],[917,787,769],[917,788,769]]),
  (7970,[[951,787,768],[951,788,768],[951,787,769],[951,788,769],[951,787,834],[951,788,834]]),
  (7978,[[919,787,768],[919,788,768],[919,787,769],[919,788,769],[919,787,834],[919,788,834]]),
  (7986,[[953,787,768],[953,788,768],[953,787,769],[953,788,769],[953,787,834],[953,788,834]]),
  (7994,[[921,787,768],[921,788,768],[921,787,769],[921,788,769],[921,787,834],[921,788,834]]),
  (8002,[[959,787,768],[959,788,768],[959,787,769],[959,788,769]]),(8010,[[927,787,768],
  [927,788,768],[927,787,769],[927,788,769]]),(8018,[[965,787,768],[965,788,768],[965,787,769],
  [965,788,769],[965,787,834],[965,788,834]]),(8027,[[933,788,768]]),(8029,[[933,788,769]]),
  (8031,[[933,788,834]]),(8034,[[969,787,768],[969,788,768],[969,787,769],[969,788,769],
  [969,787,834],[969,788,834]]),(8042,[[937,787,768],[937,788,768],[937,787,769],[937,788,769],
  [937,787,834],[937,788,834]]),(8049,[[945,769]]),(8051,[[949,769]]),(8053,[[951,769]]),
  (8055,[[953,769]]),(8057,[[959,769]]),(8059,[[965,769]]),(8061,[[969,769]]),(8064,[[945,787,837],
  [945,788,837],[945,787,768,837],[945,788,768,837],[945,787,769,837],[945,788,769,837],
  [945,787,834,837],[945,788,834,837],[913,787,837],[913,788,837],[913,787,768,837],
  [913,788,768,837],[913,787,769,837],[913,788,769,837],[913,787,834,837],[913,788,834,837],
  [951,787,837],[951,788,837],[951,787,768,837],[951,788,768,837],[951,787,769,837],
  [951,788,769,837],[951,787,834,837],[951,788,834,837],[919,787,837],[919,788,837],
  [919,787,768,837],[919,788,768,837],[919,787,769,837],[919,788,769,837],[919,787,834,837],
  [919,788,834,837],[969,787,837],[969,788,837],[969,787,768,837],[969,788,768,837],
  [969,787,769,837],[969,788,769,837],[969,787,834,837],[969,788,834,837],[937,787,837],
  [937,788,837],[937,787,768,837],[937,788,768,837],[937,787,769,837],[937,788,769,837],
  [937,787,834,837],[937,788,834,837]]),(8114,[[945,768,837]]),(8116,[[945,769,837]]),
  (8119,[[945,834,837]]),(8123,[[913,769]]),(8125,[[32,787]]),(8127,[[32,787],[32,834],[32,776,834],
  [951,768,837]]),(8132,[[951,769,837]]),(8135,[[951,834,837]]),(8137,[[917,769]]),
  (8139,[[919,769]]),(8141,[[32,787,768],[32,787,769],[32,787,834]]),(8146,[[953,776,768],
  [953,776,769]]),(8151,[[953,776,834]]),(8155,[[921,769]]),(8157,[[32,788,768],[32,788,769],
  [32,788,834]]),(8162,[[965,776,768],[965,776,769]]),(8167,[[965,776,834]]),(8171,[[933,769]]),
  (8173,[[32,776,768],[32,776,769]]),(8178,[[969,768,837]]),(8180,[[969,769,837]]),
  (8183,[[969,834,837]]),(8185,[[927,769]]),(8187,[[937,769]]),(8189,[[32,769],[32,788]]),
  (8215,[[32,819]]),(8229,[[46,46],[46,46,46]]),(8243,[[8242,8242],[8242,8242,8242]]),
  (8246,[[8245,8245],[8245,8245,8245]]),(8252,[[33,33]]),(8254,[[32,773]]),(8263,[[63,63],[63,33],
  [33,63]]),(8279,[[8242,8242,8242,8242]]),(8360,[[82,115]]),(8448,[[97,47,99],[97,47,115]]),
  (8451,[[176,67]]),(8453,[[99,47,111],[99,47,117]]),(8457,[[176,70]]),(8470,[[78,111]]),
  (8480,[[83,77],[84,69,76],[84,77]]),(8491,[[65,778]]),(8507,[[70,65,88]]),(8528,[[49,8260,55],
  [49,8260,57],[49,8260,49,48],[49,8260,51],[50,8260,51],[49,8260,53],[50,8260,53],[51,8260,53],
  [52,8260,53],[49,8260,54],[53,8260,54],[49,8260,56],[51,8260,56],[53,8260,56],[55,8260,56],
  [49,8260]]),(8545,[[73,73],[73,73,73],[73,86]]),(8549,[[86,73],[86,73,73],[86,73,73,73],[73,88]]),
  (8554,[[88,73],[88,73,73]]),(8561,[[105,105],[105,105,105],[105,118]]),(8565,[[118,105],
  [118,105,105],[118,105,105,105],[105,120]]),(8570,[[120,105],[120,105,105]]),
  (8585,[[48,8260,51]]),(8748,[[8747,8747],[8747,8747,8747]]),(8751,[[8750,8750],[8750,8750,8750]]),
  (9321,[[49,48],[49,49],[49,50],[49,51],[49,52],[49,53],[49,54],[49,55],[49,56],[49,57],[50,48],
  [40,49,41],[40,50,41],[40,51,41],[40,52,41],[40,53,41],[40,54,41],[40,55,41],[40,56,41],
  [40,57,41],[40,49,48,41],[40,49,49,41],[40,49,50,41],[40,49,51,41],[40,49,52,41],[40,49,53,41],
  [40,49,54,41],[40,49,55,41],[40,49,56,41],[40,49,57,41],[40,50,48,41],[49,46],[50,46],[51,46],
  [52,46],[53,46],[54,46],[55,46],[56,46],[57,46],[49,48,46],[49,49,46],[49,50,46],[49,51,46],
  [49,52,46],[49,53,46],[49,54,46],[49,55,46],[49,56,46],[49,57,46],[50,48,46],[40,97,41],
  [40,98,41],[40,99,41],[40,100,41],[40,101,41],[40,102,41],[40,103,41],[40,104,41],[40,105,41],
  [40,106,41],[40,107,41],[40,108,41],[40,109,41],[40,110,41],[40,111,41],[40,112,41],[40,113,41],
  [40,114,41],[40,115,41],[40,116,41],[40,117,41],[40,118,41],[40,119,41],[40,120,41],[40,121,41],
  [40,122,41]]),(10764,[[8747,8747,8747,8747]]),(10868,[[58,58,61],[61,61],[61,61,61]]),
  (10972,[[10973,824]]),(12443,[[32,12441],[32,12442]]),(12447,[[12424,12426]]),
  (12543,[[12467,12488]]),(12800,[[40,4352,41],[40,4354,41],[40,4355,41],[40,4357,41],[40,4358,41],
  [40,4359,41],[40,4361,41],[40,4363,41],[40,4364,41],[40,4366,41],[40,4367,41],[40,4368,41],
  [40,4369,41],[40,4370,41],[40,4352,4449,41],[40,4354,4449,41],[40,4355,4449,41],[40,4357,4449,41],
  [40,4358,4449,41],[40,4359,4449,41],[40,4361,4449,41],[40,4363,4449,41],[40,4364,4449,41],
  [40,4366,4449,41],[40,4367,4449,41],[40,4368,4449,41],[40,4369,4449,41],[40,4370,4449,41],
  [40,4364,4462,41],[40,4363,4457,4364,4453,4523,41],[40,4363,4457,4370,4462,41]]),
  (12832,[[40,19968,41],[40,20108,41],[40,19977,41],[40,22235,41],[40,20116,41],[40,20845,41],
  [40,19971,41],[40,20843,41],[40,20061,41],[40,21313,41],[40,26376,41],[40,28779,41],[40,27700,41],
  [40,26408,41],[40,37329,41],[40,22303,41],[40,26085,41],[40,26666,41],[40,26377,41],[40,31038,41],
  [40,21517,41],[40,29305,41],[40,36001,41],[40,31069,41],[40,21172,41],[40,20195,41],[40,21628,41],
  [40,23398,41],[40,30435,41],[40,20225,41],[40,36039,41],[40,21332,41],[40,31085,41],[40,20241,41],
  [40,33258,41],[40,33267,41]]),(12880,[[80,84,69],[50,49],[50,50],[50,51],[50,52],[50,53],[50,54],
  [50,55],[50,56],[50,57],[51,48],[51,49],[51,50],[51,51],[51,52],[51,53]]),(12910,[[4352,4449],
  [4354,4449],[4355,4449],[4357,4449],[4358,4449],[4359,4449],[4361,4449],[4363,4449],[4364,4449],
  [4366,4449],[4367,4449],[4368,4449],[4369,4449],[4370,4449],[4366,4449,4535,4352,4457],
  [4364,4462,4363,4468],[4363,4462]]),(12977,[[51,54],[51,55],[51,56],[51,57],[52,48],[52,49],
  [52,50],[52,51],[52,52],[52,53],[52,54],[52,55],[52,56],[52,57],[53,48],[49,26376],[50,26376],
  [51,26376],[52,26376],[53,26376],[54,26376],[55,26376],[56,26376],[57,26376],[49,48,26376],
  [49,49,26376],[49,50,26376],[72,103],[101,114,103],[101,86],[76,84,68]]),(13055,[[20196,21644],
  [12450,12495,12442,12540,12488],[12450,12523,12501,12449],[12450,12531,12504,12442,12450],
  [12450,12540,12523],[12452,12491,12531,12463,12441],[12452,12531,12481],[12454,12457,12531],
  [12456,12473,12463,12540,12488,12441],[12456,12540,12459,12540],[12458,12531,12473],
  [12458,12540,12512],[12459,12452,12522],[12459,12521,12483,12488],[12459,12525,12522,12540],
  [12459,12441,12525,12531],[12459,12441,12531,12510],[12461,12441,12459,12441],
  [12461,12441,12491,12540],[12461,12517,12522,12540],[12461,12441,12523,12479,12441,12540],
  [12461,12525],[12461,12525,12463,12441,12521,12512],[12461,12525,12513,12540,12488,12523],
  [12461,12525,12527,12483,12488],[12463,12441,12521,12512],[12463,12441,12521,12512,12488,12531],
  [12463,12523,12475,12441,12452,12525],[12463,12525,12540,12493],[12465,12540,12473],
  [12467,12523,12490],[12467,12540,12507,12442],[12469,12452,12463,12523],
  [12469,12531,12481,12540,12512],[12471,12522,12531,12463,12441],[12475,12531,12481],
  [12475,12531,12488],[12479,12441,12540,12473],[12486,12441,12471],[12488,12441,12523],
  [12488,12531],[12490,12494],[12494,12483,12488],[12495,12452,12484],
  [12495,12442,12540,12475,12531,12488],[12495,12442,12540,12484],[12495,12441,12540,12524,12523],
  [12498,12442,12450,12473,12488,12523],[12498,12442,12463,12523],[12498,12442,12467],
  [12498,12441,12523],[12501,12449,12521,12483,12488,12441],[12501,12451,12540,12488],
  [12501,12441,12483,12471,12455,12523],[12501,12521,12531],[12504,12463,12479,12540,12523],
  [12504,12442,12477],[12504,12442,12491,12498],[12504,12523,12484],[12504,12442,12531,12473],
  [12504,12442,12540,12471,12441],[12504,12441,12540,12479],[12507,12442,12452,12531,12488],
  [12507,12441,12523,12488],[12507,12531],[12507,12442,12531,12488,12441],[12507,12540,12523],
  [12507,12540,12531],[12510,12452,12463,12525],[12510,12452,12523],[12510,12483,12495],
  [12510,12523,12463],[12510,12531,12471,12519,12531],[12511,12463,12525,12531],[12511,12522],
  [12511,12522,12495,12441,12540,12523],[12513,12459,12441],[12513,12459,12441,12488,12531],
  [12513,12540,12488,12523],[12516,12540,12488,12441],[12516,12540,12523],[12518,12450,12531],
  [12522,12483,12488,12523],[12522,12521],[12523,12498,12442,12540],[12523,12540,12501,12441,12523],
  [12524,12512],[12524,12531,12488,12465,12441,12531],[12527,12483,12488],[48,28857],[49,28857],
  [50,28857],[51,28857],[52,28857],[53,28857],[54,28857],[55,28857],[56,28857],[57,28857],
  [49,48,28857],[49,49,28857],[49,50,28857],[49,51,28857],[49,52,28857],[49,53,28857],[49,54,28857],
  [49,55,28857],[49,56,28857],[49,57,28857],[50,48,28857],[50,49,28857],[50,50,28857],[50,51,28857],
  [50,52,28857],[104,80,97],[100,97],[65,85],[98,97,114],[111,86],[112,99],[100,109],[100,109,50],
  [100,109,51],[73,85],[24179,25104],[26157,21644],[22823,27491],[26126,27835],
  [26666,24335,20250,31038],[112,65],[110,65],[956,65],[109,65],[107,65],[75,66],[77,66],[71,66],
  [99,97,108],[107,99,97,108],[112,70],[110,70],[956,70],[956,103],[109,103],[107,103],[72,122],
  [107,72,122],[77,72,122],[71,72,122],[84,72,122],[956,108],[109,108],[100,108],[107,108],
  [102,109],[110,109],[956,109],[109,109],[99,109],[107,109],[109,109,50],[99,109,50],[109,50],
  [107,109,50],[109,109,51],[99,109,51],[109,51],[107,109,51],[109,8725,115],[109,8725,115,50],
  [80,97],[107,80,97],[77,80,97],[71,80,97],[114,97,100],[114,97,100,8725,115],
  [114,97,100,8725,115,50],[112,115],[110,115],[956,115],[109,115],[112,86],[110,86],[956,86],
  [109,86],[107,86],[77,86],[112,87],[110,87],[956,87],[109,87],[107,87],[77,87],[107,937],[77,937],
  [97,46,109,46],[66,113],[99,99],[99,100],[67,8725,107,103],[67,111,46],[100,66],[71,121],[104,97],
  [72,80],[105,110],[75,75],[75,77],[107,116],[108,109],[108,110],[108,111,103],[108,120],[109,98],
  [109,105,108],[109,111,108],[80,72],[112,46,109,46],[80,80,77],[80,82],[115,114],[83,118],[87,98],
  [86,8725,109],[65,8725,109],[49,26085],[50,26085],[51,26085],[52,26085],[53,26085],[54,26085],
  [55,26085],[56,26085],[57,26085],[49,48,26085],[49,49,26085],[49,50,26085],[49,51,26085],
  [49,52,26085],[49,53,26085],[49,54,26085],[49,55,26085],[49,56,26085],[49,57,26085],[50,48,26085],
  [50,49,26085],[50,50,26085],[50,51,26085],[50,52,26085],[50,53,26085],[50,54,26085],[50,55,26085],
  [50,56,26085],[50,57,26085],[51,48,26085],[51,49,26085],[103,97,108]]),(64256,[[102,102],
  [102,105],[102,108],[102,102,105],[102,102,108],[115,116],[115,116]]),(64275,[[1396,1398],
  [1396,1381],[1396,1387],[1406,1398],[1396,1389]]),(64285,[[1497,1460]]),(64287,[[1522,1463]]),
  (64298,[[1513,1473],[1513,1474],[1513,1468,1473],[1513,1468,1474],[1488,1463],[1488,1464],
  [1488,1468],[1489,1468],[1490,1468],[1491,1468],[1492,1468],[1493,1468],[1494,1468]]),
  (64312,[[1496,1468],[1497,1468],[1498,1468],[1499,1468],[1500,1468]]),(64318,[[1502,1468]]),
  (64320,[[1504,1468],[1505,1468]]),(64323,[[1507,1468],[1508,1468]]),(64326,[[1510,1468],
  [1511,1468],[1512,1468],[1513,1468],[1514,1468],[1493,1465],[1489,1471],[1499,1471],[1508,1471],
  [1488,1500]]),(64420,[[1749,1620],[1749,1620]]),(64432,[[1746,1620],[1746,1620]]),
  (64477,[[1735,1652]]),(64490,[[1610,1620,1575],[1610,1620,1575],[1610,1620,1749],[1610,1620,1749],
  [1610,1620,1608],[1610,1620,1608],[1610,1620,1735],[1610,1620,1735],[1610,1620,1734],
  [1610,1620,1734],[1610,1620,1736],[1610,1620,1736],[1610,1620,1744],[1610,1620,1744],
  [1610,1620,1744],[1610,1620,1609],[1610,1620,1609],[1610,1620,1609]]),(64512,[[1610,1620,1580],
  [1610,1620,1581],[1610,1620,1605],[1610,1620,1609],[1610,1620,1610],[1576,1580],[1576,1581],
  [1576,1582],[1576,1605],[1576,1609],[1576,1610],[1578,1580],[1578,1581],[1578,1582],[1578,1605],
  [1578,1609],[1578,1610],[1579,1580],[1579,1605],[1579,1609],[1579,1610],[1580,1581],[1580,1605],
  [1581,1580],[1581,1605],[1582,1580],[1582,1581],[1582,1605],[1587,1580],[1587,1581],[1587,1582],
  [1587,1605],[1589,1581],[1589,1605],[1590,1580],[1590,1581],[1590,1582],[1590,1605],[1591,1581],
  [1591,1605],[1592,1605],[1593,1580],[1593,1605],[1594,1580],[1594,1605],[1601,1580],[1601,1581],
  [1601,1582],[1601,1605],[1601,1609],[1601,1610],[1602,1581],[1602,1605],[1602,1609],[1602,1610],
  [1603,1575],[1603,1580],[1603,1581],[1603,1582],[1603,1604],[1603,1605],[1603,1609],[1603,1610],
  [1604,1580],[1604,1581],[1604,1582],[1604,1605],[1604,1609],[1604,1610],[1605,1580],[1605,1581],
  [1605,1582],[1605,1605],[1605,1609],[1605,1610],[1606,1580],[1606,1581],[1606,1582],[1606,1605],
  [1606,1609],[1606,1610],[1607,1580],[1607,1605],[1607,1609],[1607,1610],[1610,1580],[1610,1581],
  [1610,1582],[1610,1605],[1610,1609],[1610,1610],[1584,1648],[1585,1648],[1609,1648],
  [32,1612,1617],[32,1613,1617],[32,1614,1617],[32,1615,1617],[32,1616,1617],[32,1617,1648],
  [1610,1620,1585],[1610,1620,1586],[1610,1620,1605],[1610,1620,1606],[1610,1620,1609],
  [1610,1620,1610],[1576,1585],[1576,1586],[1576,1605],[1576,1606],[1576,1609],[1576,1610],
  [1578,1585],[1578,1586],[1578,1605],[1578,1606],[1578,1609],[1578,1610],[1579,1585],[1579,1586],
  [1579,1605],[1579,1606],[1579,1609],[1579,1610],[1601,1609],[1601,1610],[1602,1609],[1602,1610],
  [1603,1575],[1603,1604],[1603,1605],[1603,1609],[1603,1610],[1604,1605],[1604,1609],[1604,1610],
  [1605,1575],[1605,1605],[1606,1585],[1606,1586],[1606,1605],[1606,1606],[1606,1609],[1606,1610],
  [1609,1648],[1610,1585],[1610,1586],[1610,1605],[1610,1606],[1610,1609],[1610,1610],
  [1610,1620,1580],[1610,1620,1581],[1610,1620,1582],[1610,1620,1605],[1610,1620,1607],[1576,1580],
  [1576,1581],[1576,1582],[1576,1605],[1576,1607],[1578,1580],[1578,1581],[1578,1582],[1578,1605],
  [1578,1607],[1579,1605],[1580,1581],[1580,1605],[1581,1580],[1581,1605],[1582,1580],[1582,1605],
  [1587,1580],[1587,1581],[1587,1582],[1587,1605],[1589,1581],[1589,1582],[1589,1605],[1590,1580],
  [1590,1581],[1590,1582],[1590,1605],[1591,1581],[1592,1605],[1593,1580],[1593,1605],[1594,1580],
  [1594,1605],[1601,1580],[1601,1581],[1601,1582],[1601,1605],[1602,1581],[1602,1605],[1603,1580],
  [1603,1581],[1603,1582],[1603,1604],[1603,1605],[1604,1580],[1604,1581],[1604,1582],[1604,1605],
  [1604,1607],[1605,1580],[1605,1581],[1605,1582],[1605,1605],[1606,1580],[1606,1581],[1606,1582],
  [1606,1605],[1606,1607],[1607,1580],[1607,1605],[1607,1648],[1610,1580],[1610,1581],[1610,1582],
  [1610,1605],[1610,1607],[1610,1620,1605],[1610,1620,1607],[1576,1605],[1576,1607],[1578,1605],
  [1578,1607],[1579,1605],[1579,1607],[1587,1605],[1587,1607],[1588,1605],[1588,1607],[1603,1604],
  [1603,1605],[1604,1605],[1606,1605],[1606,1607],[1610,1605],[1610,1607],[1600,1614,1617],
  [1600,1615,1617],[1600,1616,1617],[1591,1609],[1591,1610],[1593,1609],[1593,1610],[1594,1609],
  [1594,1610],[1587,1609],[1587,1610],[1588,1609],[1588,1610],[1581,1609],[1581,1610],[1580,1609],
  [1580,1610],[1582,1609],[1582,1610],[1589,1609],[1589,1610],[1590,1609],[1590,1610],[1588,1580],
  [1588,1581],[1588,1582],[1588,1605],[1588,1585],[1587,1585],[1589,1585],[1590,1585],[1591,1609],
  [1591,1610],[1593,1609],[1593,1610],[1594,1609],[1594,1610],[1587,1609],[1587,1610],[1588,1609],
  [1588,1610],[1581,1609],[1581,1610],[1580,1609],[1580,1610],[1582,1609],[1582,1610],[1589,1609],
  [1589,1610],[1590,1609],[1590,1610],[1588,1580],[1588,1581],[1588,1582],[1588,1605],[1588,1585],
  [1587,1585],[1589,1585],[1590,1585],[1588,1580],[1588,1581],[1588,1582],[1588,1605],[1587,1607],
  [1588,1607],[1591,1605],[1587,1580],[1587,1581],[1587,1582],[1588,1580],[1588,1581],[1588,1582],
  [1591,1605],[1592,1605],[1575,1611],[1575,1611]]),(64848,[[1578,1580,1605],[1578,1581,1580],
  [1578,1581,1580],[1578,1581,1605],[1578,1582,1605],[1578,1605,1580],[1578,1605,1581],
  [1578,1605,1582],[1580,1605,1581],[1580,1605,1581],[1581,1605,1610],[1581,1605,1609],
  [1587,1581,1580],[1587,1580,1581],[1587,1580,1609],[1587,1605,1581],[1587,1605,1581],
  [1587,1605,1580],[1587,1605,1605],[1587,1605,1605],[1589,1581,1581],[1589,1581,1581],
  [1589,1605,1605],[1588,1581,1605],[1588,1581,1605],[1588,1580,1610],[1588,1605,1582],
  [1588,1605,1582],[1588,1605,1605],[1588,1605,1605],[1590,1581,1609],[1590,1582,1605],
  [1590,1582,1605],[1591,1605,1581],[1591,1605,1581],[1591,1605,1605],[1591,1605,1610],
  [1593,1580,1605],[1593,1605,1605],[1593,1605,1605],[1593,1605,1609],[1594,1605,1605],
  [1594,1605,1610],[1594,1605,1609],[1601,1582,1605],[1601,1582,1605],[1602,1605,1581],
  [1602,1605,1605],[1604,1581,1605],[1604,1581,1610],[1604,1581,1609],[1604,1580,1580],
  [1604,1580,1580],[1604,1582,1605],[1604,1582,1605],[1604,1605,1581],[1604,1605,1581],
  [1605,1581,1580],[1605,1581,1605],[1605,1581,1610],[1605,1580,1581],[1605,1580,1605],
  [1605,1582,1580],[1605,1582,1605]]),(64914,[[1605,1580,1582],[1607,1605,1580],[1607,1605,1605],
  [1606,1581,1605],[1606,1581,1609],[1606,1580,1605],[1606,1580,1605],[1606,1580,1609],
  [1606,1605,1610],[1606,1605,1609],[1610,1605,1605],[1610,1605,1605],[1576,1582,1610],
  [1578,1580,1610],[1578,1580,1609],[1578,1582,1610],[1578,1582,1609],[1578,1605,1610],
  [1578,1605,1609],[1580,1605,1610],[1580,1581,1609],[1580,1605,1609],[1587,1582,1609],
  [1589,1581,1610],[1588,1581,1610],[1590,1581,1610],[1604,1580,1610],[1604,1605,1610],
  [1610,1581,1610],[1610,1580,1610],[1610,1605,1610],[1605,1605,1610],[1602,1605,1610],
  [1606,1581,1610],[1602,1605,1581],[1604,1581,1605],[1593,1605,1610],[1603,1605,1610],
  [1606,1580,1581],[1605,1582,1610],[1604,1580,1605],[1603,1605,1605],[1604,1580,1605],
  [1606,1580,1581],[1580,1581,1610],[1581,1580,1610],[1605,1580,1610],[1601,1605,1610],
  [1576,1581,1610],[1603,1605,1605],[1593,1580,1605],[1589,1605,1605],[1587,1582,1610],
  [1606,1580,1610]]),(65008,[[1589,1604,1746],[1602,1604,1746],[1575,1604,1604,1607],
  [1575,1603,1576,1585],[1605,1581,1605,1583],[1589,1604,1593,1605],[1585,1587,1608,1604],
  [1593,1604,1610,1607],[1608,1587,1604,1605],[1589,1604,1609],
  [1589,1604,1609,32,1575,1604,1604,1607,32,1593,1604,1610,1607,32,1608,1587,1604,1605],
  [1580,1604,32,1580,1604,1575,1604,1607],[1585,1740,1575,1604]]),(65049,[[46,46,46]]),
  (65072,[[46,46]]),(65097,[[32,773],[32,773],[32,773],[32,773]]),(65136,[[32,1611],[1600,1611],
  [32,1612]]),(65140,[[32,1613]]),(65142,[[32,1614],[1600,1614],[32,1615],[1600,1615],[32,1616],
  [1600,1616],[32,1617],[1600,1617],[32,1618],[1600,1618]]),(65153,[[1575,1619],[1575,1619],
  [1575,1620],[1575,1620],[1608,1620],[1608,1620],[1575,1621],[1575,1621],[1610,1620],[1610,1620],
  [1610,1620],[1610,1620]]),(65269,[[1604,1575,1619],[1604,1575,1619],[1604,1575,1620],
  [1604,1575,1620],[1604,1575,1621],[1604,1575,1621],[1604,1575],[1604,1575]]),(65507,[[32,772]]),
  (119134,[[119127,119141],[119128,119141],[119128,119141,119150],[119128,119141,119151],
  [119128,119141,119152],[119128,119141,119153],[119128,119141,119154]]),(119227,[[119225,119141],
  [119226,119141],[119225,119141,119150],[119226,119141,119150],[119225,119141,119151],
  [119226,119141,119151]]),(127232,[[48,46],[48,44],[49,44],[50,44],[51,44],[52,44],[53,44],[54,44],
  [55,44],[56,44],[57,44]]),(127248,[[40,65,41],[40,66,41],[40,67,41],[40,68,41],[40,69,41],
  [40,70,41],[40,71,41],[40,72,41],[40,73,41],[40,74,41],[40,75,41],[40,76,41],[40,77,41],
  [40,78,41],[40,79,41],[40,80,41],[40,81,41],[40,82,41],[40,83,41],[40,84,41],[40,85,41],
  [40,86,41],[40,87,41],[40,88,41],[40,89,41],[40,90,41],[12308,83,12309]]),(127277,[[67,68],
  [87,90]]),(127306,[[72,86],[77,86],[83,68],[83,83],[80,80,86],[87,67]]),(127338,[[77,67],[77,68],
  [77,82]]),(127376,[[68,74]]),(127488,[[12411,12363],[12467,12467]]),(127507,[[12486,12441]]),
  (127552,[[12308,26412,12309],[12308,19977,12309],[12308,20108,12309],[12308,23433,12309],
  [12308,28857,12309],[12308,25171,12309],[12308,30423,12309],[12308,21213,12309],
  [12308,25943,12309]])]

/-- Characters that stand for several. A row holds a code point and those of its parts. What is
composed of two stands for these, unless one of them stands for others itself. -/
def compoundParts : List (Nat × List Nat) :=
  rowsOf partsRuns ++ composedPairs.map fun (n, first, second) => (n, [first, second])

end Componentry.Text
