import Componentry.Text.Rows

/-!
# Compositions of characters

Which pairs of characters are written as one (the canonical compositions of Unicode 14, without
those it excludes). Hangul syllables are left out, since they can be computed.
-/

namespace Componentry.Text

set_option maxRecDepth 8000 in
def pairRuns : List (Nat × List (Nat × Nat)) :=
  [(192,[(65,768),(65,769),(65,770),(65,771),(65,776),(65,778)]),(199,[(67,807),(69,768),(69,769),
  (69,770),(69,776),(73,768),(73,769),(73,770),(73,776)]),(209,[(78,771),(79,768),(79,769),(79,770),
  (79,771),(79,776)]),(217,[(85,768),(85,769),(85,770),(85,776),(89,769)]),(224,[(97,768),(97,769),
  (97,770),(97,771),(97,776),(97,778)]),(231,[(99,807),(101,768),(101,769),(101,770),(101,776),
  (105,768),(105,769),(105,770),(105,776)]),(241,[(110,771),(111,768),(111,769),(111,770),(111,771),
  (111,776)]),(249,[(117,768),(117,769),(117,770),(117,776),(121,769)]),(255,[(121,776),(65,772),
  (97,772),(65,774),(97,774),(65,808),(97,808),(67,769),(99,769),(67,770),(99,770),(67,775),
  (99,775),(67,780),(99,780),(68,780),(100,780)]),(274,[(69,772),(101,772),(69,774),(101,774),
  (69,775),(101,775),(69,808),(101,808),(69,780),(101,780),(71,770),(103,770),(71,774),(103,774),
  (71,775),(103,775),(71,807),(103,807),(72,770),(104,770)]),(296,[(73,771),(105,771),(73,772),
  (105,772),(73,774),(105,774),(73,808),(105,808),(73,775)]),(308,[(74,770),(106,770),(75,807),
  (107,807)]),(313,[(76,769),(108,769),(76,807),(108,807),(76,780),(108,780)]),(323,[(78,769),
  (110,769),(78,807),(110,807),(78,780),(110,780)]),(332,[(79,772),(111,772),(79,774),(111,774),
  (79,779),(111,779)]),(340,[(82,769),(114,769),(82,807),(114,807),(82,780),(114,780),(83,769),
  (115,769),(83,770),(115,770),(83,807),(115,807),(83,780),(115,780),(84,807),(116,807),(84,780),
  (116,780)]),(360,[(85,771),(117,771),(85,772),(117,772),(85,774),(117,774),(85,778),(117,778),
  (85,779),(117,779),(85,808),(117,808),(87,770),(119,770),(89,770),(121,770),(89,776),(90,769),
  (122,769),(90,775),(122,775),(90,780),(122,780)]),(416,[(79,795),(111,795)]),(431,[(85,795),
  (117,795)]),(461,[(65,780),(97,780),(73,780),(105,780),(79,780),(111,780),(85,780),(117,780),
  (220,772),(252,772),(220,769),(252,769),(220,780),(252,780),(220,768),(252,768)]),(478,[(196,772),
  (228,772),(550,772),(551,772),(198,772),(230,772)]),(486,[(71,780),(103,780),(75,780),(107,780),
  (79,808),(111,808),(490,772),(491,772),(439,780),(658,780),(106,780)]),(500,[(71,769),(103,769)]),
  (504,[(78,768),(110,768),(197,769),(229,769),(198,769),(230,769),(216,769),(248,769),(65,783),
  (97,783),(65,785),(97,785),(69,783),(101,783),(69,785),(101,785),(73,783),(105,783),(73,785),
  (105,785),(79,783),(111,783),(79,785),(111,785),(82,783),(114,783),(82,785),(114,785),(85,783),
  (117,783),(85,785),(117,785),(83,806),(115,806),(84,806),(116,806)]),(542,[(72,780),(104,780)]),
  (550,[(65,775),(97,775),(69,807),(101,807),(214,772),(246,772),(213,772),(245,772),(79,775),
  (111,775),(558,772),(559,772),(89,772),(121,772)]),(901,[(168,769),(913,769)]),(904,[(917,769),
  (919,769),(921,769)]),(908,[(927,769)]),(910,[(933,769),(937,769),(970,769)]),(938,[(921,776),
  (933,776),(945,769),(949,769),(951,769),(953,769),(971,769)]),(970,[(953,776),(965,776),(959,769),
  (965,769),(969,769)]),(979,[(978,769),(978,776)]),(1024,[(1045,768),(1045,776)]),
  (1027,[(1043,769)]),(1031,[(1030,776)]),(1036,[(1050,769),(1048,768),(1059,774)]),
  (1049,[(1048,774)]),(1081,[(1080,774)]),(1104,[(1077,768),(1077,776)]),(1107,[(1075,769)]),
  (1111,[(1110,776)]),(1116,[(1082,769),(1080,768),(1091,774)]),(1142,[(1140,783),(1141,783)]),
  (1217,[(1046,774),(1078,774)]),(1232,[(1040,774),(1072,774),(1040,776),(1072,776)]),
  (1238,[(1045,774),(1077,774)]),(1242,[(1240,776),(1241,776),(1046,776),(1078,776),(1047,776),
  (1079,776)]),(1250,[(1048,772),(1080,772),(1048,776),(1080,776),(1054,776),(1086,776)]),
  (1258,[(1256,776),(1257,776),(1069,776),(1101,776),(1059,772),(1091,772),(1059,776),(1091,776),
  (1059,779),(1091,779),(1063,776),(1095,776)]),(1272,[(1067,776),(1099,776)]),(1570,[(1575,1619),
  (1575,1620),(1608,1620),(1575,1621),(1610,1620)]),(1728,[(1749,1620)]),(1730,[(1729,1620)]),
  (1747,[(1746,1620)]),(2345,[(2344,2364)]),(2353,[(2352,2364)]),(2356,[(2355,2364)]),
  (2507,[(2503,2494),(2503,2519)]),(2888,[(2887,2902)]),(2891,[(2887,2878),(2887,2903)]),
  (2964,[(2962,3031)]),(3018,[(3014,3006),(3015,3006),(3014,3031)]),(3144,[(3142,3158)]),
  (3264,[(3263,3285)]),(3271,[(3270,3285),(3270,3286)]),(3274,[(3270,3266),(3274,3285)]),
  (3402,[(3398,3390),(3399,3390),(3398,3415)]),(3546,[(3545,3530)]),(3548,[(3545,3535),(3548,3530),
  (3545,3551)]),(4134,[(4133,4142)]),(6918,[(6917,6965)]),(6920,[(6919,6965)]),(6922,[(6921,6965)]),
  (6924,[(6923,6965)]),(6926,[(6925,6965)]),(6930,[(6929,6965)]),(6971,[(6970,6965)]),
  (6973,[(6972,6965)]),(6976,[(6974,6965),(6975,6965)]),(6979,[(6978,6965)]),(7680,[(65,805),
  (97,805),(66,775),(98,775),(66,803),(98,803),(66,817),(98,817),(199,769),(231,769),(68,775),
  (100,775),(68,803),(100,803),(68,817),(100,817),(68,807),(100,807),(68,813),(100,813),(274,768),
  (275,768),(274,769),(275,769),(69,813),(101,813),(69,816),(101,816),(552,774),(553,774),(70,775),
  (102,775),(71,772),(103,772),(72,775),(104,775),(72,803),(104,803),(72,776),(104,776),(72,807),
  (104,807),(72,814),(104,814),(73,816),(105,816),(207,769),(239,769),(75,769),(107,769),(75,803),
  (107,803),(75,817),(107,817),(76,803),(108,803),(7734,772),(7735,772),(76,817),(108,817),(76,813),
  (108,813),(77,769),(109,769),(77,775),(109,775),(77,803),(109,803),(78,775),(110,775),(78,803),
  (110,803),(78,817),(110,817),(78,813),(110,813),(213,769),(245,769),(213,776),(245,776),(332,768),
  (333,768),(332,769),(333,769),(80,769),(112,769),(80,775),(112,775),(82,775),(114,775),(82,803),
  (114,803),(7770,772),(7771,772),(82,817),(114,817),(83,775),(115,775),(83,803),(115,803),
  (346,775),(347,775),(352,775),(353,775),(7778,775),(7779,775),(84,775),(116,775),(84,803),
  (116,803),(84,817),(116,817),(84,813),(116,813),(85,804),(117,804),(85,816),(117,816),(85,813),
  (117,813),(360,769),(361,769),(362,776),(363,776),(86,771),(118,771),(86,803),(118,803),(87,768),
  (119,768),(87,769),(119,769),(87,776),(119,776),(87,775),(119,775),(87,803),(119,803),(88,775),
  (120,775),(88,776),(120,776),(89,775),(121,775),(90,770),(122,770),(90,803),(122,803),(90,817),
  (122,817),(104,817),(116,776),(119,778),(121,778)]),(7835,[(383,775)]),(7840,[(65,803),(97,803),
  (65,777),(97,777),(194,769),(226,769),(194,768),(226,768),(194,777),(226,777),(194,771),(226,771),
  (7840,770),(7841,770),(258,769),(259,769),(258,768),(259,768),(258,777),(259,777),(258,771),
  (259,771),(7840,774),(7841,774),(69,803),(101,803),(69,777),(101,777),(69,771),(101,771),
  (202,769),(234,769),(202,768),(234,768),(202,777),(234,777),(202,771),(234,771),(7864,770),
  (7865,770),(73,777),(105,777),(73,803),(105,803),(79,803),(111,803),(79,777),(111,777),(212,769),
  (244,769),(212,768),(244,768),(212,777),(244,777),(212,771),(244,771),(7884,770),(7885,770),
  (416,769),(417,769),(416,768),(417,768),(416,777),(417,777),(416,771),(417,771),(416,803),
  (417,803),(85,803),(117,803),(85,777),(117,777),(431,769),(432,769),(431,768),(432,768),(431,777),
  (432,777),(431,771),(432,771),(431,803),(432,803),(89,768),(121,768),(89,803),(121,803),(89,777),
  (121,777),(89,771),(121,771)]),(7936,[(945,787),(945,788),(7936,768),(7937,768),(7936,769),
  (7937,769),(7936,834),(7937,834),(913,787),(913,788),(7944,768),(7945,768),(7944,769),(7945,769),
  (7944,834),(7945,834),(949,787),(949,788),(7952,768),(7953,768),(7952,769),(7953,769)]),
  (7960,[(917,787),(917,788),(7960,768),(7961,768),(7960,769),(7961,769)]),(7968,[(951,787),
  (951,788),(7968,768),(7969,768),(7968,769),(7969,769),(7968,834),(7969,834),(919,787),(919,788),
  (7976,768),(7977,768),(7976,769),(7977,769),(7976,834),(7977,834),(953,787),(953,788),(7984,768),
  (7985,768),(7984,769),(7985,769),(7984,834),(7985,834),(921,787),(921,788),(7992,768),(7993,768),
  (7992,769),(7993,769),(7992,834),(7993,834),(959,787),(959,788),(8000,768),(8001,768),(8000,769),
  (8001,769)]),(8008,[(927,787),(927,788),(8008,768),(8009,768),(8008,769),(8009,769)]),
  (8016,[(965,787),(965,788),(8016,768),(8017,768),(8016,769),(8017,769),(8016,834),(8017,834)]),
  (8025,[(933,788)]),(8027,[(8025,768)]),(8029,[(8025,769)]),(8031,[(8025,834),(969,787),(969,788),
  (8032,768),(8033,768),(8032,769),(8033,769),(8032,834),(8033,834),(937,787),(937,788),(8040,768),
  (8041,768),(8040,769),(8041,769),(8040,834),(8041,834),(945,768)]),(8050,[(949,768)]),
  (8052,[(951,768)]),(8054,[(953,768)]),(8056,[(959,768)]),(8058,[(965,768)]),(8060,[(969,768)]),
  (8064,[(7936,837),(7937,837),(7938,837),(7939,837),(7940,837),(7941,837),(7942,837),(7943,837),
  (7944,837),(7945,837),(7946,837),(7947,837),(7948,837),(7949,837),(7950,837),(7951,837),
  (7968,837),(7969,837),(7970,837),(7971,837),(7972,837),(7973,837),(7974,837),(7975,837),
  (7976,837),(7977,837),(7978,837),(7979,837),(7980,837),(7981,837),(7982,837),(7983,837),
  (8032,837),(8033,837),(8034,837),(8035,837),(8036,837),(8037,837),(8038,837),(8039,837),
  (8040,837),(8041,837),(8042,837),(8043,837),(8044,837),(8045,837),(8046,837),(8047,837),(945,774),
  (945,772),(8048,837),(945,837),(940,837)]),(8118,[(945,834),(8118,837),(913,774),(913,772),
  (913,768)]),(8124,[(913,837)]),(8129,[(168,834),(8052,837),(951,837),(942,837)]),(8134,[(951,834),
  (8134,837),(917,768)]),(8138,[(919,768)]),(8140,[(919,837),(8127,768),(8127,769),(8127,834),
  (953,774),(953,772),(970,768)]),(8150,[(953,834),(970,834),(921,774),(921,772),(921,768)]),
  (8157,[(8190,768),(8190,769),(8190,834),(965,774),(965,772),(971,768)]),(8164,[(961,787),
  (961,788),(965,834),(971,834),(933,774),(933,772),(933,768)]),(8172,[(929,788),(168,768)]),
  (8178,[(8060,837),(969,837),(974,837)]),(8182,[(969,834),(8182,837),(927,768)]),
  (8186,[(937,768)]),(8188,[(937,837)]),(8602,[(8592,824),(8594,824)]),(8622,[(8596,824)]),
  (8653,[(8656,824),(8660,824),(8658,824)]),(8708,[(8707,824)]),(8713,[(8712,824)]),
  (8716,[(8715,824)]),(8740,[(8739,824)]),(8742,[(8741,824)]),(8769,[(8764,824)]),
  (8772,[(8771,824)]),(8775,[(8773,824)]),(8777,[(8776,824)]),(8800,[(61,824)]),(8802,[(8801,824)]),
  (8813,[(8781,824),(60,824),(62,824),(8804,824),(8805,824)]),(8820,[(8818,824),(8819,824)]),
  (8824,[(8822,824),(8823,824)]),(8832,[(8826,824),(8827,824)]),(8836,[(8834,824),(8835,824)]),
  (8840,[(8838,824),(8839,824)]),(8876,[(8866,824),(8872,824),(8873,824),(8875,824)]),
  (8928,[(8828,824),(8829,824),(8849,824),(8850,824)]),(8938,[(8882,824),(8883,824),(8884,824),
  (8885,824)]),(12364,[(12363,12441)]),(12366,[(12365,12441)]),(12368,[(12367,12441)]),
  (12370,[(12369,12441)]),(12372,[(12371,12441)]),(12374,[(12373,12441)]),(12376,[(12375,12441)]),
  (12378,[(12377,12441)]),(12380,[(12379,12441)]),(12382,[(12381,12441)]),(12384,[(12383,12441)]),
  (12386,[(12385,12441)]),(12389,[(12388,12441)]),(12391,[(12390,12441)]),(12393,[(12392,12441)]),
  (12400,[(12399,12441),(12399,12442)]),(12403,[(12402,12441),(12402,12442)]),(12406,[(12405,12441),
  (12405,12442)]),(12409,[(12408,12441),(12408,12442)]),(12412,[(12411,12441),(12411,12442)]),
  (12436,[(12358,12441)]),(12446,[(12445,12441)]),(12460,[(12459,12441)]),(12462,[(12461,12441)]),
  (12464,[(12463,12441)]),(12466,[(12465,12441)]),(12468,[(12467,12441)]),(12470,[(12469,12441)]),
  (12472,[(12471,12441)]),(12474,[(12473,12441)]),(12476,[(12475,12441)]),(12478,[(12477,12441)]),
  (12480,[(12479,12441)]),(12482,[(12481,12441)]),(12485,[(12484,12441)]),(12487,[(12486,12441)]),
  (12489,[(12488,12441)]),(12496,[(12495,12441),(12495,12442)]),(12499,[(12498,12441),
  (12498,12442)]),(12502,[(12501,12441),(12501,12442)]),(12505,[(12504,12441),(12504,12442)]),
  (12508,[(12507,12441),(12507,12442)]),(12532,[(12454,12441)]),(12535,[(12527,12441),(12528,12441),
  (12529,12441),(12530,12441)]),(12542,[(12541,12441)]),(69786,[(69785,69818)]),
  (69788,[(69787,69818)]),(69803,[(69797,69818)]),(69934,[(69937,69927),(69938,69927)]),
  (70475,[(70471,70462),(70471,70487)]),(70843,[(70841,70842),(70841,70832)]),
  (70846,[(70841,70845)]),(71098,[(71096,71087),(71097,71087)]),(71992,[(71989,71984)])]

/-- A row holds the code point of a composed character and those of its two parts. -/
def composedPairs : List (Nat × Nat × Nat) := rowsOf pairRuns

end Componentry.Text
