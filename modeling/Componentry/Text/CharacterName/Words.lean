/-!
# Words in names of characters

The words that occur in the names of many characters, in the order of their abbreviations.
-/

namespace Componentry.Text.CharacterName

/-- The frequent words, divided by blanks. -/
def frequentWords : String :=
  "WITH LETTER SMALL CAPITAL SIGN AND RIGHT LEFT TWO ONE ABOVE THREE DOUBLE FOUR DOT ARROW FIVE
   BLACK MARK FINAL WHITE BELOW RIGHTWARDS TIMES SIX EIGHT LEFTWARDS PLUS SEVEN NINE MEEM DOWN
   HEAVY VERTICAL MIDDLE SYMBOL OVER HOOK STROKE VOWEL ALEF DIGIT YEH ISOLATED DOTS DOWNWARDS
   UPWARDS HAH LOW LOWER ZERO INITIAL WEST-CREE CIRCLE LIGHT HALF JEEM TURNED SQUARE TEN BAR DASIA
   UPPER PSILI RING HORIZONTAL LONG NGA FACE HIGH SHA OPEN REVERSED TILDE MEDIUM THUMB CHA NYA KHA
   LARGE NUMBER MAKSURA MEDIAL THA EQUAL SINGLE INDEX VOCALIC LESS-THAN ACUTE GREATER-THAN INVERTED
   PHA KHAH CIRCUMFLEX GUNU BRACKET TTA DDA LATIN LINE CENTRE CIRCLED DHA GRAVE HUNDRED STOP
   ANUSVARA BARB GHA NORTH NOT SHORT WEST NNA NUN BHA OXIA SOUTH VARIA TTHA COMMA DIAERESIS TONE
   TWENTY DDHA EAST SSA TOP COMBINING FORM TRIANGLE VIRAMA OLD TRIPLE HARPOON MACRON NOON TAIL WAW
   JHA LAM THE BREVE DIAGONAL SHE VISARGA ANGLE FOR HAMZA OMEGA TENU ALPHA FIFTY FULL AIN ASH
   BOTTOM CROSSING LITTLE PUNCTUATION CANDRABINDU EQUALS IOTA KAF SHIN TSA ACCENT CLOSED CROSS
   HAND-FIST MODIFIER ORKHON SQUARED HEH QUARTER THOUSAND UPSILON YENISEI DIAMOND END LLA RHO SEEN
   DOTTED LIGATURE OPERATOR PERISPOMENI QAF QUESTION RETROFLEX TAH BOX COLON EPSILON GAR IGI PHI
   POINTING REH THETA BOLD CHI SUBSET SUPERSET DASH EXCLAMATION FEH HEART NUKTA PARENTHESIS RAISED
   SAD TRIANGLE-HEADED CONSONANT HAND HORN SIGMA STRAIGHT THIRTY ZHA BENT DIGRAPH ETA GLOTTAL
   SOLIDUS STAR TACK ASTERISK BEH CHESS CURLY DELTA EYES GAMMA KNIGHT MAN MOUTH NEUTRAL POINTED
   REVERSE RIGHT-POINTING RRA SCRIPT SECTION SIDE TEH ALTERNATE ARROWHEAD BAD DAD EIGHTH FRACTION
   HAND-HINGE MEM NINETY ROTATED SEPARATOR SHEEN WAVE ABBREVIATION ALTERNATING BETA CARON CHE
   CONJOINED FORTY GREEK KAPPA KING MINUS OMICRON ARCHAIC BETWEEN BLOCK CEDILLA CURL GHAIN
   HAND-CIRCLE INTERSECTION KUR LEFT-POINTING NEO SEVENTY SIXTY SLANTED TAU VERY ANTICLOCKWISE
   ARABIC AVAGRAHA BETH CORNER ESH FINGERS GAN2 GIMEL GISH KAPH LEG PAP QUEEN SAMEKH SMILING
   SYLLABLE TAK4 UNION VARIANT ALEPH C-SIMPLIFIED CANDRA DANDA DISH EIGHTY FORWARD FROM HEAD HETH
   HINGED HITTING IDEOGRAPHIC LAMEDH LOOP MOON NEGATIVE OUT PSI TAW THO TSHA WORD YODH ZAIN COPTIC
   CURVE CYRILLIC DAL DESCENDER DOTLESS INSIDE LAMDA PERSON SADHE SHELL SHU SLASH UNDERBAR
   YPOGEGRAMMENI ZAYIN CLOCKWISE DZA GUD LOGICAL MAI NYI PRECEDES QUAD RESH RISING SOUND SUCCEEDS
   TWELVE ZETA ZHE ANG ARCHAION BALL BISHOP BULLET DIALYTIKA EARTH ELEVEN GHE HAND-ANGLE KASKAL
   MOVEMENT-FLOORPLANE MOVEMENT-WALLPLANE ORNAMENT PAWN POINT POVYSHE QUARTERS QUOTATION ROOK
   SEMICOLON SPACE SUN THEH TIP UP-POINTING WATER WRIST Y-CREE YANG ALMOST AYIN CARRIER CHECK
   DOUBLE-STRUCK EIGHTHS FATHA FIRE HYPHEN ITALIC KASRA KATAKANA LENGTH MULTIPLE MURDA MUSICAL NOTE
   SANS-SERIF SHAN SIMALUNGUN SOFT SUPERSCRIPT TEDUNG THIRD THROUGH ALPAPRAANA ARABIC-INDIC ASH2
   BACK BESIDE CROSSED DALETH DAMMA DOES DOWN-POINTING FLEX INSULAR INTEGRAL IOTIFIED LAGAB
   MAHAAPRAANA NASKAPI OVERBAR OVERLAY ROUNDED SIXTEEN TELEPHONE TETH TORTOISE TRIANGULAR TSHEG
   VOICED BELT CARET CIEUC CURVED EIGHTEEN ESH2 FIFTEEN HANGUL HARD HORSE IEUNG KAREN LARGEST
   MULTIPLICATION NORMAL NOTEHEAD NUMERAL OGONEK PRODUCT ROUND SALT SAYISI SPREAD THIRDS WAVY YERU
   APOSTROPHE ARROWS BARRED BEGIN BIRGA BLUE CHARACTER CHIEUCH DIVISION EXTENDED FILLER FIRST
   FOURTEEN GREEN HIEUH IMAGE INDICATOR KHIEUKH KIYEOK KOMI KRYZHEM LOZENGE MADDA MAHAPRANA MIEUM
   MOUNTAIN MOVEMENT MUSH NIEUN NINETEEN NIZKO NOTATION OPPOSING PAGE PALATAL PALI PHIEUPH PIEUP
   PINWHEEL QOPH RIEUL RTAGS SCHWA SEVENTEEN SHESHIG SIDEWAYS SIOS SUBGROUP THIEUTH THIRTEEN TIKEUT
   TREE TUG2 TWO-HEADED UNDER WIND WOMAN ZIGZAG AMPERSAND BACKSLASH CONTAINING DIPLI DOLLAR EMPTY
   ENVELOPE EQUIVALENT EXTENSION FALLING FINGER FLOOR HAND-CUP INVERSE JAPANESE LAGAR PARALLEL
   PROSGEGRAMMENI QUADRUPLE RUPEE SECOND SHADOWED SIDDHAM SLOAN SUBSCRIPT SUKUN SVETLAYA TAMIL
   TUAREG VERTICALLY WRINKLED ATTACHED BALLOT BRIDGE CEILING CONTAINS CORNERS CRESCENT CROSSED-TAIL
   CUPPED DASHED DIFFERENTIAL DIVIDER ELEMENT ERIN2 EXTREMELY FARSI FATHATAN FEMALE FISHHOOK GREAT
   HAND-HOOK HANDS HIRAGANA HOOKED INDEPENDENT IOTATED ITERATION JIHVAMULIYA JOINER KAVYKA KEHEH
   KLYUCHEVAYA MATHEMATICAL MONOGRAM N-ARY NABLA NOTCHED OBLIQUE ORANGE OUTLINED PARTIAL PIECE
   SHADDA SHARP SIMILAR SIXTEENTH SUBJOINED THESPIAN THORN THOUSANDS TONE-2 TONGUE UPADHMANIYA
   VRACHY VYSOKO ZAPYATAYA ZAPYATOY ALAYHE APPROXIMATELY BLACK-LETTER BREATHY BROKEN CHRIVI CIRCLES
   CLOSING COMMERCIAL CONTACT CRYPTOGRAMMIC CURRENCY DAGESH DAGGER DAMMATAN DEGREES DOUBLE-LINE
   DRAGON ELLIPSIS FLOWER FTHORA GEMINATION GEORGIAN GORAZDO HAND-OVAL IDEOGRAM INFINITY JOINED
   KASRATAN KATAKANA-HIRAGANA KENTIMATA KEYBOARD KHAMTI KIRGHIZ KISIM5 KUSHU2 LEFT-TO-RIGHT
   LENTICULAR LUNATE MANCHU MARK-1 MARKER MEASURE MEASURED MYSLITE NEITHER NEPOSTOYANNAYA NUBIAN
   OJIBWAY ONCOMING OPENING ORIGINAL OVERLINE PARAGRAPH PERCENT ROTATION-FLOORPLANE
   ROTATION-WALLPLANE SALTIRE SANDHI SPEECH SUBLIMATE TONE-1 UMBRELLA VARIATION WITHOUT YELLOW
   ABKHASIAN AIRPLANE ANUDATTA ARMENIAN BUILDING CANCELLATION DIALECT-P ELECTRIC ETHIOPIC
   EXTRA-HIGH EXTRA-LOW FROWNING GROMNAYA GROMOPOVODNAYA HAND-CLAW HAND-CURLICUE HAND-FLAT
   HYPHEN-MINUS IDEOGRAPH J-SIMPLIFIED LEFT-FACING LIGHTNING LOGOGRAM MILLIONS NIEUN-CIEUC
   NIEUN-HIEUH NIKOLSBURG PARENTHESIZED PERFECTA PIEUP-SIOS POSITION POVODNAYA PROSTAYA QUADRANT
   RECEIVER RECTANGLE RIEUL-HIEUH RIEUL-KIYEOK RIEUL-MIEUM RIEUL-PIEUP RIEUL-SIOS RIGHT-FACING
   RIGHT-TO-LEFT RUDIMENTA SEBATBEIT SIMPLIFIED SIXTEENTHS SSANGCIEUC SSANGKIYEOK SSANGPIEUP
   SSANGSIOS SSANGTIKEUT SUMMATION TEARDROP-SPOKED TELEGRAPH TOGETHER TRESVETLAYA TROMIKON
   TURNSTILE ALTERNATIVE BACKSLANTED CENTRALIZATION COMPOSITION CONSTRUCTION DVOECHELNAYA
   EKFONITIKON EYEGAZE-WALLPLANE GAYANUKITTA INFORMATION INTERROBANG KAPYEOUNMIEUM KAPYEOUNPHIEUPH
   KAPYEOUNPIEUP KIYEOK-SIOS LEFT-SHADED MIEUM-PIEUP NASALIZATION NIEUN-TIKEUT OVERLAPPING
   PARAKALESMA PARAKLITIKI PERPENDICULAR PIEUP-CIEUC PIEUP-SIOS-TIKEUT PIEUP-TIKEUT PLACEHOLDER
   PRESENTATION PRISHTHAMATRA RIEUL-PHIEUPH RIEUL-THIEUTH RIEUL-TIKEUT SEMI-VOICED SEMICIRCULAR
   SINGLE-LINE SIOS-KIYEOK SIOS-TIKEUT SIXTY-FOURTH SUPRALINEAR THIRTY-SECOND TOP-LIGHTED
   TWENTY-TWO YAJURVEDIC YEORINHIEUH BYELORUSSIAN-UKRAINIAN DVOECHELNOPOVODNAYA
   KLYUCHENEPOSTOYANNAYA ONE-HUNDRED-AND-SIXTIETH RIEUL-KAPYEOUNPIEUP"

end Componentry.Text.CharacterName
