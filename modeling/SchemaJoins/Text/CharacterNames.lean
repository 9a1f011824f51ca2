/-! # Names of characters

The names of the characters of the Latin and Greek scripts, of the capital and
small Cyrillic letters, and of common punctuation and symbols.
-/

namespace SchemaJoins.Text

def characterNames : List (Nat × String) := [
  (0x0, "NULL"), (0x7, "ALERT"), (0x8, "BACKSPACE"), (0x9, "CHARACTER TABULATION"), (0x9, "HT"),
  (0x9, "TAB"), (0xA, "LF"), (0xA, "LINE FEED"), (0xA, "NEW LINE"), (0xA, "NL"),
  (0xB, "LINE TABULATION"), (0xB, "VT"), (0xC, "FF"), (0xC, "FORM FEED"),
  (0xD, "CARRIAGE RETURN"), (0xD, "CR"), (0x1B, "ESC"), (0x1B, "ESCAPE"), (0x20, "SP"),
  (0x20, "SPACE"), (0x21, "EXCLAMATION MARK"), (0x22, "QUOTATION MARK"), (0x23, "NUMBER SIGN"),
  (0x24, "DOLLAR SIGN"), (0x25, "PERCENT SIGN"), (0x26, "AMPERSAND"), (0x27, "APOSTROPHE"),
  (0x28, "LEFT PARENTHESIS"), (0x29, "RIGHT PARENTHESIS"), (0x2A, "ASTERISK"),
  (0x2B, "PLUS SIGN"), (0x2C, "COMMA"), (0x2D, "HYPHEN-MINUS"), (0x2E, "FULL STOP"),
  (0x2F, "SOLIDUS"), (0x30, "DIGIT ZERO"), (0x31, "DIGIT ONE"), (0x32, "DIGIT TWO"),
  (0x33, "DIGIT THREE"), (0x34, "DIGIT FOUR"), (0x35, "DIGIT FIVE"), (0x36, "DIGIT SIX"),
  (0x37, "DIGIT SEVEN"), (0x38, "DIGIT EIGHT"), (0x39, "DIGIT NINE"), (0x3A, "COLON"),
  (0x3B, "SEMICOLON"), (0x3C, "LESS-THAN SIGN"), (0x3D, "EQUALS SIGN"),
  (0x3E, "GREATER-THAN SIGN"), (0x3F, "QUESTION MARK"), (0x40, "COMMERCIAL AT"),
  (0x41, "LATIN CAPITAL LETTER A"), (0x42, "LATIN CAPITAL LETTER B"),
  (0x43, "LATIN CAPITAL LETTER C"), (0x44, "LATIN CAPITAL LETTER D"),
  (0x45, "LATIN CAPITAL LETTER E"), (0x46, "LATIN CAPITAL LETTER F"),
  (0x47, "LATIN CAPITAL LETTER G"), (0x48, "LATIN CAPITAL LETTER H"),
  (0x49, "LATIN CAPITAL LETTER I"), (0x4A, "LATIN CAPITAL LETTER J"),
  (0x4B, "LATIN CAPITAL LETTER K"), (0x4C, "LATIN CAPITAL LETTER L"),
  (0x4D, "LATIN CAPITAL LETTER M"), (0x4E, "LATIN CAPITAL LETTER N"),
  (0x4F, "LATIN CAPITAL LETTER O"), (0x50, "LATIN CAPITAL LETTER P"),
  (0x51, "LATIN CAPITAL LETTER Q"), (0x52, "LATIN CAPITAL LETTER R"),
  (0x53, "LATIN CAPITAL LETTER S"), (0x54, "LATIN CAPITAL LETTER T"),
  (0x55, "LATIN CAPITAL LETTER U"), (0x56, "LATIN CAPITAL LETTER V"),
  (0x57, "LATIN CAPITAL LETTER W"), (0x58, "LATIN CAPITAL LETTER X"),
  (0x59, "LATIN CAPITAL LETTER Y"), (0x5A, "LATIN CAPITAL LETTER Z"),
  (0x5B, "LEFT SQUARE BRACKET"), (0x5C, "REVERSE SOLIDUS"), (0x5D, "RIGHT SQUARE BRACKET"),
  (0x5E, "CIRCUMFLEX ACCENT"), (0x5F, "LOW LINE"), (0x60, "GRAVE ACCENT"),
  (0x61, "LATIN SMALL LETTER A"), (0x62, "LATIN SMALL LETTER B"), (0x63, "LATIN SMALL LETTER C"),
  (0x64, "LATIN SMALL LETTER D"), (0x65, "LATIN SMALL LETTER E"), (0x66, "LATIN SMALL LETTER F"),
  (0x67, "LATIN SMALL LETTER G"), (0x68, "LATIN SMALL LETTER H"), (0x69, "LATIN SMALL LETTER I"),
  (0x6A, "LATIN SMALL LETTER J"), (0x6B, "LATIN SMALL LETTER K"), (0x6C, "LATIN SMALL LETTER L"),
  (0x6D, "LATIN SMALL LETTER M"), (0x6E, "LATIN SMALL LETTER N"), (0x6F, "LATIN SMALL LETTER O"),
  (0x70, "LATIN SMALL LETTER P"), (0x71, "LATIN SMALL LETTER Q"), (0x72, "LATIN SMALL LETTER R"),
  (0x73, "LATIN SMALL LETTER S"), (0x74, "LATIN SMALL LETTER T"), (0x75, "LATIN SMALL LETTER U"),
  (0x76, "LATIN SMALL LETTER V"), (0x77, "LATIN SMALL LETTER W"), (0x78, "LATIN SMALL LETTER X"),
  (0x79, "LATIN SMALL LETTER Y"), (0x7A, "LATIN SMALL LETTER Z"), (0x7B, "LEFT CURLY BRACKET"),
  (0x7C, "VERTICAL LINE"), (0x7D, "RIGHT CURLY BRACKET"), (0x7E, "TILDE"), (0x7F, "DEL"),
  (0x7F, "DELETE"), (0x85, "NEL"), (0x85, "NEXT LINE"), (0xA0, "NBSP"), (0xA0, "NO-BREAK SPACE"),
  (0xA1, "INVERTED EXCLAMATION MARK"), (0xA2, "CENT SIGN"), (0xA3, "POUND SIGN"),
  (0xA4, "CURRENCY SIGN"), (0xA5, "YEN SIGN"), (0xA6, "BROKEN BAR"), (0xA7, "SECTION SIGN"),
  (0xA8, "DIAERESIS"), (0xA9, "COPYRIGHT SIGN"), (0xAA, "FEMININE ORDINAL INDICATOR"),
  (0xAB, "LEFT-POINTING DOUBLE ANGLE QUOTATION MARK"), (0xAC, "NOT SIGN"), (0xAD, "SHY"),
  (0xAD, "SOFT HYPHEN"), (0xAE, "REGISTERED SIGN"), (0xAF, "MACRON"), (0xB0, "DEGREE SIGN"),
  (0xB1, "PLUS-MINUS SIGN"), (0xB2, "SUPERSCRIPT TWO"), (0xB3, "SUPERSCRIPT THREE"),
  (0xB4, "ACUTE ACCENT"), (0xB5, "MICRO SIGN"), (0xB6, "PILCROW SIGN"), (0xB7, "MIDDLE DOT"),
  (0xB8, "CEDILLA"), (0xB9, "SUPERSCRIPT ONE"), (0xBA, "MASCULINE ORDINAL INDICATOR"),
  (0xBB, "RIGHT-POINTING DOUBLE ANGLE QUOTATION MARK"), (0xBC, "VULGAR FRACTION ONE QUARTER"),
  (0xBD, "VULGAR FRACTION ONE HALF"), (0xBE, "VULGAR FRACTION THREE QUARTERS"),
  (0xBF, "INVERTED QUESTION MARK"), (0xC0, "LATIN CAPITAL LETTER A WITH GRAVE"),
  (0xC1, "LATIN CAPITAL LETTER A WITH ACUTE"), (0xC2, "LATIN CAPITAL LETTER A WITH CIRCUMFLEX"),
  (0xC3, "LATIN CAPITAL LETTER A WITH TILDE"), (0xC4, "LATIN CAPITAL LETTER A WITH DIAERESIS"),
  (0xC5, "LATIN CAPITAL LETTER A WITH RING ABOVE"), (0xC6, "LATIN CAPITAL LETTER AE"),
  (0xC7, "LATIN CAPITAL LETTER C WITH CEDILLA"), (0xC8, "LATIN CAPITAL LETTER E WITH GRAVE"),
  (0xC9, "LATIN CAPITAL LETTER E WITH ACUTE"), (0xCA, "LATIN CAPITAL LETTER E WITH CIRCUMFLEX"),
  (0xCB, "LATIN CAPITAL LETTER E WITH DIAERESIS"), (0xCC, "LATIN CAPITAL LETTER I WITH GRAVE"),
  (0xCD, "LATIN CAPITAL LETTER I WITH ACUTE"), (0xCE, "LATIN CAPITAL LETTER I WITH CIRCUMFLEX"),
  (0xCF, "LATIN CAPITAL LETTER I WITH DIAERESIS"), (0xD0, "LATIN CAPITAL LETTER ETH"),
  (0xD1, "LATIN CAPITAL LETTER N WITH TILDE"), (0xD2, "LATIN CAPITAL LETTER O WITH GRAVE"),
  (0xD3, "LATIN CAPITAL LETTER O WITH ACUTE"), (0xD4, "LATIN CAPITAL LETTER O WITH CIRCUMFLEX"),
  (0xD5, "LATIN CAPITAL LETTER O WITH TILDE"), (0xD6, "LATIN CAPITAL LETTER O WITH DIAERESIS"),
  (0xD7, "MULTIPLICATION SIGN"), (0xD8, "LATIN CAPITAL LETTER O WITH STROKE"),
  (0xD9, "LATIN CAPITAL LETTER U WITH GRAVE"), (0xDA, "LATIN CAPITAL LETTER U WITH ACUTE"),
  (0xDB, "LATIN CAPITAL LETTER U WITH CIRCUMFLEX"),
  (0xDC, "LATIN CAPITAL LETTER U WITH DIAERESIS"), (0xDD, "LATIN CAPITAL LETTER Y WITH ACUTE"),
  (0xDE, "LATIN CAPITAL LETTER THORN"), (0xDF, "LATIN SMALL LETTER SHARP S"),
  (0xE0, "LATIN SMALL LETTER A WITH GRAVE"), (0xE1, "LATIN SMALL LETTER A WITH ACUTE"),
  (0xE2, "LATIN SMALL LETTER A WITH CIRCUMFLEX"), (0xE3, "LATIN SMALL LETTER A WITH TILDE"),
  (0xE4, "LATIN SMALL LETTER A WITH DIAERESIS"), (0xE5, "LATIN SMALL LETTER A WITH RING ABOVE"),
  (0xE6, "LATIN SMALL LETTER AE"), (0xE7, "LATIN SMALL LETTER C WITH CEDILLA"),
  (0xE8, "LATIN SMALL LETTER E WITH GRAVE"), (0xE9, "LATIN SMALL LETTER E WITH ACUTE"),
  (0xEA, "LATIN SMALL LETTER E WITH CIRCUMFLEX"), (0xEB, "LATIN SMALL LETTER E WITH DIAERESIS"),
  (0xEC, "LATIN SMALL LETTER I WITH GRAVE"), (0xED, "LATIN SMALL LETTER I WITH ACUTE"),
  (0xEE, "LATIN SMALL LETTER I WITH CIRCUMFLEX"), (0xEF, "LATIN SMALL LETTER I WITH DIAERESIS"),
  (0xF0, "LATIN SMALL LETTER ETH"), (0xF1, "LATIN SMALL LETTER N WITH TILDE"),
  (0xF2, "LATIN SMALL LETTER O WITH GRAVE"), (0xF3, "LATIN SMALL LETTER O WITH ACUTE"),
  (0xF4, "LATIN SMALL LETTER O WITH CIRCUMFLEX"), (0xF5, "LATIN SMALL LETTER O WITH TILDE"),
  (0xF6, "LATIN SMALL LETTER O WITH DIAERESIS"), (0xF7, "DIVISION SIGN"),
  (0xF8, "LATIN SMALL LETTER O WITH STROKE"), (0xF9, "LATIN SMALL LETTER U WITH GRAVE"),
  (0xFA, "LATIN SMALL LETTER U WITH ACUTE"), (0xFB, "LATIN SMALL LETTER U WITH CIRCUMFLEX"),
  (0xFC, "LATIN SMALL LETTER U WITH DIAERESIS"), (0xFD, "LATIN SMALL LETTER Y WITH ACUTE"),
  (0xFE, "LATIN SMALL LETTER THORN"), (0xFF, "LATIN SMALL LETTER Y WITH DIAERESIS"),
  (0x100, "LATIN CAPITAL LETTER A WITH MACRON"), (0x101, "LATIN SMALL LETTER A WITH MACRON"),
  (0x102, "LATIN CAPITAL LETTER A WITH BREVE"), (0x103, "LATIN SMALL LETTER A WITH BREVE"),
  (0x104, "LATIN CAPITAL LETTER A WITH OGONEK"), (0x105, "LATIN SMALL LETTER A WITH OGONEK"),
  (0x106, "LATIN CAPITAL LETTER C WITH ACUTE"), (0x107, "LATIN SMALL LETTER C WITH ACUTE"),
  (0x108, "LATIN CAPITAL LETTER C WITH CIRCUMFLEX"),
  (0x109, "LATIN SMALL LETTER C WITH CIRCUMFLEX"),
  (0x10A, "LATIN CAPITAL LETTER C WITH DOT ABOVE"),
  (0x10B, "LATIN SMALL LETTER C WITH DOT ABOVE"), (0x10C, "LATIN CAPITAL LETTER C WITH CARON"),
  (0x10D, "LATIN SMALL LETTER C WITH CARON"), (0x10E, "LATIN CAPITAL LETTER D WITH CARON"),
  (0x10F, "LATIN SMALL LETTER D WITH CARON"), (0x110, "LATIN CAPITAL LETTER D WITH STROKE"),
  (0x111, "LATIN SMALL LETTER D WITH STROKE"), (0x112, "LATIN CAPITAL LETTER E WITH MACRON"),
  (0x113, "LATIN SMALL LETTER E WITH MACRON"), (0x114, "LATIN CAPITAL LETTER E WITH BREVE"),
  (0x115, "LATIN SMALL LETTER E WITH BREVE"), (0x116, "LATIN CAPITAL LETTER E WITH DOT ABOVE"),
  (0x117, "LATIN SMALL LETTER E WITH DOT ABOVE"), (0x118, "LATIN CAPITAL LETTER E WITH OGONEK"),
  (0x119, "LATIN SMALL LETTER E WITH OGONEK"), (0x11A, "LATIN CAPITAL LETTER E WITH CARON"),
  (0x11B, "LATIN SMALL LETTER E WITH CARON"), (0x11C, "LATIN CAPITAL LETTER G WITH CIRCUMFLEX"),
  (0x11D, "LATIN SMALL LETTER G WITH CIRCUMFLEX"), (0x11E, "LATIN CAPITAL LETTER G WITH BREVE"),
  (0x11F, "LATIN SMALL LETTER G WITH BREVE"), (0x120, "LATIN CAPITAL LETTER G WITH DOT ABOVE"),
  (0x121, "LATIN SMALL LETTER G WITH DOT ABOVE"), (0x122, "LATIN CAPITAL LETTER G WITH CEDILLA"),
  (0x123, "LATIN SMALL LETTER G WITH CEDILLA"), (0x124, "LATIN CAPITAL LETTER H WITH CIRCUMFLEX"),
  (0x125, "LATIN SMALL LETTER H WITH CIRCUMFLEX"), (0x126, "LATIN CAPITAL LETTER H WITH STROKE"),
  (0x127, "LATIN SMALL LETTER H WITH STROKE"), (0x128, "LATIN CAPITAL LETTER I WITH TILDE"),
  (0x129, "LATIN SMALL LETTER I WITH TILDE"), (0x12A, "LATIN CAPITAL LETTER I WITH MACRON"),
  (0x12B, "LATIN SMALL LETTER I WITH MACRON"), (0x12C, "LATIN CAPITAL LETTER I WITH BREVE"),
  (0x12D, "LATIN SMALL LETTER I WITH BREVE"), (0x12E, "LATIN CAPITAL LETTER I WITH OGONEK"),
  (0x12F, "LATIN SMALL LETTER I WITH OGONEK"), (0x130, "LATIN CAPITAL LETTER I WITH DOT ABOVE"),
  (0x131, "LATIN SMALL LETTER DOTLESS I"), (0x132, "LATIN CAPITAL LIGATURE IJ"),
  (0x133, "LATIN SMALL LIGATURE IJ"), (0x134, "LATIN CAPITAL LETTER J WITH CIRCUMFLEX"),
  (0x135, "LATIN SMALL LETTER J WITH CIRCUMFLEX"), (0x136, "LATIN CAPITAL LETTER K WITH CEDILLA"),
  (0x137, "LATIN SMALL LETTER K WITH CEDILLA"), (0x138, "LATIN SMALL LETTER KRA"),
  (0x139, "LATIN CAPITAL LETTER L WITH ACUTE"), (0x13A, "LATIN SMALL LETTER L WITH ACUTE"),
  (0x13B, "LATIN CAPITAL LETTER L WITH CEDILLA"), (0x13C, "LATIN SMALL LETTER L WITH CEDILLA"),
  (0x13D, "LATIN CAPITAL LETTER L WITH CARON"), (0x13E, "LATIN SMALL LETTER L WITH CARON"),
  (0x13F, "LATIN CAPITAL LETTER L WITH MIDDLE DOT"),
  (0x140, "LATIN SMALL LETTER L WITH MIDDLE DOT"), (0x141, "LATIN CAPITAL LETTER L WITH STROKE"),
  (0x142, "LATIN SMALL LETTER L WITH STROKE"), (0x143, "LATIN CAPITAL LETTER N WITH ACUTE"),
  (0x144, "LATIN SMALL LETTER N WITH ACUTE"), (0x145, "LATIN CAPITAL LETTER N WITH CEDILLA"),
  (0x146, "LATIN SMALL LETTER N WITH CEDILLA"), (0x147, "LATIN CAPITAL LETTER N WITH CARON"),
  (0x148, "LATIN SMALL LETTER N WITH CARON"),
  (0x149, "LATIN SMALL LETTER N PRECEDED BY APOSTROPHE"), (0x14A, "LATIN CAPITAL LETTER ENG"),
  (0x14B, "LATIN SMALL LETTER ENG"), (0x14C, "LATIN CAPITAL LETTER O WITH MACRON"),
  (0x14D, "LATIN SMALL LETTER O WITH MACRON"), (0x14E, "LATIN CAPITAL LETTER O WITH BREVE"),
  (0x14F, "LATIN SMALL LETTER O WITH BREVE"), (0x150, "LATIN CAPITAL LETTER O WITH DOUBLE ACUTE"),
  (0x151, "LATIN SMALL LETTER O WITH DOUBLE ACUTE"), (0x152, "LATIN CAPITAL LIGATURE OE"),
  (0x153, "LATIN SMALL LIGATURE OE"), (0x154, "LATIN CAPITAL LETTER R WITH ACUTE"),
  (0x155, "LATIN SMALL LETTER R WITH ACUTE"), (0x156, "LATIN CAPITAL LETTER R WITH CEDILLA"),
  (0x157, "LATIN SMALL LETTER R WITH CEDILLA"), (0x158, "LATIN CAPITAL LETTER R WITH CARON"),
  (0x159, "LATIN SMALL LETTER R WITH CARON"), (0x15A, "LATIN CAPITAL LETTER S WITH ACUTE"),
  (0x15B, "LATIN SMALL LETTER S WITH ACUTE"), (0x15C, "LATIN CAPITAL LETTER S WITH CIRCUMFLEX"),
  (0x15D, "LATIN SMALL LETTER S WITH CIRCUMFLEX"), (0x15E, "LATIN CAPITAL LETTER S WITH CEDILLA"),
  (0x15F, "LATIN SMALL LETTER S WITH CEDILLA"), (0x160, "LATIN CAPITAL LETTER S WITH CARON"),
  (0x161, "LATIN SMALL LETTER S WITH CARON"), (0x162, "LATIN CAPITAL LETTER T WITH CEDILLA"),
  (0x163, "LATIN SMALL LETTER T WITH CEDILLA"), (0x164, "LATIN CAPITAL LETTER T WITH CARON"),
  (0x165, "LATIN SMALL LETTER T WITH CARON"), (0x166, "LATIN CAPITAL LETTER T WITH STROKE"),
  (0x167, "LATIN SMALL LETTER T WITH STROKE"), (0x168, "LATIN CAPITAL LETTER U WITH TILDE"),
  (0x169, "LATIN SMALL LETTER U WITH TILDE"), (0x16A, "LATIN CAPITAL LETTER U WITH MACRON"),
  (0x16B, "LATIN SMALL LETTER U WITH MACRON"), (0x16C, "LATIN CAPITAL LETTER U WITH BREVE"),
  (0x16D, "LATIN SMALL LETTER U WITH BREVE"), (0x16E, "LATIN CAPITAL LETTER U WITH RING ABOVE"),
  (0x16F, "LATIN SMALL LETTER U WITH RING ABOVE"),
  (0x170, "LATIN CAPITAL LETTER U WITH DOUBLE ACUTE"),
  (0x171, "LATIN SMALL LETTER U WITH DOUBLE ACUTE"),
  (0x172, "LATIN CAPITAL LETTER U WITH OGONEK"), (0x173, "LATIN SMALL LETTER U WITH OGONEK"),
  (0x174, "LATIN CAPITAL LETTER W WITH CIRCUMFLEX"),
  (0x175, "LATIN SMALL LETTER W WITH CIRCUMFLEX"),
  (0x176, "LATIN CAPITAL LETTER Y WITH CIRCUMFLEX"),
  (0x177, "LATIN SMALL LETTER Y WITH CIRCUMFLEX"),
  (0x178, "LATIN CAPITAL LETTER Y WITH DIAERESIS"), (0x179, "LATIN CAPITAL LETTER Z WITH ACUTE"),
  (0x17A, "LATIN SMALL LETTER Z WITH ACUTE"), (0x17B, "LATIN CAPITAL LETTER Z WITH DOT ABOVE"),
  (0x17C, "LATIN SMALL LETTER Z WITH DOT ABOVE"), (0x17D, "LATIN CAPITAL LETTER Z WITH CARON"),
  (0x17E, "LATIN SMALL LETTER Z WITH CARON"), (0x17F, "LATIN SMALL LETTER LONG S"),
  (0x370, "GREEK CAPITAL LETTER HETA"), (0x371, "GREEK SMALL LETTER HETA"),
  (0x372, "GREEK CAPITAL LETTER ARCHAIC SAMPI"), (0x373, "GREEK SMALL LETTER ARCHAIC SAMPI"),
  (0x374, "GREEK NUMERAL SIGN"), (0x375, "GREEK LOWER NUMERAL SIGN"),
  (0x376, "GREEK CAPITAL LETTER PAMPHYLIAN DIGAMMA"),
  (0x377, "GREEK SMALL LETTER PAMPHYLIAN DIGAMMA"), (0x37A, "GREEK YPOGEGRAMMENI"),
  (0x37B, "GREEK SMALL REVERSED LUNATE SIGMA SYMBOL"),
  (0x37C, "GREEK SMALL DOTTED LUNATE SIGMA SYMBOL"),
  (0x37D, "GREEK SMALL REVERSED DOTTED LUNATE SIGMA SYMBOL"), (0x37E, "GREEK QUESTION MARK"),
  (0x37F, "GREEK CAPITAL LETTER YOT"), (0x384, "GREEK TONOS"), (0x385, "GREEK DIALYTIKA TONOS"),
  (0x386, "GREEK CAPITAL LETTER ALPHA WITH TONOS"), (0x387, "GREEK ANO TELEIA"),
  (0x388, "GREEK CAPITAL LETTER EPSILON WITH TONOS"),
  (0x389, "GREEK CAPITAL LETTER ETA WITH TONOS"), (0x38A, "GREEK CAPITAL LETTER IOTA WITH TONOS"),
  (0x38C, "GREEK CAPITAL LETTER OMICRON WITH TONOS"),
  (0x38E, "GREEK CAPITAL LETTER UPSILON WITH TONOS"),
  (0x38F, "GREEK CAPITAL LETTER OMEGA WITH TONOS"),
  (0x390, "GREEK SMALL LETTER IOTA WITH DIALYTIKA AND TONOS"),
  (0x391, "GREEK CAPITAL LETTER ALPHA"), (0x392, "GREEK CAPITAL LETTER BETA"),
  (0x393, "GREEK CAPITAL LETTER GAMMA"), (0x394, "GREEK CAPITAL LETTER DELTA"),
  (0x395, "GREEK CAPITAL LETTER EPSILON"), (0x396, "GREEK CAPITAL LETTER ZETA"),
  (0x397, "GREEK CAPITAL LETTER ETA"), (0x398, "GREEK CAPITAL LETTER THETA"),
  (0x399, "GREEK CAPITAL LETTER IOTA"), (0x39A, "GREEK CAPITAL LETTER KAPPA"),
  (0x39B, "GREEK CAPITAL LETTER LAMDA"), (0x39C, "GREEK CAPITAL LETTER MU"),
  (0x39D, "GREEK CAPITAL LETTER NU"), (0x39E, "GREEK CAPITAL LETTER XI"),
  (0x39F, "GREEK CAPITAL LETTER OMICRON"), (0x3A0, "GREEK CAPITAL LETTER PI"),
  (0x3A1, "GREEK CAPITAL LETTER RHO"), (0x3A3, "GREEK CAPITAL LETTER SIGMA"),
  (0x3A4, "GREEK CAPITAL LETTER TAU"), (0x3A5, "GREEK CAPITAL LETTER UPSILON"),
  (0x3A6, "GREEK CAPITAL LETTER PHI"), (0x3A7, "GREEK CAPITAL LETTER CHI"),
  (0x3A8, "GREEK CAPITAL LETTER PSI"), (0x3A9, "GREEK CAPITAL LETTER OMEGA"),
  (0x3AA, "GREEK CAPITAL LETTER IOTA WITH DIALYTIKA"),
  (0x3AB, "GREEK CAPITAL LETTER UPSILON WITH DIALYTIKA"),
  (0x3AC, "GREEK SMALL LETTER ALPHA WITH TONOS"),
  (0x3AD, "GREEK SMALL LETTER EPSILON WITH TONOS"), (0x3AE, "GREEK SMALL LETTER ETA WITH TONOS"),
  (0x3AF, "GREEK SMALL LETTER IOTA WITH TONOS"),
  (0x3B0, "GREEK SMALL LETTER UPSILON WITH DIALYTIKA AND TONOS"),
  (0x3B1, "GREEK SMALL LETTER ALPHA"), (0x3B2, "GREEK SMALL LETTER BETA"),
  (0x3B3, "GREEK SMALL LETTER GAMMA"), (0x3B4, "GREEK SMALL LETTER DELTA"),
  (0x3B5, "GREEK SMALL LETTER EPSILON"), (0x3B6, "GREEK SMALL LETTER ZETA"),
  (0x3B7, "GREEK SMALL LETTER ETA"), (0x3B8, "GREEK SMALL LETTER THETA"),
  (0x3B9, "GREEK SMALL LETTER IOTA"), (0x3BA, "GREEK SMALL LETTER KAPPA"),
  (0x3BB, "GREEK SMALL LETTER LAMDA"), (0x3BC, "GREEK SMALL LETTER MU"),
  (0x3BD, "GREEK SMALL LETTER NU"), (0x3BE, "GREEK SMALL LETTER XI"),
  (0x3BF, "GREEK SMALL LETTER OMICRON"), (0x3C0, "GREEK SMALL LETTER PI"),
  (0x3C1, "GREEK SMALL LETTER RHO"), (0x3C2, "GREEK SMALL LETTER FINAL SIGMA"),
  (0x3C3, "GREEK SMALL LETTER SIGMA"), (0x3C4, "GREEK SMALL LETTER TAU"),
  (0x3C5, "GREEK SMALL LETTER UPSILON"), (0x3C6, "GREEK SMALL LETTER PHI"),
  (0x3C7, "GREEK SMALL LETTER CHI"), (0x3C8, "GREEK SMALL LETTER PSI"),
  (0x3C9, "GREEK SMALL LETTER OMEGA"), (0x3CA, "GREEK SMALL LETTER IOTA WITH DIALYTIKA"),
  (0x3CB, "GREEK SMALL LETTER UPSILON WITH DIALYTIKA"),
  (0x3CC, "GREEK SMALL LETTER OMICRON WITH TONOS"),
  (0x3CD, "GREEK SMALL LETTER UPSILON WITH TONOS"),
  (0x3CE, "GREEK SMALL LETTER OMEGA WITH TONOS"), (0x3CF, "GREEK CAPITAL KAI SYMBOL"),
  (0x3D0, "GREEK BETA SYMBOL"), (0x3D1, "GREEK THETA SYMBOL"),
  (0x3D2, "GREEK UPSILON WITH HOOK SYMBOL"), (0x3D3, "GREEK UPSILON WITH ACUTE AND HOOK SYMBOL"),
  (0x3D4, "GREEK UPSILON WITH DIAERESIS AND HOOK SYMBOL"), (0x3D5, "GREEK PHI SYMBOL"),
  (0x3D6, "GREEK PI SYMBOL"), (0x3D7, "GREEK KAI SYMBOL"), (0x3D8, "GREEK LETTER ARCHAIC KOPPA"),
  (0x3D9, "GREEK SMALL LETTER ARCHAIC KOPPA"), (0x3DA, "GREEK LETTER STIGMA"),
  (0x3DB, "GREEK SMALL LETTER STIGMA"), (0x3DC, "GREEK LETTER DIGAMMA"),
  (0x3DD, "GREEK SMALL LETTER DIGAMMA"), (0x3DE, "GREEK LETTER KOPPA"),
  (0x3DF, "GREEK SMALL LETTER KOPPA"), (0x3E0, "GREEK LETTER SAMPI"),
  (0x3E1, "GREEK SMALL LETTER SAMPI"), (0x3E2, "COPTIC CAPITAL LETTER SHEI"),
  (0x3E3, "COPTIC SMALL LETTER SHEI"), (0x3E4, "COPTIC CAPITAL LETTER FEI"),
  (0x3E5, "COPTIC SMALL LETTER FEI"), (0x3E6, "COPTIC CAPITAL LETTER KHEI"),
  (0x3E7, "COPTIC SMALL LETTER KHEI"), (0x3E8, "COPTIC CAPITAL LETTER HORI"),
  (0x3E9, "COPTIC SMALL LETTER HORI"), (0x3EA, "COPTIC CAPITAL LETTER GANGIA"),
  (0x3EB, "COPTIC SMALL LETTER GANGIA"), (0x3EC, "COPTIC CAPITAL LETTER SHIMA"),
  (0x3ED, "COPTIC SMALL LETTER SHIMA"), (0x3EE, "COPTIC CAPITAL LETTER DEI"),
  (0x3EF, "COPTIC SMALL LETTER DEI"), (0x3F0, "GREEK KAPPA SYMBOL"), (0x3F1, "GREEK RHO SYMBOL"),
  (0x3F2, "GREEK LUNATE SIGMA SYMBOL"), (0x3F3, "GREEK LETTER YOT"),
  (0x3F4, "GREEK CAPITAL THETA SYMBOL"), (0x3F5, "GREEK LUNATE EPSILON SYMBOL"),
  (0x3F6, "GREEK REVERSED LUNATE EPSILON SYMBOL"), (0x3F7, "GREEK CAPITAL LETTER SHO"),
  (0x3F8, "GREEK SMALL LETTER SHO"), (0x3F9, "GREEK CAPITAL LUNATE SIGMA SYMBOL"),
  (0x3FA, "GREEK CAPITAL LETTER SAN"), (0x3FB, "GREEK SMALL LETTER SAN"),
  (0x3FC, "GREEK RHO WITH STROKE SYMBOL"), (0x3FD, "GREEK CAPITAL REVERSED LUNATE SIGMA SYMBOL"),
  (0x3FE, "GREEK CAPITAL DOTTED LUNATE SIGMA SYMBOL"),
  (0x3FF, "GREEK CAPITAL REVERSED DOTTED LUNATE SIGMA SYMBOL"),
  (0x410, "CYRILLIC CAPITAL LETTER A"), (0x411, "CYRILLIC CAPITAL LETTER BE"),
  (0x412, "CYRILLIC CAPITAL LETTER VE"), (0x413, "CYRILLIC CAPITAL LETTER GHE"),
  (0x414, "CYRILLIC CAPITAL LETTER DE"), (0x415, "CYRILLIC CAPITAL LETTER IE"),
  (0x416, "CYRILLIC CAPITAL LETTER ZHE"), (0x417, "CYRILLIC CAPITAL LETTER ZE"),
  (0x418, "CYRILLIC CAPITAL LETTER I"), (0x419, "CYRILLIC CAPITAL LETTER SHORT I"),
  (0x41A, "CYRILLIC CAPITAL LETTER KA"), (0x41B, "CYRILLIC CAPITAL LETTER EL"),
  (0x41C, "CYRILLIC CAPITAL LETTER EM"), (0x41D, "CYRILLIC CAPITAL LETTER EN"),
  (0x41E, "CYRILLIC CAPITAL LETTER O"), (0x41F, "CYRILLIC CAPITAL LETTER PE"),
  (0x420, "CYRILLIC CAPITAL LETTER ER"), (0x421, "CYRILLIC CAPITAL LETTER ES"),
  (0x422, "CYRILLIC CAPITAL LETTER TE"), (0x423, "CYRILLIC CAPITAL LETTER U"),
  (0x424, "CYRILLIC CAPITAL LETTER EF"), (0x425, "CYRILLIC CAPITAL LETTER HA"),
  (0x426, "CYRILLIC CAPITAL LETTER TSE"), (0x427, "CYRILLIC CAPITAL LETTER CHE"),
  (0x428, "CYRILLIC CAPITAL LETTER SHA"), (0x429, "CYRILLIC CAPITAL LETTER SHCHA"),
  (0x42A, "CYRILLIC CAPITAL LETTER HARD SIGN"), (0x42B, "CYRILLIC CAPITAL LETTER YERU"),
  (0x42C, "CYRILLIC CAPITAL LETTER SOFT SIGN"), (0x42D, "CYRILLIC CAPITAL LETTER E"),
  (0x42E, "CYRILLIC CAPITAL LETTER YU"), (0x42F, "CYRILLIC CAPITAL LETTER YA"),
  (0x430, "CYRILLIC SMALL LETTER A"), (0x431, "CYRILLIC SMALL LETTER BE"),
  (0x432, "CYRILLIC SMALL LETTER VE"), (0x433, "CYRILLIC SMALL LETTER GHE"),
  (0x434, "CYRILLIC SMALL LETTER DE"), (0x435, "CYRILLIC SMALL LETTER IE"),
  (0x436, "CYRILLIC SMALL LETTER ZHE"), (0x437, "CYRILLIC SMALL LETTER ZE"),
  (0x438, "CYRILLIC SMALL LETTER I"), (0x439, "CYRILLIC SMALL LETTER SHORT I"),
  (0x43A, "CYRILLIC SMALL LETTER KA"), (0x43B, "CYRILLIC SMALL LETTER EL"),
  (0x43C, "CYRILLIC SMALL LETTER EM"), (0x43D, "CYRILLIC SMALL LETTER EN"),
  (0x43E, "CYRILLIC SMALL LETTER O"), (0x43F, "CYRILLIC SMALL LETTER PE"),
  (0x440, "CYRILLIC SMALL LETTER ER"), (0x441, "CYRILLIC SMALL LETTER ES"),
  (0x442, "CYRILLIC SMALL LETTER TE"), (0x443, "CYRILLIC SMALL LETTER U"),
  (0x444, "CYRILLIC SMALL LETTER EF"), (0x445, "CYRILLIC SMALL LETTER HA"),
  (0x446, "CYRILLIC SMALL LETTER TSE"), (0x447, "CYRILLIC SMALL LETTER CHE"),
  (0x448, "CYRILLIC SMALL LETTER SHA"), (0x449, "CYRILLIC SMALL LETTER SHCHA"),
  (0x44A, "CYRILLIC SMALL LETTER HARD SIGN"), (0x44B, "CYRILLIC SMALL LETTER YERU"),
  (0x44C, "CYRILLIC SMALL LETTER SOFT SIGN"), (0x44D, "CYRILLIC SMALL LETTER E"),
  (0x44E, "CYRILLIC SMALL LETTER YU"), (0x44F, "CYRILLIC SMALL LETTER YA"), (0x2000, "EN QUAD"),
  (0x2001, "EM QUAD"), (0x2002, "EN SPACE"), (0x2003, "EM SPACE"), (0x2004, "THREE-PER-EM SPACE"),
  (0x2005, "FOUR-PER-EM SPACE"), (0x2006, "SIX-PER-EM SPACE"), (0x2007, "FIGURE SPACE"),
  (0x2008, "PUNCTUATION SPACE"), (0x2009, "THIN SPACE"), (0x200A, "HAIR SPACE"),
  (0x200B, "ZERO WIDTH SPACE"), (0x200B, "ZWSP"), (0x200C, "ZERO WIDTH NON-JOINER"),
  (0x200C, "ZWNJ"), (0x200D, "ZERO WIDTH JOINER"), (0x200D, "ZWJ"),
  (0x200E, "LEFT-TO-RIGHT MARK"), (0x200E, "LRM"), (0x200F, "RIGHT-TO-LEFT MARK"),
  (0x200F, "RLM"), (0x2010, "HYPHEN"), (0x2011, "NON-BREAKING HYPHEN"), (0x2012, "FIGURE DASH"),
  (0x2013, "EN DASH"), (0x2014, "EM DASH"), (0x2015, "HORIZONTAL BAR"),
  (0x2016, "DOUBLE VERTICAL LINE"), (0x2017, "DOUBLE LOW LINE"),
  (0x2018, "LEFT SINGLE QUOTATION MARK"), (0x2019, "RIGHT SINGLE QUOTATION MARK"),
  (0x201A, "SINGLE LOW-9 QUOTATION MARK"), (0x201B, "SINGLE HIGH-REVERSED-9 QUOTATION MARK"),
  (0x201C, "LEFT DOUBLE QUOTATION MARK"), (0x201D, "RIGHT DOUBLE QUOTATION MARK"),
  (0x201E, "DOUBLE LOW-9 QUOTATION MARK"), (0x201F, "DOUBLE HIGH-REVERSED-9 QUOTATION MARK"),
  (0x2020, "DAGGER"), (0x2021, "DOUBLE DAGGER"), (0x2022, "BULLET"),
  (0x2023, "TRIANGULAR BULLET"), (0x2024, "ONE DOT LEADER"), (0x2025, "TWO DOT LEADER"),
  (0x2026, "HORIZONTAL ELLIPSIS"), (0x2027, "HYPHENATION POINT"), (0x2028, "LINE SEPARATOR"),
  (0x2029, "PARAGRAPH SEPARATOR"), (0x202A, "LEFT-TO-RIGHT EMBEDDING"),
  (0x202B, "RIGHT-TO-LEFT EMBEDDING"), (0x202C, "POP DIRECTIONAL FORMATTING"),
  (0x202D, "LEFT-TO-RIGHT OVERRIDE"), (0x202E, "RIGHT-TO-LEFT OVERRIDE"),
  (0x202F, "NARROW NO-BREAK SPACE"), (0x2030, "PER MILLE SIGN"),
  (0x2031, "PER TEN THOUSAND SIGN"), (0x2032, "PRIME"), (0x2033, "DOUBLE PRIME"),
  (0x2034, "TRIPLE PRIME"), (0x2035, "REVERSED PRIME"), (0x2036, "REVERSED DOUBLE PRIME"),
  (0x2037, "REVERSED TRIPLE PRIME"), (0x2038, "CARET"),
  (0x2039, "SINGLE LEFT-POINTING ANGLE QUOTATION MARK"),
  (0x203A, "SINGLE RIGHT-POINTING ANGLE QUOTATION MARK"), (0x203B, "REFERENCE MARK"),
  (0x203C, "DOUBLE EXCLAMATION MARK"), (0x203D, "INTERROBANG"), (0x203E, "OVERLINE"),
  (0x203F, "UNDERTIE"), (0x2040, "CHARACTER TIE"), (0x2041, "CARET INSERTION POINT"),
  (0x2042, "ASTERISM"), (0x2043, "HYPHEN BULLET"), (0x2044, "FRACTION SLASH"),
  (0x2045, "LEFT SQUARE BRACKET WITH QUILL"), (0x2046, "RIGHT SQUARE BRACKET WITH QUILL"),
  (0x2047, "DOUBLE QUESTION MARK"), (0x2048, "QUESTION EXCLAMATION MARK"),
  (0x2049, "EXCLAMATION QUESTION MARK"), (0x204A, "TIRONIAN SIGN ET"),
  (0x204B, "REVERSED PILCROW SIGN"), (0x204C, "BLACK LEFTWARDS BULLET"),
  (0x204D, "BLACK RIGHTWARDS BULLET"), (0x204E, "LOW ASTERISK"), (0x204F, "REVERSED SEMICOLON"),
  (0x2050, "CLOSE UP"), (0x2051, "TWO ASTERISKS ALIGNED VERTICALLY"),
  (0x2052, "COMMERCIAL MINUS SIGN"), (0x2053, "SWUNG DASH"), (0x2054, "INVERTED UNDERTIE"),
  (0x2055, "FLOWER PUNCTUATION MARK"), (0x2056, "THREE DOT PUNCTUATION"),
  (0x2057, "QUADRUPLE PRIME"), (0x2058, "FOUR DOT PUNCTUATION"), (0x2059, "FIVE DOT PUNCTUATION"),
  (0x205A, "TWO DOT PUNCTUATION"), (0x205B, "FOUR DOT MARK"), (0x205C, "DOTTED CROSS"),
  (0x205D, "TRICOLON"), (0x205E, "VERTICAL FOUR DOTS"), (0x205F, "MEDIUM MATHEMATICAL SPACE"),
  (0x2060, "WORD JOINER"), (0x2061, "FUNCTION APPLICATION"), (0x2062, "INVISIBLE TIMES"),
  (0x2063, "INVISIBLE SEPARATOR"), (0x2064, "INVISIBLE PLUS"), (0x2066, "LEFT-TO-RIGHT ISOLATE"),
  (0x2067, "RIGHT-TO-LEFT ISOLATE"), (0x2068, "FIRST STRONG ISOLATE"),
  (0x2069, "POP DIRECTIONAL ISOLATE"), (0x206A, "INHIBIT SYMMETRIC SWAPPING"),
  (0x206B, "ACTIVATE SYMMETRIC SWAPPING"), (0x206C, "INHIBIT ARABIC FORM SHAPING"),
  (0x206D, "ACTIVATE ARABIC FORM SHAPING"), (0x206E, "NATIONAL DIGIT SHAPES"),
  (0x206F, "NOMINAL DIGIT SHAPES"), (0x20A0, "EURO-CURRENCY SIGN"), (0x20A1, "COLON SIGN"),
  (0x20A2, "CRUZEIRO SIGN"), (0x20A3, "FRENCH FRANC SIGN"), (0x20A4, "LIRA SIGN"),
  (0x20A5, "MILL SIGN"), (0x20A6, "NAIRA SIGN"), (0x20A7, "PESETA SIGN"), (0x20A8, "RUPEE SIGN"),
  (0x20A9, "WON SIGN"), (0x20AA, "NEW SHEQEL SIGN"), (0x20AB, "DONG SIGN"), (0x20AC, "EURO SIGN"),
  (0x20AD, "KIP SIGN"), (0x20AE, "TUGRIK SIGN"), (0x20AF, "DRACHMA SIGN"),
  (0x20B0, "GERMAN PENNY SIGN"), (0x20B1, "PESO SIGN"), (0x20B2, "GUARANI SIGN"),
  (0x20B3, "AUSTRAL SIGN"), (0x20B4, "HRYVNIA SIGN"), (0x20B5, "CEDI SIGN"),
  (0x20B6, "LIVRE TOURNOIS SIGN"), (0x20B7, "SPESMILO SIGN"), (0x20B8, "TENGE SIGN"),
  (0x20B9, "INDIAN RUPEE SIGN"), (0x20BA, "TURKISH LIRA SIGN"), (0x20BB, "NORDIC MARK SIGN"),
  (0x20BC, "MANAT SIGN"), (0x20BD, "RUBLE SIGN"), (0x20BE, "LARI SIGN"), (0x20BF, "BITCOIN SIGN"),
  (0x2100, "ACCOUNT OF"), (0x2101, "ADDRESSED TO THE SUBJECT"),
  (0x2102, "DOUBLE-STRUCK CAPITAL C"), (0x2103, "DEGREE CELSIUS"), (0x2104, "CENTRE LINE SYMBOL"),
  (0x2105, "CARE OF"), (0x2106, "CADA UNA"), (0x2107, "EULER CONSTANT"), (0x2108, "SCRUPLE"),
  (0x2109, "DEGREE FAHRENHEIT"), (0x210A, "SCRIPT SMALL G"), (0x210B, "SCRIPT CAPITAL H"),
  (0x210C, "BLACK-LETTER CAPITAL H"), (0x210D, "DOUBLE-STRUCK CAPITAL H"),
  (0x210E, "PLANCK CONSTANT"), (0x210F, "PLANCK CONSTANT OVER TWO PI"),
  (0x2110, "SCRIPT CAPITAL I"), (0x2111, "BLACK-LETTER CAPITAL I"), (0x2112, "SCRIPT CAPITAL L"),
  (0x2113, "SCRIPT SMALL L"), (0x2114, "L B BAR SYMBOL"), (0x2115, "DOUBLE-STRUCK CAPITAL N"),
  (0x2116, "NUMERO SIGN"), (0x2117, "SOUND RECORDING COPYRIGHT"), (0x2118, "SCRIPT CAPITAL P"),
  (0x2119, "DOUBLE-STRUCK CAPITAL P"), (0x211A, "DOUBLE-STRUCK CAPITAL Q"),
  (0x211B, "SCRIPT CAPITAL R"), (0x211C, "BLACK-LETTER CAPITAL R"),
  (0x211D, "DOUBLE-STRUCK CAPITAL R"), (0x211E, "PRESCRIPTION TAKE"), (0x211F, "RESPONSE"),
  (0x2120, "SERVICE MARK"), (0x2121, "TELEPHONE SIGN"), (0x2122, "TRADE MARK SIGN"),
  (0x2123, "VERSICLE"), (0x2124, "DOUBLE-STRUCK CAPITAL Z"), (0x2125, "OUNCE SIGN"),
  (0x2126, "OHM SIGN"), (0x2127, "INVERTED OHM SIGN"), (0x2128, "BLACK-LETTER CAPITAL Z"),
  (0x2129, "TURNED GREEK SMALL LETTER IOTA"), (0x212A, "KELVIN SIGN"), (0x212B, "ANGSTROM SIGN"),
  (0x212C, "SCRIPT CAPITAL B"), (0x212D, "BLACK-LETTER CAPITAL C"), (0x212E, "ESTIMATED SYMBOL"),
  (0x212F, "SCRIPT SMALL E"), (0x2130, "SCRIPT CAPITAL E"), (0x2131, "SCRIPT CAPITAL F"),
  (0x2132, "TURNED CAPITAL F"), (0x2133, "SCRIPT CAPITAL M"), (0x2134, "SCRIPT SMALL O"),
  (0x2135, "ALEF SYMBOL"), (0x2136, "BET SYMBOL"), (0x2137, "GIMEL SYMBOL"),
  (0x2138, "DALET SYMBOL"), (0x2139, "INFORMATION SOURCE"), (0x213A, "ROTATED CAPITAL Q"),
  (0x213B, "FACSIMILE SIGN"), (0x213C, "DOUBLE-STRUCK SMALL PI"),
  (0x213D, "DOUBLE-STRUCK SMALL GAMMA"), (0x213E, "DOUBLE-STRUCK CAPITAL GAMMA"),
  (0x213F, "DOUBLE-STRUCK CAPITAL PI"), (0x2190, "LEFTWARDS ARROW"), (0x2191, "UPWARDS ARROW"),
  (0x2192, "RIGHTWARDS ARROW"), (0x2193, "DOWNWARDS ARROW"), (0x2194, "LEFT RIGHT ARROW"),
  (0x2195, "UP DOWN ARROW"), (0x2196, "NORTH WEST ARROW"), (0x2197, "NORTH EAST ARROW"),
  (0x2198, "SOUTH EAST ARROW"), (0x2199, "SOUTH WEST ARROW"),
  (0x219A, "LEFTWARDS ARROW WITH STROKE"), (0x219B, "RIGHTWARDS ARROW WITH STROKE"),
  (0x219C, "LEFTWARDS WAVE ARROW"), (0x219D, "RIGHTWARDS WAVE ARROW"),
  (0x219E, "LEFTWARDS TWO HEADED ARROW"), (0x219F, "UPWARDS TWO HEADED ARROW"),
  (0x21D0, "LEFTWARDS DOUBLE ARROW"), (0x21D1, "UPWARDS DOUBLE ARROW"),
  (0x21D2, "RIGHTWARDS DOUBLE ARROW"), (0x21D3, "DOWNWARDS DOUBLE ARROW"),
  (0x21D4, "LEFT RIGHT DOUBLE ARROW"), (0x21D5, "UP DOWN DOUBLE ARROW"), (0x2200, "FOR ALL"),
  (0x2201, "COMPLEMENT"), (0x2202, "PARTIAL DIFFERENTIAL"), (0x2203, "THERE EXISTS"),
  (0x2204, "THERE DOES NOT EXIST"), (0x2205, "EMPTY SET"), (0x2206, "INCREMENT"),
  (0x2207, "NABLA"), (0x2208, "ELEMENT OF"), (0x2209, "NOT AN ELEMENT OF"),
  (0x220A, "SMALL ELEMENT OF"), (0x220B, "CONTAINS AS MEMBER"),
  (0x220C, "DOES NOT CONTAIN AS MEMBER"), (0x220D, "SMALL CONTAINS AS MEMBER"),
  (0x220E, "END OF PROOF"), (0x220F, "N-ARY PRODUCT"), (0x2210, "N-ARY COPRODUCT"),
  (0x2211, "N-ARY SUMMATION"), (0x2212, "MINUS SIGN"), (0x2213, "MINUS-OR-PLUS SIGN"),
  (0x2214, "DOT PLUS"), (0x2215, "DIVISION SLASH"), (0x2216, "SET MINUS"),
  (0x2217, "ASTERISK OPERATOR"), (0x2218, "RING OPERATOR"), (0x2219, "BULLET OPERATOR"),
  (0x221A, "SQUARE ROOT"), (0x221B, "CUBE ROOT"), (0x221C, "FOURTH ROOT"),
  (0x221D, "PROPORTIONAL TO"), (0x221E, "INFINITY"), (0x221F, "RIGHT ANGLE"), (0x2220, "ANGLE"),
  (0x2221, "MEASURED ANGLE"), (0x2222, "SPHERICAL ANGLE"), (0x2223, "DIVIDES"),
  (0x2224, "DOES NOT DIVIDE"), (0x2225, "PARALLEL TO"), (0x2226, "NOT PARALLEL TO"),
  (0x2227, "LOGICAL AND"), (0x2228, "LOGICAL OR"), (0x2229, "INTERSECTION"), (0x222A, "UNION"),
  (0x222B, "INTEGRAL"), (0x222C, "DOUBLE INTEGRAL"), (0x222D, "TRIPLE INTEGRAL"),
  (0x222E, "CONTOUR INTEGRAL"), (0x222F, "SURFACE INTEGRAL"), (0x2230, "VOLUME INTEGRAL"),
  (0x2231, "CLOCKWISE INTEGRAL"), (0x2232, "CLOCKWISE CONTOUR INTEGRAL"),
  (0x2233, "ANTICLOCKWISE CONTOUR INTEGRAL"), (0x2234, "THEREFORE"), (0x2235, "BECAUSE"),
  (0x2236, "RATIO"), (0x2237, "PROPORTION"), (0x2238, "DOT MINUS"), (0x2239, "EXCESS"),
  (0x223A, "GEOMETRIC PROPORTION"), (0x223B, "HOMOTHETIC"), (0x223C, "TILDE OPERATOR"),
  (0x223D, "REVERSED TILDE"), (0x223E, "INVERTED LAZY S"), (0x223F, "SINE WAVE"),
  (0x2240, "WREATH PRODUCT"), (0x2241, "NOT TILDE"), (0x2242, "MINUS TILDE"),
  (0x2243, "ASYMPTOTICALLY EQUAL TO"), (0x2244, "NOT ASYMPTOTICALLY EQUAL TO"),
  (0x2245, "APPROXIMATELY EQUAL TO"), (0x2246, "APPROXIMATELY BUT NOT ACTUALLY EQUAL TO"),
  (0x2247, "NEITHER APPROXIMATELY NOR ACTUALLY EQUAL TO"), (0x2248, "ALMOST EQUAL TO"),
  (0x2249, "NOT ALMOST EQUAL TO"), (0x224A, "ALMOST EQUAL OR EQUAL TO"), (0x224B, "TRIPLE TILDE"),
  (0x224C, "ALL EQUAL TO"), (0x224D, "EQUIVALENT TO"), (0x224E, "GEOMETRICALLY EQUIVALENT TO"),
  (0x224F, "DIFFERENCE BETWEEN"), (0x2250, "APPROACHES THE LIMIT"),
  (0x2251, "GEOMETRICALLY EQUAL TO"), (0x2252, "APPROXIMATELY EQUAL TO OR THE IMAGE OF"),
  (0x2253, "IMAGE OF OR APPROXIMATELY EQUAL TO"), (0x2254, "COLON EQUALS"),
  (0x2255, "EQUALS COLON"), (0x2256, "RING IN EQUAL TO"), (0x2257, "RING EQUAL TO"),
  (0x2258, "CORRESPONDS TO"), (0x2259, "ESTIMATES"), (0x225A, "EQUIANGULAR TO"),
  (0x225B, "STAR EQUALS"), (0x225C, "DELTA EQUAL TO"), (0x225D, "EQUAL TO BY DEFINITION"),
  (0x225E, "MEASURED BY"), (0x225F, "QUESTIONED EQUAL TO"), (0x2260, "NOT EQUAL TO"),
  (0x2261, "IDENTICAL TO"), (0x2262, "NOT IDENTICAL TO"), (0x2263, "STRICTLY EQUIVALENT TO"),
  (0x2264, "LESS-THAN OR EQUAL TO"), (0x2265, "GREATER-THAN OR EQUAL TO"),
  (0x2266, "LESS-THAN OVER EQUAL TO"), (0x2267, "GREATER-THAN OVER EQUAL TO"),
  (0x2268, "LESS-THAN BUT NOT EQUAL TO"), (0x2269, "GREATER-THAN BUT NOT EQUAL TO"),
  (0x226A, "MUCH LESS-THAN"), (0x226B, "MUCH GREATER-THAN"), (0x226C, "BETWEEN"),
  (0x226D, "NOT EQUIVALENT TO"), (0x226E, "NOT LESS-THAN"), (0x226F, "NOT GREATER-THAN"),
  (0x25A0, "BLACK SQUARE"), (0x25A1, "WHITE SQUARE"),
  (0x25A2, "WHITE SQUARE WITH ROUNDED CORNERS"),
  (0x25A3, "WHITE SQUARE CONTAINING BLACK SMALL SQUARE"), (0x25A4, "SQUARE WITH HORIZONTAL FILL"),
  (0x25A5, "SQUARE WITH VERTICAL FILL"), (0x25A6, "SQUARE WITH ORTHOGONAL CROSSHATCH FILL"),
  (0x25A7, "SQUARE WITH UPPER LEFT TO LOWER RIGHT FILL"),
  (0x25A8, "SQUARE WITH UPPER RIGHT TO LOWER LEFT FILL"),
  (0x25A9, "SQUARE WITH DIAGONAL CROSSHATCH FILL"), (0x25AA, "BLACK SMALL SQUARE"),
  (0x25AB, "WHITE SMALL SQUARE"), (0x25AC, "BLACK RECTANGLE"), (0x25AD, "WHITE RECTANGLE"),
  (0x25AE, "BLACK VERTICAL RECTANGLE"), (0x25AF, "WHITE VERTICAL RECTANGLE"),
  (0x25B0, "BLACK PARALLELOGRAM"), (0x25B1, "WHITE PARALLELOGRAM"),
  (0x25B2, "BLACK UP-POINTING TRIANGLE"), (0x25B3, "WHITE UP-POINTING TRIANGLE"),
  (0x25B4, "BLACK UP-POINTING SMALL TRIANGLE"), (0x25B5, "WHITE UP-POINTING SMALL TRIANGLE"),
  (0x25B6, "BLACK RIGHT-POINTING TRIANGLE"), (0x25B7, "WHITE RIGHT-POINTING TRIANGLE"),
  (0x25B8, "BLACK RIGHT-POINTING SMALL TRIANGLE"),
  (0x25B9, "WHITE RIGHT-POINTING SMALL TRIANGLE"), (0x25BA, "BLACK RIGHT-POINTING POINTER"),
  (0x25BB, "WHITE RIGHT-POINTING POINTER"), (0x25BC, "BLACK DOWN-POINTING TRIANGLE"),
  (0x25BD, "WHITE DOWN-POINTING TRIANGLE"), (0x25BE, "BLACK DOWN-POINTING SMALL TRIANGLE"),
  (0x25BF, "WHITE DOWN-POINTING SMALL TRIANGLE"), (0x25C0, "BLACK LEFT-POINTING TRIANGLE"),
  (0x25C1, "WHITE LEFT-POINTING TRIANGLE"), (0x25C2, "BLACK LEFT-POINTING SMALL TRIANGLE"),
  (0x25C3, "WHITE LEFT-POINTING SMALL TRIANGLE"), (0x25C4, "BLACK LEFT-POINTING POINTER"),
  (0x25C5, "WHITE LEFT-POINTING POINTER"), (0x25C6, "BLACK DIAMOND"), (0x25C7, "WHITE DIAMOND"),
  (0x25C8, "WHITE DIAMOND CONTAINING BLACK SMALL DIAMOND"), (0x25C9, "FISHEYE"),
  (0x25CA, "LOZENGE"), (0x25CB, "WHITE CIRCLE"), (0x25CC, "DOTTED CIRCLE"),
  (0x25CD, "CIRCLE WITH VERTICAL FILL"), (0x25CE, "BULLSEYE"), (0x25CF, "BLACK CIRCLE"),
  (0x2600, "BLACK SUN WITH RAYS"), (0x2601, "CLOUD"), (0x2602, "UMBRELLA"), (0x2603, "SNOWMAN"),
  (0x2604, "COMET"), (0x2605, "BLACK STAR"), (0x2606, "WHITE STAR"), (0x2607, "LIGHTNING"),
  (0x2608, "THUNDERSTORM"), (0x2609, "SUN"), (0x260A, "ASCENDING NODE"),
  (0x260B, "DESCENDING NODE"), (0x260C, "CONJUNCTION"), (0x260D, "OPPOSITION"),
  (0x260E, "BLACK TELEPHONE"), (0x260F, "WHITE TELEPHONE"), (0x2610, "BALLOT BOX"),
  (0x2611, "BALLOT BOX WITH CHECK"), (0x2612, "BALLOT BOX WITH X"), (0x2613, "SALTIRE"),
  (0x2630, "TRIGRAM FOR HEAVEN"), (0x2631, "TRIGRAM FOR LAKE"), (0x2632, "TRIGRAM FOR FIRE"),
  (0x2633, "TRIGRAM FOR THUNDER"), (0x2634, "TRIGRAM FOR WIND"), (0x2635, "TRIGRAM FOR WATER"),
  (0x2636, "TRIGRAM FOR MOUNTAIN"), (0x2637, "TRIGRAM FOR EARTH"), (0x2638, "WHEEL OF DHARMA"),
  (0x2639, "WHITE FROWNING FACE"), (0x263A, "WHITE SMILING FACE"), (0x263B, "BLACK SMILING FACE"),
  (0x263C, "WHITE SUN WITH RAYS"), (0x263D, "FIRST QUARTER MOON"), (0x263E, "LAST QUARTER MOON"),
  (0x263F, "MERCURY"), (0x2640, "FEMALE SIGN"), (0x2641, "EARTH"), (0x2642, "MALE SIGN"),
  (0x2643, "JUPITER"), (0x2644, "SATURN"), (0x2645, "URANUS"), (0x2646, "NEPTUNE"),
  (0x2647, "PLUTO"), (0x2648, "ARIES"), (0x2649, "TAURUS"), (0x264A, "GEMINI"),
  (0x264B, "CANCER"), (0x264C, "LEO"), (0x264D, "VIRGO"), (0x264E, "LIBRA"), (0x264F, "SCORPIUS"),
  (0x2660, "BLACK SPADE SUIT"), (0x2661, "WHITE HEART SUIT"), (0x2662, "WHITE DIAMOND SUIT"),
  (0x2663, "BLACK CLUB SUIT"), (0x2664, "WHITE SPADE SUIT"), (0x2665, "BLACK HEART SUIT"),
  (0x2666, "BLACK DIAMOND SUIT"), (0x2667, "WHITE CLUB SUIT"), (0x2668, "HOT SPRINGS"),
  (0x2669, "QUARTER NOTE"), (0x266A, "EIGHTH NOTE"), (0x266B, "BEAMED EIGHTH NOTES"),
  (0x266C, "BEAMED SIXTEENTH NOTES"), (0x266D, "MUSIC FLAT SIGN"), (0x266E, "MUSIC NATURAL SIGN"),
  (0x266F, "MUSIC SHARP SIGN"), (0x26A0, "WARNING SIGN"), (0x26A1, "HIGH VOLTAGE SIGN"),
  (0x2702, "BLACK SCISSORS"), (0x2703, "LOWER BLADE SCISSORS"), (0x2704, "WHITE SCISSORS"),
  (0x2705, "WHITE HEAVY CHECK MARK"), (0x2706, "TELEPHONE LOCATION SIGN"), (0x2707, "TAPE DRIVE"),
  (0x2708, "AIRPLANE"), (0x2709, "ENVELOPE"), (0x270A, "RAISED FIST"), (0x270B, "RAISED HAND"),
  (0x270C, "VICTORY HAND"), (0x270D, "WRITING HAND"), (0x270E, "LOWER RIGHT PENCIL"),
  (0x270F, "PENCIL"), (0x2710, "UPPER RIGHT PENCIL"), (0x2711, "WHITE NIB"),
  (0x2712, "BLACK NIB"), (0x2713, "CHECK MARK"), (0x2714, "HEAVY CHECK MARK"),
  (0x2715, "MULTIPLICATION X"), (0x2716, "HEAVY MULTIPLICATION X"), (0x2717, "BALLOT X"),
  (0x2718, "HEAVY BALLOT X"), (0x2719, "OUTLINED GREEK CROSS"), (0x271A, "HEAVY GREEK CROSS"),
  (0x271B, "OPEN CENTRE CROSS"), (0x271C, "HEAVY OPEN CENTRE CROSS"), (0x271D, "LATIN CROSS"),
  (0x271E, "SHADOWED WHITE LATIN CROSS"), (0x271F, "OUTLINED LATIN CROSS"), (0x2728, "SPARKLES"),
  (0x2740, "WHITE FLORETTE"), (0x2741, "EIGHT PETALLED OUTLINED BLACK FLORETTE"),
  (0x2742, "CIRCLED OPEN CENTRE EIGHT POINTED STAR"),
  (0x2743, "HEAVY TEARDROP-SPOKED PINWHEEL ASTERISK"), (0x2744, "SNOWFLAKE"),
  (0x2745, "TIGHT TRIFOLIATE SNOWFLAKE"), (0x2746, "HEAVY CHEVRON SNOWFLAKE"),
  (0x2747, "SPARKLE"), (0x2748, "HEAVY SPARKLE"), (0x2749, "BALLOON-SPOKED ASTERISK"),
  (0x274A, "EIGHT TEARDROP-SPOKED PROPELLER ASTERISK"),
  (0x274B, "HEAVY EIGHT TEARDROP-SPOKED PROPELLER ASTERISK"), (0x274C, "CROSS MARK"),
  (0x274D, "SHADOWED WHITE CIRCLE"), (0x274E, "NEGATIVE SQUARED CROSS MARK"),
  (0x274F, "LOWER RIGHT DROP-SHADOWED WHITE SQUARE"),
  (0x2750, "UPPER RIGHT DROP-SHADOWED WHITE SQUARE"),
  (0x2751, "LOWER RIGHT SHADOWED WHITE SQUARE"), (0x2752, "UPPER RIGHT SHADOWED WHITE SQUARE"),
  (0x2753, "BLACK QUESTION MARK ORNAMENT"), (0x2754, "WHITE QUESTION MARK ORNAMENT"),
  (0x2755, "WHITE EXCLAMATION MARK ORNAMENT"), (0x2756, "BLACK DIAMOND MINUS WHITE X"),
  (0x2757, "HEAVY EXCLAMATION MARK SYMBOL"), (0x2758, "LIGHT VERTICAL BAR"),
  (0x2759, "MEDIUM VERTICAL BAR"), (0x275A, "HEAVY VERTICAL BAR"),
  (0x275B, "HEAVY SINGLE TURNED COMMA QUOTATION MARK ORNAMENT"),
  (0x275C, "HEAVY SINGLE COMMA QUOTATION MARK ORNAMENT"),
  (0x275D, "HEAVY DOUBLE TURNED COMMA QUOTATION MARK ORNAMENT"),
  (0x275E, "HEAVY DOUBLE COMMA QUOTATION MARK ORNAMENT"),
  (0x275F, "HEAVY LOW SINGLE COMMA QUOTATION MARK ORNAMENT"),
  (0x2760, "HEAVY LOW DOUBLE COMMA QUOTATION MARK ORNAMENT"),
  (0x2761, "CURVED STEM PARAGRAPH SIGN ORNAMENT"), (0x2762, "HEAVY EXCLAMATION MARK ORNAMENT"),
  (0x2763, "HEAVY HEART EXCLAMATION MARK ORNAMENT"), (0x2764, "HEAVY BLACK HEART"),
  (0x2765, "ROTATED HEAVY BLACK HEART BULLET"), (0x2766, "FLORAL HEART"),
  (0x2767, "ROTATED FLORAL HEART BULLET"), (0x3000, "IDEOGRAPHIC SPACE"),
  (0x3001, "IDEOGRAPHIC COMMA"), (0x3002, "IDEOGRAPHIC FULL STOP"), (0x3003, "DITTO MARK"),
  (0x3004, "JAPANESE INDUSTRIAL STANDARD SYMBOL"), (0x3005, "IDEOGRAPHIC ITERATION MARK"),
  (0x3006, "IDEOGRAPHIC CLOSING MARK"), (0x3007, "IDEOGRAPHIC NUMBER ZERO"),
  (0x3008, "LEFT ANGLE BRACKET"), (0x3009, "RIGHT ANGLE BRACKET"),
  (0x300A, "LEFT DOUBLE ANGLE BRACKET"), (0x300B, "RIGHT DOUBLE ANGLE BRACKET"),
  (0x300C, "LEFT CORNER BRACKET"), (0x300D, "RIGHT CORNER BRACKET"),
  (0x300E, "LEFT WHITE CORNER BRACKET"), (0x300F, "RIGHT WHITE CORNER BRACKET"),
  (0x3010, "LEFT BLACK LENTICULAR BRACKET"), (0x3011, "RIGHT BLACK LENTICULAR BRACKET"),
  (0xFEFF, "BOM"), (0xFEFF, "ZERO WIDTH NO-BREAK SPACE"), (0xFEFF, "ZWNBSP"),
  (0xFFFC, "OBJECT REPLACEMENT CHARACTER"), (0xFFFD, "REPLACEMENT CHARACTER"),
  (0x1F300, "CYCLONE"), (0x1F301, "FOGGY"), (0x1F302, "CLOSED UMBRELLA"),
  (0x1F303, "NIGHT WITH STARS"), (0x1F304, "SUNRISE OVER MOUNTAINS"), (0x1F305, "SUNRISE"),
  (0x1F306, "CITYSCAPE AT DUSK"), (0x1F307, "SUNSET OVER BUILDINGS"), (0x1F308, "RAINBOW"),
  (0x1F309, "BRIDGE AT NIGHT"), (0x1F30A, "WATER WAVE"), (0x1F30B, "VOLCANO"),
  (0x1F30C, "MILKY WAY"), (0x1F30D, "EARTH GLOBE EUROPE-AFRICA"),
  (0x1F30E, "EARTH GLOBE AMERICAS"), (0x1F30F, "EARTH GLOBE ASIA-AUSTRALIA"), (0x1F400, "RAT"),
  (0x1F401, "MOUSE"), (0x1F402, "OX"), (0x1F403, "WATER BUFFALO"), (0x1F404, "COW"),
  (0x1F405, "TIGER"), (0x1F406, "LEOPARD"), (0x1F407, "RABBIT"), (0x1F408, "CAT"),
  (0x1F409, "DRAGON"), (0x1F40A, "CROCODILE"), (0x1F40B, "WHALE"), (0x1F40C, "SNAIL"),
  (0x1F40D, "SNAKE"), (0x1F40E, "HORSE"), (0x1F40F, "RAM"), (0x1F410, "GOAT"), (0x1F411, "SHEEP"),
  (0x1F412, "MONKEY"), (0x1F413, "ROOSTER"), (0x1F414, "CHICKEN"), (0x1F415, "DOG"),
  (0x1F416, "PIG"), (0x1F417, "BOAR"), (0x1F418, "ELEPHANT"), (0x1F419, "OCTOPUS"),
  (0x1F41A, "SPIRAL SHELL"), (0x1F41B, "BUG"), (0x1F41C, "ANT"), (0x1F41D, "HONEYBEE"),
  (0x1F41E, "LADY BEETLE"), (0x1F41F, "FISH"), (0x1F440, "EYES"), (0x1F441, "EYE"),
  (0x1F442, "EAR"), (0x1F443, "NOSE"), (0x1F444, "MOUTH"), (0x1F445, "TONGUE"),
  (0x1F446, "WHITE UP POINTING BACKHAND INDEX"), (0x1F447, "WHITE DOWN POINTING BACKHAND INDEX"),
  (0x1F448, "WHITE LEFT POINTING BACKHAND INDEX"),
  (0x1F449, "WHITE RIGHT POINTING BACKHAND INDEX"), (0x1F44A, "FISTED HAND SIGN"),
  (0x1F44B, "WAVING HAND SIGN"), (0x1F44C, "OK HAND SIGN"), (0x1F44D, "THUMBS UP SIGN"),
  (0x1F44E, "THUMBS DOWN SIGN"), (0x1F44F, "CLAPPING HANDS SIGN"),
  (0x1F4A0, "DIAMOND SHAPE WITH A DOT INSIDE"), (0x1F4A1, "ELECTRIC LIGHT BULB"),
  (0x1F4A2, "ANGER SYMBOL"), (0x1F4A3, "BOMB"), (0x1F4A4, "SLEEPING SYMBOL"),
  (0x1F4A5, "COLLISION SYMBOL"), (0x1F4A6, "SPLASHING SWEAT SYMBOL"), (0x1F4A7, "DROPLET"),
  (0x1F4A8, "DASH SYMBOL"), (0x1F4A9, "PILE OF POO"), (0x1F4AA, "FLEXED BICEPS"),
  (0x1F4AB, "DIZZY SYMBOL"), (0x1F4AC, "SPEECH BALLOON"), (0x1F4AD, "THOUGHT BALLOON"),
  (0x1F4AE, "WHITE FLOWER"), (0x1F4AF, "HUNDRED POINTS SYMBOL"), (0x1F600, "GRINNING FACE"),
  (0x1F601, "GRINNING FACE WITH SMILING EYES"), (0x1F602, "FACE WITH TEARS OF JOY"),
  (0x1F603, "SMILING FACE WITH OPEN MOUTH"),
  (0x1F604, "SMILING FACE WITH OPEN MOUTH AND SMILING EYES"),
  (0x1F605, "SMILING FACE WITH OPEN MOUTH AND COLD SWEAT"),
  (0x1F606, "SMILING FACE WITH OPEN MOUTH AND TIGHTLY-CLOSED EYES"),
  (0x1F607, "SMILING FACE WITH HALO"), (0x1F608, "SMILING FACE WITH HORNS"),
  (0x1F609, "WINKING FACE"), (0x1F60A, "SMILING FACE WITH SMILING EYES"),
  (0x1F60B, "FACE SAVOURING DELICIOUS FOOD"), (0x1F60C, "RELIEVED FACE"),
  (0x1F60D, "SMILING FACE WITH HEART-SHAPED EYES"), (0x1F60E, "SMILING FACE WITH SUNGLASSES"),
  (0x1F60F, "SMIRKING FACE"), (0x1F610, "NEUTRAL FACE"), (0x1F611, "EXPRESSIONLESS FACE"),
  (0x1F612, "UNAMUSED FACE"), (0x1F613, "FACE WITH COLD SWEAT"), (0x1F614, "PENSIVE FACE"),
  (0x1F615, "CONFUSED FACE"), (0x1F616, "CONFOUNDED FACE"), (0x1F617, "KISSING FACE"),
  (0x1F618, "FACE THROWING A KISS"), (0x1F619, "KISSING FACE WITH SMILING EYES"),
  (0x1F61A, "KISSING FACE WITH CLOSED EYES"), (0x1F61B, "FACE WITH STUCK-OUT TONGUE"),
  (0x1F61C, "FACE WITH STUCK-OUT TONGUE AND WINKING EYE"),
  (0x1F61D, "FACE WITH STUCK-OUT TONGUE AND TIGHTLY-CLOSED EYES"), (0x1F61E, "DISAPPOINTED FACE"),
  (0x1F61F, "WORRIED FACE"), (0x1F620, "ANGRY FACE"), (0x1F621, "POUTING FACE"),
  (0x1F622, "CRYING FACE"), (0x1F623, "PERSEVERING FACE"), (0x1F624, "FACE WITH LOOK OF TRIUMPH"),
  (0x1F625, "DISAPPOINTED BUT RELIEVED FACE"), (0x1F626, "FROWNING FACE WITH OPEN MOUTH"),
  (0x1F627, "ANGUISHED FACE"), (0x1F628, "FEARFUL FACE"), (0x1F629, "WEARY FACE"),
  (0x1F62A, "SLEEPY FACE"), (0x1F62B, "TIRED FACE"), (0x1F62C, "GRIMACING FACE"),
  (0x1F62D, "LOUDLY CRYING FACE"), (0x1F62E, "FACE WITH OPEN MOUTH"), (0x1F62F, "HUSHED FACE"),
  (0x1F630, "FACE WITH OPEN MOUTH AND COLD SWEAT"), (0x1F631, "FACE SCREAMING IN FEAR"),
  (0x1F632, "ASTONISHED FACE"), (0x1F633, "FLUSHED FACE"), (0x1F634, "SLEEPING FACE"),
  (0x1F635, "DIZZY FACE"), (0x1F636, "FACE WITHOUT MOUTH"), (0x1F637, "FACE WITH MEDICAL MASK"),
  (0x1F638, "GRINNING CAT FACE WITH SMILING EYES"), (0x1F639, "CAT FACE WITH TEARS OF JOY"),
  (0x1F63A, "SMILING CAT FACE WITH OPEN MOUTH"),
  (0x1F63B, "SMILING CAT FACE WITH HEART-SHAPED EYES"), (0x1F63C, "CAT FACE WITH WRY SMILE"),
  (0x1F63D, "KISSING CAT FACE WITH CLOSED EYES"), (0x1F63E, "POUTING CAT FACE"),
  (0x1F63F, "CRYING CAT FACE"), (0x1F640, "WEARY CAT FACE"), (0x1F641, "SLIGHTLY FROWNING FACE"),
  (0x1F642, "SLIGHTLY SMILING FACE"), (0x1F643, "UPSIDE-DOWN FACE"),
  (0x1F644, "FACE WITH ROLLING EYES"), (0x1F645, "FACE WITH NO GOOD GESTURE"),
  (0x1F646, "FACE WITH OK GESTURE"), (0x1F647, "PERSON BOWING DEEPLY"),
  (0x1F648, "SEE-NO-EVIL MONKEY"), (0x1F649, "HEAR-NO-EVIL MONKEY"),
  (0x1F64A, "SPEAK-NO-EVIL MONKEY"), (0x1F64B, "HAPPY PERSON RAISING ONE HAND"),
  (0x1F64C, "PERSON RAISING BOTH HANDS IN CELEBRATION"), (0x1F64D, "PERSON FROWNING"),
  (0x1F64E, "PERSON WITH POUTING FACE"), (0x1F64F, "PERSON WITH FOLDED HANDS"),
  (0x1F680, "ROCKET"), (0x1F681, "HELICOPTER"), (0x1F682, "STEAM LOCOMOTIVE"),
  (0x1F683, "RAILWAY CAR"), (0x1F684, "HIGH-SPEED TRAIN"),
  (0x1F685, "HIGH-SPEED TRAIN WITH BULLET NOSE"), (0x1F686, "TRAIN"), (0x1F687, "METRO"),
  (0x1F688, "LIGHT RAIL"), (0x1F689, "STATION"), (0x1F68A, "TRAM"), (0x1F68B, "TRAM CAR"),
  (0x1F68C, "BUS"), (0x1F68D, "ONCOMING BUS"), (0x1F68E, "TROLLEYBUS"), (0x1F68F, "BUS STOP")]

def namedCharacter? (name : String) : Option Char :=
  let upper := name.map Char.toUpper
  (characterNames.find? (·.2 == upper)).map fun row => Char.ofNat row.1

end SchemaJoins.Text
