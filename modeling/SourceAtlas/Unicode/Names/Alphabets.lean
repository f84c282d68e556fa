import SourceAtlas.Unicode.Names.Row

/-!
Names of the letters, digits and marks of alphabets and syllabaries, up to U+1FFF.
-/

namespace SourceAtlas.Unicode

/-- The names from U+0020 on. -/
def names0020 : List NameRow := [
  (0x0020, "", "SPACE;EXCLAMATION MARK;QUOTATION MARK;NUMBER SIGN;DOLLAR SIGN;PERCENT SIGN;AMPERSAND;APOSTROPHE"),
  (0x0028, "", "LEFT PARENTHESIS;RIGHT PARENTHESIS;ASTERISK;PLUS SIGN;COMMA;HYPHEN-MINUS;FULL STOP;SOLIDUS"),
  (0x0030, "DIGIT ", "ZERO;ONE;TWO;THREE;FOUR;FIVE;SIX;SEVEN;EIGHT;NINE"),
  (0x003A, "", "COLON;SEMICOLON;LESS-THAN SIGN;EQUALS SIGN;GREATER-THAN SIGN;QUESTION MARK;COMMERCIAL AT"),
  (0x0041, "LATIN CAPITAL LETTER ", "A;B;C;D;E;F;G;H;I;J;K;L;M;N;O;P;Q;R;S;T;U;V;W;X;Y;Z"),
  (0x005B, "", "LEFT SQUARE BRACKET;REVERSE SOLIDUS;RIGHT SQUARE BRACKET;CIRCUMFLEX ACCENT;LOW LINE;GRAVE ACCENT"),
  (0x0061, "LATIN SMALL LETTER ", "A;B;C;D;E;F;G;H;I;J;K;L;M;N;O;P;Q;R;S;T;U;V;W;X;Y;Z"),
  (0x007B, "", "LEFT CURLY BRACKET;VERTICAL LINE;RIGHT CURLY BRACKET;TILDE"),
  (0x00A0, "", "NO-BREAK SPACE;INVERTED EXCLAMATION MARK;CENT SIGN;POUND SIGN;CURRENCY SIGN;YEN SIGN;BROKEN BAR"),
  (0x00A7, "", "SECTION SIGN;DIAERESIS;COPYRIGHT SIGN;FEMININE ORDINAL INDICATOR"),
  (0x00AB, "", "LEFT-POINTING DOUBLE ANGLE QUOTATION MARK;NOT SIGN;SOFT HYPHEN;REGISTERED SIGN;MACRON;DEGREE SIGN"),
  (0x00B1, "", "PLUS-MINUS SIGN;SUPERSCRIPT TWO;SUPERSCRIPT THREE;ACUTE ACCENT;MICRO SIGN;PILCROW SIGN;MIDDLE DOT"),
  (0x00B8, "", "CEDILLA;SUPERSCRIPT ONE;MASCULINE ORDINAL INDICATOR;RIGHT-POINTING DOUBLE ANGLE QUOTATION MARK"),
  (0x00BC, "VULGAR FRACTION ", "ONE QUARTER;ONE HALF;THREE QUARTERS"), (0x00BF, "INVERTED QUESTION ", "MARK"),
  (0x00C0, "LATIN CAPITAL LETTER A WITH ", "GRAVE;ACUTE;CIRCUMFLEX;TILDE;DIAERESIS;RING ABOVE"),
  (0x00C6, "LATIN CAPITAL LETTER ", "AE;C WITH CEDILLA;E WITH GRAVE;E WITH ACUTE;E WITH CIRCUMFLEX;E WITH DIAERESIS"),
  (0x00CC, "LATIN CAPITAL LETTER ", "I WITH GRAVE;I WITH ACUTE;I WITH CIRCUMFLEX;I WITH DIAERESIS;ETH;N WITH TILDE"),
  (0x00D2, "LATIN CAPITAL LETTER O WITH ", "GRAVE;ACUTE;CIRCUMFLEX;TILDE;DIAERESIS"),
  (0x00D7, "", "MULTIPLICATION SIGN;LATIN CAPITAL LETTER O WITH STROKE"),
  (0x00D9, "LATIN CAPITAL LETTER U WITH ", "GRAVE;ACUTE;CIRCUMFLEX;DIAERESIS"),
  (0x00DD, "LATIN ", "CAPITAL LETTER Y WITH ACUTE;CAPITAL LETTER THORN;SMALL LETTER SHARP S"),
  (0x00E0, "LATIN SMALL LETTER A WITH ", "GRAVE;ACUTE;CIRCUMFLEX;TILDE;DIAERESIS;RING ABOVE"),
  (0x00E6, "LATIN SMALL LETTER ", "AE;C WITH CEDILLA;E WITH GRAVE;E WITH ACUTE;E WITH CIRCUMFLEX;E WITH DIAERESIS"),
  (0x00EC, "LATIN SMALL LETTER ", "I WITH GRAVE;I WITH ACUTE;I WITH CIRCUMFLEX;I WITH DIAERESIS;ETH;N WITH TILDE"),
  (0x00F2, "LATIN SMALL LETTER O WITH ", "GRAVE;ACUTE;CIRCUMFLEX;TILDE;DIAERESIS"),
  (0x00F7, "", "DIVISION SIGN;LATIN SMALL LETTER O WITH STROKE"),
  (0x00F9, "LATIN SMALL LETTER U WITH ", "GRAVE;ACUTE;CIRCUMFLEX;DIAERESIS"),
  (0x00FD, "LATIN SMALL LETTER ", "Y WITH ACUTE;THORN;Y WITH DIAERESIS"),
  (0x0100, "LATIN ", "CAPITAL LETTER A WITH MACRON;SMALL LETTER A WITH MACRON;CAPITAL LETTER A WITH BREVE"),
  (0x0103, "LATIN ", "SMALL LETTER A WITH BREVE;CAPITAL LETTER A WITH OGONEK;SMALL LETTER A WITH OGONEK"),
  (0x0106, "LATIN ", "CAPITAL LETTER C WITH ACUTE;SMALL LETTER C WITH ACUTE;CAPITAL LETTER C WITH CIRCUMFLEX"),
  (0x0109, "LATIN ", "SMALL LETTER C WITH CIRCUMFLEX;CAPITAL LETTER C WITH DOT ABOVE;SMALL LETTER C WITH DOT ABOVE"),
  (0x010C, "LATIN ", "CAPITAL LETTER C WITH CARON;SMALL LETTER C WITH CARON;CAPITAL LETTER D WITH CARON"),
  (0x010F, "LATIN ", "SMALL LETTER D WITH CARON;CAPITAL LETTER D WITH STROKE;SMALL LETTER D WITH STROKE"),
  (0x0112, "LATIN ", "CAPITAL LETTER E WITH MACRON;SMALL LETTER E WITH MACRON;CAPITAL LETTER E WITH BREVE"),
  (0x0115, "LATIN ", "SMALL LETTER E WITH BREVE;CAPITAL LETTER E WITH DOT ABOVE;SMALL LETTER E WITH DOT ABOVE"),
  (0x0118, "LATIN ", "CAPITAL LETTER E WITH OGONEK;SMALL LETTER E WITH OGONEK;CAPITAL LETTER E WITH CARON"),
  (0x011B, "LATIN ", "SMALL LETTER E WITH CARON;CAPITAL LETTER G WITH CIRCUMFLEX;SMALL LETTER G WITH CIRCUMFLEX"),
  (0x011E, "LATIN ", "CAPITAL LETTER G WITH BREVE;SMALL LETTER G WITH BREVE;CAPITAL LETTER G WITH DOT ABOVE"),
  (0x0121, "LATIN ", "SMALL LETTER G WITH DOT ABOVE;CAPITAL LETTER G WITH CEDILLA;SMALL LETTER G WITH CEDILLA"),
  (0x0124, "LATIN ", "CAPITAL LETTER H WITH CIRCUMFLEX;SMALL LETTER H WITH CIRCUMFLEX;CAPITAL LETTER H WITH STROKE"),
  (0x0127, "LATIN ", "SMALL LETTER H WITH STROKE;CAPITAL LETTER I WITH TILDE;SMALL LETTER I WITH TILDE"),
  (0x012A, "LATIN ", "CAPITAL LETTER I WITH MACRON;SMALL LETTER I WITH MACRON;CAPITAL LETTER I WITH BREVE"),
  (0x012D, "LATIN ", "SMALL LETTER I WITH BREVE;CAPITAL LETTER I WITH OGONEK;SMALL LETTER I WITH OGONEK"),
  (0x0130, "LATIN ", "CAPITAL LETTER I WITH DOT ABOVE;SMALL LETTER DOTLESS I;CAPITAL LIGATURE IJ;SMALL LIGATURE IJ"),
  (0x0134, "LATIN ", "CAPITAL LETTER J WITH CIRCUMFLEX;SMALL LETTER J WITH CIRCUMFLEX;CAPITAL LETTER K WITH CEDILLA"),
  (0x0137, "LATIN SMALL LETTER ", "K WITH CEDILLA;KRA"),
  (0x0139, "LATIN ", "CAPITAL LETTER L WITH ACUTE;SMALL LETTER L WITH ACUTE;CAPITAL LETTER L WITH CEDILLA"),
  (0x013C, "LATIN ", "SMALL LETTER L WITH CEDILLA;CAPITAL LETTER L WITH CARON;SMALL LETTER L WITH CARON"),
  (0x013F, "LATIN ", "CAPITAL LETTER L WITH MIDDLE DOT;SMALL LETTER L WITH MIDDLE DOT;CAPITAL LETTER L WITH STROKE"),
  (0x0142, "LATIN ", "SMALL LETTER L WITH STROKE;CAPITAL LETTER N WITH ACUTE;SMALL LETTER N WITH ACUTE"),
  (0x0145, "LATIN ", "CAPITAL LETTER N WITH CEDILLA;SMALL LETTER N WITH CEDILLA;CAPITAL LETTER N WITH CARON"),
  (0x0148, "LATIN SMALL LETTER N ", "WITH CARON;PRECEDED BY APOSTROPHE"),
  (0x014A, "LATIN ", "CAPITAL LETTER ENG;SMALL LETTER ENG;CAPITAL LETTER O WITH MACRON;SMALL LETTER O WITH MACRON"),
  (0x014E, "LATIN ", "CAPITAL LETTER O WITH BREVE;SMALL LETTER O WITH BREVE;CAPITAL LETTER O WITH DOUBLE ACUTE"),
  (0x0151, "LATIN ", "SMALL LETTER O WITH DOUBLE ACUTE;CAPITAL LIGATURE OE;SMALL LIGATURE OE"),
  (0x0154, "LATIN ", "CAPITAL LETTER R WITH ACUTE;SMALL LETTER R WITH ACUTE;CAPITAL LETTER R WITH CEDILLA"),
  (0x0157, "LATIN ", "SMALL LETTER R WITH CEDILLA;CAPITAL LETTER R WITH CARON;SMALL LETTER R WITH CARON"),
  (0x015A, "LATIN ", "CAPITAL LETTER S WITH ACUTE;SMALL LETTER S WITH ACUTE;CAPITAL LETTER S WITH CIRCUMFLEX"),
  (0x015D, "LATIN ", "SMALL LETTER S WITH CIRCUMFLEX;CAPITAL LETTER S WITH CEDILLA;SMALL LETTER S WITH CEDILLA"),
  (0x0160, "LATIN ", "CAPITAL LETTER S WITH CARON;SMALL LETTER S WITH CARON;CAPITAL LETTER T WITH CEDILLA"),
  (0x0163, "LATIN ", "SMALL LETTER T WITH CEDILLA;CAPITAL LETTER T WITH CARON;SMALL LETTER T WITH CARON"),
  (0x0166, "LATIN ", "CAPITAL LETTER T WITH STROKE;SMALL LETTER T WITH STROKE;CAPITAL LETTER U WITH TILDE"),
  (0x0169, "LATIN ", "SMALL LETTER U WITH TILDE;CAPITAL LETTER U WITH MACRON;SMALL LETTER U WITH MACRON"),
  (0x016C, "LATIN ", "CAPITAL LETTER U WITH BREVE;SMALL LETTER U WITH BREVE;CAPITAL LETTER U WITH RING ABOVE"),
  (0x016F, "LATIN ", "SMALL LETTER U WITH RING ABOVE;CAPITAL LETTER U WITH DOUBLE ACUTE"),
  (0x0171, "LATIN ", "SMALL LETTER U WITH DOUBLE ACUTE;CAPITAL LETTER U WITH OGONEK;SMALL LETTER U WITH OGONEK"),
  (0x0174, "LATIN ", "CAPITAL LETTER W WITH CIRCUMFLEX;SMALL LETTER W WITH CIRCUMFLEX"),
  (0x0176, "LATIN ", "CAPITAL LETTER Y WITH CIRCUMFLEX;SMALL LETTER Y WITH CIRCUMFLEX"),
  (0x0178, "LATIN ", "CAPITAL LETTER Y WITH DIAERESIS;CAPITAL LETTER Z WITH ACUTE;SMALL LETTER Z WITH ACUTE"),
  (0x017B, "LATIN ", "CAPITAL LETTER Z WITH DOT ABOVE;SMALL LETTER Z WITH DOT ABOVE;CAPITAL LETTER Z WITH CARON"),
  (0x017E, "LATIN SMALL LETTER ", "Z WITH CARON;LONG S;B WITH STROKE"),
  (0x0181, "LATIN CAPITAL LETTER B WITH ", "HOOK;TOPBAR"),
  (0x0183, "LATIN ", "SMALL LETTER B WITH TOPBAR;CAPITAL LETTER TONE SIX;SMALL LETTER TONE SIX"),
  (0x0186, "LATIN ", "CAPITAL LETTER OPEN O;CAPITAL LETTER C WITH HOOK;SMALL LETTER C WITH HOOK"),
  (0x0189, "LATIN CAPITAL LETTER ", "AFRICAN D;D WITH HOOK;D WITH TOPBAR"),
  (0x018C, "LATIN SMALL LETTER ", "D WITH TOPBAR;TURNED DELTA"),
  (0x018E, "LATIN CAPITAL LETTER ", "REVERSED E;SCHWA;OPEN E;F WITH HOOK"),
  (0x0192, "LATIN ", "SMALL LETTER F WITH HOOK;CAPITAL LETTER G WITH HOOK;CAPITAL LETTER GAMMA;SMALL LETTER HV"),
  (0x0196, "LATIN CAPITAL LETTER ", "IOTA;I WITH STROKE;K WITH HOOK"),
  (0x0199, "LATIN SMALL LETTER ", "K WITH HOOK;L WITH BAR;LAMBDA WITH STROKE"),
  (0x019C, "LATIN ", "CAPITAL LETTER TURNED M;CAPITAL LETTER N WITH LEFT HOOK;SMALL LETTER N WITH LONG RIGHT LEG"),
  (0x019F, "LATIN CAPITAL LETTER O WITH ", "MIDDLE TILDE;HORN"),
  (0x01A1, "LATIN ", "SMALL LETTER O WITH HORN;CAPITAL LETTER OI;SMALL LETTER OI;CAPITAL LETTER P WITH HOOK"),
  (0x01A5, "LATIN ", "SMALL LETTER P WITH HOOK;LETTER YR;CAPITAL LETTER TONE TWO;SMALL LETTER TONE TWO"),
  (0x01A9, "LATIN ", "CAPITAL LETTER ESH;LETTER REVERSED ESH LOOP;SMALL LETTER T WITH PALATAL HOOK"),
  (0x01AC, "LATIN ", "CAPITAL LETTER T WITH HOOK;SMALL LETTER T WITH HOOK;CAPITAL LETTER T WITH RETROFLEX HOOK"),
  (0x01AF, "LATIN ", "CAPITAL LETTER U WITH HORN;SMALL LETTER U WITH HORN"),
  (0x01B1, "LATIN CAPITAL LETTER ", "UPSILON;V WITH HOOK;Y WITH HOOK"),
  (0x01B4, "LATIN ", "SMALL LETTER Y WITH HOOK;CAPITAL LETTER Z WITH STROKE;SMALL LETTER Z WITH STROKE"),
  (0x01B7, "LATIN CAPITAL LETTER ", "EZH;EZH REVERSED"), (0x01B9, "LATIN SMALL LETTER EZH ", "REVERSED;WITH TAIL"),
  (0x01BB, "LATIN ", "LETTER TWO WITH STROKE;CAPITAL LETTER TONE FIVE;SMALL LETTER TONE FIVE"),
  (0x01BE, "LATIN LETTER ", "INVERTED GLOTTAL STOP WITH STROKE;WYNN;DENTAL CLICK;LATERAL CLICK;ALVEOLAR CLICK"),
  (0x01C3, "LATIN ", "LETTER RETROFLEX CLICK;CAPITAL LETTER DZ WITH CARON"),
  (0x01C5, "LATIN ", "CAPITAL LETTER D WITH SMALL LETTER Z WITH CARON;SMALL LETTER DZ WITH CARON;CAPITAL LETTER LJ"),
  (0x01C8, "LATIN ", "CAPITAL LETTER L WITH SMALL LETTER J;SMALL LETTER LJ;CAPITAL LETTER NJ"),
  (0x01CB, "LATIN ", "CAPITAL LETTER N WITH SMALL LETTER J;SMALL LETTER NJ;CAPITAL LETTER A WITH CARON"),
  (0x01CE, "LATIN ", "SMALL LETTER A WITH CARON;CAPITAL LETTER I WITH CARON;SMALL LETTER I WITH CARON")]

/-- The names from U+01D1 on. -/
def names01D1 : List NameRow := [
  (0x01D1, "LATIN ", "CAPITAL LETTER O WITH CARON;SMALL LETTER O WITH CARON;CAPITAL LETTER U WITH CARON"),
  (0x01D4, "LATIN ", "SMALL LETTER U WITH CARON;CAPITAL LETTER U WITH DIAERESIS AND MACRON"),
  (0x01D6, "LATIN ", "SMALL LETTER U WITH DIAERESIS AND MACRON;CAPITAL LETTER U WITH DIAERESIS AND ACUTE"),
  (0x01D8, "LATIN ", "SMALL LETTER U WITH DIAERESIS AND ACUTE;CAPITAL LETTER U WITH DIAERESIS AND CARON"),
  (0x01DA, "LATIN ", "SMALL LETTER U WITH DIAERESIS AND CARON;CAPITAL LETTER U WITH DIAERESIS AND GRAVE"),
  (0x01DC, "LATIN SMALL LETTER ", "U WITH DIAERESIS AND GRAVE;TURNED E"),
  (0x01DE, "LATIN ", "CAPITAL LETTER A WITH DIAERESIS AND MACRON;SMALL LETTER A WITH DIAERESIS AND MACRON"),
  (0x01E0, "LATIN ", "CAPITAL LETTER A WITH DOT ABOVE AND MACRON;SMALL LETTER A WITH DOT ABOVE AND MACRON"),
  (0x01E2, "LATIN ", "CAPITAL LETTER AE WITH MACRON;SMALL LETTER AE WITH MACRON;CAPITAL LETTER G WITH STROKE"),
  (0x01E5, "LATIN ", "SMALL LETTER G WITH STROKE;CAPITAL LETTER G WITH CARON;SMALL LETTER G WITH CARON"),
  (0x01E8, "LATIN ", "CAPITAL LETTER K WITH CARON;SMALL LETTER K WITH CARON;CAPITAL LETTER O WITH OGONEK"),
  (0x01EB, "LATIN ", "SMALL LETTER O WITH OGONEK;CAPITAL LETTER O WITH OGONEK AND MACRON"),
  (0x01ED, "LATIN ", "SMALL LETTER O WITH OGONEK AND MACRON;CAPITAL LETTER EZH WITH CARON"),
  (0x01EF, "LATIN SMALL LETTER ", "EZH WITH CARON;J WITH CARON"),
  (0x01F1, "LATIN CAPITAL LETTER ", "DZ;D WITH SMALL LETTER Z"),
  (0x01F3, "LATIN ", "SMALL LETTER DZ;CAPITAL LETTER G WITH ACUTE;SMALL LETTER G WITH ACUTE"),
  (0x01F6, "LATIN CAPITAL LETTER ", "HWAIR;WYNN;N WITH GRAVE"),
  (0x01F9, "LATIN ", "SMALL LETTER N WITH GRAVE;CAPITAL LETTER A WITH RING ABOVE AND ACUTE"),
  (0x01FB, "LATIN ", "SMALL LETTER A WITH RING ABOVE AND ACUTE;CAPITAL LETTER AE WITH ACUTE"),
  (0x01FD, "LATIN ", "SMALL LETTER AE WITH ACUTE;CAPITAL LETTER O WITH STROKE AND ACUTE"),
  (0x01FF, "LATIN ", "SMALL LETTER O WITH STROKE AND ACUTE;CAPITAL LETTER A WITH DOUBLE GRAVE"),
  (0x0201, "LATIN ", "SMALL LETTER A WITH DOUBLE GRAVE;CAPITAL LETTER A WITH INVERTED BREVE"),
  (0x0203, "LATIN ", "SMALL LETTER A WITH INVERTED BREVE;CAPITAL LETTER E WITH DOUBLE GRAVE"),
  (0x0205, "LATIN ", "SMALL LETTER E WITH DOUBLE GRAVE;CAPITAL LETTER E WITH INVERTED BREVE"),
  (0x0207, "LATIN ", "SMALL LETTER E WITH INVERTED BREVE;CAPITAL LETTER I WITH DOUBLE GRAVE"),
  (0x0209, "LATIN ", "SMALL LETTER I WITH DOUBLE GRAVE;CAPITAL LETTER I WITH INVERTED BREVE"),
  (0x020B, "LATIN ", "SMALL LETTER I WITH INVERTED BREVE;CAPITAL LETTER O WITH DOUBLE GRAVE"),
  (0x020D, "LATIN ", "SMALL LETTER O WITH DOUBLE GRAVE;CAPITAL LETTER O WITH INVERTED BREVE"),
  (0x020F, "LATIN ", "SMALL LETTER O WITH INVERTED BREVE;CAPITAL LETTER R WITH DOUBLE GRAVE"),
  (0x0211, "LATIN ", "SMALL LETTER R WITH DOUBLE GRAVE;CAPITAL LETTER R WITH INVERTED BREVE"),
  (0x0213, "LATIN ", "SMALL LETTER R WITH INVERTED BREVE;CAPITAL LETTER U WITH DOUBLE GRAVE"),
  (0x0215, "LATIN ", "SMALL LETTER U WITH DOUBLE GRAVE;CAPITAL LETTER U WITH INVERTED BREVE"),
  (0x0217, "LATIN ", "SMALL LETTER U WITH INVERTED BREVE;CAPITAL LETTER S WITH COMMA BELOW"),
  (0x0219, "LATIN ", "SMALL LETTER S WITH COMMA BELOW;CAPITAL LETTER T WITH COMMA BELOW"),
  (0x021B, "LATIN ", "SMALL LETTER T WITH COMMA BELOW;CAPITAL LETTER YOGH;SMALL LETTER YOGH"),
  (0x021E, "LATIN ", "CAPITAL LETTER H WITH CARON;SMALL LETTER H WITH CARON;CAPITAL LETTER N WITH LONG RIGHT LEG"),
  (0x0221, "LATIN ", "SMALL LETTER D WITH CURL;CAPITAL LETTER OU;SMALL LETTER OU;CAPITAL LETTER Z WITH HOOK"),
  (0x0225, "LATIN ", "SMALL LETTER Z WITH HOOK;CAPITAL LETTER A WITH DOT ABOVE;SMALL LETTER A WITH DOT ABOVE"),
  (0x0228, "LATIN ", "CAPITAL LETTER E WITH CEDILLA;SMALL LETTER E WITH CEDILLA"),
  (0x022A, "LATIN ", "CAPITAL LETTER O WITH DIAERESIS AND MACRON;SMALL LETTER O WITH DIAERESIS AND MACRON"),
  (0x022C, "LATIN ", "CAPITAL LETTER O WITH TILDE AND MACRON;SMALL LETTER O WITH TILDE AND MACRON"),
  (0x022E, "LATIN ", "CAPITAL LETTER O WITH DOT ABOVE;SMALL LETTER O WITH DOT ABOVE"),
  (0x0230, "LATIN ", "CAPITAL LETTER O WITH DOT ABOVE AND MACRON;SMALL LETTER O WITH DOT ABOVE AND MACRON"),
  (0x0232, "LATIN ", "CAPITAL LETTER Y WITH MACRON;SMALL LETTER Y WITH MACRON"),
  (0x0234, "LATIN SMALL LETTER ", "L WITH CURL;N WITH CURL;T WITH CURL;DOTLESS J;DB DIGRAPH;QP DIGRAPH"),
  (0x023A, "LATIN ", "CAPITAL LETTER A WITH STROKE;CAPITAL LETTER C WITH STROKE;SMALL LETTER C WITH STROKE"),
  (0x023D, "LATIN CAPITAL LETTER ", "L WITH BAR;T WITH DIAGONAL STROKE"),
  (0x023F, "LATIN SMALL LETTER ", "S WITH SWASH TAIL;Z WITH SWASH TAIL"),
  (0x0241, "LATIN ", "CAPITAL LETTER GLOTTAL STOP;SMALL LETTER GLOTTAL STOP"),
  (0x0243, "LATIN CAPITAL LETTER ", "B WITH STROKE;U BAR;TURNED V;E WITH STROKE"),
  (0x0247, "LATIN ", "SMALL LETTER E WITH STROKE;CAPITAL LETTER J WITH STROKE;SMALL LETTER J WITH STROKE"),
  (0x024A, "LATIN ", "CAPITAL LETTER SMALL Q WITH HOOK TAIL;SMALL LETTER Q WITH HOOK TAIL"),
  (0x024C, "LATIN ", "CAPITAL LETTER R WITH STROKE;SMALL LETTER R WITH STROKE;CAPITAL LETTER Y WITH STROKE"),
  (0x024F, "LATIN SMALL LETTER ", "Y WITH STROKE;TURNED A;ALPHA;TURNED ALPHA;B WITH HOOK;OPEN O;C WITH CURL"),
  (0x0256, "LATIN SMALL LETTER ", "D WITH TAIL;D WITH HOOK;REVERSED E;SCHWA;SCHWA WITH HOOK;OPEN E"),
  (0x025C, "LATIN SMALL LETTER REVERSED OPEN ", "E;E WITH HOOK"),
  (0x025E, "LATIN SMALL LETTER ", "CLOSED REVERSED OPEN E;DOTLESS J WITH STROKE;G WITH HOOK;SCRIPT G"),
  (0x0262, "LATIN LETTER SMALL CAPITAL ", "G"),
  (0x0263, "LATIN SMALL LETTER ", "GAMMA;RAMS HORN;TURNED H;H WITH HOOK;HENG WITH HOOK;I WITH STROKE;IOTA"),
  (0x026A, "LATIN LETTER SMALL CAPITAL ", "I"),
  (0x026B, "LATIN SMALL LETTER ", "L WITH MIDDLE TILDE;L WITH BELT;L WITH RETROFLEX HOOK;LEZH;TURNED M"),
  (0x0270, "LATIN SMALL LETTER ", "TURNED M WITH LONG LEG;M WITH HOOK;N WITH LEFT HOOK;N WITH RETROFLEX HOOK"),
  (0x0274, "LATIN ", "LETTER SMALL CAPITAL N;SMALL LETTER BARRED O;LETTER SMALL CAPITAL OE"),
  (0x0277, "LATIN SMALL LETTER ", "CLOSED OMEGA;PHI;TURNED R;TURNED R WITH LONG LEG;TURNED R WITH HOOK"),
  (0x027C, "LATIN SMALL LETTER ", "R WITH LONG LEG;R WITH TAIL;R WITH FISHHOOK;REVERSED R WITH FISHHOOK"),
  (0x0280, "LATIN LETTER SMALL CAPITAL ", "R;INVERTED R"),
  (0x0282, "LATIN SMALL LETTER ", "S WITH HOOK;ESH;DOTLESS J WITH STROKE AND HOOK;SQUAT REVERSED ESH;ESH WITH CURL"),
  (0x0287, "LATIN SMALL LETTER ", "TURNED T;T WITH RETROFLEX HOOK;U BAR;UPSILON;V WITH HOOK;TURNED V;TURNED W"),
  (0x028E, "LATIN ", "SMALL LETTER TURNED Y;LETTER SMALL CAPITAL Y"),
  (0x0290, "LATIN SMALL LETTER ", "Z WITH RETROFLEX HOOK;Z WITH CURL;EZH;EZH WITH CURL"),
  (0x0294, "LATIN LETTER ", "GLOTTAL STOP;PHARYNGEAL VOICED FRICATIVE;INVERTED GLOTTAL STOP;STRETCHED C"),
  (0x0298, "LATIN ", "LETTER BILABIAL CLICK;LETTER SMALL CAPITAL B;SMALL LETTER CLOSED OPEN E"),
  (0x029B, "LATIN LETTER SMALL CAPITAL ", "G WITH HOOK;H"),
  (0x029D, "LATIN SMALL LETTER ", "J WITH CROSSED-TAIL;TURNED K"),
  (0x029F, "LATIN ", "LETTER SMALL CAPITAL L;SMALL LETTER Q WITH HOOK"),
  (0x02A1, "LATIN LETTER ", "GLOTTAL STOP WITH STROKE;REVERSED GLOTTAL STOP WITH STROKE"),
  (0x02A3, "LATIN SMALL LETTER ", "DZ DIGRAPH;DEZH DIGRAPH;DZ DIGRAPH WITH CURL;TS DIGRAPH;TESH DIGRAPH"),
  (0x02A8, "LATIN SMALL LETTER ", "TC DIGRAPH WITH CURL;FENG DIGRAPH;LS DIGRAPH;LZ DIGRAPH"),
  (0x02AC, "LATIN LETTER ", "BILABIAL PERCUSSIVE;BIDENTAL PERCUSSIVE"),
  (0x02AE, "LATIN SMALL LETTER TURNED H WITH ", "FISHHOOK;FISHHOOK AND TAIL"),
  (0x02B0, "MODIFIER LETTER SMALL ", "H;H WITH HOOK;J;R;TURNED R;TURNED R WITH HOOK;CAPITAL INVERTED R;W;Y"),
  (0x02B9, "MODIFIER LETTER ", "PRIME;DOUBLE PRIME;TURNED COMMA;APOSTROPHE;REVERSED COMMA;RIGHT HALF RING"),
  (0x02BF, "MODIFIER LETTER ", "LEFT HALF RING;GLOTTAL STOP;REVERSED GLOTTAL STOP;LEFT ARROWHEAD;RIGHT ARROWHEAD"),
  (0x02C4, "MODIFIER LETTER ", "UP ARROWHEAD;DOWN ARROWHEAD;CIRCUMFLEX ACCENT"),
  (0x02C7, "", "CARON;MODIFIER LETTER VERTICAL LINE"),
  (0x02C9, "MODIFIER LETTER ", "MACRON;ACUTE ACCENT;GRAVE ACCENT;LOW VERTICAL LINE;LOW MACRON;LOW GRAVE ACCENT"),
  (0x02CF, "MODIFIER LETTER ", "LOW ACUTE ACCENT;TRIANGULAR COLON;HALF TRIANGULAR COLON;CENTRED RIGHT HALF RING"),
  (0x02D3, "MODIFIER LETTER ", "CENTRED LEFT HALF RING;UP TACK;DOWN TACK;PLUS SIGN;MINUS SIGN"),
  (0x02D8, "", "BREVE;DOT ABOVE;RING ABOVE;OGONEK;SMALL TILDE;DOUBLE ACUTE ACCENT"),
  (0x02DE, "MODIFIER LETTER ", "RHOTIC HOOK;CROSS ACCENT;SMALL GAMMA;SMALL L;SMALL S;SMALL X"),
  (0x02E4, "MODIFIER LETTER ", "SMALL REVERSED GLOTTAL STOP;EXTRA-HIGH TONE BAR;HIGH TONE BAR;MID TONE BAR"),
  (0x02E8, "MODIFIER LETTER ", "LOW TONE BAR;EXTRA-LOW TONE BAR;YIN DEPARTING TONE MARK;YANG DEPARTING TONE MARK"),
  (0x02EC, "MODIFIER LETTER ", "VOICING;UNASPIRATED;DOUBLE APOSTROPHE"),
  (0x02EF, "MODIFIER LETTER LOW ", "DOWN ARROWHEAD;UP ARROWHEAD;LEFT ARROWHEAD;RIGHT ARROWHEAD;RING"),
  (0x02F4, "MODIFIER LETTER MIDDLE ", "GRAVE ACCENT;DOUBLE GRAVE ACCENT;DOUBLE ACUTE ACCENT"),
  (0x02F7, "MODIFIER LETTER ", "LOW TILDE;RAISED COLON;BEGIN HIGH TONE;END HIGH TONE;BEGIN LOW TONE;END LOW TONE"),
  (0x02FD, "MODIFIER LETTER ", "SHELF;OPEN SHELF;LOW LEFT ARROW"),
  (0x0300, "COMBINING ", "GRAVE ACCENT;ACUTE ACCENT;CIRCUMFLEX ACCENT;TILDE;MACRON;OVERLINE;BREVE;DOT ABOVE"),
  (0x0308, "COMBINING ", "DIAERESIS;HOOK ABOVE;RING ABOVE;DOUBLE ACUTE ACCENT;CARON;VERTICAL LINE ABOVE"),
  (0x030E, "COMBINING DOUBLE ", "VERTICAL LINE ABOVE;GRAVE ACCENT")]

/-- The names from U+0310 on. -/
def names0310 : List NameRow := [
  (0x0310, "COMBINING ", "CANDRABINDU;INVERTED BREVE;TURNED COMMA ABOVE;COMMA ABOVE;REVERSED COMMA ABOVE"),
  (0x0315, "COMBINING ", "COMMA ABOVE RIGHT;GRAVE ACCENT BELOW;ACUTE ACCENT BELOW;LEFT TACK BELOW;RIGHT TACK BELOW"),
  (0x031A, "COMBINING ", "LEFT ANGLE ABOVE;HORN;LEFT HALF RING BELOW;UP TACK BELOW;DOWN TACK BELOW;PLUS SIGN BELOW"),
  (0x0320, "COMBINING ", "MINUS SIGN BELOW;PALATALIZED HOOK BELOW;RETROFLEX HOOK BELOW;DOT BELOW;DIAERESIS BELOW"),
  (0x0325, "COMBINING ", "RING BELOW;COMMA BELOW;CEDILLA;OGONEK;VERTICAL LINE BELOW;BRIDGE BELOW"),
  (0x032B, "COMBINING ", "INVERTED DOUBLE ARCH BELOW;CARON BELOW;CIRCUMFLEX ACCENT BELOW;BREVE BELOW"),
  (0x032F, "COMBINING ", "INVERTED BREVE BELOW;TILDE BELOW;MACRON BELOW;LOW LINE;DOUBLE LOW LINE;TILDE OVERLAY"),
  (0x0335, "COMBINING ", "SHORT STROKE OVERLAY;LONG STROKE OVERLAY;SHORT SOLIDUS OVERLAY;LONG SOLIDUS OVERLAY"),
  (0x0339, "COMBINING ", "RIGHT HALF RING BELOW;INVERTED BRIDGE BELOW;SQUARE BELOW;SEAGULL BELOW;X ABOVE"),
  (0x033E, "COMBINING ", "VERTICAL TILDE;DOUBLE OVERLINE;GRAVE TONE MARK;ACUTE TONE MARK"),
  (0x0342, "COMBINING GREEK ", "PERISPOMENI;KORONIS;DIALYTIKA TONOS;YPOGEGRAMMENI"),
  (0x0346, "COMBINING ", "BRIDGE ABOVE;EQUALS SIGN BELOW;DOUBLE VERTICAL LINE BELOW;LEFT ANGLE BELOW"),
  (0x034A, "COMBINING ", "NOT TILDE ABOVE;HOMOTHETIC ABOVE;ALMOST EQUAL TO ABOVE;LEFT RIGHT ARROW BELOW"),
  (0x034E, "COMBINING ", "UPWARDS ARROW BELOW;GRAPHEME JOINER;RIGHT ARROWHEAD ABOVE;LEFT HALF RING ABOVE;FERMATA"),
  (0x0353, "COMBINING ", "X BELOW;LEFT ARROWHEAD BELOW;RIGHT ARROWHEAD BELOW;RIGHT ARROWHEAD AND UP ARROWHEAD BELOW"),
  (0x0357, "COMBINING ", "RIGHT HALF RING ABOVE;DOT ABOVE RIGHT;ASTERISK BELOW;DOUBLE RING BELOW;ZIGZAG ABOVE"),
  (0x035C, "COMBINING DOUBLE ", "BREVE BELOW;BREVE;MACRON;MACRON BELOW;TILDE;INVERTED BREVE;RIGHTWARDS ARROW BELOW"),
  (0x0363, "COMBINING LATIN SMALL LETTER ", "A;E;I;O;U;C;D;H;M;R;T;V;X"),
  (0x0370, "GREEK ", "CAPITAL LETTER HETA;SMALL LETTER HETA;CAPITAL LETTER ARCHAIC SAMPI;SMALL LETTER ARCHAIC SAMPI"),
  (0x0374, "GREEK ", "NUMERAL SIGN;LOWER NUMERAL SIGN;CAPITAL LETTER PAMPHYLIAN DIGAMMA"),
  (0x0377, "GREEK SMALL LETTER PAMPHYLIAN ", "DIGAMMA"),
  (0x037A, "GREEK ", "YPOGEGRAMMENI;SMALL REVERSED LUNATE SIGMA SYMBOL;SMALL DOTTED LUNATE SIGMA SYMBOL"),
  (0x037D, "GREEK ", "SMALL REVERSED DOTTED LUNATE SIGMA SYMBOL;QUESTION MARK;CAPITAL LETTER YOT"),
  (0x0384, "GREEK ", "TONOS;DIALYTIKA TONOS;CAPITAL LETTER ALPHA WITH TONOS;ANO TELEIA"),
  (0x0388, "GREEK CAPITAL LETTER ", "EPSILON WITH TONOS;ETA WITH TONOS;IOTA WITH TONOS"),
  (0x038C, "GREEK CAPITAL LETTER OMICRON WITH ", "TONOS"),
  (0x038E, "GREEK CAPITAL LETTER ", "UPSILON WITH TONOS;OMEGA WITH TONOS"),
  (0x0390, "GREEK ", "SMALL LETTER IOTA WITH DIALYTIKA AND TONOS;CAPITAL LETTER ALPHA;CAPITAL LETTER BETA"),
  (0x0393, "GREEK CAPITAL LETTER ", "GAMMA;DELTA;EPSILON;ZETA;ETA;THETA;IOTA;KAPPA;LAMDA;MU;NU;XI;OMICRON;PI;RHO"),
  (0x03A3, "GREEK CAPITAL LETTER ", "SIGMA;TAU;UPSILON;PHI;CHI;PSI;OMEGA;IOTA WITH DIALYTIKA;UPSILON WITH DIALYTIKA"),
  (0x03AC, "GREEK SMALL LETTER ", "ALPHA WITH TONOS;EPSILON WITH TONOS;ETA WITH TONOS;IOTA WITH TONOS"),
  (0x03B0, "GREEK SMALL LETTER ", "UPSILON WITH DIALYTIKA AND TONOS;ALPHA;BETA;GAMMA;DELTA;EPSILON;ZETA;ETA;THETA"),
  (0x03B9, "GREEK SMALL LETTER ", "IOTA;KAPPA;LAMDA;MU;NU;XI;OMICRON;PI;RHO;FINAL SIGMA;SIGMA;TAU;UPSILON;PHI;CHI"),
  (0x03C8, "GREEK SMALL LETTER ", "PSI;OMEGA;IOTA WITH DIALYTIKA;UPSILON WITH DIALYTIKA;OMICRON WITH TONOS"),
  (0x03CD, "GREEK SMALL LETTER ", "UPSILON WITH TONOS;OMEGA WITH TONOS"),
  (0x03CF, "GREEK ", "CAPITAL KAI SYMBOL;BETA SYMBOL;THETA SYMBOL"),
  (0x03D2, "GREEK UPSILON WITH ", "HOOK SYMBOL;ACUTE AND HOOK SYMBOL;DIAERESIS AND HOOK SYMBOL"),
  (0x03D5, "GREEK ", "PHI SYMBOL;PI SYMBOL;KAI SYMBOL;LETTER ARCHAIC KOPPA;SMALL LETTER ARCHAIC KOPPA;LETTER STIGMA"),
  (0x03DB, "GREEK ", "SMALL LETTER STIGMA;LETTER DIGAMMA;SMALL LETTER DIGAMMA;LETTER KOPPA;SMALL LETTER KOPPA"),
  (0x03E0, "", "GREEK LETTER SAMPI;GREEK SMALL LETTER SAMPI;COPTIC CAPITAL LETTER SHEI"),
  (0x03E3, "COPTIC ", "SMALL LETTER SHEI;CAPITAL LETTER FEI;SMALL LETTER FEI;CAPITAL LETTER KHEI;SMALL LETTER KHEI"),
  (0x03E8, "COPTIC ", "CAPITAL LETTER HORI;SMALL LETTER HORI;CAPITAL LETTER GANGIA;SMALL LETTER GANGIA"),
  (0x03EC, "COPTIC ", "CAPITAL LETTER SHIMA;SMALL LETTER SHIMA;CAPITAL LETTER DEI;SMALL LETTER DEI"),
  (0x03F0, "GREEK ", "KAPPA SYMBOL;RHO SYMBOL;LUNATE SIGMA SYMBOL;LETTER YOT;CAPITAL THETA SYMBOL"),
  (0x03F5, "GREEK ", "LUNATE EPSILON SYMBOL;REVERSED LUNATE EPSILON SYMBOL;CAPITAL LETTER SHO;SMALL LETTER SHO"),
  (0x03F9, "GREEK ", "CAPITAL LUNATE SIGMA SYMBOL;CAPITAL LETTER SAN;SMALL LETTER SAN;RHO WITH STROKE SYMBOL"),
  (0x03FD, "GREEK CAPITAL ", "REVERSED LUNATE SIGMA SYMBOL;DOTTED LUNATE SIGMA SYMBOL"),
  (0x03FF, "", "GREEK CAPITAL REVERSED DOTTED LUNATE SIGMA SYMBOL;CYRILLIC CAPITAL LETTER IE WITH GRAVE"),
  (0x0401, "CYRILLIC CAPITAL LETTER ", "IO;DJE;GJE;UKRAINIAN IE;DZE;BYELORUSSIAN-UKRAINIAN I;YI;JE;LJE;NJE;TSHE;KJE"),
  (0x040D, "CYRILLIC CAPITAL LETTER ", "I WITH GRAVE;SHORT U;DZHE;A;BE;VE;GHE;DE;IE;ZHE;ZE;I;SHORT I;KA;EL;EM;EN;O"),
  (0x041F, "CYRILLIC CAPITAL LETTER ", "PE;ER;ES;TE;U;EF;HA;TSE;CHE;SHA;SHCHA;HARD SIGN;YERU;SOFT SIGN;E;YU;YA"),
  (0x0430, "CYRILLIC SMALL LETTER ", "A;BE;VE;GHE;DE;IE;ZHE;ZE;I;SHORT I;KA;EL;EM;EN;O;PE;ER;ES;TE;U;EF;HA;TSE;CHE"),
  (0x0448, "CYRILLIC SMALL LETTER ", "SHA;SHCHA;HARD SIGN;YERU;SOFT SIGN;E;YU;YA;IE WITH GRAVE;IO;DJE;GJE"),
  (0x0454, "CYRILLIC SMALL LETTER ", "UKRAINIAN IE;DZE;BYELORUSSIAN-UKRAINIAN I;YI;JE;LJE;NJE;TSHE;KJE;I WITH GRAVE"),
  (0x045E, "CYRILLIC ", "SMALL LETTER SHORT U;SMALL LETTER DZHE;CAPITAL LETTER OMEGA;SMALL LETTER OMEGA"),
  (0x0462, "CYRILLIC ", "CAPITAL LETTER YAT;SMALL LETTER YAT;CAPITAL LETTER IOTIFIED E;SMALL LETTER IOTIFIED E"),
  (0x0466, "CYRILLIC ", "CAPITAL LETTER LITTLE YUS;SMALL LETTER LITTLE YUS;CAPITAL LETTER IOTIFIED LITTLE YUS"),
  (0x0469, "CYRILLIC ", "SMALL LETTER IOTIFIED LITTLE YUS;CAPITAL LETTER BIG YUS;SMALL LETTER BIG YUS"),
  (0x046C, "CYRILLIC ", "CAPITAL LETTER IOTIFIED BIG YUS;SMALL LETTER IOTIFIED BIG YUS;CAPITAL LETTER KSI"),
  (0x046F, "CYRILLIC ", "SMALL LETTER KSI;CAPITAL LETTER PSI;SMALL LETTER PSI;CAPITAL LETTER FITA;SMALL LETTER FITA"),
  (0x0474, "CYRILLIC ", "CAPITAL LETTER IZHITSA;SMALL LETTER IZHITSA"),
  (0x0476, "CYRILLIC CAPITAL LETTER IZHITSA WITH DOUBLE GRAVE ", "ACCENT"),
  (0x0477, "CYRILLIC ", "SMALL LETTER IZHITSA WITH DOUBLE GRAVE ACCENT;CAPITAL LETTER UK;SMALL LETTER UK"),
  (0x047A, "CYRILLIC ", "CAPITAL LETTER ROUND OMEGA;SMALL LETTER ROUND OMEGA;CAPITAL LETTER OMEGA WITH TITLO"),
  (0x047D, "CYRILLIC ", "SMALL LETTER OMEGA WITH TITLO;CAPITAL LETTER OT;SMALL LETTER OT;CAPITAL LETTER KOPPA"),
  (0x0481, "CYRILLIC ", "SMALL LETTER KOPPA;THOUSANDS SIGN"),
  (0x0483, "COMBINING CYRILLIC ", "TITLO;PALATALIZATION;DASIA PNEUMATA;PSILI PNEUMATA;POKRYTIE"),
  (0x0488, "COMBINING CYRILLIC ", "HUNDRED THOUSANDS SIGN;MILLIONS SIGN"),
  (0x048A, "CYRILLIC ", "CAPITAL LETTER SHORT I WITH TAIL;SMALL LETTER SHORT I WITH TAIL"),
  (0x048C, "CYRILLIC ", "CAPITAL LETTER SEMISOFT SIGN;SMALL LETTER SEMISOFT SIGN;CAPITAL LETTER ER WITH TICK"),
  (0x048F, "CYRILLIC ", "SMALL LETTER ER WITH TICK;CAPITAL LETTER GHE WITH UPTURN;SMALL LETTER GHE WITH UPTURN"),
  (0x0492, "CYRILLIC ", "CAPITAL LETTER GHE WITH STROKE;SMALL LETTER GHE WITH STROKE"),
  (0x0494, "CYRILLIC ", "CAPITAL LETTER GHE WITH MIDDLE HOOK;SMALL LETTER GHE WITH MIDDLE HOOK"),
  (0x0496, "CYRILLIC ", "CAPITAL LETTER ZHE WITH DESCENDER;SMALL LETTER ZHE WITH DESCENDER"),
  (0x0498, "CYRILLIC ", "CAPITAL LETTER ZE WITH DESCENDER;SMALL LETTER ZE WITH DESCENDER"),
  (0x049A, "CYRILLIC ", "CAPITAL LETTER KA WITH DESCENDER;SMALL LETTER KA WITH DESCENDER"),
  (0x049C, "CYRILLIC ", "CAPITAL LETTER KA WITH VERTICAL STROKE;SMALL LETTER KA WITH VERTICAL STROKE"),
  (0x049E, "CYRILLIC ", "CAPITAL LETTER KA WITH STROKE;SMALL LETTER KA WITH STROKE;CAPITAL LETTER BASHKIR KA"),
  (0x04A1, "CYRILLIC ", "SMALL LETTER BASHKIR KA;CAPITAL LETTER EN WITH DESCENDER;SMALL LETTER EN WITH DESCENDER"),
  (0x04A4, "CYRILLIC ", "CAPITAL LIGATURE EN GHE;SMALL LIGATURE EN GHE;CAPITAL LETTER PE WITH MIDDLE HOOK"),
  (0x04A7, "CYRILLIC ", "SMALL LETTER PE WITH MIDDLE HOOK;CAPITAL LETTER ABKHASIAN HA;SMALL LETTER ABKHASIAN HA"),
  (0x04AA, "CYRILLIC ", "CAPITAL LETTER ES WITH DESCENDER;SMALL LETTER ES WITH DESCENDER"),
  (0x04AC, "CYRILLIC ", "CAPITAL LETTER TE WITH DESCENDER;SMALL LETTER TE WITH DESCENDER;CAPITAL LETTER STRAIGHT U"),
  (0x04AF, "CYRILLIC ", "SMALL LETTER STRAIGHT U;CAPITAL LETTER STRAIGHT U WITH STROKE"),
  (0x04B1, "CYRILLIC ", "SMALL LETTER STRAIGHT U WITH STROKE;CAPITAL LETTER HA WITH DESCENDER"),
  (0x04B3, "CYRILLIC ", "SMALL LETTER HA WITH DESCENDER;CAPITAL LIGATURE TE TSE;SMALL LIGATURE TE TSE"),
  (0x04B6, "CYRILLIC ", "CAPITAL LETTER CHE WITH DESCENDER;SMALL LETTER CHE WITH DESCENDER"),
  (0x04B8, "CYRILLIC ", "CAPITAL LETTER CHE WITH VERTICAL STROKE;SMALL LETTER CHE WITH VERTICAL STROKE"),
  (0x04BA, "CYRILLIC ", "CAPITAL LETTER SHHA;SMALL LETTER SHHA;CAPITAL LETTER ABKHASIAN CHE"),
  (0x04BD, "CYRILLIC ", "SMALL LETTER ABKHASIAN CHE;CAPITAL LETTER ABKHASIAN CHE WITH DESCENDER"),
  (0x04BF, "CYRILLIC ", "SMALL LETTER ABKHASIAN CHE WITH DESCENDER;LETTER PALOCHKA;CAPITAL LETTER ZHE WITH BREVE"),
  (0x04C2, "CYRILLIC ", "SMALL LETTER ZHE WITH BREVE;CAPITAL LETTER KA WITH HOOK;SMALL LETTER KA WITH HOOK"),
  (0x04C5, "CYRILLIC ", "CAPITAL LETTER EL WITH TAIL;SMALL LETTER EL WITH TAIL;CAPITAL LETTER EN WITH HOOK"),
  (0x04C8, "CYRILLIC ", "SMALL LETTER EN WITH HOOK;CAPITAL LETTER EN WITH TAIL;SMALL LETTER EN WITH TAIL"),
  (0x04CB, "CYRILLIC ", "CAPITAL LETTER KHAKASSIAN CHE;SMALL LETTER KHAKASSIAN CHE;CAPITAL LETTER EM WITH TAIL"),
  (0x04CE, "CYRILLIC SMALL LETTER ", "EM WITH TAIL;PALOCHKA"),
  (0x04D0, "CYRILLIC ", "CAPITAL LETTER A WITH BREVE;SMALL LETTER A WITH BREVE;CAPITAL LETTER A WITH DIAERESIS"),
  (0x04D3, "CYRILLIC ", "SMALL LETTER A WITH DIAERESIS;CAPITAL LIGATURE A IE;SMALL LIGATURE A IE"),
  (0x04D6, "CYRILLIC ", "CAPITAL LETTER IE WITH BREVE;SMALL LETTER IE WITH BREVE;CAPITAL LETTER SCHWA"),
  (0x04D9, "CYRILLIC ", "SMALL LETTER SCHWA;CAPITAL LETTER SCHWA WITH DIAERESIS;SMALL LETTER SCHWA WITH DIAERESIS")]

/-- The names from U+04DC on. -/
def names04DC : List NameRow := [
  (0x04DC, "CYRILLIC ", "CAPITAL LETTER ZHE WITH DIAERESIS;SMALL LETTER ZHE WITH DIAERESIS"),
  (0x04DE, "CYRILLIC ", "CAPITAL LETTER ZE WITH DIAERESIS;SMALL LETTER ZE WITH DIAERESIS"),
  (0x04E0, "CYRILLIC ", "CAPITAL LETTER ABKHASIAN DZE;SMALL LETTER ABKHASIAN DZE;CAPITAL LETTER I WITH MACRON"),
  (0x04E3, "CYRILLIC ", "SMALL LETTER I WITH MACRON;CAPITAL LETTER I WITH DIAERESIS;SMALL LETTER I WITH DIAERESIS"),
  (0x04E6, "CYRILLIC ", "CAPITAL LETTER O WITH DIAERESIS;SMALL LETTER O WITH DIAERESIS;CAPITAL LETTER BARRED O"),
  (0x04E9, "CYRILLIC ", "SMALL LETTER BARRED O;CAPITAL LETTER BARRED O WITH DIAERESIS"),
  (0x04EB, "CYRILLIC ", "SMALL LETTER BARRED O WITH DIAERESIS;CAPITAL LETTER E WITH DIAERESIS"),
  (0x04ED, "CYRILLIC ", "SMALL LETTER E WITH DIAERESIS;CAPITAL LETTER U WITH MACRON;SMALL LETTER U WITH MACRON"),
  (0x04F0, "CYRILLIC ", "CAPITAL LETTER U WITH DIAERESIS;SMALL LETTER U WITH DIAERESIS"),
  (0x04F2, "CYRILLIC ", "CAPITAL LETTER U WITH DOUBLE ACUTE;SMALL LETTER U WITH DOUBLE ACUTE"),
  (0x04F4, "CYRILLIC ", "CAPITAL LETTER CHE WITH DIAERESIS;SMALL LETTER CHE WITH DIAERESIS"),
  (0x04F6, "CYRILLIC ", "CAPITAL LETTER GHE WITH DESCENDER;SMALL LETTER GHE WITH DESCENDER"),
  (0x04F8, "CYRILLIC ", "CAPITAL LETTER YERU WITH DIAERESIS;SMALL LETTER YERU WITH DIAERESIS"),
  (0x04FA, "CYRILLIC ", "CAPITAL LETTER GHE WITH STROKE AND HOOK;SMALL LETTER GHE WITH STROKE AND HOOK"),
  (0x04FC, "CYRILLIC ", "CAPITAL LETTER HA WITH HOOK;SMALL LETTER HA WITH HOOK;CAPITAL LETTER HA WITH STROKE"),
  (0x04FF, "CYRILLIC ", "SMALL LETTER HA WITH STROKE;CAPITAL LETTER KOMI DE;SMALL LETTER KOMI DE"),
  (0x0502, "CYRILLIC ", "CAPITAL LETTER KOMI DJE;SMALL LETTER KOMI DJE;CAPITAL LETTER KOMI ZJE"),
  (0x0505, "CYRILLIC ", "SMALL LETTER KOMI ZJE;CAPITAL LETTER KOMI DZJE;SMALL LETTER KOMI DZJE"),
  (0x0508, "CYRILLIC ", "CAPITAL LETTER KOMI LJE;SMALL LETTER KOMI LJE;CAPITAL LETTER KOMI NJE"),
  (0x050B, "CYRILLIC ", "SMALL LETTER KOMI NJE;CAPITAL LETTER KOMI SJE;SMALL LETTER KOMI SJE"),
  (0x050E, "CYRILLIC ", "CAPITAL LETTER KOMI TJE;SMALL LETTER KOMI TJE;CAPITAL LETTER REVERSED ZE"),
  (0x0511, "CYRILLIC ", "SMALL LETTER REVERSED ZE;CAPITAL LETTER EL WITH HOOK;SMALL LETTER EL WITH HOOK"),
  (0x0514, "CYRILLIC ", "CAPITAL LETTER LHA;SMALL LETTER LHA;CAPITAL LETTER RHA;SMALL LETTER RHA;CAPITAL LETTER YAE"),
  (0x0519, "CYRILLIC ", "SMALL LETTER YAE;CAPITAL LETTER QA;SMALL LETTER QA;CAPITAL LETTER WE;SMALL LETTER WE"),
  (0x051E, "CYRILLIC ", "CAPITAL LETTER ALEUT KA;SMALL LETTER ALEUT KA;CAPITAL LETTER EL WITH MIDDLE HOOK"),
  (0x0521, "CYRILLIC ", "SMALL LETTER EL WITH MIDDLE HOOK;CAPITAL LETTER EN WITH MIDDLE HOOK"),
  (0x0523, "CYRILLIC ", "SMALL LETTER EN WITH MIDDLE HOOK;CAPITAL LETTER PE WITH DESCENDER"),
  (0x0525, "CYRILLIC ", "SMALL LETTER PE WITH DESCENDER;CAPITAL LETTER SHHA WITH DESCENDER"),
  (0x0527, "CYRILLIC ", "SMALL LETTER SHHA WITH DESCENDER;CAPITAL LETTER EN WITH LEFT HOOK"),
  (0x0529, "CYRILLIC ", "SMALL LETTER EN WITH LEFT HOOK;CAPITAL LETTER DZZHE;SMALL LETTER DZZHE;CAPITAL LETTER DCHE"),
  (0x052D, "CYRILLIC ", "SMALL LETTER DCHE;CAPITAL LETTER EL WITH DESCENDER;SMALL LETTER EL WITH DESCENDER"),
  (0x0531, "ARMENIAN CAPITAL LETTER ", "AYB;BEN;GIM;DA;ECH;ZA;EH;ET;TO;ZHE;INI;LIWN;XEH;CA;KEN;HO;JA;GHAD;CHEH;MEN"),
  (0x0545, "ARMENIAN CAPITAL LETTER ", "YI;NOW;SHA;VO;CHA;PEH;JHEH;RA;SEH;VEW;TIWN;REH;CO;YIWN;PIWR;KEH;OH;FEH"),
  (0x0559, "ARMENIAN ", "MODIFIER LETTER LEFT HALF RING;APOSTROPHE;EMPHASIS MARK;EXCLAMATION MARK;COMMA"),
  (0x055E, "ARMENIAN ", "QUESTION MARK;ABBREVIATION MARK;SMALL LETTER TURNED AYB"),
  (0x0561, "ARMENIAN SMALL LETTER ", "AYB;BEN;GIM;DA;ECH;ZA;EH;ET;TO;ZHE;INI;LIWN;XEH;CA;KEN;HO;JA;GHAD;CHEH;MEN;YI"),
  (0x0576, "ARMENIAN SMALL LETTER ", "NOW;SHA;VO;CHA;PEH;JHEH;RA;SEH;VEW;TIWN;REH;CO;YIWN;PIWR;KEH;OH;FEH"),
  (0x0587, "ARMENIAN ", "SMALL LIGATURE ECH YIWN;SMALL LETTER YI WITH STROKE;FULL STOP;HYPHEN"),
  (0x058D, "", "RIGHT-FACING ARMENIAN ETERNITY SIGN;LEFT-FACING ARMENIAN ETERNITY SIGN;ARMENIAN DRAM SIGN"),
  (0x0591, "HEBREW ACCENT ", "ETNAHTA;SEGOL;SHALSHELET;ZAQEF QATAN;ZAQEF GADOL;TIPEHA;REVIA;ZARQA;PASHTA;YETIV"),
  (0x059B, "HEBREW ACCENT ", "TEVIR;GERESH;GERESH MUQDAM;GERSHAYIM;QARNEY PARA;TELISHA GEDOLA;PAZER;ATNAH HAFUKH"),
  (0x05A3, "HEBREW ACCENT ", "MUNAH;MAHAPAKH;MERKHA;MERKHA KEFULA;DARGA;QADMA;TELISHA QETANA;YERAH BEN YOMO;OLE"),
  (0x05AC, "HEBREW ", "ACCENT ILUY;ACCENT DEHI;ACCENT ZINOR;MARK MASORA CIRCLE"),
  (0x05B0, "HEBREW POINT ", "SHEVA;HATAF SEGOL;HATAF PATAH;HATAF QAMATS;HIRIQ;TSERE;SEGOL;PATAH;QAMATS;HOLAM"),
  (0x05BA, "HEBREW ", "POINT HOLAM HASER FOR VAV;POINT QUBUTS;POINT DAGESH OR MAPIQ;POINT METEG;PUNCTUATION MAQAF"),
  (0x05BF, "HEBREW ", "POINT RAFE;PUNCTUATION PASEQ;POINT SHIN DOT;POINT SIN DOT;PUNCTUATION SOF PASUQ"),
  (0x05C4, "HEBREW ", "MARK UPPER DOT;MARK LOWER DOT;PUNCTUATION NUN HAFUKHA;POINT QAMATS QATAN"),
  (0x05D0, "HEBREW LETTER ", "ALEF;BET;GIMEL;DALET;HE;VAV;ZAYIN;HET;TET;YOD;FINAL KAF;KAF;LAMED;FINAL MEM;MEM"),
  (0x05DF, "HEBREW LETTER ", "FINAL NUN;NUN;SAMEKH;AYIN;FINAL PE;PE;FINAL TSADI;TSADI;QOF;RESH;SHIN;TAV"),
  (0x05EF, "HEBREW YOD ", "TRIANGLE"), (0x05F0, "HEBREW LIGATURE YIDDISH ", "DOUBLE VAV;VAV YOD;DOUBLE YOD"),
  (0x05F3, "HEBREW PUNCTUATION ", "GERESH;GERSHAYIM"),
  (0x0600, "ARABIC ", "NUMBER SIGN;SIGN SANAH;FOOTNOTE MARKER;SIGN SAFHA;SIGN SAMVAT;NUMBER MARK ABOVE"),
  (0x0606, "ARABIC-INDIC ", "CUBE ROOT;FOURTH ROOT"),
  (0x0608, "", "ARABIC RAY;ARABIC-INDIC PER MILLE SIGN;ARABIC-INDIC PER TEN THOUSAND SIGN;AFGHANI SIGN"),
  (0x060C, "ARABIC ", "COMMA;DATE SEPARATOR;POETIC VERSE SIGN;SIGN MISRA;SIGN SALLALLAHOU ALAYHE WASSALLAM"),
  (0x0611, "ARABIC SIGN ", "ALAYHE ASSALLAM;RAHMATULLAH ALAYHE;RADI ALLAHOU ANHU;TAKHALLUS"),
  (0x0615, "ARABIC SMALL ", "HIGH TAH;HIGH LIGATURE ALEF WITH LAM WITH YEH;HIGH ZAIN;FATHA;DAMMA;KASRA"),
  (0x061B, "ARABIC ", "SEMICOLON;LETTER MARK;END OF TEXT MARK;TRIPLE DOT PUNCTUATION MARK;QUESTION MARK"),
  (0x0620, "ARABIC LETTER ", "KASHMIRI YEH;HAMZA;ALEF WITH MADDA ABOVE;ALEF WITH HAMZA ABOVE;WAW WITH HAMZA ABOVE"),
  (0x0625, "ARABIC LETTER ", "ALEF WITH HAMZA BELOW;YEH WITH HAMZA ABOVE;ALEF;BEH;TEH MARBUTA;TEH;THEH;JEEM;HAH"),
  (0x062E, "ARABIC LETTER ", "KHAH;DAL;THAL;REH;ZAIN;SEEN;SHEEN;SAD;DAD;TAH;ZAH;AIN;GHAIN"),
  (0x063B, "ARABIC LETTER KEHEH WITH ", "TWO DOTS ABOVE;THREE DOTS BELOW"),
  (0x063D, "ARABIC LETTER FARSI YEH WITH ", "INVERTED V;TWO DOTS ABOVE;THREE DOTS ABOVE"),
  (0x0640, "ARABIC ", "TATWEEL"), (0x0641, "ARABIC LETTER ", "FEH;QAF;KAF;LAM;MEEM;NOON;HEH;WAW;ALEF MAKSURA;YEH"),
  (0x064B, "ARABIC ", "FATHATAN;DAMMATAN;KASRATAN;FATHA;DAMMA;KASRA;SHADDA;SUKUN;MADDAH ABOVE;HAMZA ABOVE"),
  (0x0655, "ARABIC ", "HAMZA BELOW;SUBSCRIPT ALEF;INVERTED DAMMA;MARK NOON GHUNNA;ZWARAKAY"),
  (0x065A, "ARABIC VOWEL SIGN ", "SMALL V ABOVE;INVERTED SMALL V ABOVE;DOT BELOW"),
  (0x065D, "ARABIC ", "REVERSED DAMMA;FATHA WITH TWO DOTS;WAVY HAMZA BELOW"),
  (0x0660, "ARABIC-INDIC DIGIT ", "ZERO;ONE;TWO;THREE;FOUR;FIVE;SIX;SEVEN;EIGHT;NINE"),
  (0x066A, "ARABIC ", "PERCENT SIGN;DECIMAL SEPARATOR;THOUSANDS SEPARATOR;FIVE POINTED STAR"),
  (0x066E, "ARABIC LETTER ", "DOTLESS BEH;DOTLESS QAF;SUPERSCRIPT ALEF;ALEF WASLA"),
  (0x0672, "ARABIC LETTER ALEF WITH WAVY HAMZA ", "ABOVE;BELOW"),
  (0x0674, "ARABIC LETTER ", "HIGH HAMZA;HIGH HAMZA ALEF;HIGH HAMZA WAW;U WITH HAMZA ABOVE;HIGH HAMZA YEH;TTEH"),
  (0x067A, "ARABIC LETTER ", "TTEHEH;BEEH;TEH WITH RING;TEH WITH THREE DOTS ABOVE DOWNWARDS;PEH;TEHEH;BEHEH"),
  (0x0681, "ARABIC LETTER HAH WITH ", "HAMZA ABOVE;TWO DOTS VERTICAL ABOVE"),
  (0x0683, "ARABIC LETTER ", "NYEH;DYEH;HAH WITH THREE DOTS ABOVE;TCHEH;TCHEHEH;DDAL"),
  (0x0689, "ARABIC LETTER DAL WITH ", "RING;DOT BELOW;DOT BELOW AND SMALL TAH"),
  (0x068C, "ARABIC LETTER ", "DAHAL;DDAHAL;DUL;DAL WITH THREE DOTS ABOVE DOWNWARDS;DAL WITH FOUR DOTS ABOVE;RREH"),
  (0x0692, "ARABIC LETTER REH WITH ", "SMALL V;RING;DOT BELOW;SMALL V BELOW;DOT BELOW AND DOT ABOVE;TWO DOTS ABOVE"),
  (0x0698, "ARABIC LETTER ", "JEH;REH WITH FOUR DOTS ABOVE;SEEN WITH DOT BELOW AND DOT ABOVE"),
  (0x069B, "ARABIC LETTER SEEN WITH THREE DOTS ", "BELOW;BELOW AND THREE DOTS ABOVE"),
  (0x069D, "ARABIC LETTER ", "SAD WITH TWO DOTS BELOW;SAD WITH THREE DOTS ABOVE;TAH WITH THREE DOTS ABOVE"),
  (0x06A0, "ARABIC LETTER ", "AIN WITH THREE DOTS ABOVE;DOTLESS FEH;FEH WITH DOT MOVED BELOW;FEH WITH DOT BELOW;VEH"),
  (0x06A5, "ARABIC LETTER ", "FEH WITH THREE DOTS BELOW;PEHEH;QAF WITH DOT ABOVE;QAF WITH THREE DOTS ABOVE;KEHEH"),
  (0x06AA, "ARABIC LETTER ", "SWASH KAF;KAF WITH RING;KAF WITH DOT ABOVE;NG;KAF WITH THREE DOTS BELOW;GAF"),
  (0x06B0, "ARABIC LETTER ", "GAF WITH RING;NGOEH;GAF WITH TWO DOTS BELOW;GUEH;GAF WITH THREE DOTS ABOVE"),
  (0x06B5, "ARABIC LETTER LAM WITH ", "SMALL V;DOT ABOVE;THREE DOTS ABOVE;THREE DOTS BELOW"),
  (0x06B9, "ARABIC LETTER ", "NOON WITH DOT BELOW;NOON GHUNNA;RNOON;NOON WITH RING;NOON WITH THREE DOTS ABOVE"),
  (0x06BE, "ARABIC LETTER ", "HEH DOACHASHMEE;TCHEH WITH DOT ABOVE;HEH WITH YEH ABOVE;HEH GOAL"),
  (0x06C2, "ARABIC LETTER ", "HEH GOAL WITH HAMZA ABOVE;TEH MARBUTA GOAL;WAW WITH RING;KIRGHIZ OE;OE;U;YU"),
  (0x06C9, "ARABIC LETTER ", "KIRGHIZ YU;WAW WITH TWO DOTS ABOVE;VE;FARSI YEH;YEH WITH TAIL;YEH WITH SMALL V"),
  (0x06CF, "ARABIC LETTER ", "WAW WITH DOT ABOVE;E;YEH WITH THREE DOTS BELOW;YEH BARREE;YEH BARREE WITH HAMZA ABOVE"),
  (0x06D4, "ARABIC ", "FULL STOP;LETTER AE"),
  (0x06D6, "ARABIC SMALL HIGH LIGATURE ", "SAD WITH LAM WITH ALEF MAKSURA;QAF WITH LAM WITH ALEF MAKSURA"),
  (0x06D8, "ARABIC SMALL HIGH ", "MEEM INITIAL FORM;LAM ALEF;JEEM;THREE DOTS;SEEN"),
  (0x06DD, "ARABIC ", "END OF AYAH;START OF RUB EL HIZB"),
  (0x06DF, "ARABIC SMALL HIGH ", "ROUNDED ZERO;UPRIGHT RECTANGULAR ZERO;DOTLESS HEAD OF KHAH;MEEM ISOLATED FORM"),
  (0x06E3, "ARABIC SMALL ", "LOW SEEN;HIGH MADDA;WAW;YEH;HIGH YEH;HIGH NOON")]

/-- The names from U+06E9 on. -/
def names06E9 : List NameRow := [
  (0x06E9, "ARABIC ", "PLACE OF SAJDAH;EMPTY CENTRE LOW STOP;EMPTY CENTRE HIGH STOP"),
  (0x06EC, "ARABIC ", "ROUNDED HIGH STOP WITH FILLED CENTRE;SMALL LOW MEEM"),
  (0x06EE, "ARABIC LETTER ", "DAL WITH INVERTED V;REH WITH INVERTED V"),
  (0x06F0, "EXTENDED ARABIC-INDIC DIGIT ", "ZERO;ONE;TWO;THREE;FOUR;FIVE;SIX;SEVEN;EIGHT;NINE"),
  (0x06FA, "ARABIC LETTER ", "SHEEN WITH DOT BELOW;DAD WITH DOT BELOW;GHAIN WITH DOT BELOW"),
  (0x06FD, "ARABIC ", "SIGN SINDHI AMPERSAND;SIGN SINDHI POSTPOSITION MEN;LETTER HEH WITH INVERTED V"),
  (0x0700, "SYRIAC ", "END OF PARAGRAPH;SUPRALINEAR FULL STOP;SUBLINEAR FULL STOP;SUPRALINEAR COLON;SUBLINEAR COLON"),
  (0x0705, "SYRIAC ", "HORIZONTAL COLON;COLON SKEWED LEFT;COLON SKEWED RIGHT;SUPRALINEAR COLON SKEWED LEFT"),
  (0x0709, "SYRIAC ", "SUBLINEAR COLON SKEWED RIGHT;CONTRACTION"),
  (0x070B, "SYRIAC HARKLEAN ", "OBELUS;METOBELUS;ASTERISCUS"), (0x070F, "SYRIAC ABBREVIATION ", "MARK"),
  (0x0710, "SYRIAC LETTER ", "ALAPH;SUPERSCRIPT ALAPH;BETH;GAMAL;GAMAL GARSHUNI;DALATH;DOTLESS DALATH RISH;HE;WAW"),
  (0x0719, "SYRIAC LETTER ", "ZAIN;HETH;TETH;TETH GARSHUNI;YUDH;YUDH HE;KAPH;LAMADH;MIM;NUN;SEMKATH;FINAL SEMKATH;E"),
  (0x0726, "SYRIAC LETTER ", "PE;REVERSED PE;SADHE;QAPH;RISH;SHIN;TAW;PERSIAN BHETH;PERSIAN GHAMAL;PERSIAN DHALATH"),
  (0x0730, "SYRIAC PTHAHA ", "ABOVE;BELOW;DOTTED"), (0x0733, "SYRIAC ZQAPHA ", "ABOVE;BELOW;DOTTED"),
  (0x0736, "SYRIAC ", "RBASA ABOVE;RBASA BELOW;DOTTED ZLAMA HORIZONTAL;DOTTED ZLAMA ANGULAR;HBASA ABOVE;HBASA BELOW"),
  (0x073C, "SYRIAC ", "HBASA-ESASA DOTTED;ESASA ABOVE;ESASA BELOW;RWAHA;FEMININE DOT;QUSHSHAYA;RUKKAKHA"),
  (0x0743, "SYRIAC TWO VERTICAL DOTS ", "ABOVE;BELOW"),
  (0x0745, "SYRIAC ", "THREE DOTS ABOVE;THREE DOTS BELOW;OBLIQUE LINE ABOVE;OBLIQUE LINE BELOW;MUSIC;BARREKH"),
  (0x074D, "SYRIAC LETTER SOGDIAN ", "ZHAIN;KHAPH;FE"),
  (0x0750, "ARABIC LETTER BEH WITH ", "THREE DOTS HORIZONTALLY BELOW;DOT BELOW AND THREE DOTS ABOVE"),
  (0x0752, "ARABIC LETTER BEH WITH THREE DOTS POINTING UPWARDS ", "BELOW;BELOW AND TWO DOTS ABOVE"),
  (0x0754, "ARABIC LETTER BEH WITH ", "TWO DOTS BELOW AND DOT ABOVE;INVERTED SMALL V BELOW;SMALL V"),
  (0x0757, "ARABIC LETTER HAH WITH ", "TWO DOTS ABOVE;THREE DOTS POINTING UPWARDS BELOW"),
  (0x0759, "ARABIC LETTER DAL WITH ", "TWO DOTS VERTICALLY BELOW AND SMALL TAH;INVERTED SMALL V BELOW"),
  (0x075B, "ARABIC LETTER ", "REH WITH STROKE;SEEN WITH FOUR DOTS ABOVE"),
  (0x075D, "ARABIC LETTER AIN WITH ", "TWO DOTS ABOVE;THREE DOTS POINTING DOWNWARDS ABOVE;TWO DOTS VERTICALLY ABOVE"),
  (0x0760, "ARABIC LETTER FEH WITH ", "TWO DOTS BELOW;THREE DOTS POINTING UPWARDS BELOW"),
  (0x0762, "ARABIC LETTER KEHEH WITH ", "DOT ABOVE;THREE DOTS ABOVE;THREE DOTS POINTING UPWARDS BELOW"),
  (0x0765, "ARABIC LETTER MEEM WITH DOT ", "ABOVE;BELOW"),
  (0x0767, "ARABIC LETTER NOON WITH ", "TWO DOTS BELOW;SMALL TAH;SMALL V"),
  (0x076A, "ARABIC LETTER ", "LAM WITH BAR;REH WITH TWO DOTS VERTICALLY ABOVE;REH WITH HAMZA ABOVE"),
  (0x076D, "ARABIC LETTER SEEN WITH TWO DOTS VERTICALLY ", "ABOVE"),
  (0x076E, "ARABIC LETTER HAH WITH SMALL ARABIC LETTER TAH ", "BELOW;AND TWO DOTS"),
  (0x0770, "ARABIC LETTER SEEN WITH SMALL ARABIC LETTER TAH AND TWO ", "DOTS"),
  (0x0771, "ARABIC LETTER ", "REH WITH SMALL ARABIC LETTER TAH AND TWO DOTS;HAH WITH SMALL ARABIC LETTER TAH ABOVE"),
  (0x0773, "ARABIC LETTER ALEF WITH EXTENDED ARABIC-INDIC DIGIT ", "TWO ABOVE;THREE ABOVE"),
  (0x0775, "ARABIC LETTER FARSI YEH WITH EXTENDED ARABIC-INDIC DIGIT ", "TWO ABOVE;THREE ABOVE;FOUR BELOW"),
  (0x0778, "ARABIC LETTER WAW WITH EXTENDED ARABIC-INDIC DIGIT ", "TWO ABOVE;THREE ABOVE"),
  (0x077A, "ARABIC LETTER YEH BARREE WITH EXTENDED ARABIC-INDIC DIGIT ", "TWO ABOVE;THREE ABOVE"),
  (0x077C, "ARABIC LETTER HAH WITH EXTENDED ARABIC-INDIC DIGIT FOUR ", "BELOW"),
  (0x077D, "ARABIC LETTER SEEN WITH ", "EXTENDED ARABIC-INDIC DIGIT FOUR ABOVE;INVERTED V"),
  (0x077F, "ARABIC LETTER KAF WITH TWO DOTS ", "ABOVE"),
  (0x0780, "THAANA LETTER ", "HAA;SHAVIYANI;NOONU;RAA;BAA;LHAVIYANI;KAAFU;ALIFU;VAAVU;MEEMU;FAAFU;DHAALU;THAA;LAAMU"),
  (0x078E, "THAANA LETTER ", "GAAFU;GNAVIYANI;SEENU;DAVIYANI;ZAVIYANI;TAVIYANI;YAA;PAVIYANI;JAVIYANI;CHAVIYANI;TTAA"),
  (0x0799, "THAANA LETTER ", "HHAA;KHAA;THAALU;ZAA;SHEENU;SAADHU;DAADHU;TO;ZO;AINU;GHAINU;QAAFU;WAAVU"),
  (0x07A6, "THAANA ", "ABAFILI;AABAAFILI;IBIFILI;EEBEEFILI;UBUFILI;OOBOOFILI;EBEFILI;EYBEYFILI;OBOFILI;OABOAFILI"),
  (0x07B0, "THAANA ", "SUKUN;LETTER NAA"), (0x07C0, "NKO DIGIT ", "ZERO;ONE;TWO;THREE;FOUR;FIVE;SIX;SEVEN;EIGHT;NINE"),
  (0x07CA, "NKO LETTER ", "A;EE;I;E;U;OO;O;DAGBASINNA;N;BA;PA;TA;JA;CHA;DA;RA;RRA;SA;GBA;FA;KA;LA;NA WOLOSO;MA;NYA"),
  (0x07E3, "NKO LETTER ", "NA;HA;WA;YA;NYA WOLOSO;JONA JA;JONA CHA;JONA RA"),
  (0x07EB, "NKO COMBINING SHORT ", "HIGH TONE;LOW TONE;RISING TONE"),
  (0x07EE, "NKO COMBINING LONG ", "DESCENDING TONE;HIGH TONE;LOW TONE;RISING TONE"),
  (0x07F2, "NKO ", "COMBINING NASALIZATION MARK;COMBINING DOUBLE DOT ABOVE;HIGH TONE APOSTROPHE;LOW TONE APOSTROPHE"),
  (0x07F6, "NKO ", "SYMBOL OO DENNEN;SYMBOL GBAKURUNEN;COMMA;EXCLAMATION MARK;LAJANYALAN"),
  (0x07FD, "NKO ", "DANTAYALAN;DOROME SIGN;TAMAN SIGN"),
  (0x0800, "SAMARITAN LETTER ", "ALAF;BIT;GAMAN;DALAT;IY;BAA;ZEN;IT;TIT;YUT;KAAF;LABAT;MIM;NUN;SINGAAT;IN;FI"),
  (0x0811, "SAMARITAN LETTER ", "TSAADIY;QUF;RISH;SHAN;TAAF"),
  (0x0816, "SAMARITAN MARK ", "IN;IN-ALAF;OCCLUSION;DAGESH"),
  (0x081A, "SAMARITAN ", "MODIFIER LETTER EPENTHETIC YUT;MARK EPENTHETIC YUT"),
  (0x081C, "SAMARITAN VOWEL SIGN ", "LONG E;E;OVERLONG AA;LONG AA;AA;OVERLONG A;LONG A;A"),
  (0x0824, "SAMARITAN ", "MODIFIER LETTER SHORT A;VOWEL SIGN SHORT A;VOWEL SIGN LONG U;VOWEL SIGN U"),
  (0x0828, "SAMARITAN MODIFIER LETTER ", "I"), (0x0829, "SAMARITAN VOWEL SIGN ", "LONG I;I;O;SUKUN"),
  (0x082D, "SAMARITAN MARK ", "NEQUDAA"),
  (0x0830, "SAMARITAN PUNCTUATION ", "NEQUDAA;AFSAAQ;ANGED;BAU;ATMAAU;SHIYYAALAA"),
  (0x0836, "SAMARITAN ABBREVIATION ", "MARK"),
  (0x0837, "SAMARITAN PUNCTUATION ", "MELODIC QITSA;ZIQAA;QITSA;ZAEF;TURU;ARKAANU;SOF MASHFAAT;ANNAAU"),
  (0x0840, "MANDAIC LETTER ", "HALQA;AB;AG;AD;AH;USHENNA;AZ;IT;ATT;AKSA;AK;AL;AM;AN;AS;IN;AP;ASZ;AQ;AR;ASH;AT"),
  (0x0856, "MANDAIC ", "LETTER DUSHENNA;LETTER KAD;LETTER AIN;AFFRICATION MARK;VOCALIZATION MARK;GEMINATION MARK"),
  (0x085E, "MANDAIC ", "PUNCTUATION"),
  (0x0860, "SYRIAC LETTER MALAYALAM ", "NGA;JA;NYA;TTA;NNA;NNNA;BHA;RA;LLA;LLLA;SSA"),
  (0x0870, "ARABIC LETTER ALEF WITH ATTACHED ", "FATHA;TOP RIGHT FATHA"),
  (0x0872, "ARABIC LETTER ALEF WITH ", "RIGHT MIDDLE STROKE;LEFT MIDDLE STROKE;ATTACHED KASRA"),
  (0x0875, "ARABIC LETTER ALEF WITH ATTACHED ", "BOTTOM RIGHT KASRA;ROUND DOT ABOVE;RIGHT ROUND DOT;LEFT ROUND DOT"),
  (0x0879, "ARABIC LETTER ALEF WITH ", "ATTACHED ROUND DOT BELOW;DOT ABOVE;ATTACHED TOP RIGHT FATHA AND DOT ABOVE"),
  (0x087C, "ARABIC LETTER ALEF WITH ", "RIGHT MIDDLE STROKE AND DOT ABOVE;ATTACHED BOTTOM RIGHT KASRA AND DOT ABOVE"),
  (0x087E, "ARABIC LETTER ALEF WITH ", "ATTACHED TOP RIGHT FATHA AND LEFT RING;RIGHT MIDDLE STROKE AND LEFT RING"),
  (0x0880, "ARABIC LETTER ALEF WITH ATTACHED ", "BOTTOM RIGHT KASRA AND LEFT RING;RIGHT HAMZA;LEFT HAMZA"),
  (0x0883, "ARABIC TATWEEL WITH ", "OVERSTRUCK HAMZA;OVERSTRUCK WAW;TWO DOTS BELOW"),
  (0x0886, "ARABIC ", "LETTER THIN YEH;BASELINE ROUND DOT;RAISED ROUND DOT;LETTER NOON WITH INVERTED SMALL V"),
  (0x088A, "ARABIC LETTER ", "HAH WITH INVERTED SMALL V BELOW;TAH WITH DOT BELOW;TAH WITH THREE DOTS BELOW"),
  (0x088D, "ARABIC ", "LETTER KEHEH WITH TWO DOTS VERTICALLY BELOW;VERTICAL TAIL"),
  (0x0890, "ARABIC ", "POUND MARK ABOVE;PIASTRE MARK ABOVE"),
  (0x0898, "ARABIC SMALL ", "HIGH WORD AL-JUZ;LOW WORD ISHMAAM;LOW WORD IMAALA;LOW WORD TASHEEL"),
  (0x089C, "ARABIC ", "MADDA WAAJIB;SUPERSCRIPT ALEF MOKHASSAS;DOUBLED MADDA;HALF MADDA OVER MADDA"),
  (0x08A0, "ARABIC LETTER ", "BEH WITH SMALL V BELOW;BEH WITH HAMZA ABOVE;JEEM WITH TWO DOTS ABOVE"),
  (0x08A3, "ARABIC LETTER ", "TAH WITH TWO DOTS ABOVE;FEH WITH DOT BELOW AND THREE DOTS ABOVE;QAF WITH DOT BELOW"),
  (0x08A6, "ARABIC LETTER ", "LAM WITH DOUBLE BAR;MEEM WITH THREE DOTS ABOVE"),
  (0x08A8, "ARABIC LETTER YEH WITH TWO DOTS BELOW AND ", "HAMZA ABOVE;DOT ABOVE"),
  (0x08AA, "ARABIC LETTER ", "REH WITH LOOP;WAW WITH DOT WITHIN;ROHINGYA YEH;LOW ALEF;DAL WITH THREE DOTS BELOW"),
  (0x08AF, "ARABIC LETTER ", "SAD WITH THREE DOTS BELOW;GAF WITH INVERTED STROKE;STRAIGHT WAW"),
  (0x08B2, "ARABIC LETTER ", "ZAIN WITH INVERTED V ABOVE;AIN WITH THREE DOTS BELOW;KAF WITH DOT BELOW"),
  (0x08B5, "ARABIC LETTER ", "QAF WITH DOT BELOW AND NO DOTS ABOVE;BEH WITH SMALL MEEM ABOVE"),
  (0x08B7, "ARABIC LETTER ", "PEH WITH SMALL MEEM ABOVE;TEH WITH SMALL TEH ABOVE;REH WITH SMALL NOON ABOVE"),
  (0x08BA, "ARABIC LETTER ", "YEH WITH TWO DOTS BELOW AND SMALL NOON ABOVE;AFRICAN FEH;AFRICAN QAF;AFRICAN NOON"),
  (0x08BE, "ARABIC LETTER ", "PEH WITH SMALL V;TEH WITH SMALL V;TTEH WITH SMALL V;TCHEH WITH SMALL V"),
  (0x08C2, "ARABIC LETTER ", "KEHEH WITH SMALL V;GHAIN WITH THREE DOTS ABOVE;AFRICAN QAF WITH THREE DOTS ABOVE"),
  (0x08C5, "ARABIC LETTER JEEM WITH THREE DOTS ", "ABOVE;BELOW")]

/-- The names from U+08C7 on. -/
def names08C7 : List NameRow := [
  (0x08C7, "ARABIC ", "LETTER LAM WITH SMALL ARABIC LETTER TAH ABOVE;LETTER GRAF;SMALL FARSI YEH"),
  (0x08CA, "ARABIC SMALL HIGH ", "FARSI YEH;YEH BARREE WITH TWO DOTS BELOW;WORD SAH;ZAH"),
  (0x08CE, "ARABIC LARGE ROUND DOT ", "ABOVE;BELOW"),
  (0x08D0, "ARABIC ", "SUKUN BELOW;LARGE CIRCLE BELOW;LARGE ROUND DOT INSIDE CIRCLE BELOW;SMALL LOW WAW"),
  (0x08D4, "ARABIC SMALL ", "HIGH WORD AR-RUB;HIGH SAD;HIGH AIN;HIGH QAF;HIGH NOON WITH KASRA;LOW NOON WITH KASRA"),
  (0x08DA, "ARABIC SMALL HIGH WORD ", "ATH-THALATHA;AS-SAJDA;AN-NISF;SAKTA;QIF;WAQFA"),
  (0x08E0, "ARABIC ", "SMALL HIGH FOOTNOTE MARKER;SMALL HIGH SIGN SAFHA;DISPUTED END OF AYAH;TURNED DAMMA BELOW"),
  (0x08E4, "ARABIC CURLY ", "FATHA;DAMMA;KASRA;FATHATAN;DAMMATAN;KASRATAN"),
  (0x08EA, "ARABIC TONE ", "ONE DOT ABOVE;TWO DOTS ABOVE;LOOP ABOVE;ONE DOT BELOW;TWO DOTS BELOW;LOOP BELOW"),
  (0x08F0, "ARABIC OPEN ", "FATHATAN;DAMMATAN;KASRATAN"),
  (0x08F3, "ARABIC ", "SMALL HIGH WAW;FATHA WITH RING;FATHA WITH DOT ABOVE;KASRA WITH DOT BELOW"),
  (0x08F7, "ARABIC ", "LEFT ARROWHEAD ABOVE;RIGHT ARROWHEAD ABOVE;LEFT ARROWHEAD BELOW;RIGHT ARROWHEAD BELOW"),
  (0x08FB, "ARABIC DOUBLE RIGHT ARROWHEAD ", "ABOVE;ABOVE WITH DOT"),
  (0x08FD, "ARABIC ", "RIGHT ARROWHEAD ABOVE WITH DOT;DAMMA WITH DOT;MARK SIDEWAYS NOON GHUNNA"),
  (0x0900, "DEVANAGARI SIGN ", "INVERTED CANDRABINDU;CANDRABINDU;ANUSVARA;VISARGA"),
  (0x0904, "DEVANAGARI LETTER ", "SHORT A;A;AA;I;II;U;UU;VOCALIC R;VOCALIC L;CANDRA E;SHORT E;E;AI;CANDRA O;SHORT O"),
  (0x0913, "DEVANAGARI LETTER ", "O;AU;KA;KHA;GA;GHA;NGA;CA;CHA;JA;JHA;NYA;TTA;TTHA;DDA;DDHA;NNA;TA;THA;DA;DHA;NA"),
  (0x0929, "DEVANAGARI LETTER ", "NNNA;PA;PHA;BA;BHA;MA;YA;RA;RRA;LA;LLA;LLLA;VA;SHA;SSA;SA;HA"),
  (0x093A, "DEVANAGARI ", "VOWEL SIGN OE;VOWEL SIGN OOE;SIGN NUKTA;SIGN AVAGRAHA"),
  (0x093E, "DEVANAGARI VOWEL SIGN ", "AA;I;II;U;UU;VOCALIC R;VOCALIC RR;CANDRA E;SHORT E;E;AI;CANDRA O;SHORT O;O;AU"),
  (0x094D, "DEVANAGARI ", "SIGN VIRAMA;VOWEL SIGN PRISHTHAMATRA E;VOWEL SIGN AW;OM;STRESS SIGN UDATTA"),
  (0x0952, "DEVANAGARI ", "STRESS SIGN ANUDATTA;GRAVE ACCENT;ACUTE ACCENT"),
  (0x0955, "DEVANAGARI VOWEL SIGN ", "CANDRA LONG E;UE;UUE"),
  (0x0958, "DEVANAGARI LETTER ", "QA;KHHA;GHHA;ZA;DDDHA;RHA;FA;YYA;VOCALIC RR;VOCALIC LL"),
  (0x0962, "DEVANAGARI ", "VOWEL SIGN VOCALIC L;VOWEL SIGN VOCALIC LL;DANDA;DOUBLE DANDA"),
  (0x0966, "DEVANAGARI DIGIT ", "ZERO;ONE;TWO;THREE;FOUR;FIVE;SIX;SEVEN;EIGHT;NINE"),
  (0x0970, "DEVANAGARI ", "ABBREVIATION SIGN;SIGN HIGH SPACING DOT"),
  (0x0972, "DEVANAGARI LETTER ", "CANDRA A;OE;OOE;AW;UE;UUE;MARWARI DDA;ZHA;HEAVY YA;GGA;JJA;GLOTTAL STOP;DDDA;BBA"),
  (0x0980, "BENGALI ", "ANJI;SIGN CANDRABINDU;SIGN ANUSVARA;SIGN VISARGA"),
  (0x0985, "BENGALI LETTER ", "A;AA;I;II;U;UU;VOCALIC R;VOCALIC L"), (0x098F, "BENGALI LETTER ", "E;AI"),
  (0x0993, "BENGALI LETTER ", "O;AU;KA;KHA;GA;GHA;NGA;CA;CHA;JA;JHA;NYA;TTA;TTHA;DDA;DDHA;NNA;TA;THA;DA;DHA;NA"),
  (0x09AA, "BENGALI LETTER ", "PA;PHA;BA;BHA;MA;YA;RA"), (0x09B2, "BENGALI LETTER ", "LA"),
  (0x09B6, "BENGALI LETTER ", "SHA;SSA;SA;HA"), (0x09BC, "BENGALI SIGN ", "NUKTA;AVAGRAHA"),
  (0x09BE, "BENGALI VOWEL SIGN ", "AA;I;II;U;UU;VOCALIC R;VOCALIC RR"), (0x09C7, "BENGALI VOWEL SIGN ", "E;AI"),
  (0x09CB, "BENGALI ", "VOWEL SIGN O;VOWEL SIGN AU;SIGN VIRAMA;LETTER KHANDA TA"),
  (0x09D7, "BENGALI AU LENGTH ", "MARK"), (0x09DC, "BENGALI LETTER ", "RRA;RHA"),
  (0x09DF, "BENGALI LETTER ", "YYA;VOCALIC RR;VOCALIC LL"), (0x09E2, "BENGALI VOWEL SIGN VOCALIC ", "L;LL"),
  (0x09E6, "BENGALI DIGIT ", "ZERO;ONE;TWO;THREE;FOUR;FIVE;SIX;SEVEN;EIGHT;NINE"),
  (0x09F0, "BENGALI ", "LETTER RA WITH MIDDLE DIAGONAL;LETTER RA WITH LOWER DIAGONAL;RUPEE MARK;RUPEE SIGN"),
  (0x09F4, "BENGALI CURRENCY NUMERATOR ", "ONE;TWO;THREE;FOUR;ONE LESS THAN THE DENOMINATOR"),
  (0x09F9, "BENGALI ", "CURRENCY DENOMINATOR SIXTEEN;ISSHAR;GANDA MARK;LETTER VEDIC ANUSVARA;ABBREVIATION SIGN"),
  (0x09FE, "BENGALI SANDHI ", "MARK"), (0x0A01, "GURMUKHI SIGN ", "ADAK BINDI;BINDI;VISARGA"),
  (0x0A05, "GURMUKHI LETTER ", "A;AA;I;II;U;UU"), (0x0A0F, "GURMUKHI LETTER ", "EE;AI"),
  (0x0A13, "GURMUKHI LETTER ", "OO;AU;KA;KHA;GA;GHA;NGA;CA;CHA;JA;JHA;NYA;TTA;TTHA;DDA;DDHA;NNA;TA;THA;DA;DHA;NA"),
  (0x0A2A, "GURMUKHI LETTER ", "PA;PHA;BA;BHA;MA;YA;RA"), (0x0A32, "GURMUKHI LETTER ", "LA;LLA"),
  (0x0A35, "GURMUKHI LETTER ", "VA;SHA"), (0x0A38, "GURMUKHI LETTER ", "SA;HA"), (0x0A3C, "GURMUKHI SIGN ", "NUKTA"),
  (0x0A3E, "GURMUKHI VOWEL SIGN ", "AA;I;II;U;UU"), (0x0A47, "GURMUKHI VOWEL SIGN ", "EE;AI"),
  (0x0A4B, "GURMUKHI ", "VOWEL SIGN OO;VOWEL SIGN AU;SIGN VIRAMA"), (0x0A51, "GURMUKHI SIGN ", "UDAAT"),
  (0x0A59, "GURMUKHI LETTER ", "KHHA;GHHA;ZA;RRA"), (0x0A5E, "GURMUKHI LETTER ", "FA"),
  (0x0A66, "GURMUKHI DIGIT ", "ZERO;ONE;TWO;THREE;FOUR;FIVE;SIX;SEVEN;EIGHT;NINE"),
  (0x0A70, "GURMUKHI ", "TIPPI;ADDAK;IRI;URA;EK ONKAR;SIGN YAKASH;ABBREVIATION SIGN"),
  (0x0A81, "GUJARATI SIGN ", "CANDRABINDU;ANUSVARA;VISARGA"),
  (0x0A85, "GUJARATI LETTER ", "A;AA;I;II;U;UU;VOCALIC R;VOCALIC L"), (0x0A8D, "GUJARATI VOWEL CANDRA ", "E"),
  (0x0A8F, "GUJARATI ", "LETTER E;LETTER AI;VOWEL CANDRA O"),
  (0x0A93, "GUJARATI LETTER ", "O;AU;KA;KHA;GA;GHA;NGA;CA;CHA;JA;JHA;NYA;TTA;TTHA;DDA;DDHA;NNA;TA;THA;DA;DHA;NA"),
  (0x0AAA, "GUJARATI LETTER ", "PA;PHA;BA;BHA;MA;YA;RA"), (0x0AB2, "GUJARATI LETTER ", "LA;LLA"),
  (0x0AB5, "GUJARATI LETTER ", "VA;SHA;SSA;SA;HA"), (0x0ABC, "GUJARATI SIGN ", "NUKTA;AVAGRAHA"),
  (0x0ABE, "GUJARATI VOWEL SIGN ", "AA;I;II;U;UU;VOCALIC R;VOCALIC RR;CANDRA E"),
  (0x0AC7, "GUJARATI VOWEL SIGN ", "E;AI;CANDRA O"), (0x0ACB, "GUJARATI ", "VOWEL SIGN O;VOWEL SIGN AU;SIGN VIRAMA"),
  (0x0AD0, "GUJARATI ", "OM"), (0x0AE0, "GUJARATI LETTER VOCALIC ", "RR;LL"),
  (0x0AE2, "GUJARATI VOWEL SIGN VOCALIC ", "L;LL"),
  (0x0AE6, "GUJARATI DIGIT ", "ZERO;ONE;TWO;THREE;FOUR;FIVE;SIX;SEVEN;EIGHT;NINE"),
  (0x0AF0, "GUJARATI ", "ABBREVIATION SIGN;RUPEE SIGN"), (0x0AF9, "GUJARATI LETTER ", "ZHA"),
  (0x0AFA, "GUJARATI SIGN ", "SUKUN;SHADDA;MADDAH;THREE-DOT NUKTA ABOVE;CIRCLE NUKTA ABOVE;TWO-CIRCLE NUKTA ABOVE"),
  (0x0B01, "ORIYA SIGN ", "CANDRABINDU;ANUSVARA;VISARGA"),
  (0x0B05, "ORIYA LETTER ", "A;AA;I;II;U;UU;VOCALIC R;VOCALIC L"), (0x0B0F, "ORIYA LETTER ", "E;AI"),
  (0x0B13, "ORIYA LETTER ", "O;AU;KA;KHA;GA;GHA;NGA;CA;CHA;JA;JHA;NYA;TTA;TTHA;DDA;DDHA;NNA;TA;THA;DA;DHA;NA"),
  (0x0B2A, "ORIYA LETTER ", "PA;PHA;BA;BHA;MA;YA;RA"), (0x0B32, "ORIYA LETTER ", "LA;LLA"),
  (0x0B35, "ORIYA LETTER ", "VA;SHA;SSA;SA;HA"), (0x0B3C, "ORIYA SIGN ", "NUKTA;AVAGRAHA"),
  (0x0B3E, "ORIYA VOWEL SIGN ", "AA;I;II;U;UU;VOCALIC R;VOCALIC RR"), (0x0B47, "ORIYA VOWEL SIGN ", "E;AI"),
  (0x0B4B, "ORIYA ", "VOWEL SIGN O;VOWEL SIGN AU;SIGN VIRAMA"),
  (0x0B55, "ORIYA ", "SIGN OVERLINE;AI LENGTH MARK;AU LENGTH MARK"), (0x0B5C, "ORIYA LETTER ", "RRA;RHA"),
  (0x0B5F, "ORIYA LETTER ", "YYA;VOCALIC RR;VOCALIC LL"), (0x0B62, "ORIYA VOWEL SIGN VOCALIC ", "L;LL"),
  (0x0B66, "ORIYA DIGIT ", "ZERO;ONE;TWO;THREE;FOUR;FIVE;SIX;SEVEN;EIGHT;NINE")]

/-- The names from U+0B70 on. -/
def names0B70 : List NameRow := [
  (0x0B70, "ORIYA ", "ISSHAR;LETTER WA"),
  (0x0B72, "ORIYA FRACTION ", "ONE QUARTER;ONE HALF;THREE QUARTERS;ONE SIXTEENTH;ONE EIGHTH;THREE SIXTEENTHS"),
  (0x0B82, "TAMIL SIGN ", "ANUSVARA;VISARGA"), (0x0B85, "TAMIL LETTER ", "A;AA;I;II;U;UU"),
  (0x0B8E, "TAMIL LETTER ", "E;EE;AI"), (0x0B92, "TAMIL LETTER ", "O;OO;AU;KA"), (0x0B99, "TAMIL LETTER ", "NGA;CA"),
  (0x0B9C, "TAMIL LETTER ", "JA"), (0x0B9E, "TAMIL LETTER ", "NYA;TTA"), (0x0BA3, "TAMIL LETTER ", "NNA;TA"),
  (0x0BA8, "TAMIL LETTER ", "NA;NNNA;PA"), (0x0BAE, "TAMIL LETTER ", "MA;YA;RA;RRA;LA;LLA;LLLA;VA;SHA;SSA;SA;HA"),
  (0x0BBE, "TAMIL VOWEL SIGN ", "AA;I;II;U;UU"), (0x0BC6, "TAMIL VOWEL SIGN ", "E;EE;AI"),
  (0x0BCA, "TAMIL ", "VOWEL SIGN O;VOWEL SIGN OO;VOWEL SIGN AU;SIGN VIRAMA"), (0x0BD0, "TAMIL ", "OM"),
  (0x0BD7, "TAMIL AU LENGTH ", "MARK"), (0x0BE6, "TAMIL DIGIT ", "ZERO;ONE;TWO;THREE;FOUR;FIVE;SIX;SEVEN;EIGHT;NINE"),
  (0x0BF0, "TAMIL NUMBER ", "TEN;ONE HUNDRED;ONE THOUSAND"),
  (0x0BF3, "TAMIL ", "DAY SIGN;MONTH SIGN;YEAR SIGN;DEBIT SIGN;CREDIT SIGN;AS ABOVE SIGN;RUPEE SIGN;NUMBER SIGN"),
  (0x0C00, "TELUGU SIGN ", "COMBINING CANDRABINDU ABOVE;CANDRABINDU;ANUSVARA;VISARGA;COMBINING ANUSVARA ABOVE"),
  (0x0C05, "TELUGU LETTER ", "A;AA;I;II;U;UU;VOCALIC R;VOCALIC L"), (0x0C0E, "TELUGU LETTER ", "E;EE;AI"),
  (0x0C12, "TELUGU LETTER ", "O;OO;AU;KA;KHA;GA;GHA;NGA;CA;CHA;JA;JHA;NYA;TTA;TTHA;DDA;DDHA;NNA;TA;THA;DA;DHA;NA"),
  (0x0C2A, "TELUGU LETTER ", "PA;PHA;BA;BHA;MA;YA;RA;RRA;LA;LLA;LLLA;VA;SHA;SSA;SA;HA"),
  (0x0C3C, "TELUGU SIGN ", "NUKTA;AVAGRAHA"), (0x0C3E, "TELUGU VOWEL SIGN ", "AA;I;II;U;UU;VOCALIC R;VOCALIC RR"),
  (0x0C46, "TELUGU VOWEL SIGN ", "E;EE;AI"),
  (0x0C4A, "TELUGU ", "VOWEL SIGN O;VOWEL SIGN OO;VOWEL SIGN AU;SIGN VIRAMA"),
  (0x0C55, "TELUGU ", "LENGTH MARK;AI LENGTH MARK"), (0x0C58, "TELUGU LETTER ", "TSA;DZA;RRRA"),
  (0x0C5D, "TELUGU LETTER NAKAARA ", "POLLU"), (0x0C60, "TELUGU LETTER VOCALIC ", "RR;LL"),
  (0x0C62, "TELUGU VOWEL SIGN VOCALIC ", "L;LL"),
  (0x0C66, "TELUGU DIGIT ", "ZERO;ONE;TWO;THREE;FOUR;FIVE;SIX;SEVEN;EIGHT;NINE"),
  (0x0C77, "TELUGU ", "SIGN SIDDHAM;FRACTION DIGIT ZERO FOR ODD POWERS OF FOUR"),
  (0x0C79, "TELUGU FRACTION DIGIT ", "ONE FOR ODD POWERS OF FOUR;TWO FOR ODD POWERS OF FOUR"),
  (0x0C7B, "TELUGU FRACTION DIGIT ", "THREE FOR ODD POWERS OF FOUR;ONE FOR EVEN POWERS OF FOUR"),
  (0x0C7D, "TELUGU FRACTION DIGIT ", "TWO FOR EVEN POWERS OF FOUR;THREE FOR EVEN POWERS OF FOUR"),
  (0x0C7F, "TELUGU SIGN ", "TUUMU"),
  (0x0C80, "KANNADA SIGN ", "SPACING CANDRABINDU;CANDRABINDU;ANUSVARA;VISARGA;SIDDHAM"),
  (0x0C85, "KANNADA LETTER ", "A;AA;I;II;U;UU;VOCALIC R;VOCALIC L"), (0x0C8E, "KANNADA LETTER ", "E;EE;AI"),
  (0x0C92, "KANNADA LETTER ", "O;OO;AU;KA;KHA;GA;GHA;NGA;CA;CHA;JA;JHA;NYA;TTA;TTHA;DDA;DDHA;NNA;TA;THA;DA;DHA;NA"),
  (0x0CAA, "KANNADA LETTER ", "PA;PHA;BA;BHA;MA;YA;RA;RRA;LA;LLA"), (0x0CB5, "KANNADA LETTER ", "VA;SHA;SSA;SA;HA"),
  (0x0CBC, "KANNADA SIGN ", "NUKTA;AVAGRAHA"), (0x0CBE, "KANNADA VOWEL SIGN ", "AA;I;II;U;UU;VOCALIC R;VOCALIC RR"),
  (0x0CC6, "KANNADA VOWEL SIGN ", "E;EE;AI"),
  (0x0CCA, "KANNADA ", "VOWEL SIGN O;VOWEL SIGN OO;VOWEL SIGN AU;SIGN VIRAMA"),
  (0x0CD5, "KANNADA ", "LENGTH MARK;AI LENGTH MARK"), (0x0CDD, "KANNADA LETTER ", "NAKAARA POLLU;FA"),
  (0x0CE0, "KANNADA LETTER VOCALIC ", "RR;LL"), (0x0CE2, "KANNADA VOWEL SIGN VOCALIC ", "L;LL"),
  (0x0CE6, "KANNADA DIGIT ", "ZERO;ONE;TWO;THREE;FOUR;FIVE;SIX;SEVEN;EIGHT;NINE"),
  (0x0CF1, "KANNADA SIGN ", "JIHVAMULIYA;UPADHMANIYA"),
  (0x0D00, "MALAYALAM SIGN ", "COMBINING ANUSVARA ABOVE;CANDRABINDU;ANUSVARA;VISARGA"),
  (0x0D04, "MALAYALAM LETTER ", "VEDIC ANUSVARA;A;AA;I;II;U;UU;VOCALIC R;VOCALIC L"),
  (0x0D0E, "MALAYALAM LETTER ", "E;EE;AI"),
  (0x0D12, "MALAYALAM LETTER ", "O;OO;AU;KA;KHA;GA;GHA;NGA;CA;CHA;JA;JHA;NYA;TTA;TTHA;DDA;DDHA;NNA;TA;THA;DA;DHA;NA"),
  (0x0D29, "MALAYALAM LETTER ", "NNNA;PA;PHA;BA;BHA;MA;YA;RA;RRA;LA;LLA;LLLA;VA;SHA;SSA;SA;HA;TTTA"),
  (0x0D3B, "MALAYALAM SIGN ", "VERTICAL BAR VIRAMA;CIRCULAR VIRAMA;AVAGRAHA"),
  (0x0D3E, "MALAYALAM VOWEL SIGN ", "AA;I;II;U;UU;VOCALIC R;VOCALIC RR"), (0x0D46, "MALAYALAM VOWEL SIGN ", "E;EE;AI"),
  (0x0D4A, "MALAYALAM ", "VOWEL SIGN O;VOWEL SIGN OO;VOWEL SIGN AU;SIGN VIRAMA;LETTER DOT REPH;SIGN PARA"),
  (0x0D54, "MALAYALAM LETTER CHILLU ", "M;Y;LLL"),
  (0x0D57, "MALAYALAM ", "AU LENGTH MARK;FRACTION ONE ONE-HUNDRED-AND-SIXTIETH"),
  (0x0D59, "MALAYALAM FRACTION ", "ONE FORTIETH;THREE EIGHTIETHS;ONE TWENTIETH;ONE TENTH;THREE TWENTIETHS;ONE FIFTH"),
  (0x0D5F, "MALAYALAM LETTER ", "ARCHAIC II;VOCALIC RR;VOCALIC LL"), (0x0D62, "MALAYALAM VOWEL SIGN VOCALIC ", "L;LL"),
  (0x0D66, "MALAYALAM DIGIT ", "ZERO;ONE;TWO;THREE;FOUR;FIVE;SIX;SEVEN;EIGHT;NINE"),
  (0x0D70, "MALAYALAM NUMBER ", "TEN;ONE HUNDRED;ONE THOUSAND"),
  (0x0D73, "MALAYALAM FRACTION ", "ONE QUARTER;ONE HALF;THREE QUARTERS;ONE SIXTEENTH;ONE EIGHTH;THREE SIXTEENTHS"),
  (0x0D79, "MALAYALAM DATE ", "MARK"), (0x0D7A, "MALAYALAM LETTER CHILLU ", "NN;N;RR;L;LL;K"),
  (0x0D81, "SINHALA SIGN ", "CANDRABINDU;ANUSVARAYA;VISARGAYA"),
  (0x0D85, "SINHALA LETTER ", "AYANNA;AAYANNA;AEYANNA;AEEYANNA;IYANNA;IIYANNA;UYANNA;UUYANNA;IRUYANNA;IRUUYANNA"),
  (0x0D8F, "SINHALA LETTER ", "ILUYANNA;ILUUYANNA;EYANNA;EEYANNA;AIYANNA;OYANNA;OOYANNA;AUYANNA"),
  (0x0D9A, "SINHALA LETTER ", "ALPAPRAANA KAYANNA;MAHAAPRAANA KAYANNA;ALPAPRAANA GAYANNA;MAHAAPRAANA GAYANNA"),
  (0x0D9E, "SINHALA LETTER ", "KANTAJA NAASIKYAYA;SANYAKA GAYANNA;ALPAPRAANA CAYANNA;MAHAAPRAANA CAYANNA"),
  (0x0DA2, "SINHALA LETTER ", "ALPAPRAANA JAYANNA;MAHAAPRAANA JAYANNA"),
  (0x0DA4, "SINHALA LETTER TAALUJA ", "NAASIKYAYA;SANYOOGA NAAKSIKYAYA"),
  (0x0DA6, "SINHALA LETTER ", "SANYAKA JAYANNA;ALPAPRAANA TTAYANNA;MAHAAPRAANA TTAYANNA;ALPAPRAANA DDAYANNA"),
  (0x0DAA, "SINHALA LETTER ", "MAHAAPRAANA DDAYANNA;MUURDHAJA NAYANNA;SANYAKA DDAYANNA;ALPAPRAANA TAYANNA"),
  (0x0DAE, "SINHALA LETTER ", "MAHAAPRAANA TAYANNA;ALPAPRAANA DAYANNA;MAHAAPRAANA DAYANNA;DANTAJA NAYANNA"),
  (0x0DB3, "SINHALA LETTER ", "SANYAKA DAYANNA;ALPAPRAANA PAYANNA;MAHAAPRAANA PAYANNA;ALPAPRAANA BAYANNA"),
  (0x0DB7, "SINHALA LETTER ", "MAHAAPRAANA BAYANNA;MAYANNA;AMBA BAYANNA;YAYANNA;RAYANNA"),
  (0x0DBD, "SINHALA LETTER DANTAJA ", "LAYANNA"),
  (0x0DC0, "SINHALA LETTER ", "VAYANNA;TAALUJA SAYANNA;MUURDHAJA SAYANNA;DANTAJA SAYANNA;HAYANNA;MUURDHAJA LAYANNA"),
  (0x0DC6, "SINHALA LETTER ", "FAYANNA"), (0x0DCA, "SINHALA SIGN AL-", "LAKUNA"),
  (0x0DCF, "SINHALA VOWEL SIGN ", "AELA-PILLA;KETTI AEDA-PILLA;DIGA AEDA-PILLA;KETTI IS-PILLA;DIGA IS-PILLA"),
  (0x0DD4, "SINHALA VOWEL SIGN KETTI PAA-", "PILLA"), (0x0DD6, "SINHALA VOWEL SIGN DIGA PAA-", "PILLA"),
  (0x0DD8, "SINHALA VOWEL SIGN ", "GAETTA-PILLA;KOMBUVA;DIGA KOMBUVA;KOMBU DEKA;KOMBUVA HAA AELA-PILLA"),
  (0x0DDD, "SINHALA VOWEL SIGN ", "KOMBUVA HAA DIGA AELA-PILLA;KOMBUVA HAA GAYANUKITTA;GAYANUKITTA"),
  (0x0DE6, "SINHALA LITH DIGIT ", "ZERO;ONE;TWO;THREE;FOUR;FIVE;SIX;SEVEN;EIGHT;NINE"),
  (0x0DF2, "SINHALA ", "VOWEL SIGN DIGA GAETTA-PILLA;VOWEL SIGN DIGA GAYANUKITTA;PUNCTUATION KUNDDALIYA"),
  (0x0E01, "THAI CHARACTER ", "KO KAI;KHO KHAI;KHO KHUAT;KHO KHWAI;KHO KHON;KHO RAKHANG;NGO NGU;CHO CHAN;CHO CHING"),
  (0x0E0A, "THAI CHARACTER ", "CHO CHANG;SO SO;CHO CHOE;YO YING;DO CHADA;TO PATAK;THO THAN;THO NANGMONTHO")]

/-- The names from U+0E12 on. -/
def names0E12 : List NameRow := [
  (0x0E12, "THAI CHARACTER ", "THO PHUTHAO;NO NEN;DO DEK;TO TAO;THO THUNG;THO THAHAN;THO THONG;NO NU;BO BAIMAI"),
  (0x0E1B, "THAI CHARACTER ", "PO PLA;PHO PHUNG;FO FA;PHO PHAN;FO FAN;PHO SAMPHAO;MO MA;YO YAK;RO RUA;RU;LO LING;LU"),
  (0x0E27, "THAI CHARACTER ", "WO WAEN;SO SALA;SO RUSI;SO SUA;HO HIP;LO CHULA;O ANG;HO NOKHUK;PAIYANNOI;SARA A"),
  (0x0E31, "THAI CHARACTER ", "MAI HAN-AKAT;SARA AA;SARA AM;SARA I;SARA II;SARA UE;SARA UEE;SARA U;SARA UU;PHINTHU"),
  (0x0E3F, "THAI CURRENCY SYMBOL ", "BAHT"),
  (0x0E40, "THAI CHARACTER ", "SARA E;SARA AE;SARA O;SARA AI MAIMUAN;SARA AI MAIMALAI;LAKKHANGYAO;MAIYAMOK"),
  (0x0E47, "THAI CHARACTER ", "MAITAIKHU;MAI EK;MAI THO;MAI TRI;MAI CHATTAWA;THANTHAKHAT;NIKHAHIT;YAMAKKAN;FONGMAN"),
  (0x0E50, "THAI DIGIT ", "ZERO;ONE;TWO;THREE;FOUR;FIVE;SIX;SEVEN;EIGHT;NINE"),
  (0x0E5A, "THAI CHARACTER ", "ANGKHANKHU;KHOMUT"), (0x0E81, "LAO LETTER ", "KO;KHO SUNG"),
  (0x0E84, "LAO LETTER KHO ", "TAM"), (0x0E86, "LAO LETTER ", "PALI GHA;NGO;CO;PALI CHA;SO TAM"),
  (0x0E8C, "LAO LETTER ", "PALI JHA;NYO;PALI NYA;PALI TTA;PALI TTHA;PALI DDA;PALI DDHA;PALI NNA;DO;TO;THO SUNG"),
  (0x0E97, "LAO LETTER ", "THO TAM;PALI DHA;NO;BO;PO;PHO SUNG;FO TAM;PHO TAM;FO SUNG;PALI BHA;MO;YO;LO LING"),
  (0x0EA5, "LAO LETTER LO ", "LOOT"),
  (0x0EA7, "LAO LETTER ", "WO;SANSKRIT SHA;SANSKRIT SSA;SO SUNG;HO SUNG;PALI LLA;O;HO TAM"),
  (0x0EAF, "LAO ", "ELLIPSIS"), (0x0EB0, "LAO VOWEL SIGN ", "A;MAI KAN;AA;AM;I;II;Y;YY;U;UU"),
  (0x0EBA, "LAO ", "SIGN PALI VIRAMA;VOWEL SIGN MAI KON;SEMIVOWEL SIGN LO;SEMIVOWEL SIGN NYO"),
  (0x0EC0, "LAO VOWEL SIGN ", "E;EI;O;AY;AI"), (0x0EC6, "LAO KO ", "LA"), (0x0EC8, "LAO TONE MAI ", "EK;THO;TI;CATAWA"),
  (0x0ECC, "LAO ", "CANCELLATION MARK;NIGGAHITA"),
  (0x0ED0, "LAO DIGIT ", "ZERO;ONE;TWO;THREE;FOUR;FIVE;SIX;SEVEN;EIGHT;NINE"),
  (0x0EDC, "LAO ", "HO NO;HO MO;LETTER KHMU GO;LETTER KHMU NYO"), (0x0F00, "TIBETAN SYLLABLE ", "OM"),
  (0x0F01, "TIBETAN MARK GTER YIG MGO ", "TRUNCATED A;-UM RNAM BCAD MA;-UM GTER TSHEG MA"),
  (0x0F04, "TIBETAN MARK ", "INITIAL YIG MGO MDUN MA;CLOSING YIG MGO SGAB MA;CARET YIG MGO PHUR SHAD MA"),
  (0x0F07, "TIBETAN MARK ", "YIG MGO TSHEG SHAD MA;SBRUL SHAD;BSKUR YIG MGO;BKA- SHOG YIG MGO;INTERSYLLABIC TSHEG"),
  (0x0F0C, "TIBETAN MARK ", "DELIMITER TSHEG BSTAR;SHAD;NYIS SHAD;TSHEG SHAD;NYIS TSHEG SHAD;RIN CHEN SPUNGS SHAD"),
  (0x0F12, "TIBETAN MARK ", "RGYA GRAM SHAD;CARET -DZUD RTAGS ME LONG CAN;GTER TSHEG"),
  (0x0F15, "TIBETAN LOGOTYPE SIGN ", "CHAD RTAGS;LHAG RTAGS"),
  (0x0F17, "TIBETAN ASTROLOGICAL SIGN ", "SGRA GCAN -CHAR RTAGS;-KHYUD PA;SDONG TSHUGS"),
  (0x0F1A, "TIBETAN SIGN RDEL ", "DKAR GCIG;DKAR GNYIS;DKAR GSUM;NAG GCIG;NAG GNYIS;DKAR RDEL NAG"),
  (0x0F20, "TIBETAN DIGIT ", "ZERO;ONE;TWO;THREE;FOUR;FIVE;SIX;SEVEN;EIGHT;NINE"),
  (0x0F2A, "TIBETAN DIGIT HALF ", "ONE;TWO;THREE;FOUR;FIVE;SIX;SEVEN;EIGHT;NINE;ZERO"),
  (0x0F34, "TIBETAN MARK ", "BSDUS RTAGS;NGAS BZUNG NYI ZLA;CARET -DZUD RTAGS BZHI MIG CAN;NGAS BZUNG SGOR RTAGS"),
  (0x0F38, "TIBETAN MARK ", "CHE MGO;TSA -PHRU;GUG RTAGS GYON;GUG RTAGS GYAS;ANG KHANG GYON;ANG KHANG GYAS"),
  (0x0F3E, "TIBETAN SIGN ", "YAR TSHES;MAR TSHES"), (0x0F40, "TIBETAN LETTER ", "KA;KHA;GA;GHA;NGA;CA;CHA;JA"),
  (0x0F49, "TIBETAN LETTER ", "NYA;TTA;TTHA;DDA;DDHA;NNA;TA;THA;DA;DHA;NA;PA;PHA;BA;BHA;MA;TSA;TSHA;DZA;DZHA;WA;ZHA"),
  (0x0F5F, "TIBETAN LETTER ", "ZA;-A;YA;RA;LA;SHA;SSA;SA;HA;A;KSSA;FIXED-FORM RA;KKA;RRA"),
  (0x0F71, "TIBETAN VOWEL SIGN ", "AA;I;II;U;UU;VOCALIC R;VOCALIC RR;VOCALIC L;VOCALIC LL;E;EE;O;OO"),
  (0x0F7E, "TIBETAN ", "SIGN RJES SU NGA RO;SIGN RNAM BCAD;VOWEL SIGN REVERSED I;VOWEL SIGN REVERSED II"),
  (0x0F82, "TIBETAN ", "SIGN NYI ZLA NAA DA;SIGN SNA LDAN;MARK HALANTA;MARK PALUTA;SIGN LCI RTAGS"),
  (0x0F87, "TIBETAN SIGN ", "YANG RTAGS;LCE TSA CAN;MCHU CAN;GRU CAN RGYINGS;GRU MED RGYINGS;INVERTED MCHU CAN"),
  (0x0F8D, "TIBETAN SUBJOINED SIGN ", "LCE TSA CAN;MCHU CAN;INVERTED MCHU CAN"),
  (0x0F90, "TIBETAN SUBJOINED LETTER ", "KA;KHA;GA;GHA;NGA;CA;CHA;JA"),
  (0x0F99, "TIBETAN SUBJOINED LETTER ", "NYA;TTA;TTHA;DDA;DDHA;NNA;TA;THA;DA;DHA;NA;PA;PHA;BA;BHA;MA;TSA;TSHA;DZA"),
  (0x0FAC, "TIBETAN SUBJOINED LETTER ", "DZHA;WA;ZHA;ZA;-A;YA;RA;LA;SHA;SSA;SA;HA;A;KSSA"),
  (0x0FBA, "TIBETAN SUBJOINED LETTER FIXED-FORM ", "WA;YA;RA"), (0x0FBE, "TIBETAN KU RU ", "KHA;KHA BZHI MIG CAN"),
  (0x0FC0, "TIBETAN CANTILLATION SIGN ", "HEAVY BEAT;LIGHT BEAT;CANG TE-U;SBUB -CHAL"),
  (0x0FC4, "TIBETAN SYMBOL ", "DRIL BU;RDO RJE;PADMA GDAN;RDO RJE RGYA GRAM;PHUR PA;NOR BU"),
  (0x0FCA, "TIBETAN SYMBOL NOR BU ", "NYIS -KHYIL;GSUM -KHYIL;BZHI -KHYIL"),
  (0x0FCE, "TIBETAN SIGN RDEL NAG ", "RDEL DKAR;GSUM"),
  (0x0FD0, "TIBETAN MARK ", "BSKA- SHOG GI MGO RGYAN;MNYAM YIG GI MGO RGYAN;NYIS TSHEG"),
  (0x0FD3, "TIBETAN MARK ", "INITIAL BRDA RNYING YIG MGO MDUN MA;CLOSING BRDA RNYING YIG MGO SGAB MA"),
  (0x0FD5, "", "RIGHT-FACING SVASTI SIGN;LEFT-FACING SVASTI SIGN;RIGHT-FACING SVASTI SIGN WITH DOTS"),
  (0x0FD8, "LEFT-FACING SVASTI SIGN WITH ", "DOTS"),
  (0x0FD9, "TIBETAN MARK ", "LEADING MCHAN RTAGS;TRAILING MCHAN RTAGS"),
  (0x1000, "MYANMAR LETTER ", "KA;KHA;GA;GHA;NGA;CA;CHA;JA;JHA;NYA;NNYA;TTA;TTHA;DDA;DDHA;NNA;TA;THA;DA;DHA;NA;PA"),
  (0x1016, "MYANMAR LETTER ", "PHA;BA;BHA;MA;YA;RA;LA;WA;SA;HA;LLA;A;SHAN A;I;II;U;UU;E;MON E;O;AU"),
  (0x102B, "MYANMAR VOWEL SIGN ", "TALL AA;AA;I;II;U;UU;E;AI;MON II;MON O;E ABOVE"),
  (0x1036, "MYANMAR SIGN ", "ANUSVARA;DOT BELOW;VISARGA;VIRAMA;ASAT"),
  (0x103B, "MYANMAR CONSONANT SIGN MEDIAL ", "YA;RA;WA;HA"), (0x103F, "MYANMAR LETTER GREAT ", "SA"),
  (0x1040, "MYANMAR DIGIT ", "ZERO;ONE;TWO;THREE;FOUR;FIVE;SIX;SEVEN;EIGHT;NINE"),
  (0x104A, "MYANMAR SIGN ", "LITTLE SECTION;SECTION"),
  (0x104C, "MYANMAR SYMBOL ", "LOCATIVE;COMPLETED;AFOREMENTIONED;GENITIVE"),
  (0x1050, "MYANMAR LETTER ", "SHA;SSA;VOCALIC R;VOCALIC RR;VOCALIC L;VOCALIC LL"),
  (0x1056, "MYANMAR VOWEL SIGN VOCALIC ", "R;RR;L;LL"), (0x105A, "MYANMAR LETTER MON ", "NGA;JHA;BBA;BBE"),
  (0x105E, "MYANMAR CONSONANT SIGN MON MEDIAL ", "NA;MA;LA"),
  (0x1061, "MYANMAR ", "LETTER SGAW KAREN SHA;VOWEL SIGN SGAW KAREN EU"),
  (0x1063, "MYANMAR TONE MARK SGAW KAREN ", "HATHI;KE PHO"), (0x1065, "MYANMAR LETTER WESTERN PWO KAREN ", "THA;PWA"),
  (0x1067, "MYANMAR VOWEL SIGN WESTERN PWO KAREN ", "EU;UE"),
  (0x1069, "MYANMAR SIGN WESTERN PWO KAREN TONE-", "1;2;3;4;5"),
  (0x106E, "MYANMAR LETTER EASTERN PWO KAREN ", "NNA;YWA;GHWA"),
  (0x1071, "MYANMAR VOWEL SIGN ", "GEBA KAREN I;KAYAH OE;KAYAH U;KAYAH EE"),
  (0x1075, "MYANMAR LETTER SHAN ", "KA;KHA;GA;CA;ZA;NYA;DA;NA;PHA;FA;BA;THA;HA"),
  (0x1082, "MYANMAR CONSONANT SIGN SHAN MEDIAL ", "WA"), (0x1083, "MYANMAR VOWEL SIGN SHAN ", "AA;E;E ABOVE;FINAL Y"),
  (0x1087, "MYANMAR SIGN SHAN ", "TONE-2;TONE-3;TONE-5;TONE-6;COUNCIL TONE-2;COUNCIL TONE-3;COUNCIL EMPHATIC TONE"),
  (0x108E, "MYANMAR ", "LETTER RUMAI PALAUNG FA;SIGN RUMAI PALAUNG TONE-5"),
  (0x1090, "MYANMAR SHAN DIGIT ", "ZERO;ONE;TWO;THREE;FOUR;FIVE;SIX;SEVEN;EIGHT;NINE"),
  (0x109A, "MYANMAR SIGN KHAMTI TONE-", "1;3"), (0x109C, "MYANMAR VOWEL SIGN AITON ", "A;AI"),
  (0x109E, "MYANMAR SYMBOL SHAN ", "ONE;EXCLAMATION"),
  (0x10A0, "GEORGIAN CAPITAL LETTER ", "AN;BAN;GAN;DON;EN;VIN;ZEN;TAN;IN;KAN;LAS;MAN;NAR;ON;PAR;ZHAR;RAE;SAN;TAR;UN"),
  (0x10B4, "GEORGIAN CAPITAL LETTER ", "PHAR;KHAR;GHAN;QAR;SHIN;CHIN;CAN;JIL;CIL;CHAR;XAN;JHAN;HAE;HE;HIE;WE;HAR"),
  (0x10C5, "GEORGIAN CAPITAL LETTER ", "HOE"), (0x10C7, "GEORGIAN CAPITAL LETTER ", "YN"),
  (0x10CD, "GEORGIAN CAPITAL LETTER ", "AEN"),
  (0x10D0, "GEORGIAN LETTER ", "AN;BAN;GAN;DON;EN;VIN;ZEN;TAN;IN;KAN;LAS;MAN;NAR;ON;PAR;ZHAR;RAE;SAN;TAR;UN;PHAR"),
  (0x10E5, "GEORGIAN LETTER ", "KHAR;GHAN;QAR;SHIN;CHIN;CAN;JIL;CIL;CHAR;XAN;JHAN;HAE;HE;HIE;WE;HAR;HOE;FI;YN;ELIFI"),
  (0x10F9, "GEORGIAN ", "LETTER TURNED GAN;LETTER AIN;PARAGRAPH SEPARATOR"),
  (0x10FC, "MODIFIER LETTER GEORGIAN ", "NAR"), (0x10FD, "GEORGIAN LETTER ", "AEN;HARD SIGN;LABIAL SIGN")]

/-- The names from U+1100 on. -/
def names1100 : List NameRow := [
  (0x1100, "HANGUL CHOSEONG ", "KIYEOK;SSANGKIYEOK;NIEUN;TIKEUT;SSANGTIKEUT;RIEUL;MIEUM;PIEUP;SSANGPIEUP;SIOS"),
  (0x110A, "HANGUL CHOSEONG ", "SSANGSIOS;IEUNG;CIEUC;SSANGCIEUC;CHIEUCH;KHIEUKH;THIEUTH;PHIEUPH;HIEUH;NIEUN-KIYEOK"),
  (0x1114, "HANGUL CHOSEONG ", "SSANGNIEUN;NIEUN-TIKEUT;NIEUN-PIEUP;TIKEUT-KIYEOK;RIEUL-NIEUN;SSANGRIEUL"),
  (0x111A, "HANGUL CHOSEONG ", "RIEUL-HIEUH;KAPYEOUNRIEUL;MIEUM-PIEUP;KAPYEOUNMIEUM;PIEUP-KIYEOK;PIEUP-NIEUN"),
  (0x1120, "HANGUL CHOSEONG PIEUP-", "TIKEUT;SIOS;SIOS-KIYEOK;SIOS-TIKEUT;SIOS-PIEUP;SSANGSIOS;SIOS-CIEUC;CIEUC"),
  (0x1128, "HANGUL CHOSEONG ", "PIEUP-CHIEUCH;PIEUP-THIEUTH;PIEUP-PHIEUPH;KAPYEOUNPIEUP;KAPYEOUNSSANGPIEUP"),
  (0x112D, "HANGUL CHOSEONG SIOS-", "KIYEOK;NIEUN;TIKEUT;RIEUL;MIEUM;PIEUP;PIEUP-KIYEOK;SSANGSIOS;IEUNG;CIEUC"),
  (0x1137, "HANGUL CHOSEONG SIOS-", "CHIEUCH;KHIEUKH;THIEUTH;PHIEUPH;HIEUH"),
  (0x113C, "HANGUL CHOSEONG ", "CHITUEUMSIOS;CHITUEUMSSANGSIOS;CEONGCHIEUMSIOS;CEONGCHIEUMSSANGSIOS;PANSIOS"),
  (0x1141, "HANGUL CHOSEONG IEUNG-", "KIYEOK;TIKEUT;MIEUM;PIEUP;SIOS;PANSIOS"),
  (0x1147, "HANGUL CHOSEONG ", "SSANGIEUNG;IEUNG-CIEUC;IEUNG-CHIEUCH;IEUNG-THIEUTH;IEUNG-PHIEUPH;YESIEUNG"),
  (0x114D, "HANGUL CHOSEONG ", "CIEUC-IEUNG;CHITUEUMCIEUC;CHITUEUMSSANGCIEUC;CEONGCHIEUMCIEUC;CEONGCHIEUMSSANGCIEUC"),
  (0x1152, "HANGUL CHOSEONG CHIEUCH-", "KHIEUKH;HIEUH"),
  (0x1154, "HANGUL CHOSEONG ", "CHITUEUMCHIEUCH;CEONGCHIEUMCHIEUCH;PHIEUPH-PIEUP;KAPYEOUNPHIEUPH;SSANGHIEUH"),
  (0x1159, "HANGUL CHOSEONG ", "YEORINHIEUH;KIYEOK-TIKEUT;NIEUN-SIOS;NIEUN-CIEUC;NIEUN-HIEUH;TIKEUT-RIEUL;FILLER"),
  (0x1160, "HANGUL JUNGSEONG ", "FILLER;A;AE;YA;YAE;EO;E;YEO;YE;O;WA;WAE;OE;YO;U;WEO;WE;WI;YU;EU;YI;I;A-O;A-U;YA-O"),
  (0x1179, "HANGUL JUNGSEONG ", "YA-YO;EO-O;EO-U;EO-EU;YEO-O;YEO-U;O-EO;O-E;O-YE;O-O;O-U;YO-YA;YO-YAE;YO-YEO;YO-O"),
  (0x1188, "HANGUL JUNGSEONG ", "YO-I;U-A;U-AE;U-EO-EU;U-YE;U-U;YU-A;YU-EO;YU-E;YU-YEO;YU-YE;YU-U;YU-I;EU-U;EU-EU"),
  (0x1197, "HANGUL JUNGSEONG ", "YI-U;I-A;I-YA;I-O;I-U;I-EU;I-ARAEA;ARAEA;ARAEA-EO;ARAEA-U;ARAEA-I;SSANGARAEA;A-EU"),
  (0x11A4, "HANGUL JUNGSEONG ", "YA-U;YEO-YA;O-YA;O-YAE"),
  (0x11A8, "HANGUL JONGSEONG ", "KIYEOK;SSANGKIYEOK;KIYEOK-SIOS;NIEUN;NIEUN-CIEUC;NIEUN-HIEUH;TIKEUT;RIEUL"),
  (0x11B0, "HANGUL JONGSEONG RIEUL-", "KIYEOK;MIEUM;PIEUP;SIOS;THIEUTH;PHIEUPH;HIEUH"),
  (0x11B7, "HANGUL JONGSEONG ", "MIEUM;PIEUP;PIEUP-SIOS;SIOS;SSANGSIOS;IEUNG;CIEUC;CHIEUCH;KHIEUKH;THIEUTH;PHIEUPH"),
  (0x11C2, "HANGUL JONGSEONG ", "HIEUH;KIYEOK-RIEUL;KIYEOK-SIOS-KIYEOK"),
  (0x11C5, "HANGUL JONGSEONG NIEUN-", "KIYEOK;TIKEUT;SIOS;PANSIOS;THIEUTH"),
  (0x11CA, "HANGUL JONGSEONG ", "TIKEUT-KIYEOK;TIKEUT-RIEUL;RIEUL-KIYEOK-SIOS;RIEUL-NIEUN;RIEUL-TIKEUT"),
  (0x11CF, "HANGUL JONGSEONG ", "RIEUL-TIKEUT-HIEUH;SSANGRIEUL;RIEUL-MIEUM-KIYEOK;RIEUL-MIEUM-SIOS"),
  (0x11D3, "HANGUL JONGSEONG RIEUL-", "PIEUP-SIOS;PIEUP-HIEUH;KAPYEOUNPIEUP;SSANGSIOS;PANSIOS;KHIEUKH;YEORINHIEUH"),
  (0x11DA, "HANGUL JONGSEONG MIEUM-", "KIYEOK;RIEUL;PIEUP;SIOS;SSANGSIOS;PANSIOS;CHIEUCH;HIEUH"),
  (0x11E2, "HANGUL JONGSEONG ", "KAPYEOUNMIEUM;PIEUP-RIEUL;PIEUP-PHIEUPH;PIEUP-HIEUH;KAPYEOUNPIEUP;SIOS-KIYEOK"),
  (0x11E8, "HANGUL JONGSEONG ", "SIOS-TIKEUT;SIOS-RIEUL;SIOS-PIEUP;PANSIOS;IEUNG-KIYEOK;IEUNG-SSANGKIYEOK"),
  (0x11EE, "HANGUL JONGSEONG ", "SSANGIEUNG;IEUNG-KHIEUKH;YESIEUNG;YESIEUNG-SIOS;YESIEUNG-PANSIOS;PHIEUPH-PIEUP"),
  (0x11F4, "HANGUL JONGSEONG ", "KAPYEOUNPHIEUPH;HIEUH-NIEUN;HIEUH-RIEUL;HIEUH-MIEUM;HIEUH-PIEUP;YEORINHIEUH"),
  (0x11FA, "HANGUL JONGSEONG ", "KIYEOK-NIEUN;KIYEOK-PIEUP;KIYEOK-CHIEUCH;KIYEOK-KHIEUKH;KIYEOK-HIEUH;SSANGNIEUN"),
  (0x1200, "ETHIOPIC SYLLABLE ", "HA;HU;HI;HAA;HEE;HE;HO;HOA;LA;LU;LI;LAA;LEE;LE;LO;LWA;HHA;HHU;HHI;HHAA;HHEE;HHE"),
  (0x1216, "ETHIOPIC SYLLABLE ", "HHO;HHWA;MA;MU;MI;MAA;MEE;ME;MO;MWA;SZA;SZU;SZI;SZAA;SZEE;SZE;SZO;SZWA;RA;RU;RI"),
  (0x122B, "ETHIOPIC SYLLABLE ", "RAA;REE;RE;RO;RWA;SA;SU;SI;SAA;SEE;SE;SO;SWA;SHA;SHU;SHI;SHAA;SHEE;SHE;SHO;SHWA"),
  (0x1240, "ETHIOPIC SYLLABLE ", "QA;QU;QI;QAA;QEE;QE;QO;QOA;QWA"), (0x124A, "ETHIOPIC SYLLABLE ", "QWI;QWAA;QWEE;QWE"),
  (0x1250, "ETHIOPIC SYLLABLE ", "QHA;QHU;QHI;QHAA;QHEE;QHE;QHO"), (0x1258, "ETHIOPIC SYLLABLE ", "QHWA"),
  (0x125A, "ETHIOPIC SYLLABLE ", "QHWI;QHWAA;QHWEE;QHWE"),
  (0x1260, "ETHIOPIC SYLLABLE ", "BA;BU;BI;BAA;BEE;BE;BO;BWA;VA;VU;VI;VAA;VEE;VE;VO;VWA;TA;TU;TI;TAA;TEE;TE;TO;TWA"),
  (0x1278, "ETHIOPIC SYLLABLE ", "CA;CU;CI;CAA;CEE;CE;CO;CWA;XA;XU;XI;XAA;XEE;XE;XO;XOA;XWA"),
  (0x128A, "ETHIOPIC SYLLABLE ", "XWI;XWAA;XWEE;XWE"),
  (0x1290, "ETHIOPIC SYLLABLE ", "NA;NU;NI;NAA;NEE;NE;NO;NWA;NYA;NYU;NYI;NYAA;NYEE;NYE;NYO;NYWA"),
  (0x12A0, "ETHIOPIC SYLLABLE GLOTTAL ", "A;U;I;AA;EE;E;O;WA"),
  (0x12A8, "ETHIOPIC SYLLABLE ", "KA;KU;KI;KAA;KEE;KE;KO;KOA;KWA"), (0x12B2, "ETHIOPIC SYLLABLE ", "KWI;KWAA;KWEE;KWE"),
  (0x12B8, "ETHIOPIC SYLLABLE ", "KXA;KXU;KXI;KXAA;KXEE;KXE;KXO"), (0x12C0, "ETHIOPIC SYLLABLE ", "KXWA"),
  (0x12C2, "ETHIOPIC SYLLABLE ", "KXWI;KXWAA;KXWEE;KXWE"), (0x12C8, "ETHIOPIC SYLLABLE ", "WA;WU;WI;WAA;WEE;WE;WO;WOA"),
  (0x12D0, "ETHIOPIC SYLLABLE PHARYNGEAL ", "A;U;I;AA;EE;E;O"),
  (0x12D8, "ETHIOPIC SYLLABLE ", "ZA;ZU;ZI;ZAA;ZEE;ZE;ZO;ZWA;ZHA;ZHU;ZHI;ZHAA;ZHEE;ZHE;ZHO;ZHWA;YA;YU;YI;YAA;YEE;YE"),
  (0x12EE, "ETHIOPIC SYLLABLE ", "YO;YOA;DA;DU;DI;DAA;DEE;DE;DO;DWA;DDA;DDU;DDI;DDAA;DDEE;DDE;DDO;DDWA;JA;JU;JI;JAA"),
  (0x1304, "ETHIOPIC SYLLABLE ", "JEE;JE;JO;JWA;GA;GU;GI;GAA;GEE;GE;GO;GOA;GWA"),
  (0x1312, "ETHIOPIC SYLLABLE ", "GWI;GWAA;GWEE;GWE"),
  (0x1318, "ETHIOPIC SYLLABLE ", "GGA;GGU;GGI;GGAA;GGEE;GGE;GGO;GGWAA;THA;THU;THI;THAA;THEE;THE;THO;THWA;CHA;CHU"),
  (0x132A, "ETHIOPIC SYLLABLE ", "CHI;CHAA;CHEE;CHE;CHO;CHWA;PHA;PHU;PHI;PHAA;PHEE;PHE;PHO;PHWA;TSA;TSU;TSI;TSAA"),
  (0x133C, "ETHIOPIC SYLLABLE ", "TSEE;TSE;TSO;TSWA;TZA;TZU;TZI;TZAA;TZEE;TZE;TZO;TZOA;FA;FU;FI;FAA;FEE;FE;FO;FWA"),
  (0x1350, "ETHIOPIC SYLLABLE ", "PA;PU;PI;PAA;PEE;PE;PO;PWA;RYA;MYA;FYA"),
  (0x135D, "ETHIOPIC COMBINING ", "GEMINATION AND VOWEL LENGTH MARK;VOWEL LENGTH MARK;GEMINATION MARK"),
  (0x1360, "ETHIOPIC ", "SECTION MARK;WORDSPACE;FULL STOP;COMMA;SEMICOLON;COLON;PREFACE COLON;QUESTION MARK"),
  (0x1368, "ETHIOPIC PARAGRAPH ", "SEPARATOR"),
  (0x1369, "ETHIOPIC DIGIT ", "ONE;TWO;THREE;FOUR;FIVE;SIX;SEVEN;EIGHT;NINE"),
  (0x1372, "ETHIOPIC NUMBER ", "TEN;TWENTY;THIRTY;FORTY;FIFTY;SIXTY;SEVENTY;EIGHTY;NINETY;HUNDRED;TEN THOUSAND"),
  (0x1380, "ETHIOPIC SYLLABLE ", "SEBATBEIT MWA;MWI;MWEE;MWE;SEBATBEIT BWA;BWI;BWEE;BWE;SEBATBEIT FWA;FWI;FWEE;FWE"),
  (0x138C, "ETHIOPIC SYLLABLE ", "SEBATBEIT PWA;PWI;PWEE;PWE"),
  (0x1390, "ETHIOPIC TONAL MARK ", "YIZET;DERET;RIKRIK;SHORT RIKRIK;DIFAT;KENAT;CHIRET;HIDET;DERET-HIDET;KURT"),
  (0x13A0, "CHEROKEE LETTER ", "A;E;I;O;U;V;GA;KA;GE;GI;GO;GU;GV;HA;HE;HI;HO;HU;HV;LA;LE;LI;LO;LU;LV;MA;ME;MI;MO;MU"),
  (0x13BE, "CHEROKEE LETTER ", "NA;HNA;NAH;NE;NI;NO;NU;NV;QUA;QUE;QUI;QUO;QUU;QUV;SA;S;SE;SI;SO;SU;SV;DA;TA;DE;TE"),
  (0x13D7, "CHEROKEE LETTER ", "DI;TI;DO;DU;DV;DLA;TLA;TLE;TLI;TLO;TLU;TLV;TSA;TSE;TSI;TSO;TSU;TSV;WA;WE;WI;WO;WU"),
  (0x13EE, "CHEROKEE LETTER ", "WV;YA;YE;YI;YO;YU;YV;MV"), (0x13F8, "CHEROKEE SMALL LETTER ", "YE;YI;YO;YU;YV;MV"),
  (0x1400, "CANADIAN SYLLABICS ", "HYPHEN;E;AAI;I;II;O;OO;Y-CREE OO;CARRIER EE;CARRIER I;A;AA;WE;WEST-CREE WE;WI"),
  (0x140F, "CANADIAN SYLLABICS ", "WEST-CREE WI;WII;WEST-CREE WII;WO;WEST-CREE WO;WOO;WEST-CREE WOO;NASKAPI WOO;WA"),
  (0x1418, "CANADIAN SYLLABICS ", "WEST-CREE WA;WAA;WEST-CREE WAA;NASKAPI WAA;AI;Y-CREE W;GLOTTAL STOP;FINAL ACUTE"),
  (0x1420, "CANADIAN SYLLABICS FINAL ", "GRAVE;BOTTOM HALF RING;TOP HALF RING;RIGHT HALF RING;RING;DOUBLE ACUTE"),
  (0x1426, "CANADIAN SYLLABICS FINAL ", "DOUBLE SHORT VERTICAL STROKES;MIDDLE DOT;SHORT HORIZONTAL STROKE;PLUS"),
  (0x142A, "CANADIAN SYLLABICS ", "FINAL DOWN TACK;EN;IN;ON;AN;PE;PAAI;PI;PII;PO;POO;Y-CREE POO;CARRIER HEE"),
  (0x1437, "CANADIAN SYLLABICS ", "CARRIER HI;PA;PAA;PWE;WEST-CREE PWE;PWI;WEST-CREE PWI;PWII;WEST-CREE PWII;PWO"),
  (0x1441, "CANADIAN SYLLABICS ", "WEST-CREE PWO;PWOO;WEST-CREE PWOO;PWA;WEST-CREE PWA;PWAA;WEST-CREE PWAA"),
  (0x1448, "CANADIAN SYLLABICS ", "Y-CREE PWAA;P;WEST-CREE P;CARRIER H;TE;TAAI;TI;TII;TO;TOO;Y-CREE TOO;CARRIER DEE"),
  (0x1454, "CANADIAN SYLLABICS ", "CARRIER DI;TA;TAA;TWE;WEST-CREE TWE;TWI;WEST-CREE TWI;TWII;WEST-CREE TWII;TWO"),
  (0x145E, "CANADIAN SYLLABICS ", "WEST-CREE TWO;TWOO;WEST-CREE TWOO;TWA;WEST-CREE TWA;TWAA;WEST-CREE TWAA"),
  (0x1465, "CANADIAN SYLLABICS ", "NASKAPI TWAA;T;TTE;TTI;TTO;TTA;KE;KAAI;KI;KII;KO;KOO;Y-CREE KOO;KA;KAA;KWE"),
  (0x1475, "CANADIAN SYLLABICS ", "WEST-CREE KWE;KWI;WEST-CREE KWI;KWII;WEST-CREE KWII;KWO;WEST-CREE KWO;KWOO"),
  (0x147D, "CANADIAN SYLLABICS ", "WEST-CREE KWOO;KWA;WEST-CREE KWA;KWAA;WEST-CREE KWAA;NASKAPI KWAA;K;KW"),
  (0x1485, "CANADIAN SYLLABICS SOUTH-SLAVEY ", "KEH;KIH;KOH;KAH"),
  (0x1489, "CANADIAN SYLLABICS ", "CE;CAAI;CI;CII;CO;COO;Y-CREE COO;CA;CAA;CWE;WEST-CREE CWE;CWI;WEST-CREE CWI;CWII"),
  (0x1497, "CANADIAN SYLLABICS ", "WEST-CREE CWII;CWO;WEST-CREE CWO;CWOO;WEST-CREE CWOO;CWA;WEST-CREE CWA;CWAA"),
  (0x149F, "CANADIAN SYLLABICS ", "WEST-CREE CWAA;NASKAPI CWAA;C;SAYISI TH;ME;MAAI;MI;MII;MO;MOO;Y-CREE MOO;MA;MAA"),
  (0x14AC, "CANADIAN SYLLABICS ", "MWE;WEST-CREE MWE;MWI;WEST-CREE MWI;MWII;WEST-CREE MWII;MWO;WEST-CREE MWO;MWOO"),
  (0x14B5, "CANADIAN SYLLABICS ", "WEST-CREE MWOO;MWA;WEST-CREE MWA;MWAA;WEST-CREE MWAA;NASKAPI MWAA;M;WEST-CREE M"),
  (0x14BD, "CANADIAN SYLLABICS ", "MH;ATHAPASCAN M;SAYISI M;NE;NAAI;NI;NII;NO;NOO;Y-CREE NOO;NA;NAA;NWE"),
  (0x14CA, "CANADIAN SYLLABICS ", "WEST-CREE NWE;NWA;WEST-CREE NWA;NWAA;WEST-CREE NWAA;NASKAPI NWAA;N;CARRIER NG;NH"),
  (0x14D3, "CANADIAN SYLLABICS ", "LE;LAAI;LI;LII;LO;LOO;Y-CREE LOO;LA;LAA;LWE;WEST-CREE LWE;LWI;WEST-CREE LWI;LWII"),
  (0x14E1, "CANADIAN SYLLABICS ", "WEST-CREE LWII;LWO;WEST-CREE LWO;LWOO;WEST-CREE LWOO;LWA;WEST-CREE LWA;LWAA"),
  (0x14E9, "CANADIAN SYLLABICS ", "WEST-CREE LWAA;L;WEST-CREE L;MEDIAL L;SE;SAAI;SI;SII;SO;SOO;Y-CREE SOO;SA;SAA")]

/-- The names from U+14F6 on. -/
def names14F6 : List NameRow := [
  (0x14F6, "CANADIAN SYLLABICS ", "SWE;WEST-CREE SWE;SWI;WEST-CREE SWI;SWII;WEST-CREE SWII;SWO;WEST-CREE SWO;SWOO"),
  (0x14FF, "CANADIAN SYLLABICS ", "WEST-CREE SWOO;SWA;WEST-CREE SWA;SWAA;WEST-CREE SWAA;NASKAPI SWAA;S;ATHAPASCAN S"),
  (0x1507, "CANADIAN SYLLABICS ", "SW;BLACKFOOT S;MOOSE-CREE SK"),
  (0x150A, "CANADIAN SYLLABICS NASKAPI ", "SKW;S-W;SPWA;STWA;SKWA;SCWA"),
  (0x1510, "CANADIAN SYLLABICS ", "SHE;SHI;SHII;SHO;SHOO;SHA;SHAA;SHWE;WEST-CREE SHWE;SHWI;WEST-CREE SHWI;SHWII"),
  (0x151C, "CANADIAN SYLLABICS ", "WEST-CREE SHWII;SHWO;WEST-CREE SHWO;SHWOO;WEST-CREE SHWOO;SHWA;WEST-CREE SHWA"),
  (0x1523, "CANADIAN SYLLABICS ", "SHWAA;WEST-CREE SHWAA;SH;YE;YAAI;YI;YII;YO;YOO;Y-CREE YOO;YA;YAA;YWE"),
  (0x1530, "CANADIAN SYLLABICS ", "WEST-CREE YWE;YWI;WEST-CREE YWI;YWII;WEST-CREE YWII;YWO;WEST-CREE YWO;YWOO"),
  (0x1538, "CANADIAN SYLLABICS ", "WEST-CREE YWOO;YWA;WEST-CREE YWA;YWAA;WEST-CREE YWAA;NASKAPI YWAA;Y;BIBLE-CREE Y"),
  (0x1540, "CANADIAN SYLLABICS ", "WEST-CREE Y;SAYISI YI;RE;R-CREE RE;WEST-CREE LE;RAAI;RI;RII;RO;ROO;WEST-CREE LO"),
  (0x154B, "CANADIAN SYLLABICS ", "RA;RAA;WEST-CREE LA;RWAA;WEST-CREE RWAA;R;WEST-CREE R;MEDIAL R;FE;FAAI;FI;FII;FO"),
  (0x1558, "CANADIAN SYLLABICS ", "FOO;FA;FAA;FWAA;WEST-CREE FWAA;F;THE;N-CREE THE;THI;N-CREE THI;THII;N-CREE THII"),
  (0x1564, "CANADIAN SYLLABICS ", "THO;THOO;THA;THAA;THWAA;WEST-CREE THWAA;TH;TTHE;TTHI;TTHO;TTHA;TTH;TYE;TYI;TYO"),
  (0x1573, "CANADIAN SYLLABICS ", "TYA"), (0x1574, "CANADIAN SYLLABICS NUNAVIK ", "HE;HI;HII;HO;HOO;HA;HAA;H"),
  (0x157C, "CANADIAN SYLLABICS ", "NUNAVUT H;HK;QAAI;QI;QII;QO;QOO;QA;QAA;Q;TLHE;TLHI;TLHO;TLHA;WEST-CREE RE"),
  (0x158B, "CANADIAN SYLLABICS ", "WEST-CREE RI;WEST-CREE RO;WEST-CREE RA;NGAAI;NGI;NGII;NGO;NGOO;NGA;NGAA;NG;NNG"),
  (0x1597, "CANADIAN SYLLABICS SAYISI ", "SHE;SHI;SHO;SHA"),
  (0x159B, "CANADIAN SYLLABICS WOODS-CREE ", "THE;THI;THO;THA;TH"),
  (0x15A0, "CANADIAN SYLLABICS ", "LHI;LHII;LHO;LHOO;LHA;LHAA;LH"),
  (0x15A7, "CANADIAN SYLLABICS TH-CREE ", "THE;THI;THII;THO;THOO;THA;THAA;TH"),
  (0x15AF, "CANADIAN SYLLABICS AIVILIK ", "B"),
  (0x15B0, "CANADIAN SYLLABICS BLACKFOOT ", "E;I;O;A;WE;WI;WO;WA;NE;NI;NO;NA;KE;KI;KO;KA"),
  (0x15C0, "CANADIAN SYLLABICS SAYISI ", "HE;HI;HO;HA"),
  (0x15C4, "CANADIAN SYLLABICS CARRIER ", "GHU;GHO;GHE;GHEE;GHI;GHA;RU;RO;RE;REE;RI;RA;WU;WO;WE;WEE;WI;WA;HWU;HWO"),
  (0x15D8, "CANADIAN SYLLABICS CARRIER ", "HWE;HWEE;HWI;HWA;THU;THO;THE;THEE;THI;THA;TTU;TTO;TTE;TTEE;TTI;TTA;PU;PO"),
  (0x15EA, "CANADIAN SYLLABICS CARRIER ", "PE;PEE;PI;PA;P;GU;GO;GE;GEE;GI;GA;KHU;KHO;KHE;KHEE;KHI;KHA;KKU;KKO;KKE"),
  (0x15FE, "CANADIAN SYLLABICS CARRIER ", "KKEE;KKI;KKA;KK;NU;NO;NE;NEE;NI;NA;MU;MO;ME;MEE;MI;MA;YU;YO;YE;YEE;YI;YA"),
  (0x1614, "CANADIAN SYLLABICS ", "CARRIER JU;SAYISI JU;CARRIER JO;CARRIER JE;CARRIER JEE;CARRIER JI;SAYISI JI"),
  (0x161B, "CANADIAN SYLLABICS CARRIER ", "JA;JJU;JJO;JJE;JJEE;JJI;JJA;LU;LO;LE;LEE;LI;LA;DLU;DLO;DLE;DLEE;DLI;DLA"),
  (0x162E, "CANADIAN SYLLABICS CARRIER ", "LHU;LHO;LHE;LHEE;LHI;LHA;TLHU;TLHO;TLHE;TLHEE;TLHI;TLHA;TLU;TLO;TLE;TLEE"),
  (0x163E, "CANADIAN SYLLABICS CARRIER ", "TLI;TLA;ZU;ZO;ZE;ZEE;ZI;ZA;Z;INITIAL Z;DZU;DZO;DZE;DZEE;DZI;DZA;SU;SO;SE"),
  (0x1651, "CANADIAN SYLLABICS CARRIER ", "SEE;SI;SA;SHU;SHO;SHE;SHEE;SHI;SHA;SH;TSU;TSO;TSE;TSEE;TSI;TSA;CHU;CHO"),
  (0x1663, "CANADIAN SYLLABICS CARRIER ", "CHE;CHEE;CHI;CHA;TTSU;TTSO;TTSE;TTSEE;TTSI;TTSA"),
  (0x166D, "CANADIAN SYLLABICS ", "CHI SIGN;FULL STOP;QAI;NGAI;NNGI;NNGII;NNGO;NNGOO;NNGA;NNGAA"),
  (0x1677, "CANADIAN SYLLABICS WOODS-CREE ", "THWEE;THWI;THWII;THWO;THWOO;THWA;THWAA;FINAL TH"),
  (0x167F, "", "CANADIAN SYLLABICS BLACKFOOT W;OGHAM SPACE MARK"),
  (0x1681, "OGHAM LETTER ", "BEITH;LUIS;FEARN;SAIL;NION;UATH;DAIR;TINNE;COLL;CEIRT;MUIN;GORT;NGEADAL;STRAIF;RUIS"),
  (0x1690, "OGHAM LETTER ", "AILM;ONN;UR;EADHADH;IODHADH;EABHADH;OR;UILLEANN;IFIN;EAMHANCHOLL;PEITH"),
  (0x169B, "OGHAM ", "FEATHER MARK;REVERSED FEATHER MARK"),
  (0x16A0, "RUNIC LETTER ", "FEHU FEOH FE F;V;URUZ UR U;YR;Y;W;THURISAZ THURS THORN;ETH;ANSUZ A;OS O;AC A;AESC"),
  (0x16AC, "RUNIC LETTER ", "LONG-BRANCH-OSS O;SHORT-TWIG-OSS O;O;OE;ON;RAIDO RAD REID R;KAUNA;CEN;KAUN K;G;ENG"),
  (0x16B7, "RUNIC LETTER ", "GEBO GYFU G;GAR;WUNJO WYNN W;HAGLAZ H;HAEGL H;LONG-BRANCH-HAGALL H;SHORT-TWIG-HAGALL H"),
  (0x16BE, "RUNIC LETTER ", "NAUDIZ NYD NAUD N;SHORT-TWIG-NAUD N;DOTTED-N;ISAZ IS ISS I;E;JERAN J;GER"),
  (0x16C5, "RUNIC LETTER ", "LONG-BRANCH-AR AE;SHORT-TWIG-AR A;IWAZ EOH;PERTHO PEORTH P;ALGIZ EOLHX;SOWILO S"),
  (0x16CB, "RUNIC LETTER ", "SIGEL LONG-BRANCH-SOL S;SHORT-TWIG-SOL S;C;Z;TIWAZ TIR TYR T;SHORT-TWIG-TYR T;D"),
  (0x16D2, "RUNIC LETTER ", "BERKANAN BEORC BJARKAN B;SHORT-TWIG-BJARKAN B;DOTTED-P;OPEN-P;EHWAZ EH E;MANNAZ MAN M"),
  (0x16D8, "RUNIC LETTER ", "LONG-BRANCH-MADR M;SHORT-TWIG-MADR M;LAUKAZ LAGU LOGR L;DOTTED-L;INGWAZ;ING"),
  (0x16DE, "RUNIC LETTER ", "DAGAZ DAEG D;OTHALAN ETHEL O;EAR;IOR;CWEORTH;CALC;CEALC;STAN;LONG-BRANCH-YR"),
  (0x16E7, "RUNIC LETTER ", "SHORT-TWIG-YR;ICELANDIC-YR;Q;X"),
  (0x16EB, "RUNIC ", "SINGLE PUNCTUATION;MULTIPLE PUNCTUATION;CROSS PUNCTUATION;ARLAUG SYMBOL;TVIMADUR SYMBOL"),
  (0x16F0, "RUNIC ", "BELGTHOR SYMBOL;LETTER K;LETTER SH;LETTER OO"),
  (0x16F4, "RUNIC LETTER FRANKS CASKET ", "OS;IS;EH;AC;AESC"),
  (0x1700, "TAGALOG LETTER ", "A;I;U;KA;GA;NGA;TA;DA;NA;PA;BA;MA;YA;RA;LA;WA;SA;HA"),
  (0x1712, "TAGALOG ", "VOWEL SIGN I;VOWEL SIGN U;SIGN VIRAMA;SIGN PAMUDPOD"),
  (0x171F, "TAGALOG LETTER ARCHAIC ", "RA"),
  (0x1720, "HANUNOO LETTER ", "A;I;U;KA;GA;NGA;TA;DA;NA;PA;BA;MA;YA;RA;LA;WA;SA;HA"),
  (0x1732, "HANUNOO ", "VOWEL SIGN I;VOWEL SIGN U;SIGN PAMUDPOD"),
  (0x1735, "PHILIPPINE ", "SINGLE PUNCTUATION;DOUBLE PUNCTUATION"),
  (0x1740, "BUHID LETTER ", "A;I;U;KA;GA;NGA;TA;DA;NA;PA;BA;MA;YA;RA;LA;WA;SA;HA"),
  (0x1752, "BUHID VOWEL SIGN ", "I;U"), (0x1760, "TAGBANWA LETTER ", "A;I;U;KA;GA;NGA;TA;DA;NA;PA;BA;MA;YA"),
  (0x176E, "TAGBANWA LETTER ", "LA;WA;SA"), (0x1772, "TAGBANWA VOWEL SIGN ", "I;U"),
  (0x1780, "KHMER LETTER ", "KA;KHA;KO;KHO;NGO;CA;CHA;CO;CHO;NYO;DA;TTHA;DO;TTHO;NNO;TA;THA;TO;THO;NO;BA;PHA;PO;PHO"),
  (0x1798, "KHMER LETTER ", "MO;YO;RO;LO;VO;SHA;SSO;SA;HA;LA;QA"),
  (0x17A3, "KHMER INDEPENDENT VOWEL ", "QAQ;QAA;QI;QII;QU;QUK;QUU;QUUV;RY;RYY;LY;LYY;QE;QAI;QOO TYPE ONE"),
  (0x17B2, "KHMER INDEPENDENT VOWEL ", "QOO TYPE TWO;QAU"), (0x17B4, "KHMER VOWEL INHERENT ", "AQ;AA"),
  (0x17B6, "KHMER VOWEL SIGN ", "AA;I;II;Y;YY;U;UU;UA;OE;YA;IE;E;AE;AI;OO;AU"),
  (0x17C6, "KHMER SIGN ", "NIKAHIT;REAHMUK;YUUKALEAPINTU;MUUSIKATOAN;TRIISAP;BANTOC;ROBAT;TOANDAKHIAT;KAKABAT;AHSDA"),
  (0x17D0, "KHMER SIGN ", "SAMYOK SANNYA;VIRIAM;COENG;BATHAMASAT;KHAN;BARIYOOSAN;CAMNUC PII KUUH;LEK TOO;BEYYAL"),
  (0x17D9, "KHMER ", "SIGN PHNAEK MUAN;SIGN KOOMUUT;CURRENCY SYMBOL RIEL;SIGN AVAKRAHASANYA;SIGN ATTHACAN"),
  (0x17E0, "KHMER DIGIT ", "ZERO;ONE;TWO;THREE;FOUR;FIVE;SIX;SEVEN;EIGHT;NINE"),
  (0x17F0, "KHMER SYMBOL LEK ATTAK ", "SON;MUOY;PII;BEI;BUON;PRAM;PRAM-MUOY;PRAM-PII;PRAM-BEI;PRAM-BUON"),
  (0x1800, "MONGOLIAN ", "BIRGA;ELLIPSIS;COMMA;FULL STOP;COLON;FOUR DOTS;TODO SOFT HYPHEN"),
  (0x1807, "MONGOLIAN ", "SIBE SYLLABLE BOUNDARY MARKER;MANCHU COMMA;MANCHU FULL STOP;NIRUGU"),
  (0x180B, "MONGOLIAN FREE VARIATION SELECTOR ", "ONE;TWO;THREE"),
  (0x180E, "MONGOLIAN ", "VOWEL SEPARATOR;FREE VARIATION SELECTOR FOUR"),
  (0x1810, "MONGOLIAN DIGIT ", "ZERO;ONE;TWO;THREE;FOUR;FIVE;SIX;SEVEN;EIGHT;NINE"),
  (0x1820, "MONGOLIAN LETTER ", "A;E;I;O;U;OE;UE;EE;NA;ANG;BA;PA;QA;GA;MA;LA;SA;SHA;TA;DA;CHA;JA;YA;RA;WA;FA;KA;KHA"),
  (0x183C, "MONGOLIAN LETTER ", "TSA;ZA;HAA;ZRA;LHA;ZHI;CHI;TODO LONG VOWEL SIGN;TODO E"),
  (0x1845, "MONGOLIAN LETTER TODO ", "I;O;U;OE;UE;ANG;BA;PA;QA;GA;MA;TA;DA;CHA;JA;TSA;YA;WA;KA;GAA;HAA;JIA;NIA;DZA"),
  (0x185D, "MONGOLIAN LETTER SIBE ", "E;I;IY;UE;U;ANG;KA;GA;HA;PA;SHA;TA;DA;JA;FA;GAA;HAA;TSA;ZA;RAA;CHA;ZHA"),
  (0x1873, "MONGOLIAN LETTER ", "MANCHU I;MANCHU KA;MANCHU RA;MANCHU FA;MANCHU ZHA;CHA WITH TWO DOTS"),
  (0x1880, "MONGOLIAN LETTER ALI GALI ", "ANUSVARA ONE;VISARGA ONE;DAMARU;UBADAMA;INVERTED UBADAMA;BALUDA"),
  (0x1886, "MONGOLIAN LETTER ALI GALI ", "THREE BALUDA;A;I;KA;NGA;CA;TTA;TTHA;DDA;NNA;TA;DA;PA;PHA;SSA;ZHA;ZA;AH"),
  (0x1898, "MONGOLIAN LETTER TODO ALI GALI ", "TA;ZHA"),
  (0x189A, "MONGOLIAN LETTER MANCHU ALI GALI ", "GHA;NGA;CA;JHA;TTA;DDHA;TA;DHA;SSA;CYA;ZHA;ZA"),
  (0x18A6, "MONGOLIAN LETTER ALI GALI HALF ", "U;YA"),
  (0x18A8, "MONGOLIAN LETTER ", "MANCHU ALI GALI BHA;ALI GALI DAGALGA;MANCHU ALI GALI LHA"),
  (0x18B0, "CANADIAN SYLLABICS ", "OY;AY;AAY;WAY;POY;PAY;PWOY;TAY;KAY;KWAY;MAY;NOY;NAY;LAY;SOY;SAY;SHOY;SHAY;SHWOY"),
  (0x18C3, "CANADIAN SYLLABICS ", "YOY;YAY;RAY;NWI;OJIBWAY NWI;NWII;OJIBWAY NWII;NWO;OJIBWAY NWO;NWOO;OJIBWAY NWOO"),
  (0x18CE, "CANADIAN SYLLABICS ", "RWEE;RWI;RWII;RWO;RWOO;RWA"),
  (0x18D4, "CANADIAN SYLLABICS OJIBWAY ", "P;T;K;C;M;N;S;SH"),
  (0x18DC, "CANADIAN SYLLABICS ", "EASTERN W;WESTERN W;FINAL SMALL RING;FINAL RAISED DOT;R-CREE RWE;WEST-CREE LOO"),
  (0x18E2, "CANADIAN SYLLABICS ", "WEST-CREE LAA;THWE;THWA;TTHWE;TTHOO;TTHAA;TLHWE;TLHOO;SAYISI SHWE;SAYISI SHOO"),
  (0x18EC, "CANADIAN SYLLABICS ", "SAYISI HOO;CARRIER GWU;CARRIER DENE GEE;CARRIER GAA;CARRIER GWA;SAYISI JUU"),
  (0x18F2, "CANADIAN SYLLABICS ", "CARRIER JWA;BEAVER DENE L;BEAVER DENE R;CARRIER DENTAL S"),
  (0x1900, "LIMBU VOWEL-CARRIER ", "LETTER")]

/-- The names from U+1901 on. -/
def names1901 : List NameRow := [
  (0x1901, "LIMBU LETTER ", "KA;KHA;GA;GHA;NGA;CA;CHA;JA;JHA;YAN;TA;THA;DA;DHA;NA;PA;PHA;BA;BHA;MA;YA;RA;LA;WA;SHA"),
  (0x191A, "LIMBU LETTER ", "SSA;SA;HA;GYAN;TRA"), (0x1920, "LIMBU VOWEL SIGN ", "A;I;U;EE;AI;OO;AU;E;O"),
  (0x1929, "LIMBU SUBJOINED LETTER ", "YA;RA;WA"), (0x1930, "LIMBU SMALL LETTER ", "KA;NGA;ANUSVARA;TA;NA;PA;MA;RA;LA"),
  (0x1939, "LIMBU SIGN ", "MUKPHRENG;KEMPHRENG;SA-I"), (0x1940, "LIMBU SIGN ", "LOO"),
  (0x1944, "LIMBU ", "EXCLAMATION MARK;QUESTION MARK"),
  (0x1946, "LIMBU DIGIT ", "ZERO;ONE;TWO;THREE;FOUR;FIVE;SIX;SEVEN;EIGHT;NINE"),
  (0x1950, "TAI LE LETTER ", "KA;XA;NGA;TSA;SA;YA;TA;THA;LA;PA;PHA;MA;FA;VA;HA;QA;KHA;TSHA;NA;A;I;EE;EH;U;OO;O;UE;E"),
  (0x196C, "TAI LE LETTER ", "AUE;AI"), (0x1970, "TAI LE LETTER TONE-", "2;3;4;5;6"),
  (0x1980, "NEW TAI LUE LETTER ", "HIGH QA;LOW QA;HIGH KA;HIGH XA;HIGH NGA;LOW KA;LOW XA;LOW NGA;HIGH TSA;HIGH SA"),
  (0x198A, "NEW TAI LUE LETTER ", "HIGH YA;LOW TSA;LOW SA;LOW YA;HIGH TA;HIGH THA;HIGH NA;LOW TA;LOW THA;LOW NA"),
  (0x1994, "NEW TAI LUE LETTER ", "HIGH PA;HIGH PHA;HIGH MA;LOW PA;LOW PHA;LOW MA;HIGH FA;HIGH VA;HIGH LA;LOW FA"),
  (0x199E, "NEW TAI LUE LETTER ", "LOW VA;LOW LA;HIGH HA;HIGH DA;HIGH BA;LOW HA;LOW DA;LOW BA;HIGH KVA;HIGH XVA"),
  (0x19A8, "NEW TAI LUE LETTER ", "LOW KVA;LOW XVA;HIGH SUA;LOW SUA"),
  (0x19B0, "NEW TAI LUE VOWEL SIGN ", "VOWEL SHORTENER;AA;II;U;UU;E;AE;O;OA;UE;AY;AAY;UY;OY;OAY;UEY;IY"),
  (0x19C1, "NEW TAI LUE LETTER FINAL ", "V;NG;N;M;K;D;B"), (0x19C8, "NEW TAI LUE TONE MARK-", "1;2"),
  (0x19D0, "NEW TAI LUE DIGIT ", "ZERO;ONE;TWO;THREE;FOUR;FIVE;SIX;SEVEN;EIGHT;NINE"),
  (0x19DA, "NEW TAI LUE THAM DIGIT ", "ONE"), (0x19DE, "NEW TAI LUE SIGN ", "LAE;LAEV"),
  (0x19E0, "KHMER SYMBOL ", "PATHAMASAT;MUOY KOET;PII KOET;BEI KOET;BUON KOET;PRAM KOET;PRAM-MUOY KOET"),
  (0x19E7, "KHMER SYMBOL ", "PRAM-PII KOET;PRAM-BEI KOET;PRAM-BUON KOET;DAP KOET;DAP-MUOY KOET;DAP-PII KOET"),
  (0x19ED, "KHMER SYMBOL ", "DAP-BEI KOET;DAP-BUON KOET;DAP-PRAM KOET;TUTEYASAT;MUOY ROC;PII ROC;BEI ROC;BUON ROC"),
  (0x19F5, "KHMER SYMBOL ", "PRAM ROC;PRAM-MUOY ROC;PRAM-PII ROC;PRAM-BEI ROC;PRAM-BUON ROC;DAP ROC"),
  (0x19FB, "KHMER SYMBOL DAP-", "MUOY ROC;PII ROC;BEI ROC;BUON ROC;PRAM ROC"),
  (0x1A00, "BUGINESE LETTER ", "KA;GA;NGA;NGKA;PA;BA;MA;MPA;TA;DA;NA;NRA;CA;JA;NYA;NYCA;YA;RA;LA;VA;SA;A;HA"),
  (0x1A17, "BUGINESE VOWEL SIGN ", "I;U;E;O;AE"), (0x1A1E, "BUGINESE ", "PALLAWA;END OF SECTION"),
  (0x1A20, "TAI THAM LETTER ", "HIGH KA;HIGH KHA;HIGH KXA;LOW KA;LOW KXA;LOW KHA;NGA;HIGH CA;HIGH CHA;LOW CA;LOW SA"),
  (0x1A2B, "TAI THAM LETTER ", "LOW CHA;NYA;RATA;HIGH RATHA;DA;LOW RATHA;RANA;HIGH TA;HIGH THA;LOW TA;LOW THA;NA;BA"),
  (0x1A38, "TAI THAM LETTER ", "HIGH PA;HIGH PHA;HIGH FA;LOW PA;LOW FA;LOW PHA;MA;LOW YA;HIGH YA;RA;RUE;LA;LUE;WA"),
  (0x1A46, "TAI THAM LETTER ", "HIGH SHA;HIGH SSA;HIGH SA;HIGH HA;LLA;A;LOW HA;I;II;U;UU;EE;OO;LAE;GREAT SA"),
  (0x1A55, "TAI THAM CONSONANT SIGN ", "MEDIAL RA;MEDIAL LA;LA TANG LAI"), (0x1A58, "TAI THAM SIGN MAI KANG ", "LAI"),
  (0x1A59, "TAI THAM CONSONANT SIGN ", "FINAL NGA;LOW PA;HIGH RATHA OR LOW PA;MA;BA;SA"),
  (0x1A60, "TAI THAM SIGN ", "SAKOT"),
  (0x1A61, "TAI THAM VOWEL SIGN ", "A;MAI SAT;AA;TALL AA;I;II;UE;UUE;U;UU;O;OA BELOW;OY;E;AE;OO;AI;THAM AI;OA ABOVE"),
  (0x1A74, "TAI THAM SIGN ", "MAI KANG;TONE-1;TONE-2;KHUEN TONE-3;KHUEN TONE-4;KHUEN TONE-5;RA HAAM;MAI SAM"),
  (0x1A7C, "TAI THAM SIGN KHUEN-LUE ", "KARAN"), (0x1A7F, "TAI THAM COMBINING CRYPTOGRAMMIC ", "DOT"),
  (0x1A80, "TAI THAM HORA DIGIT ", "ZERO;ONE;TWO;THREE;FOUR;FIVE;SIX;SEVEN;EIGHT;NINE"),
  (0x1A90, "TAI THAM THAM DIGIT ", "ZERO;ONE;TWO;THREE;FOUR;FIVE;SIX;SEVEN;EIGHT;NINE"),
  (0x1AA0, "TAI THAM SIGN ", "WIANG;WIANGWAAK;SAWAN;KEOW;HOY;DOKMAI;REVERSED ROTATED RANA;MAI YAMOK;KAAN;KAANKUU"),
  (0x1AAA, "TAI THAM SIGN ", "SATKAAN;SATKAANKUU;HANG;CAANG"),
  (0x1AB0, "COMBINING ", "DOUBLED CIRCUMFLEX ACCENT;DIAERESIS-RING;INFINITY;DOWNWARDS ARROW;TRIPLE DOT;X-X BELOW"),
  (0x1AB6, "COMBINING ", "WIGGLY LINE BELOW;OPEN MARK BELOW;DOUBLE OPEN MARK BELOW"),
  (0x1AB9, "COMBINING ", "LIGHT CENTRALIZATION STROKE BELOW;STRONG CENTRALIZATION STROKE BELOW;PARENTHESES ABOVE"),
  (0x1ABC, "COMBINING ", "DOUBLE PARENTHESES ABOVE;PARENTHESES BELOW;PARENTHESES OVERLAY;LATIN SMALL LETTER W BELOW"),
  (0x1AC0, "COMBINING ", "LATIN SMALL LETTER TURNED W BELOW;LEFT PARENTHESIS ABOVE LEFT"),
  (0x1AC2, "COMBINING ", "RIGHT PARENTHESIS ABOVE RIGHT;LEFT PARENTHESIS BELOW LEFT;RIGHT PARENTHESIS BELOW RIGHT"),
  (0x1AC5, "COMBINING ", "SQUARE BRACKETS ABOVE;NUMBER SIGN ABOVE;INVERTED DOUBLE ARCH ABOVE;PLUS SIGN ABOVE"),
  (0x1AC9, "COMBINING ", "DOUBLE PLUS SIGN ABOVE;DOUBLE PLUS SIGN BELOW;TRIPLE ACUTE ACCENT"),
  (0x1ACC, "COMBINING LATIN SMALL LETTER INSULAR ", "G;R;T"),
  (0x1B00, "BALINESE SIGN ", "ULU RICEM;ULU CANDRA;CECEK;SURANG;BISAH"),
  (0x1B05, "BALINESE LETTER ", "AKARA;AKARA TEDUNG;IKARA;IKARA TEDUNG;UKARA;UKARA TEDUNG;RA REPA;RA REPA TEDUNG"),
  (0x1B0D, "BALINESE LETTER ", "LA LENGA;LA LENGA TEDUNG;EKARA;AIKARA;OKARA;OKARA TEDUNG;KA;KA MAHAPRANA;GA;GA GORA"),
  (0x1B17, "BALINESE LETTER ", "NGA;CA;CA LACA;JA;JA JERA;NYA;TA LATIK;TA MURDA MAHAPRANA;DA MURDA ALPAPRANA"),
  (0x1B20, "BALINESE LETTER ", "DA MURDA MAHAPRANA;NA RAMBAT;TA;TA TAWA;DA;DA MADU;NA;PA;PA KAPAL;BA;BA KEMBANG;MA"),
  (0x1B2C, "BALINESE LETTER ", "YA;RA;LA;WA;SA SAGA;SA SAPA;SA;HA"),
  (0x1B34, "BALINESE ", "SIGN REREKAN;VOWEL SIGN TEDUNG"),
  (0x1B36, "BALINESE VOWEL SIGN ", "ULU;ULU SARI;SUKU;SUKU ILUT;RA REPA;RA REPA TEDUNG;LA LENGA;LA LENGA TEDUNG"),
  (0x1B3E, "BALINESE VOWEL SIGN ", "TALING;TALING REPA;TALING TEDUNG;TALING REPA TEDUNG;PEPET;PEPET TEDUNG"),
  (0x1B44, "BALINESE ", "ADEG ADEG;LETTER KAF SASAK"),
  (0x1B46, "BALINESE LETTER ", "KHOT SASAK;TZIR SASAK;EF SASAK;VE SASAK;ZAL SASAK;ASYURA SASAK;ARCHAIC JNYA"),
  (0x1B50, "BALINESE DIGIT ", "ZERO;ONE;TWO;THREE;FOUR;FIVE;SIX;SEVEN;EIGHT;NINE"),
  (0x1B5A, "BALINESE ", "PANTI;PAMADA;WINDU;CARIK PAMUNGKAH;CARIK SIKI;CARIK PAREREN;PAMENENG"),
  (0x1B61, "BALINESE MUSICAL SYMBOL ", "DONG;DENG;DUNG;DANG;DANG SURANG;DING;DAENG;DEUNG;DAING;DANG GEDE"),
  (0x1B6B, "BALINESE MUSICAL SYMBOL COMBINING ", "TEGEH;ENDEP;KEMPUL;KEMPLI;JEGOGAN;KEMPUL WITH JEGOGAN"),
  (0x1B71, "BALINESE MUSICAL SYMBOL COMBINING ", "KEMPLI WITH JEGOGAN;BENDE;GONG"),
  (0x1B74, "BALINESE MUSICAL SYMBOL RIGHT-HAND ", "OPEN DUG;OPEN DAG;CLOSED TUK;CLOSED TAK"),
  (0x1B78, "BALINESE MUSICAL SYMBOL LEFT-HAND ", "OPEN PANG;OPEN PUNG;CLOSED PLAK;CLOSED PLUK;OPEN PING"),
  (0x1B7D, "BALINESE ", "PANTI LANTANG;PAMADA LANTANG"),
  (0x1B80, "SUNDANESE ", "SIGN PANYECEK;SIGN PANGLAYAR;SIGN PANGWISAD;LETTER A;LETTER I"),
  (0x1B85, "SUNDANESE LETTER ", "U;AE;O;E;EU;KA;QA;GA;NGA;CA;JA;ZA;NYA;TA;DA;NA;PA;FA;VA;BA;MA;YA;RA;LA;WA;SA;XA;HA"),
  (0x1BA1, "SUNDANESE CONSONANT SIGN ", "PAMINGKAL;PANYAKRA;PANYIKU"),
  (0x1BA4, "SUNDANESE VOWEL SIGN ", "PANGHULU;PANYUKU;PANAELAENG;PANOLONG;PAMEPET;PANEULEUNG"),
  (0x1BAA, "SUNDANESE SIGN ", "PAMAAEH;VIRAMA"), (0x1BAC, "SUNDANESE CONSONANT SIGN PASANGAN ", "MA;WA"),
  (0x1BAE, "SUNDANESE LETTER ", "KHA;SYA"),
  (0x1BB0, "SUNDANESE DIGIT ", "ZERO;ONE;TWO;THREE;FOUR;FIVE;SIX;SEVEN;EIGHT;NINE"),
  (0x1BBA, "SUNDANESE ", "AVAGRAHA;LETTER REU;LETTER LEU;LETTER BHA;LETTER FINAL K;LETTER FINAL M"),
  (0x1BC0, "BATAK LETTER ", "A;SIMALUNGUN A;HA;SIMALUNGUN HA;MANDAILING HA;BA;KARO BA;PA;SIMALUNGUN PA;NA"),
  (0x1BCA, "BATAK LETTER ", "MANDAILING NA;WA;SIMALUNGUN WA;PAKPAK WA;GA;SIMALUNGUN GA;JA;DA;RA;SIMALUNGUN RA;MA"),
  (0x1BD5, "BATAK LETTER ", "SIMALUNGUN MA;SOUTHERN TA;NORTHERN TA;SA;SIMALUNGUN SA;MANDAILING SA;YA;SIMALUNGUN YA"),
  (0x1BDD, "BATAK LETTER ", "NGA;LA;SIMALUNGUN LA;NYA;CA;NDA;MBA;I;U"), (0x1BE6, "BATAK SIGN ", "TOMPI"),
  (0x1BE7, "BATAK VOWEL SIGN ", "E;PAKPAK E;EE;I;KARO I;O;KARO O;U;U FOR SIMALUNGUN SA"),
  (0x1BF0, "BATAK ", "CONSONANT SIGN NG;CONSONANT SIGN H;PANGOLAT;PANONGONAN"),
  (0x1BFC, "BATAK SYMBOL BINDU ", "NA METEK;PINARBORAS;JUDUL;PANGOLAT"),
  (0x1C00, "LEPCHA LETTER ", "KA;KLA;KHA;GA;GLA;NGA;CA;CHA;JA;NYA;TA;THA;DA;NA;PA;PLA;PHA;FA;FLA;BA;BLA;MA;MLA;TSA"),
  (0x1C18, "LEPCHA LETTER ", "TSHA;DZA;YA;RA;LA;HA;HLA;VA;SA;SHA;WA;A"), (0x1C24, "LEPCHA SUBJOINED LETTER ", "YA;RA"),
  (0x1C26, "LEPCHA VOWEL SIGN ", "AA;I;O;OO;U;UU;E"), (0x1C2D, "LEPCHA CONSONANT SIGN ", "K;M;L;N;P;R;T;NYIN-DO;KANG"),
  (0x1C36, "LEPCHA SIGN ", "RAN;NUKTA"),
  (0x1C3B, "LEPCHA PUNCTUATION ", "TA-ROL;NYET THYOOM TA-ROL;CER-WA;TSHOOK CER-WA;TSHOOK"),
  (0x1C40, "LEPCHA DIGIT ", "ZERO;ONE;TWO;THREE;FOUR;FIVE;SIX;SEVEN;EIGHT;NINE")]

/-- The names from U+1C4D on. -/
def names1C4D : List NameRow := [
  (0x1C4D, "LEPCHA LETTER ", "TTA;TTHA;DDA"),
  (0x1C50, "OL CHIKI DIGIT ", "ZERO;ONE;TWO;THREE;FOUR;FIVE;SIX;SEVEN;EIGHT;NINE"),
  (0x1C5A, "OL CHIKI LETTER ", "LA;AT;AG;ANG;AL;LAA;AAK;AAJ;AAM;AAW;LI;IS;IH;INY;IR;LU;UC;UD;UNN;UY;LE;EP;EDD;EN"),
  (0x1C72, "OL CHIKI LETTER ", "ERR;LO;OTT;OB;OV;OH"),
  (0x1C78, "OL CHIKI ", "MU TTUDDAG;GAAHLAA TTUDDAAG;MU-GAAHLAA TTUDDAAG;RELAA;PHAARKAA;AHAD"),
  (0x1C7E, "OL CHIKI PUNCTUATION ", "MUCAAD;DOUBLE MUCAAD"),
  (0x1C80, "CYRILLIC SMALL LETTER ", "ROUNDED VE;LONG-LEGGED DE;NARROW O;WIDE ES;TALL TE;THREE-LEGGED TE"),
  (0x1C86, "CYRILLIC SMALL LETTER ", "TALL HARD SIGN;TALL YAT;UNBLENDED UK"),
  (0x1C90, "GEORGIAN MTAVRULI CAPITAL LETTER ", "AN;BAN;GAN;DON;EN;VIN;ZEN;TAN;IN;KAN;LAS;MAN;NAR;ON;PAR;ZHAR;RAE"),
  (0x1CA1, "GEORGIAN MTAVRULI CAPITAL LETTER ", "SAN;TAR;UN;PHAR;KHAR;GHAN;QAR;SHIN;CHIN;CAN;JIL;CIL;CHAR;XAN;JHAN"),
  (0x1CB0, "GEORGIAN MTAVRULI CAPITAL LETTER ", "HAE;HE;HIE;WE;HAR;HOE;FI;YN;ELIFI;TURNED GAN;AIN"),
  (0x1CBD, "GEORGIAN MTAVRULI CAPITAL LETTER ", "AEN;HARD SIGN;LABIAL SIGN"),
  (0x1CC0, "SUNDANESE PUNCTUATION BINDU ", "SURYA;PANGLONG;PURNAMA;CAKRA;LEU SATANGA;KA SATANGA;DA SATANGA"),
  (0x1CC7, "SUNDANESE PUNCTUATION BINDU BA ", "SATANGA"), (0x1CD0, "VEDIC TONE ", "KARSHANA;SHARA;PRENKHA"),
  (0x1CD3, "VEDIC ", "SIGN NIHSHVASA;SIGN YAJURVEDIC MIDLINE SVARITA;TONE YAJURVEDIC AGGRAVATED INDEPENDENT SVARITA"),
  (0x1CD6, "VEDIC TONE YAJURVEDIC ", "INDEPENDENT SVARITA;KATHAKA INDEPENDENT SVARITA"),
  (0x1CD8, "VEDIC TONE ", "CANDRA BELOW;YAJURVEDIC KATHAKA INDEPENDENT SVARITA SCHROEDER;DOUBLE SVARITA"),
  (0x1CDB, "VEDIC TONE ", "TRIPLE SVARITA;KATHAKA ANUDATTA;DOT BELOW;TWO DOTS BELOW;THREE DOTS BELOW"),
  (0x1CE0, "VEDIC TONE ", "RIGVEDIC KASHMIRI INDEPENDENT SVARITA;ATHARVAVEDIC INDEPENDENT SVARITA"),
  (0x1CE2, "VEDIC SIGN ", "VISARGA SVARITA;VISARGA UDATTA;REVERSED VISARGA UDATTA;VISARGA ANUDATTA"),
  (0x1CE6, "VEDIC SIGN ", "REVERSED VISARGA ANUDATTA;VISARGA UDATTA WITH TAIL;VISARGA ANUDATTA WITH TAIL"),
  (0x1CE9, "VEDIC SIGN ANUSVARA ", "ANTARGOMUKHA;BAHIRGOMUKHA;VAMAGOMUKHA;VAMAGOMUKHA WITH TAIL"),
  (0x1CED, "VEDIC SIGN ", "TIRYAK;HEXIFORM LONG ANUSVARA;LONG ANUSVARA;RTHANG LONG ANUSVARA;ANUSVARA UBHAYATO MUKHA"),
  (0x1CF2, "VEDIC ", "SIGN ARDHAVISARGA;SIGN ROTATED ARDHAVISARGA;TONE CANDRA ABOVE"),
  (0x1CF5, "VEDIC SIGN ", "JIHVAMULIYA;UPADHMANIYA;ATIKRAMA"),
  (0x1CF8, "VEDIC ", "TONE RING ABOVE;TONE DOUBLE RING ABOVE;SIGN DOUBLE ANUSVARA ANTARGOMUKHA"),
  (0x1D00, "LATIN ", "LETTER SMALL CAPITAL A;LETTER SMALL CAPITAL AE;SMALL LETTER TURNED AE"),
  (0x1D03, "LATIN LETTER SMALL CAPITAL ", "BARRED B;C;D;ETH;E"), (0x1D08, "LATIN SMALL LETTER TURNED ", "OPEN E;I"),
  (0x1D0A, "LATIN LETTER SMALL CAPITAL ", "J;K;L WITH STROKE;M;REVERSED N;O;OPEN O"),
  (0x1D11, "LATIN SMALL LETTER ", "SIDEWAYS O;SIDEWAYS OPEN O;SIDEWAYS O WITH STROKE;TURNED OE"),
  (0x1D15, "LATIN ", "LETTER SMALL CAPITAL OU;SMALL LETTER TOP HALF O;SMALL LETTER BOTTOM HALF O"),
  (0x1D18, "LATIN LETTER SMALL CAPITAL ", "P;REVERSED R;TURNED R;T;U"),
  (0x1D1D, "LATIN SMALL LETTER SIDEWAYS ", "U;DIAERESIZED U;TURNED M"),
  (0x1D20, "LATIN LETTER SMALL CAPITAL ", "V;W;Z;EZH"), (0x1D24, "LATIN LETTER ", "VOICED LARYNGEAL SPIRANT;AIN"),
  (0x1D26, "GREEK LETTER SMALL CAPITAL ", "GAMMA;LAMDA;PI;RHO;PSI"), (0x1D2B, "CYRILLIC LETTER SMALL CAPITAL ", "EL"),
  (0x1D2C, "MODIFIER LETTER CAPITAL ", "A;AE;B;BARRED B;D;E;REVERSED E;G;H;I;J;K;L;M;N;REVERSED N;O;OU;P;R;T;U;W"),
  (0x1D43, "MODIFIER LETTER SMALL ", "A;TURNED A;ALPHA;TURNED AE;B;D;E;SCHWA;OPEN E;TURNED OPEN E;G;TURNED I;K;M"),
  (0x1D51, "MODIFIER LETTER SMALL ", "ENG;O;OPEN O;TOP HALF O;BOTTOM HALF O;P;T;U;SIDEWAYS U;TURNED M;V;AIN;BETA"),
  (0x1D5E, "MODIFIER LETTER SMALL ", "GREEK GAMMA;DELTA;GREEK PHI;CHI"),
  (0x1D62, "LATIN SUBSCRIPT SMALL LETTER ", "I;R;U;V"),
  (0x1D66, "GREEK SUBSCRIPT SMALL LETTER ", "BETA;GAMMA;RHO;PHI;CHI"),
  (0x1D6B, "LATIN SMALL LETTER ", "UE;B WITH MIDDLE TILDE;D WITH MIDDLE TILDE;F WITH MIDDLE TILDE"),
  (0x1D6F, "LATIN SMALL LETTER ", "M WITH MIDDLE TILDE;N WITH MIDDLE TILDE;P WITH MIDDLE TILDE"),
  (0x1D72, "LATIN SMALL LETTER R WITH ", "MIDDLE TILDE;FISHHOOK AND MIDDLE TILDE"),
  (0x1D74, "LATIN SMALL LETTER ", "S WITH MIDDLE TILDE;T WITH MIDDLE TILDE;Z WITH MIDDLE TILDE;TURNED G"),
  (0x1D78, "MODIFIER LETTER CYRILLIC ", "EN"),
  (0x1D79, "LATIN SMALL ", "LETTER INSULAR G;LETTER TH WITH STRIKETHROUGH;CAPITAL LETTER I WITH STROKE"),
  (0x1D7C, "LATIN SMALL ", "LETTER IOTA WITH STROKE;LETTER P WITH STROKE;CAPITAL LETTER U WITH STROKE"),
  (0x1D7F, "LATIN SMALL LETTER ", "UPSILON WITH STROKE;B WITH PALATAL HOOK;D WITH PALATAL HOOK;F WITH PALATAL HOOK"),
  (0x1D83, "LATIN SMALL LETTER ", "G WITH PALATAL HOOK;K WITH PALATAL HOOK;L WITH PALATAL HOOK;M WITH PALATAL HOOK"),
  (0x1D87, "LATIN SMALL LETTER ", "N WITH PALATAL HOOK;P WITH PALATAL HOOK;R WITH PALATAL HOOK;S WITH PALATAL HOOK"),
  (0x1D8B, "LATIN SMALL LETTER ", "ESH WITH PALATAL HOOK;V WITH PALATAL HOOK;X WITH PALATAL HOOK"),
  (0x1D8E, "LATIN SMALL LETTER ", "Z WITH PALATAL HOOK;A WITH RETROFLEX HOOK;ALPHA WITH RETROFLEX HOOK"),
  (0x1D91, "LATIN SMALL LETTER ", "D WITH HOOK AND TAIL;E WITH RETROFLEX HOOK;OPEN E WITH RETROFLEX HOOK"),
  (0x1D94, "LATIN SMALL LETTER ", "REVERSED OPEN E WITH RETROFLEX HOOK;SCHWA WITH RETROFLEX HOOK"),
  (0x1D96, "LATIN SMALL LETTER ", "I WITH RETROFLEX HOOK;OPEN O WITH RETROFLEX HOOK;ESH WITH RETROFLEX HOOK"),
  (0x1D99, "LATIN SMALL LETTER ", "U WITH RETROFLEX HOOK;EZH WITH RETROFLEX HOOK"),
  (0x1D9B, "MODIFIER LETTER SMALL ", "TURNED ALPHA;C;C WITH CURL;ETH;REVERSED OPEN E;F;DOTLESS J WITH STROKE"),
  (0x1DA2, "MODIFIER LETTER SMALL ", "SCRIPT G;TURNED H;I WITH STROKE;IOTA;CAPITAL I;CAPITAL I WITH STROKE"),
  (0x1DA8, "MODIFIER LETTER SMALL ", "J WITH CROSSED-TAIL;L WITH RETROFLEX HOOK;L WITH PALATAL HOOK;CAPITAL L"),
  (0x1DAC, "MODIFIER LETTER SMALL ", "M WITH HOOK;TURNED M WITH LONG LEG;N WITH LEFT HOOK;N WITH RETROFLEX HOOK"),
  (0x1DB0, "MODIFIER LETTER SMALL ", "CAPITAL N;BARRED O;PHI;S WITH HOOK;ESH;T WITH PALATAL HOOK;U BAR;UPSILON"),
  (0x1DB8, "MODIFIER LETTER SMALL ", "CAPITAL U;V WITH HOOK;TURNED V;Z;Z WITH RETROFLEX HOOK;Z WITH CURL;EZH;THETA"),
  (0x1DC0, "COMBINING DOTTED ", "GRAVE ACCENT;ACUTE ACCENT"),
  (0x1DC2, "COMBINING ", "SNAKE BELOW;SUSPENSION MARK;MACRON-ACUTE;GRAVE-MACRON;MACRON-GRAVE;ACUTE-MACRON"),
  (0x1DC8, "COMBINING ", "GRAVE-ACUTE-GRAVE;ACUTE-GRAVE-ACUTE;LATIN SMALL LETTER R BELOW;BREVE-MACRON;MACRON-BREVE"),
  (0x1DCD, "COMBINING ", "DOUBLE CIRCUMFLEX ABOVE;OGONEK ABOVE;ZIGZAG BELOW;IS BELOW;UR ABOVE;US ABOVE"),
  (0x1DD3, "COMBINING LATIN SMALL LETTER ", "FLATTENED OPEN A ABOVE;AE;AO;AV;C CEDILLA;INSULAR D;ETH;G"),
  (0x1DDB, "COMBINING LATIN ", "LETTER SMALL CAPITAL G;SMALL LETTER K;SMALL LETTER L;LETTER SMALL CAPITAL L"),
  (0x1DDF, "COMBINING LATIN ", "LETTER SMALL CAPITAL M;SMALL LETTER N;LETTER SMALL CAPITAL N;LETTER SMALL CAPITAL R"),
  (0x1DE3, "COMBINING LATIN SMALL LETTER ", "R ROTUNDA;S;LONG S;Z;ALPHA;B;BETA;SCHWA;F;L WITH DOUBLE MIDDLE TILDE"),
  (0x1DED, "COMBINING LATIN SMALL LETTER ", "O WITH LIGHT CENTRALIZATION STROKE;P;ESH"),
  (0x1DF0, "COMBINING LATIN SMALL LETTER ", "U WITH LIGHT CENTRALIZATION STROKE;W;A WITH DIAERESIS;O WITH DIAERESIS"),
  (0x1DF4, "COMBINING ", "LATIN SMALL LETTER U WITH DIAERESIS;UP TACK ABOVE;KAVYKA ABOVE RIGHT;KAVYKA ABOVE LEFT"),
  (0x1DF8, "COMBINING ", "DOT ABOVE LEFT;WIDE INVERTED BRIDGE BELOW;DOT BELOW LEFT;DELETION MARK"),
  (0x1DFC, "COMBINING ", "DOUBLE INVERTED BREVE BELOW;ALMOST EQUAL TO BELOW;LEFT ARROWHEAD ABOVE"),
  (0x1DFF, "COMBINING RIGHT ARROWHEAD AND DOWN ARROWHEAD ", "BELOW"),
  (0x1E00, "LATIN ", "CAPITAL LETTER A WITH RING BELOW;SMALL LETTER A WITH RING BELOW"),
  (0x1E02, "LATIN ", "CAPITAL LETTER B WITH DOT ABOVE;SMALL LETTER B WITH DOT ABOVE;CAPITAL LETTER B WITH DOT BELOW"),
  (0x1E05, "LATIN ", "SMALL LETTER B WITH DOT BELOW;CAPITAL LETTER B WITH LINE BELOW;SMALL LETTER B WITH LINE BELOW"),
  (0x1E08, "LATIN ", "CAPITAL LETTER C WITH CEDILLA AND ACUTE;SMALL LETTER C WITH CEDILLA AND ACUTE"),
  (0x1E0A, "LATIN ", "CAPITAL LETTER D WITH DOT ABOVE;SMALL LETTER D WITH DOT ABOVE;CAPITAL LETTER D WITH DOT BELOW"),
  (0x1E0D, "LATIN ", "SMALL LETTER D WITH DOT BELOW;CAPITAL LETTER D WITH LINE BELOW;SMALL LETTER D WITH LINE BELOW"),
  (0x1E10, "LATIN ", "CAPITAL LETTER D WITH CEDILLA;SMALL LETTER D WITH CEDILLA"),
  (0x1E12, "LATIN ", "CAPITAL LETTER D WITH CIRCUMFLEX BELOW;SMALL LETTER D WITH CIRCUMFLEX BELOW"),
  (0x1E14, "LATIN ", "CAPITAL LETTER E WITH MACRON AND GRAVE;SMALL LETTER E WITH MACRON AND GRAVE"),
  (0x1E16, "LATIN ", "CAPITAL LETTER E WITH MACRON AND ACUTE;SMALL LETTER E WITH MACRON AND ACUTE"),
  (0x1E18, "LATIN ", "CAPITAL LETTER E WITH CIRCUMFLEX BELOW;SMALL LETTER E WITH CIRCUMFLEX BELOW"),
  (0x1E1A, "LATIN ", "CAPITAL LETTER E WITH TILDE BELOW;SMALL LETTER E WITH TILDE BELOW"),
  (0x1E1C, "LATIN ", "CAPITAL LETTER E WITH CEDILLA AND BREVE;SMALL LETTER E WITH CEDILLA AND BREVE"),
  (0x1E1E, "LATIN ", "CAPITAL LETTER F WITH DOT ABOVE;SMALL LETTER F WITH DOT ABOVE;CAPITAL LETTER G WITH MACRON"),
  (0x1E21, "LATIN ", "SMALL LETTER G WITH MACRON;CAPITAL LETTER H WITH DOT ABOVE;SMALL LETTER H WITH DOT ABOVE"),
  (0x1E24, "LATIN ", "CAPITAL LETTER H WITH DOT BELOW;SMALL LETTER H WITH DOT BELOW;CAPITAL LETTER H WITH DIAERESIS"),
  (0x1E27, "LATIN ", "SMALL LETTER H WITH DIAERESIS;CAPITAL LETTER H WITH CEDILLA;SMALL LETTER H WITH CEDILLA"),
  (0x1E2A, "LATIN ", "CAPITAL LETTER H WITH BREVE BELOW;SMALL LETTER H WITH BREVE BELOW"),
  (0x1E2C, "LATIN ", "CAPITAL LETTER I WITH TILDE BELOW;SMALL LETTER I WITH TILDE BELOW")]

/-- The names from U+1E2E on. -/
def names1E2E : List NameRow := [
  (0x1E2E, "LATIN ", "CAPITAL LETTER I WITH DIAERESIS AND ACUTE;SMALL LETTER I WITH DIAERESIS AND ACUTE"),
  (0x1E30, "LATIN ", "CAPITAL LETTER K WITH ACUTE;SMALL LETTER K WITH ACUTE;CAPITAL LETTER K WITH DOT BELOW"),
  (0x1E33, "LATIN ", "SMALL LETTER K WITH DOT BELOW;CAPITAL LETTER K WITH LINE BELOW;SMALL LETTER K WITH LINE BELOW"),
  (0x1E36, "LATIN ", "CAPITAL LETTER L WITH DOT BELOW;SMALL LETTER L WITH DOT BELOW"),
  (0x1E38, "LATIN ", "CAPITAL LETTER L WITH DOT BELOW AND MACRON;SMALL LETTER L WITH DOT BELOW AND MACRON"),
  (0x1E3A, "LATIN ", "CAPITAL LETTER L WITH LINE BELOW;SMALL LETTER L WITH LINE BELOW"),
  (0x1E3C, "LATIN ", "CAPITAL LETTER L WITH CIRCUMFLEX BELOW;SMALL LETTER L WITH CIRCUMFLEX BELOW"),
  (0x1E3E, "LATIN ", "CAPITAL LETTER M WITH ACUTE;SMALL LETTER M WITH ACUTE;CAPITAL LETTER M WITH DOT ABOVE"),
  (0x1E41, "LATIN ", "SMALL LETTER M WITH DOT ABOVE;CAPITAL LETTER M WITH DOT BELOW;SMALL LETTER M WITH DOT BELOW"),
  (0x1E44, "LATIN ", "CAPITAL LETTER N WITH DOT ABOVE;SMALL LETTER N WITH DOT ABOVE;CAPITAL LETTER N WITH DOT BELOW"),
  (0x1E47, "LATIN ", "SMALL LETTER N WITH DOT BELOW;CAPITAL LETTER N WITH LINE BELOW;SMALL LETTER N WITH LINE BELOW"),
  (0x1E4A, "LATIN ", "CAPITAL LETTER N WITH CIRCUMFLEX BELOW;SMALL LETTER N WITH CIRCUMFLEX BELOW"),
  (0x1E4C, "LATIN ", "CAPITAL LETTER O WITH TILDE AND ACUTE;SMALL LETTER O WITH TILDE AND ACUTE"),
  (0x1E4E, "LATIN ", "CAPITAL LETTER O WITH TILDE AND DIAERESIS;SMALL LETTER O WITH TILDE AND DIAERESIS"),
  (0x1E50, "LATIN ", "CAPITAL LETTER O WITH MACRON AND GRAVE;SMALL LETTER O WITH MACRON AND GRAVE"),
  (0x1E52, "LATIN ", "CAPITAL LETTER O WITH MACRON AND ACUTE;SMALL LETTER O WITH MACRON AND ACUTE"),
  (0x1E54, "LATIN ", "CAPITAL LETTER P WITH ACUTE;SMALL LETTER P WITH ACUTE;CAPITAL LETTER P WITH DOT ABOVE"),
  (0x1E57, "LATIN ", "SMALL LETTER P WITH DOT ABOVE;CAPITAL LETTER R WITH DOT ABOVE;SMALL LETTER R WITH DOT ABOVE"),
  (0x1E5A, "LATIN ", "CAPITAL LETTER R WITH DOT BELOW;SMALL LETTER R WITH DOT BELOW"),
  (0x1E5C, "LATIN ", "CAPITAL LETTER R WITH DOT BELOW AND MACRON;SMALL LETTER R WITH DOT BELOW AND MACRON"),
  (0x1E5E, "LATIN ", "CAPITAL LETTER R WITH LINE BELOW;SMALL LETTER R WITH LINE BELOW"),
  (0x1E60, "LATIN ", "CAPITAL LETTER S WITH DOT ABOVE;SMALL LETTER S WITH DOT ABOVE;CAPITAL LETTER S WITH DOT BELOW"),
  (0x1E63, "LATIN ", "SMALL LETTER S WITH DOT BELOW;CAPITAL LETTER S WITH ACUTE AND DOT ABOVE"),
  (0x1E65, "LATIN ", "SMALL LETTER S WITH ACUTE AND DOT ABOVE;CAPITAL LETTER S WITH CARON AND DOT ABOVE"),
  (0x1E67, "LATIN ", "SMALL LETTER S WITH CARON AND DOT ABOVE;CAPITAL LETTER S WITH DOT BELOW AND DOT ABOVE"),
  (0x1E69, "LATIN ", "SMALL LETTER S WITH DOT BELOW AND DOT ABOVE;CAPITAL LETTER T WITH DOT ABOVE"),
  (0x1E6B, "LATIN ", "SMALL LETTER T WITH DOT ABOVE;CAPITAL LETTER T WITH DOT BELOW;SMALL LETTER T WITH DOT BELOW"),
  (0x1E6E, "LATIN ", "CAPITAL LETTER T WITH LINE BELOW;SMALL LETTER T WITH LINE BELOW"),
  (0x1E70, "LATIN ", "CAPITAL LETTER T WITH CIRCUMFLEX BELOW;SMALL LETTER T WITH CIRCUMFLEX BELOW"),
  (0x1E72, "LATIN ", "CAPITAL LETTER U WITH DIAERESIS BELOW;SMALL LETTER U WITH DIAERESIS BELOW"),
  (0x1E74, "LATIN ", "CAPITAL LETTER U WITH TILDE BELOW;SMALL LETTER U WITH TILDE BELOW"),
  (0x1E76, "LATIN ", "CAPITAL LETTER U WITH CIRCUMFLEX BELOW;SMALL LETTER U WITH CIRCUMFLEX BELOW"),
  (0x1E78, "LATIN ", "CAPITAL LETTER U WITH TILDE AND ACUTE;SMALL LETTER U WITH TILDE AND ACUTE"),
  (0x1E7A, "LATIN ", "CAPITAL LETTER U WITH MACRON AND DIAERESIS;SMALL LETTER U WITH MACRON AND DIAERESIS"),
  (0x1E7C, "LATIN ", "CAPITAL LETTER V WITH TILDE;SMALL LETTER V WITH TILDE;CAPITAL LETTER V WITH DOT BELOW"),
  (0x1E7F, "LATIN ", "SMALL LETTER V WITH DOT BELOW;CAPITAL LETTER W WITH GRAVE;SMALL LETTER W WITH GRAVE"),
  (0x1E82, "LATIN ", "CAPITAL LETTER W WITH ACUTE;SMALL LETTER W WITH ACUTE;CAPITAL LETTER W WITH DIAERESIS"),
  (0x1E85, "LATIN ", "SMALL LETTER W WITH DIAERESIS;CAPITAL LETTER W WITH DOT ABOVE;SMALL LETTER W WITH DOT ABOVE"),
  (0x1E88, "LATIN ", "CAPITAL LETTER W WITH DOT BELOW;SMALL LETTER W WITH DOT BELOW;CAPITAL LETTER X WITH DOT ABOVE"),
  (0x1E8B, "LATIN ", "SMALL LETTER X WITH DOT ABOVE;CAPITAL LETTER X WITH DIAERESIS;SMALL LETTER X WITH DIAERESIS"),
  (0x1E8E, "LATIN ", "CAPITAL LETTER Y WITH DOT ABOVE;SMALL LETTER Y WITH DOT ABOVE"),
  (0x1E90, "LATIN ", "CAPITAL LETTER Z WITH CIRCUMFLEX;SMALL LETTER Z WITH CIRCUMFLEX"),
  (0x1E92, "LATIN ", "CAPITAL LETTER Z WITH DOT BELOW;SMALL LETTER Z WITH DOT BELOW"),
  (0x1E94, "LATIN CAPITAL LETTER Z WITH LINE ", "BELOW"),
  (0x1E95, "LATIN SMALL LETTER ", "Z WITH LINE BELOW;H WITH LINE BELOW;T WITH DIAERESIS;W WITH RING ABOVE"),
  (0x1E99, "LATIN SMALL LETTER ", "Y WITH RING ABOVE;A WITH RIGHT HALF RING"),
  (0x1E9B, "LATIN SMALL LETTER LONG S WITH ", "DOT ABOVE;DIAGONAL STROKE;HIGH STROKE"),
  (0x1E9E, "LATIN ", "CAPITAL LETTER SHARP S;SMALL LETTER DELTA;CAPITAL LETTER A WITH DOT BELOW"),
  (0x1EA1, "LATIN ", "SMALL LETTER A WITH DOT BELOW;CAPITAL LETTER A WITH HOOK ABOVE;SMALL LETTER A WITH HOOK ABOVE"),
  (0x1EA4, "LATIN ", "CAPITAL LETTER A WITH CIRCUMFLEX AND ACUTE;SMALL LETTER A WITH CIRCUMFLEX AND ACUTE"),
  (0x1EA6, "LATIN ", "CAPITAL LETTER A WITH CIRCUMFLEX AND GRAVE;SMALL LETTER A WITH CIRCUMFLEX AND GRAVE"),
  (0x1EA8, "LATIN ", "CAPITAL LETTER A WITH CIRCUMFLEX AND HOOK ABOVE;SMALL LETTER A WITH CIRCUMFLEX AND HOOK ABOVE"),
  (0x1EAA, "LATIN ", "CAPITAL LETTER A WITH CIRCUMFLEX AND TILDE;SMALL LETTER A WITH CIRCUMFLEX AND TILDE"),
  (0x1EAC, "LATIN ", "CAPITAL LETTER A WITH CIRCUMFLEX AND DOT BELOW;SMALL LETTER A WITH CIRCUMFLEX AND DOT BELOW"),
  (0x1EAE, "LATIN ", "CAPITAL LETTER A WITH BREVE AND ACUTE;SMALL LETTER A WITH BREVE AND ACUTE"),
  (0x1EB0, "LATIN ", "CAPITAL LETTER A WITH BREVE AND GRAVE;SMALL LETTER A WITH BREVE AND GRAVE"),
  (0x1EB2, "LATIN ", "CAPITAL LETTER A WITH BREVE AND HOOK ABOVE;SMALL LETTER A WITH BREVE AND HOOK ABOVE"),
  (0x1EB4, "LATIN ", "CAPITAL LETTER A WITH BREVE AND TILDE;SMALL LETTER A WITH BREVE AND TILDE"),
  (0x1EB6, "LATIN ", "CAPITAL LETTER A WITH BREVE AND DOT BELOW;SMALL LETTER A WITH BREVE AND DOT BELOW"),
  (0x1EB8, "LATIN ", "CAPITAL LETTER E WITH DOT BELOW;SMALL LETTER E WITH DOT BELOW"),
  (0x1EBA, "LATIN ", "CAPITAL LETTER E WITH HOOK ABOVE;SMALL LETTER E WITH HOOK ABOVE;CAPITAL LETTER E WITH TILDE"),
  (0x1EBD, "LATIN ", "SMALL LETTER E WITH TILDE;CAPITAL LETTER E WITH CIRCUMFLEX AND ACUTE"),
  (0x1EBF, "LATIN ", "SMALL LETTER E WITH CIRCUMFLEX AND ACUTE;CAPITAL LETTER E WITH CIRCUMFLEX AND GRAVE"),
  (0x1EC1, "LATIN ", "SMALL LETTER E WITH CIRCUMFLEX AND GRAVE;CAPITAL LETTER E WITH CIRCUMFLEX AND HOOK ABOVE"),
  (0x1EC3, "LATIN ", "SMALL LETTER E WITH CIRCUMFLEX AND HOOK ABOVE;CAPITAL LETTER E WITH CIRCUMFLEX AND TILDE"),
  (0x1EC5, "LATIN ", "SMALL LETTER E WITH CIRCUMFLEX AND TILDE;CAPITAL LETTER E WITH CIRCUMFLEX AND DOT BELOW"),
  (0x1EC7, "LATIN ", "SMALL LETTER E WITH CIRCUMFLEX AND DOT BELOW;CAPITAL LETTER I WITH HOOK ABOVE"),
  (0x1EC9, "LATIN ", "SMALL LETTER I WITH HOOK ABOVE;CAPITAL LETTER I WITH DOT BELOW;SMALL LETTER I WITH DOT BELOW"),
  (0x1ECC, "LATIN ", "CAPITAL LETTER O WITH DOT BELOW;SMALL LETTER O WITH DOT BELOW"),
  (0x1ECE, "LATIN ", "CAPITAL LETTER O WITH HOOK ABOVE;SMALL LETTER O WITH HOOK ABOVE"),
  (0x1ED0, "LATIN ", "CAPITAL LETTER O WITH CIRCUMFLEX AND ACUTE;SMALL LETTER O WITH CIRCUMFLEX AND ACUTE"),
  (0x1ED2, "LATIN ", "CAPITAL LETTER O WITH CIRCUMFLEX AND GRAVE;SMALL LETTER O WITH CIRCUMFLEX AND GRAVE"),
  (0x1ED4, "LATIN ", "CAPITAL LETTER O WITH CIRCUMFLEX AND HOOK ABOVE;SMALL LETTER O WITH CIRCUMFLEX AND HOOK ABOVE"),
  (0x1ED6, "LATIN ", "CAPITAL LETTER O WITH CIRCUMFLEX AND TILDE;SMALL LETTER O WITH CIRCUMFLEX AND TILDE"),
  (0x1ED8, "LATIN ", "CAPITAL LETTER O WITH CIRCUMFLEX AND DOT BELOW;SMALL LETTER O WITH CIRCUMFLEX AND DOT BELOW"),
  (0x1EDA, "LATIN ", "CAPITAL LETTER O WITH HORN AND ACUTE;SMALL LETTER O WITH HORN AND ACUTE"),
  (0x1EDC, "LATIN ", "CAPITAL LETTER O WITH HORN AND GRAVE;SMALL LETTER O WITH HORN AND GRAVE"),
  (0x1EDE, "LATIN ", "CAPITAL LETTER O WITH HORN AND HOOK ABOVE;SMALL LETTER O WITH HORN AND HOOK ABOVE"),
  (0x1EE0, "LATIN ", "CAPITAL LETTER O WITH HORN AND TILDE;SMALL LETTER O WITH HORN AND TILDE"),
  (0x1EE2, "LATIN ", "CAPITAL LETTER O WITH HORN AND DOT BELOW;SMALL LETTER O WITH HORN AND DOT BELOW"),
  (0x1EE4, "LATIN ", "CAPITAL LETTER U WITH DOT BELOW;SMALL LETTER U WITH DOT BELOW"),
  (0x1EE6, "LATIN ", "CAPITAL LETTER U WITH HOOK ABOVE;SMALL LETTER U WITH HOOK ABOVE"),
  (0x1EE8, "LATIN ", "CAPITAL LETTER U WITH HORN AND ACUTE;SMALL LETTER U WITH HORN AND ACUTE"),
  (0x1EEA, "LATIN ", "CAPITAL LETTER U WITH HORN AND GRAVE;SMALL LETTER U WITH HORN AND GRAVE"),
  (0x1EEC, "LATIN ", "CAPITAL LETTER U WITH HORN AND HOOK ABOVE;SMALL LETTER U WITH HORN AND HOOK ABOVE"),
  (0x1EEE, "LATIN ", "CAPITAL LETTER U WITH HORN AND TILDE;SMALL LETTER U WITH HORN AND TILDE"),
  (0x1EF0, "LATIN ", "CAPITAL LETTER U WITH HORN AND DOT BELOW;SMALL LETTER U WITH HORN AND DOT BELOW"),
  (0x1EF2, "LATIN ", "CAPITAL LETTER Y WITH GRAVE;SMALL LETTER Y WITH GRAVE;CAPITAL LETTER Y WITH DOT BELOW"),
  (0x1EF5, "LATIN ", "SMALL LETTER Y WITH DOT BELOW;CAPITAL LETTER Y WITH HOOK ABOVE;SMALL LETTER Y WITH HOOK ABOVE"),
  (0x1EF8, "LATIN ", "CAPITAL LETTER Y WITH TILDE;SMALL LETTER Y WITH TILDE;CAPITAL LETTER MIDDLE-WELSH LL"),
  (0x1EFB, "LATIN ", "SMALL LETTER MIDDLE-WELSH LL;CAPITAL LETTER MIDDLE-WELSH V;SMALL LETTER MIDDLE-WELSH V"),
  (0x1EFE, "LATIN ", "CAPITAL LETTER Y WITH LOOP;SMALL LETTER Y WITH LOOP"),
  (0x1F00, "GREEK SMALL LETTER ALPHA WITH ", "PSILI;DASIA;PSILI AND VARIA;DASIA AND VARIA;PSILI AND OXIA"),
  (0x1F05, "GREEK SMALL LETTER ALPHA WITH ", "DASIA AND OXIA;PSILI AND PERISPOMENI;DASIA AND PERISPOMENI"),
  (0x1F08, "GREEK CAPITAL LETTER ALPHA WITH ", "PSILI;DASIA;PSILI AND VARIA;DASIA AND VARIA;PSILI AND OXIA"),
  (0x1F0D, "GREEK CAPITAL LETTER ALPHA WITH ", "DASIA AND OXIA;PSILI AND PERISPOMENI;DASIA AND PERISPOMENI"),
  (0x1F10, "GREEK SMALL LETTER EPSILON WITH ", "PSILI;DASIA;PSILI AND VARIA;DASIA AND VARIA;PSILI AND OXIA"),
  (0x1F15, "GREEK SMALL LETTER EPSILON WITH DASIA AND ", "OXIA"),
  (0x1F18, "GREEK CAPITAL LETTER EPSILON WITH ", "PSILI;DASIA;PSILI AND VARIA;DASIA AND VARIA;PSILI AND OXIA"),
  (0x1F1D, "GREEK CAPITAL LETTER EPSILON WITH DASIA AND ", "OXIA")]

/-- The names from U+1F20 on. -/
def names1F20 : List NameRow := [
  (0x1F20, "GREEK SMALL LETTER ETA WITH ", "PSILI;DASIA;PSILI AND VARIA;DASIA AND VARIA;PSILI AND OXIA"),
  (0x1F25, "GREEK SMALL LETTER ETA WITH ", "DASIA AND OXIA;PSILI AND PERISPOMENI;DASIA AND PERISPOMENI"),
  (0x1F28, "GREEK CAPITAL LETTER ETA WITH ", "PSILI;DASIA;PSILI AND VARIA;DASIA AND VARIA;PSILI AND OXIA"),
  (0x1F2D, "GREEK CAPITAL LETTER ETA WITH ", "DASIA AND OXIA;PSILI AND PERISPOMENI;DASIA AND PERISPOMENI"),
  (0x1F30, "GREEK SMALL LETTER IOTA WITH ", "PSILI;DASIA;PSILI AND VARIA;DASIA AND VARIA;PSILI AND OXIA"),
  (0x1F35, "GREEK SMALL LETTER IOTA WITH ", "DASIA AND OXIA;PSILI AND PERISPOMENI;DASIA AND PERISPOMENI"),
  (0x1F38, "GREEK CAPITAL LETTER IOTA WITH ", "PSILI;DASIA;PSILI AND VARIA;DASIA AND VARIA;PSILI AND OXIA"),
  (0x1F3D, "GREEK CAPITAL LETTER IOTA WITH ", "DASIA AND OXIA;PSILI AND PERISPOMENI;DASIA AND PERISPOMENI"),
  (0x1F40, "GREEK SMALL LETTER OMICRON WITH ", "PSILI;DASIA;PSILI AND VARIA;DASIA AND VARIA;PSILI AND OXIA"),
  (0x1F45, "GREEK SMALL LETTER OMICRON WITH DASIA AND ", "OXIA"),
  (0x1F48, "GREEK CAPITAL LETTER OMICRON WITH ", "PSILI;DASIA;PSILI AND VARIA;DASIA AND VARIA;PSILI AND OXIA"),
  (0x1F4D, "GREEK CAPITAL LETTER OMICRON WITH DASIA AND ", "OXIA"),
  (0x1F50, "GREEK SMALL LETTER UPSILON WITH ", "PSILI;DASIA;PSILI AND VARIA;DASIA AND VARIA;PSILI AND OXIA"),
  (0x1F55, "GREEK SMALL LETTER UPSILON WITH ", "DASIA AND OXIA;PSILI AND PERISPOMENI;DASIA AND PERISPOMENI"),
  (0x1F59, "GREEK CAPITAL LETTER UPSILON WITH ", "DASIA"),
  (0x1F5B, "GREEK CAPITAL LETTER UPSILON WITH DASIA AND ", "VARIA"),
  (0x1F5D, "GREEK CAPITAL LETTER UPSILON WITH DASIA AND ", "OXIA"),
  (0x1F5F, "GREEK CAPITAL LETTER UPSILON WITH DASIA AND ", "PERISPOMENI"),
  (0x1F60, "GREEK SMALL LETTER OMEGA WITH ", "PSILI;DASIA;PSILI AND VARIA;DASIA AND VARIA;PSILI AND OXIA"),
  (0x1F65, "GREEK SMALL LETTER OMEGA WITH ", "DASIA AND OXIA;PSILI AND PERISPOMENI;DASIA AND PERISPOMENI"),
  (0x1F68, "GREEK CAPITAL LETTER OMEGA WITH ", "PSILI;DASIA;PSILI AND VARIA;DASIA AND VARIA;PSILI AND OXIA"),
  (0x1F6D, "GREEK CAPITAL LETTER OMEGA WITH ", "DASIA AND OXIA;PSILI AND PERISPOMENI;DASIA AND PERISPOMENI"),
  (0x1F70, "GREEK SMALL LETTER ", "ALPHA WITH VARIA;ALPHA WITH OXIA;EPSILON WITH VARIA;EPSILON WITH OXIA"),
  (0x1F74, "GREEK SMALL LETTER ", "ETA WITH VARIA;ETA WITH OXIA;IOTA WITH VARIA;IOTA WITH OXIA"),
  (0x1F78, "GREEK SMALL LETTER OMICRON WITH ", "VARIA;OXIA"),
  (0x1F7A, "GREEK SMALL LETTER ", "UPSILON WITH VARIA;UPSILON WITH OXIA;OMEGA WITH VARIA;OMEGA WITH OXIA"),
  (0x1F80, "GREEK SMALL LETTER ALPHA WITH ", "PSILI AND YPOGEGRAMMENI;DASIA AND YPOGEGRAMMENI"),
  (0x1F82, "GREEK SMALL LETTER ALPHA WITH ", "PSILI AND VARIA AND YPOGEGRAMMENI;DASIA AND VARIA AND YPOGEGRAMMENI"),
  (0x1F84, "GREEK SMALL LETTER ALPHA WITH ", "PSILI AND OXIA AND YPOGEGRAMMENI;DASIA AND OXIA AND YPOGEGRAMMENI"),
  (0x1F86, "GREEK SMALL LETTER ALPHA WITH PSILI AND PERISPOMENI AND ", "YPOGEGRAMMENI"),
  (0x1F87, "GREEK SMALL LETTER ALPHA WITH DASIA AND PERISPOMENI AND ", "YPOGEGRAMMENI"),
  (0x1F88, "GREEK CAPITAL LETTER ALPHA WITH ", "PSILI AND PROSGEGRAMMENI;DASIA AND PROSGEGRAMMENI"),
  (0x1F8A, "GREEK CAPITAL LETTER ALPHA WITH PSILI AND VARIA AND ", "PROSGEGRAMMENI"),
  (0x1F8B, "GREEK CAPITAL LETTER ALPHA WITH DASIA AND VARIA AND ", "PROSGEGRAMMENI"),
  (0x1F8C, "GREEK CAPITAL LETTER ALPHA WITH ", "PSILI AND OXIA AND PROSGEGRAMMENI;DASIA AND OXIA AND PROSGEGRAMMENI"),
  (0x1F8E, "GREEK CAPITAL LETTER ALPHA WITH PSILI AND PERISPOMENI AND ", "PROSGEGRAMMENI"),
  (0x1F8F, "GREEK CAPITAL LETTER ALPHA WITH DASIA AND PERISPOMENI AND ", "PROSGEGRAMMENI"),
  (0x1F90, "GREEK SMALL LETTER ETA WITH ", "PSILI AND YPOGEGRAMMENI;DASIA AND YPOGEGRAMMENI"),
  (0x1F92, "GREEK SMALL LETTER ETA WITH ", "PSILI AND VARIA AND YPOGEGRAMMENI;DASIA AND VARIA AND YPOGEGRAMMENI"),
  (0x1F94, "GREEK SMALL LETTER ETA WITH ", "PSILI AND OXIA AND YPOGEGRAMMENI;DASIA AND OXIA AND YPOGEGRAMMENI"),
  (0x1F96, "GREEK SMALL LETTER ETA WITH PSILI AND PERISPOMENI AND ", "YPOGEGRAMMENI"),
  (0x1F97, "GREEK SMALL LETTER ETA WITH DASIA AND PERISPOMENI AND ", "YPOGEGRAMMENI"),
  (0x1F98, "GREEK CAPITAL LETTER ETA WITH ", "PSILI AND PROSGEGRAMMENI;DASIA AND PROSGEGRAMMENI"),
  (0x1F9A, "GREEK CAPITAL LETTER ETA WITH ", "PSILI AND VARIA AND PROSGEGRAMMENI;DASIA AND VARIA AND PROSGEGRAMMENI"),
  (0x1F9C, "GREEK CAPITAL LETTER ETA WITH ", "PSILI AND OXIA AND PROSGEGRAMMENI;DASIA AND OXIA AND PROSGEGRAMMENI"),
  (0x1F9E, "GREEK CAPITAL LETTER ETA WITH PSILI AND PERISPOMENI AND ", "PROSGEGRAMMENI"),
  (0x1F9F, "GREEK CAPITAL LETTER ETA WITH DASIA AND PERISPOMENI AND ", "PROSGEGRAMMENI"),
  (0x1FA0, "GREEK SMALL LETTER OMEGA WITH ", "PSILI AND YPOGEGRAMMENI;DASIA AND YPOGEGRAMMENI"),
  (0x1FA2, "GREEK SMALL LETTER OMEGA WITH ", "PSILI AND VARIA AND YPOGEGRAMMENI;DASIA AND VARIA AND YPOGEGRAMMENI"),
  (0x1FA4, "GREEK SMALL LETTER OMEGA WITH ", "PSILI AND OXIA AND YPOGEGRAMMENI;DASIA AND OXIA AND YPOGEGRAMMENI"),
  (0x1FA6, "GREEK SMALL LETTER OMEGA WITH PSILI AND PERISPOMENI AND ", "YPOGEGRAMMENI"),
  (0x1FA7, "GREEK SMALL LETTER OMEGA WITH DASIA AND PERISPOMENI AND ", "YPOGEGRAMMENI"),
  (0x1FA8, "GREEK CAPITAL LETTER OMEGA WITH ", "PSILI AND PROSGEGRAMMENI;DASIA AND PROSGEGRAMMENI"),
  (0x1FAA, "GREEK CAPITAL LETTER OMEGA WITH PSILI AND VARIA AND ", "PROSGEGRAMMENI"),
  (0x1FAB, "GREEK CAPITAL LETTER OMEGA WITH DASIA AND VARIA AND ", "PROSGEGRAMMENI"),
  (0x1FAC, "GREEK CAPITAL LETTER OMEGA WITH ", "PSILI AND OXIA AND PROSGEGRAMMENI;DASIA AND OXIA AND PROSGEGRAMMENI"),
  (0x1FAE, "GREEK CAPITAL LETTER OMEGA WITH PSILI AND PERISPOMENI AND ", "PROSGEGRAMMENI"),
  (0x1FAF, "GREEK CAPITAL LETTER OMEGA WITH DASIA AND PERISPOMENI AND ", "PROSGEGRAMMENI"),
  (0x1FB0, "GREEK SMALL LETTER ALPHA WITH ", "VRACHY;MACRON;VARIA AND YPOGEGRAMMENI;YPOGEGRAMMENI"),
  (0x1FB4, "GREEK SMALL LETTER ALPHA WITH OXIA AND ", "YPOGEGRAMMENI"),
  (0x1FB6, "GREEK SMALL LETTER ALPHA WITH ", "PERISPOMENI;PERISPOMENI AND YPOGEGRAMMENI"),
  (0x1FB8, "GREEK CAPITAL LETTER ALPHA WITH ", "VRACHY;MACRON;VARIA;OXIA;PROSGEGRAMMENI"),
  (0x1FBD, "GREEK ", "KORONIS;PROSGEGRAMMENI;PSILI;PERISPOMENI;DIALYTIKA AND PERISPOMENI"),
  (0x1FC2, "GREEK SMALL LETTER ETA WITH ", "VARIA AND YPOGEGRAMMENI;YPOGEGRAMMENI;OXIA AND YPOGEGRAMMENI"),
  (0x1FC6, "GREEK SMALL LETTER ETA WITH ", "PERISPOMENI;PERISPOMENI AND YPOGEGRAMMENI"),
  (0x1FC8, "GREEK CAPITAL LETTER EPSILON WITH ", "VARIA;OXIA"),
  (0x1FCA, "GREEK CAPITAL LETTER ETA WITH ", "VARIA;OXIA;PROSGEGRAMMENI"),
  (0x1FCD, "GREEK PSILI AND ", "VARIA;OXIA;PERISPOMENI"),
  (0x1FD0, "GREEK SMALL LETTER IOTA WITH ", "VRACHY;MACRON;DIALYTIKA AND VARIA;DIALYTIKA AND OXIA"),
  (0x1FD6, "GREEK SMALL LETTER IOTA WITH ", "PERISPOMENI;DIALYTIKA AND PERISPOMENI"),
  (0x1FD8, "GREEK CAPITAL LETTER IOTA WITH ", "VRACHY;MACRON;VARIA;OXIA"),
  (0x1FDD, "GREEK DASIA AND ", "VARIA;OXIA;PERISPOMENI"),
  (0x1FE0, "GREEK SMALL LETTER UPSILON WITH ", "VRACHY;MACRON;DIALYTIKA AND VARIA;DIALYTIKA AND OXIA"),
  (0x1FE4, "GREEK SMALL LETTER RHO WITH ", "PSILI;DASIA"),
  (0x1FE6, "GREEK SMALL LETTER UPSILON WITH ", "PERISPOMENI;DIALYTIKA AND PERISPOMENI"),
  (0x1FE8, "GREEK CAPITAL LETTER UPSILON WITH ", "VRACHY;MACRON;VARIA;OXIA"),
  (0x1FEC, "GREEK ", "CAPITAL LETTER RHO WITH DASIA;DIALYTIKA AND VARIA;DIALYTIKA AND OXIA;VARIA"),
  (0x1FF2, "GREEK SMALL LETTER OMEGA WITH ", "VARIA AND YPOGEGRAMMENI;YPOGEGRAMMENI;OXIA AND YPOGEGRAMMENI"),
  (0x1FF6, "GREEK SMALL LETTER OMEGA WITH ", "PERISPOMENI;PERISPOMENI AND YPOGEGRAMMENI"),
  (0x1FF8, "GREEK CAPITAL LETTER OMICRON WITH ", "VARIA;OXIA"),
  (0x1FFA, "GREEK CAPITAL LETTER OMEGA WITH ", "VARIA;OXIA;PROSGEGRAMMENI"), (0x1FFD, "GREEK ", "OXIA;DASIA")]

/-- The rows of this part. -/
def alphabetsNames : List (List NameRow) := [
  names0020, names01D1, names0310, names04DC, names06E9, names08C7, names0B70, names0E12, names1100,
  names14F6, names1901, names1C4D, names1E2E, names1F20]

end SourceAtlas.Unicode
