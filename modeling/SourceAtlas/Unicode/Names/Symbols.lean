import SourceAtlas.Unicode.Names.Row

/-!
Names of punctuation, of symbols and of the characters of East Asian scripts, from U+2000 to U+9FFF.
-/

namespace SourceAtlas.Unicode

/-- The names from U+2000 on. -/
def names2000 : List NameRow := [
  (0x2000, "", "EN QUAD;EM QUAD;EN SPACE;EM SPACE;THREE-PER-EM SPACE;FOUR-PER-EM SPACE;SIX-PER-EM SPACE"),
  (0x2007, "", "FIGURE SPACE;PUNCTUATION SPACE;THIN SPACE;HAIR SPACE"),
  (0x200B, "ZERO WIDTH ", "SPACE;NON-JOINER;JOINER"),
  (0x200E, "", "LEFT-TO-RIGHT MARK;RIGHT-TO-LEFT MARK;HYPHEN;NON-BREAKING HYPHEN;FIGURE DASH;EN DASH;EM DASH"),
  (0x2015, "", "HORIZONTAL BAR;DOUBLE VERTICAL LINE;DOUBLE LOW LINE;LEFT SINGLE QUOTATION MARK"),
  (0x2019, "", "RIGHT SINGLE QUOTATION MARK;SINGLE LOW-9 QUOTATION MARK;SINGLE HIGH-REVERSED-9 QUOTATION MARK"),
  (0x201C, "", "LEFT DOUBLE QUOTATION MARK;RIGHT DOUBLE QUOTATION MARK;DOUBLE LOW-9 QUOTATION MARK"),
  (0x201F, "", "DOUBLE HIGH-REVERSED-9 QUOTATION MARK;DAGGER;DOUBLE DAGGER;BULLET;TRIANGULAR BULLET;ONE DOT LEADER"),
  (0x2025, "", "TWO DOT LEADER;HORIZONTAL ELLIPSIS;HYPHENATION POINT;LINE SEPARATOR;PARAGRAPH SEPARATOR"),
  (0x202A, "", "LEFT-TO-RIGHT EMBEDDING;RIGHT-TO-LEFT EMBEDDING;POP DIRECTIONAL FORMATTING;LEFT-TO-RIGHT OVERRIDE"),
  (0x202E, "", "RIGHT-TO-LEFT OVERRIDE;NARROW NO-BREAK SPACE;PER MILLE SIGN;PER TEN THOUSAND SIGN;PRIME"),
  (0x2033, "", "DOUBLE PRIME;TRIPLE PRIME;REVERSED PRIME;REVERSED DOUBLE PRIME;REVERSED TRIPLE PRIME;CARET"),
  (0x2039, "SINGLE ", "LEFT-POINTING ANGLE QUOTATION MARK;RIGHT-POINTING ANGLE QUOTATION MARK"),
  (0x203B, "", "REFERENCE MARK;DOUBLE EXCLAMATION MARK;INTERROBANG;OVERLINE;UNDERTIE;CHARACTER TIE"),
  (0x2041, "", "CARET INSERTION POINT;ASTERISM;HYPHEN BULLET;FRACTION SLASH;LEFT SQUARE BRACKET WITH QUILL"),
  (0x2046, "", "RIGHT SQUARE BRACKET WITH QUILL;DOUBLE QUESTION MARK;QUESTION EXCLAMATION MARK"),
  (0x2049, "", "EXCLAMATION QUESTION MARK;TIRONIAN SIGN ET;REVERSED PILCROW SIGN;BLACK LEFTWARDS BULLET"),
  (0x204D, "", "BLACK RIGHTWARDS BULLET;LOW ASTERISK;REVERSED SEMICOLON;CLOSE UP;TWO ASTERISKS ALIGNED VERTICALLY"),
  (0x2052, "", "COMMERCIAL MINUS SIGN;SWUNG DASH;INVERTED UNDERTIE;FLOWER PUNCTUATION MARK;THREE DOT PUNCTUATION"),
  (0x2057, "", "QUADRUPLE PRIME;FOUR DOT PUNCTUATION;FIVE DOT PUNCTUATION;TWO DOT PUNCTUATION;FOUR DOT MARK"),
  (0x205C, "", "DOTTED CROSS;TRICOLON;VERTICAL FOUR DOTS;MEDIUM MATHEMATICAL SPACE;WORD JOINER;FUNCTION APPLICATION"),
  (0x2062, "INVISIBLE ", "TIMES;SEPARATOR;PLUS"),
  (0x2066, "", "LEFT-TO-RIGHT ISOLATE;RIGHT-TO-LEFT ISOLATE;FIRST STRONG ISOLATE;POP DIRECTIONAL ISOLATE"),
  (0x206A, "", "INHIBIT SYMMETRIC SWAPPING;ACTIVATE SYMMETRIC SWAPPING;INHIBIT ARABIC FORM SHAPING"),
  (0x206D, "", "ACTIVATE ARABIC FORM SHAPING;NATIONAL DIGIT SHAPES;NOMINAL DIGIT SHAPES"),
  (0x2070, "SUPERSCRIPT ", "ZERO;LATIN SMALL LETTER I"),
  (0x2074, "SUPERSCRIPT ", "FOUR;FIVE;SIX;SEVEN;EIGHT;NINE;PLUS SIGN;MINUS;EQUALS SIGN;LEFT PARENTHESIS"),
  (0x207E, "SUPERSCRIPT ", "RIGHT PARENTHESIS;LATIN SMALL LETTER N"),
  (0x2080, "SUBSCRIPT ", "ZERO;ONE;TWO;THREE;FOUR;FIVE;SIX;SEVEN;EIGHT;NINE;PLUS SIGN;MINUS;EQUALS SIGN"),
  (0x208D, "SUBSCRIPT ", "LEFT PARENTHESIS;RIGHT PARENTHESIS"),
  (0x2090, "LATIN SUBSCRIPT SMALL LETTER ", "A;E;O;X;SCHWA;H;K;L;M;N;P;S;T"),
  (0x20A0, "", "EURO-CURRENCY SIGN;COLON SIGN;CRUZEIRO SIGN;FRENCH FRANC SIGN;LIRA SIGN;MILL SIGN;NAIRA SIGN"),
  (0x20A7, "", "PESETA SIGN;RUPEE SIGN;WON SIGN;NEW SHEQEL SIGN;DONG SIGN;EURO SIGN;KIP SIGN;TUGRIK SIGN"),
  (0x20AF, "", "DRACHMA SIGN;GERMAN PENNY SIGN;PESO SIGN;GUARANI SIGN;AUSTRAL SIGN;HRYVNIA SIGN;CEDI SIGN"),
  (0x20B6, "", "LIVRE TOURNOIS SIGN;SPESMILO SIGN;TENGE SIGN;INDIAN RUPEE SIGN;TURKISH LIRA SIGN;NORDIC MARK SIGN"),
  (0x20BC, "", "MANAT SIGN;RUBLE SIGN;LARI SIGN;BITCOIN SIGN;SOM SIGN"),
  (0x20D0, "COMBINING ", "LEFT HARPOON ABOVE;RIGHT HARPOON ABOVE;LONG VERTICAL LINE OVERLAY"),
  (0x20D3, "COMBINING ", "SHORT VERTICAL LINE OVERLAY;ANTICLOCKWISE ARROW ABOVE;CLOCKWISE ARROW ABOVE"),
  (0x20D6, "COMBINING ", "LEFT ARROW ABOVE;RIGHT ARROW ABOVE;RING OVERLAY;CLOCKWISE RING OVERLAY"),
  (0x20DA, "COMBINING ", "ANTICLOCKWISE RING OVERLAY;THREE DOTS ABOVE;FOUR DOTS ABOVE"),
  (0x20DD, "COMBINING ENCLOSING ", "CIRCLE;SQUARE;DIAMOND;CIRCLE BACKSLASH"),
  (0x20E1, "COMBINING ", "LEFT RIGHT ARROW ABOVE;ENCLOSING SCREEN;ENCLOSING KEYCAP"),
  (0x20E4, "COMBINING ", "ENCLOSING UPWARD POINTING TRIANGLE;REVERSE SOLIDUS OVERLAY;DOUBLE VERTICAL STROKE OVERLAY"),
  (0x20E7, "COMBINING ", "ANNUITY SYMBOL;TRIPLE UNDERDOT;WIDE BRIDGE ABOVE;LEFTWARDS ARROW OVERLAY"),
  (0x20EB, "COMBINING ", "LONG DOUBLE SOLIDUS OVERLAY;RIGHTWARDS HARPOON WITH BARB DOWNWARDS"),
  (0x20ED, "COMBINING ", "LEFTWARDS HARPOON WITH BARB DOWNWARDS;LEFT ARROW BELOW;RIGHT ARROW BELOW;ASTERISK ABOVE"),
  (0x2100, "", "ACCOUNT OF;ADDRESSED TO THE SUBJECT;DOUBLE-STRUCK CAPITAL C;DEGREE CELSIUS;CENTRE LINE SYMBOL"),
  (0x2105, "", "CARE OF;CADA UNA;EULER CONSTANT;SCRUPLE;DEGREE FAHRENHEIT;SCRIPT SMALL G;SCRIPT CAPITAL H"),
  (0x210C, "", "BLACK-LETTER CAPITAL H;DOUBLE-STRUCK CAPITAL H;PLANCK CONSTANT;PLANCK CONSTANT OVER TWO PI"),
  (0x2110, "", "SCRIPT CAPITAL I;BLACK-LETTER CAPITAL I;SCRIPT CAPITAL L;SCRIPT SMALL L;L B BAR SYMBOL"),
  (0x2115, "", "DOUBLE-STRUCK CAPITAL N;NUMERO SIGN;SOUND RECORDING COPYRIGHT;SCRIPT CAPITAL P"),
  (0x2119, "DOUBLE-STRUCK CAPITAL ", "P;Q"),
  (0x211B, "", "SCRIPT CAPITAL R;BLACK-LETTER CAPITAL R;DOUBLE-STRUCK CAPITAL R;PRESCRIPTION TAKE;RESPONSE"),
  (0x2120, "", "SERVICE MARK;TELEPHONE SIGN;TRADE MARK SIGN;VERSICLE;DOUBLE-STRUCK CAPITAL Z;OUNCE SIGN;OHM SIGN"),
  (0x2127, "", "INVERTED OHM SIGN;BLACK-LETTER CAPITAL Z;TURNED GREEK SMALL LETTER IOTA;KELVIN SIGN;ANGSTROM SIGN"),
  (0x212C, "", "SCRIPT CAPITAL B;BLACK-LETTER CAPITAL C;ESTIMATED SYMBOL;SCRIPT SMALL E;SCRIPT CAPITAL E"),
  (0x2131, "", "SCRIPT CAPITAL F;TURNED CAPITAL F;SCRIPT CAPITAL M;SCRIPT SMALL O;ALEF SYMBOL;BET SYMBOL"),
  (0x2137, "", "GIMEL SYMBOL;DALET SYMBOL;INFORMATION SOURCE;ROTATED CAPITAL Q;FACSIMILE SIGN"),
  (0x213C, "DOUBLE-STRUCK ", "SMALL PI;SMALL GAMMA;CAPITAL GAMMA;CAPITAL PI;N-ARY SUMMATION"),
  (0x2141, "TURNED SANS-SERIF CAPITAL ", "G;L"),
  (0x2143, "", "REVERSED SANS-SERIF CAPITAL L;TURNED SANS-SERIF CAPITAL Y"),
  (0x2145, "DOUBLE-STRUCK ITALIC ", "CAPITAL D;SMALL D;SMALL E;SMALL I;SMALL J"),
  (0x214A, "", "PROPERTY LINE;TURNED AMPERSAND;PER SIGN;AKTIESELSKAB;TURNED SMALL F;SYMBOL FOR SAMARITAN SOURCE"),
  (0x2150, "VULGAR FRACTION ONE ", "SEVENTH;NINTH;TENTH;THIRD"),
  (0x2154, "VULGAR FRACTION ", "TWO THIRDS;ONE FIFTH;TWO FIFTHS;THREE FIFTHS;FOUR FIFTHS;ONE SIXTH;FIVE SIXTHS"),
  (0x215B, "VULGAR FRACTION ", "ONE EIGHTH;THREE EIGHTHS;FIVE EIGHTHS;SEVEN EIGHTHS"),
  (0x215F, "FRACTION NUMERATOR ", "ONE"),
  (0x2160, "ROMAN NUMERAL ", "ONE;TWO;THREE;FOUR;FIVE;SIX;SEVEN;EIGHT;NINE;TEN;ELEVEN;TWELVE;FIFTY;ONE HUNDRED"),
  (0x216E, "ROMAN NUMERAL ", "FIVE HUNDRED;ONE THOUSAND"),
  (0x2170, "SMALL ROMAN NUMERAL ", "ONE;TWO;THREE;FOUR;FIVE;SIX;SEVEN;EIGHT;NINE;TEN;ELEVEN;TWELVE;FIFTY"),
  (0x217D, "SMALL ROMAN NUMERAL ", "ONE HUNDRED;FIVE HUNDRED;ONE THOUSAND"),
  (0x2180, "ROMAN NUMERAL ", "ONE THOUSAND C D;FIVE THOUSAND;TEN THOUSAND;REVERSED ONE HUNDRED"),
  (0x2184, "LATIN SMALL LETTER REVERSED ", "C"),
  (0x2185, "ROMAN NUMERAL ", "SIX LATE FORM;FIFTY EARLY FORM;FIFTY THOUSAND;ONE HUNDRED THOUSAND"),
  (0x2189, "", "VULGAR FRACTION ZERO THIRDS;TURNED DIGIT TWO;TURNED DIGIT THREE"),
  (0x2190, "", "LEFTWARDS ARROW;UPWARDS ARROW;RIGHTWARDS ARROW;DOWNWARDS ARROW;LEFT RIGHT ARROW;UP DOWN ARROW"),
  (0x2196, "", "NORTH WEST ARROW;NORTH EAST ARROW;SOUTH EAST ARROW;SOUTH WEST ARROW;LEFTWARDS ARROW WITH STROKE"),
  (0x219B, "", "RIGHTWARDS ARROW WITH STROKE;LEFTWARDS WAVE ARROW;RIGHTWARDS WAVE ARROW;LEFTWARDS TWO HEADED ARROW"),
  (0x219F, "", "UPWARDS TWO HEADED ARROW;RIGHTWARDS TWO HEADED ARROW;DOWNWARDS TWO HEADED ARROW"),
  (0x21A2, "", "LEFTWARDS ARROW WITH TAIL;RIGHTWARDS ARROW WITH TAIL;LEFTWARDS ARROW FROM BAR"),
  (0x21A5, "", "UPWARDS ARROW FROM BAR;RIGHTWARDS ARROW FROM BAR;DOWNWARDS ARROW FROM BAR;UP DOWN ARROW WITH BASE"),
  (0x21A9, "", "LEFTWARDS ARROW WITH HOOK;RIGHTWARDS ARROW WITH HOOK;LEFTWARDS ARROW WITH LOOP"),
  (0x21AC, "", "RIGHTWARDS ARROW WITH LOOP;LEFT RIGHT WAVE ARROW;LEFT RIGHT ARROW WITH STROKE"),
  (0x21AF, "DOWNWARDS ZIGZAG ", "ARROW"), (0x21B0, "UPWARDS ARROW WITH TIP ", "LEFTWARDS;RIGHTWARDS"),
  (0x21B2, "DOWNWARDS ARROW WITH TIP ", "LEFTWARDS;RIGHTWARDS"),
  (0x21B4, "", "RIGHTWARDS ARROW WITH CORNER DOWNWARDS;DOWNWARDS ARROW WITH CORNER LEFTWARDS"),
  (0x21B6, "", "ANTICLOCKWISE TOP SEMICIRCLE ARROW;CLOCKWISE TOP SEMICIRCLE ARROW;NORTH WEST ARROW TO LONG BAR"),
  (0x21B9, "", "LEFTWARDS ARROW TO BAR OVER RIGHTWARDS ARROW TO BAR;ANTICLOCKWISE OPEN CIRCLE ARROW"),
  (0x21BB, "CLOCKWISE OPEN CIRCLE ", "ARROW"), (0x21BC, "LEFTWARDS HARPOON WITH BARB ", "UPWARDS;DOWNWARDS"),
  (0x21BE, "UPWARDS HARPOON WITH BARB ", "RIGHTWARDS;LEFTWARDS"),
  (0x21C0, "RIGHTWARDS HARPOON WITH BARB ", "UPWARDS;DOWNWARDS"),
  (0x21C2, "DOWNWARDS HARPOON WITH BARB ", "RIGHTWARDS;LEFTWARDS"),
  (0x21C4, "", "RIGHTWARDS ARROW OVER LEFTWARDS ARROW;UPWARDS ARROW LEFTWARDS OF DOWNWARDS ARROW"),
  (0x21C6, "", "LEFTWARDS ARROW OVER RIGHTWARDS ARROW;LEFTWARDS PAIRED ARROWS;UPWARDS PAIRED ARROWS"),
  (0x21C9, "", "RIGHTWARDS PAIRED ARROWS;DOWNWARDS PAIRED ARROWS;LEFTWARDS HARPOON OVER RIGHTWARDS HARPOON"),
  (0x21CC, "", "RIGHTWARDS HARPOON OVER LEFTWARDS HARPOON;LEFTWARDS DOUBLE ARROW WITH STROKE"),
  (0x21CE, "", "LEFT RIGHT DOUBLE ARROW WITH STROKE;RIGHTWARDS DOUBLE ARROW WITH STROKE;LEFTWARDS DOUBLE ARROW"),
  (0x21D1, "", "UPWARDS DOUBLE ARROW;RIGHTWARDS DOUBLE ARROW;DOWNWARDS DOUBLE ARROW;LEFT RIGHT DOUBLE ARROW")]

/-- The names from U+21D5 on. -/
def names21D5 : List NameRow := [
  (0x21D5, "", "UP DOWN DOUBLE ARROW;NORTH WEST DOUBLE ARROW;NORTH EAST DOUBLE ARROW;SOUTH EAST DOUBLE ARROW"),
  (0x21D9, "", "SOUTH WEST DOUBLE ARROW;LEFTWARDS TRIPLE ARROW;RIGHTWARDS TRIPLE ARROW;LEFTWARDS SQUIGGLE ARROW"),
  (0x21DD, "", "RIGHTWARDS SQUIGGLE ARROW;UPWARDS ARROW WITH DOUBLE STROKE;DOWNWARDS ARROW WITH DOUBLE STROKE"),
  (0x21E0, "", "LEFTWARDS DASHED ARROW;UPWARDS DASHED ARROW;RIGHTWARDS DASHED ARROW;DOWNWARDS DASHED ARROW"),
  (0x21E4, "", "LEFTWARDS ARROW TO BAR;RIGHTWARDS ARROW TO BAR;LEFTWARDS WHITE ARROW;UPWARDS WHITE ARROW"),
  (0x21E8, "", "RIGHTWARDS WHITE ARROW;DOWNWARDS WHITE ARROW"),
  (0x21EA, "UPWARDS WHITE ARROW ", "FROM BAR;ON PEDESTAL;ON PEDESTAL WITH HORIZONTAL BAR"),
  (0x21ED, "UPWARDS WHITE ", "ARROW ON PEDESTAL WITH VERTICAL BAR;DOUBLE ARROW;DOUBLE ARROW ON PEDESTAL"),
  (0x21F0, "", "RIGHTWARDS WHITE ARROW FROM WALL;NORTH WEST ARROW TO CORNER;SOUTH EAST ARROW TO CORNER"),
  (0x21F3, "", "UP DOWN WHITE ARROW;RIGHT ARROW WITH SMALL CIRCLE;DOWNWARDS ARROW LEFTWARDS OF UPWARDS ARROW"),
  (0x21F6, "", "THREE RIGHTWARDS ARROWS;LEFTWARDS ARROW WITH VERTICAL STROKE;RIGHTWARDS ARROW WITH VERTICAL STROKE"),
  (0x21F9, "", "LEFT RIGHT ARROW WITH VERTICAL STROKE;LEFTWARDS ARROW WITH DOUBLE VERTICAL STROKE"),
  (0x21FB, "", "RIGHTWARDS ARROW WITH DOUBLE VERTICAL STROKE;LEFT RIGHT ARROW WITH DOUBLE VERTICAL STROKE"),
  (0x21FD, "", "LEFTWARDS OPEN-HEADED ARROW;RIGHTWARDS OPEN-HEADED ARROW;LEFT RIGHT OPEN-HEADED ARROW;FOR ALL"),
  (0x2201, "", "COMPLEMENT;PARTIAL DIFFERENTIAL;THERE EXISTS;THERE DOES NOT EXIST;EMPTY SET;INCREMENT;NABLA"),
  (0x2208, "", "ELEMENT OF;NOT AN ELEMENT OF;SMALL ELEMENT OF;CONTAINS AS MEMBER;DOES NOT CONTAIN AS MEMBER"),
  (0x220D, "", "SMALL CONTAINS AS MEMBER;END OF PROOF;N-ARY PRODUCT;N-ARY COPRODUCT;N-ARY SUMMATION;MINUS SIGN"),
  (0x2213, "", "MINUS-OR-PLUS SIGN;DOT PLUS;DIVISION SLASH;SET MINUS;ASTERISK OPERATOR;RING OPERATOR"),
  (0x2219, "", "BULLET OPERATOR;SQUARE ROOT;CUBE ROOT;FOURTH ROOT;PROPORTIONAL TO;INFINITY;RIGHT ANGLE;ANGLE"),
  (0x2221, "", "MEASURED ANGLE;SPHERICAL ANGLE;DIVIDES;DOES NOT DIVIDE;PARALLEL TO;NOT PARALLEL TO;LOGICAL AND"),
  (0x2228, "", "LOGICAL OR;INTERSECTION;UNION;INTEGRAL;DOUBLE INTEGRAL;TRIPLE INTEGRAL;CONTOUR INTEGRAL"),
  (0x222F, "", "SURFACE INTEGRAL;VOLUME INTEGRAL;CLOCKWISE INTEGRAL;CLOCKWISE CONTOUR INTEGRAL"),
  (0x2233, "", "ANTICLOCKWISE CONTOUR INTEGRAL;THEREFORE;BECAUSE;RATIO;PROPORTION;DOT MINUS;EXCESS"),
  (0x223A, "", "GEOMETRIC PROPORTION;HOMOTHETIC;TILDE OPERATOR;REVERSED TILDE;INVERTED LAZY S;SINE WAVE"),
  (0x2240, "", "WREATH PRODUCT;NOT TILDE;MINUS TILDE;ASYMPTOTICALLY EQUAL TO;NOT ASYMPTOTICALLY EQUAL TO"),
  (0x2245, "APPROXIMATELY ", "EQUAL TO;BUT NOT ACTUALLY EQUAL TO"),
  (0x2247, "", "NEITHER APPROXIMATELY NOR ACTUALLY EQUAL TO;ALMOST EQUAL TO;NOT ALMOST EQUAL TO"),
  (0x224A, "", "ALMOST EQUAL OR EQUAL TO;TRIPLE TILDE;ALL EQUAL TO;EQUIVALENT TO;GEOMETRICALLY EQUIVALENT TO"),
  (0x224F, "", "DIFFERENCE BETWEEN;APPROACHES THE LIMIT;GEOMETRICALLY EQUAL TO"),
  (0x2252, "", "APPROXIMATELY EQUAL TO OR THE IMAGE OF;IMAGE OF OR APPROXIMATELY EQUAL TO;COLON EQUALS;EQUALS COLON"),
  (0x2256, "", "RING IN EQUAL TO;RING EQUAL TO;CORRESPONDS TO;ESTIMATES;EQUIANGULAR TO;STAR EQUALS;DELTA EQUAL TO"),
  (0x225D, "", "EQUAL TO BY DEFINITION;MEASURED BY;QUESTIONED EQUAL TO;NOT EQUAL TO;IDENTICAL TO;NOT IDENTICAL TO"),
  (0x2263, "", "STRICTLY EQUIVALENT TO;LESS-THAN OR EQUAL TO;GREATER-THAN OR EQUAL TO;LESS-THAN OVER EQUAL TO"),
  (0x2267, "", "GREATER-THAN OVER EQUAL TO;LESS-THAN BUT NOT EQUAL TO;GREATER-THAN BUT NOT EQUAL TO;MUCH LESS-THAN"),
  (0x226B, "", "MUCH GREATER-THAN;BETWEEN;NOT EQUIVALENT TO;NOT LESS-THAN;NOT GREATER-THAN"),
  (0x2270, "NEITHER ", "LESS-THAN NOR EQUAL TO;GREATER-THAN NOR EQUAL TO"),
  (0x2272, "", "LESS-THAN OR EQUIVALENT TO;GREATER-THAN OR EQUIVALENT TO;NEITHER LESS-THAN NOR EQUIVALENT TO"),
  (0x2275, "", "NEITHER GREATER-THAN NOR EQUIVALENT TO;LESS-THAN OR GREATER-THAN;GREATER-THAN OR LESS-THAN"),
  (0x2278, "NEITHER ", "LESS-THAN NOR GREATER-THAN;GREATER-THAN NOR LESS-THAN"),
  (0x227A, "", "PRECEDES;SUCCEEDS;PRECEDES OR EQUAL TO;SUCCEEDS OR EQUAL TO;PRECEDES OR EQUIVALENT TO"),
  (0x227F, "", "SUCCEEDS OR EQUIVALENT TO;DOES NOT PRECEDE;DOES NOT SUCCEED;SUBSET OF;SUPERSET OF;NOT A SUBSET OF"),
  (0x2285, "", "NOT A SUPERSET OF;SUBSET OF OR EQUAL TO;SUPERSET OF OR EQUAL TO"),
  (0x2288, "NEITHER A ", "SUBSET OF NOR EQUAL TO;SUPERSET OF NOR EQUAL TO"),
  (0x228A, "", "SUBSET OF WITH NOT EQUAL TO;SUPERSET OF WITH NOT EQUAL TO;MULTISET"),
  (0x228D, "MULTISET ", "MULTIPLICATION;UNION"),
  (0x228F, "SQUARE ", "IMAGE OF;ORIGINAL OF;IMAGE OF OR EQUAL TO;ORIGINAL OF OR EQUAL TO;CAP;CUP"),
  (0x2295, "CIRCLED ", "PLUS;MINUS;TIMES;DIVISION SLASH;DOT OPERATOR;RING OPERATOR;ASTERISK OPERATOR;EQUALS;DASH"),
  (0x229E, "SQUARED ", "PLUS;MINUS;TIMES;DOT OPERATOR"),
  (0x22A2, "", "RIGHT TACK;LEFT TACK;DOWN TACK;UP TACK;ASSERTION;MODELS;TRUE;FORCES"),
  (0x22AA, "", "TRIPLE VERTICAL BAR RIGHT TURNSTILE;DOUBLE VERTICAL BAR DOUBLE RIGHT TURNSTILE;DOES NOT PROVE"),
  (0x22AD, "", "NOT TRUE;DOES NOT FORCE;NEGATED DOUBLE VERTICAL BAR DOUBLE RIGHT TURNSTILE;PRECEDES UNDER RELATION"),
  (0x22B1, "", "SUCCEEDS UNDER RELATION;NORMAL SUBGROUP OF;CONTAINS AS NORMAL SUBGROUP"),
  (0x22B4, "", "NORMAL SUBGROUP OF OR EQUAL TO;CONTAINS AS NORMAL SUBGROUP OR EQUAL TO;ORIGINAL OF;IMAGE OF"),
  (0x22B8, "", "MULTIMAP;HERMITIAN CONJUGATE MATRIX;INTERCALATE;XOR;NAND;NOR;RIGHT ANGLE WITH ARC;RIGHT TRIANGLE"),
  (0x22C0, "N-ARY ", "LOGICAL AND;LOGICAL OR;INTERSECTION;UNION"),
  (0x22C4, "", "DIAMOND OPERATOR;DOT OPERATOR;STAR OPERATOR;DIVISION TIMES;BOWTIE"),
  (0x22C9, "", "LEFT NORMAL FACTOR SEMIDIRECT PRODUCT;RIGHT NORMAL FACTOR SEMIDIRECT PRODUCT"),
  (0x22CB, "", "LEFT SEMIDIRECT PRODUCT;RIGHT SEMIDIRECT PRODUCT;REVERSED TILDE EQUALS"),
  (0x22CE, "CURLY LOGICAL ", "OR;AND"), (0x22D0, "DOUBLE ", "SUBSET;SUPERSET;INTERSECTION;UNION"),
  (0x22D4, "", "PITCHFORK;EQUAL AND PARALLEL TO;LESS-THAN WITH DOT;GREATER-THAN WITH DOT;VERY MUCH LESS-THAN"),
  (0x22D9, "", "VERY MUCH GREATER-THAN;LESS-THAN EQUAL TO OR GREATER-THAN;GREATER-THAN EQUAL TO OR LESS-THAN"),
  (0x22DC, "EQUAL TO OR ", "LESS-THAN;GREATER-THAN;PRECEDES;SUCCEEDS"),
  (0x22E0, "DOES NOT ", "PRECEDE OR EQUAL;SUCCEED OR EQUAL"),
  (0x22E2, "NOT SQUARE ", "IMAGE OF OR EQUAL TO;ORIGINAL OF OR EQUAL TO"),
  (0x22E4, "SQUARE ", "IMAGE OF OR NOT EQUAL TO;ORIGINAL OF OR NOT EQUAL TO"),
  (0x22E6, "", "LESS-THAN BUT NOT EQUIVALENT TO;GREATER-THAN BUT NOT EQUIVALENT TO;PRECEDES BUT NOT EQUIVALENT TO"),
  (0x22E9, "", "SUCCEEDS BUT NOT EQUIVALENT TO;NOT NORMAL SUBGROUP OF;DOES NOT CONTAIN AS NORMAL SUBGROUP"),
  (0x22EC, "", "NOT NORMAL SUBGROUP OF OR EQUAL TO;DOES NOT CONTAIN AS NORMAL SUBGROUP OR EQUAL;VERTICAL ELLIPSIS"),
  (0x22EF, "", "MIDLINE HORIZONTAL ELLIPSIS;UP RIGHT DIAGONAL ELLIPSIS;DOWN RIGHT DIAGONAL ELLIPSIS"),
  (0x22F2, "ELEMENT OF WITH ", "LONG HORIZONTAL STROKE;VERTICAL BAR AT END OF HORIZONTAL STROKE"),
  (0x22F4, "", "SMALL ELEMENT OF WITH VERTICAL BAR AT END OF HORIZONTAL STROKE;ELEMENT OF WITH DOT ABOVE"),
  (0x22F6, "", "ELEMENT OF WITH OVERBAR;SMALL ELEMENT OF WITH OVERBAR"),
  (0x22F8, "ELEMENT OF WITH ", "UNDERBAR;TWO HORIZONTAL STROKES"),
  (0x22FA, "CONTAINS WITH ", "LONG HORIZONTAL STROKE;VERTICAL BAR AT END OF HORIZONTAL STROKE"),
  (0x22FC, "", "SMALL CONTAINS WITH VERTICAL BAR AT END OF HORIZONTAL STROKE;CONTAINS WITH OVERBAR"),
  (0x22FE, "", "SMALL CONTAINS WITH OVERBAR;Z NOTATION BAG MEMBERSHIP;DIAMETER SIGN;ELECTRIC ARROW;HOUSE"),
  (0x2303, "", "UP ARROWHEAD;DOWN ARROWHEAD;PROJECTIVE;PERSPECTIVE;WAVY LINE;LEFT CEILING;RIGHT CEILING;LEFT FLOOR"),
  (0x230B, "", "RIGHT FLOOR;BOTTOM RIGHT CROP;BOTTOM LEFT CROP;TOP RIGHT CROP;TOP LEFT CROP;REVERSED NOT SIGN"),
  (0x2311, "", "SQUARE LOZENGE;ARC;SEGMENT;SECTOR;TELEPHONE RECORDER;POSITION INDICATOR;VIEWDATA SQUARE"),
  (0x2318, "", "PLACE OF INTEREST SIGN;TURNED NOT SIGN;WATCH;HOURGLASS;TOP LEFT CORNER;TOP RIGHT CORNER"),
  (0x231E, "BOTTOM ", "LEFT CORNER;RIGHT CORNER"),
  (0x2320, "", "TOP HALF INTEGRAL;BOTTOM HALF INTEGRAL;FROWN;SMILE;UP ARROWHEAD BETWEEN TWO HORIZONTAL BARS"),
  (0x2325, "", "OPTION KEY;ERASE TO THE RIGHT;X IN A RECTANGLE BOX;KEYBOARD;LEFT-POINTING ANGLE BRACKET"),
  (0x232A, "", "RIGHT-POINTING ANGLE BRACKET;ERASE TO THE LEFT;BENZENE RING;CYLINDRICITY;ALL AROUND-PROFILE"),
  (0x232F, "", "SYMMETRY;TOTAL RUNOUT;DIMENSION ORIGIN;CONICAL TAPER;SLOPE;COUNTERBORE;COUNTERSINK"),
  (0x2336, "APL FUNCTIONAL SYMBOL ", "I-BEAM;SQUISH QUAD;QUAD EQUAL;QUAD DIVIDE;QUAD DIAMOND;QUAD JOT;QUAD CIRCLE"),
  (0x233D, "APL FUNCTIONAL SYMBOL ", "CIRCLE STILE;CIRCLE JOT;SLASH BAR;BACKSLASH BAR"),
  (0x2341, "APL FUNCTIONAL SYMBOL QUAD ", "SLASH;BACKSLASH;LESS-THAN;GREATER-THAN"),
  (0x2345, "APL FUNCTIONAL SYMBOL ", "LEFTWARDS VANE;RIGHTWARDS VANE;QUAD LEFTWARDS ARROW;QUAD RIGHTWARDS ARROW"),
  (0x2349, "APL FUNCTIONAL SYMBOL ", "CIRCLE BACKSLASH;DOWN TACK UNDERBAR;DELTA STILE;QUAD DOWN CARET;QUAD DELTA"),
  (0x234E, "APL FUNCTIONAL SYMBOL ", "DOWN TACK JOT;UPWARDS VANE;QUAD UPWARDS ARROW;UP TACK OVERBAR;DEL STILE"),
  (0x2353, "APL FUNCTIONAL SYMBOL ", "QUAD UP CARET;QUAD DEL;UP TACK JOT;DOWNWARDS VANE;QUAD DOWNWARDS ARROW"),
  (0x2358, "APL FUNCTIONAL SYMBOL ", "QUOTE UNDERBAR;DELTA UNDERBAR;DIAMOND UNDERBAR;JOT UNDERBAR;CIRCLE UNDERBAR"),
  (0x235D, "APL FUNCTIONAL SYMBOL ", "UP SHOE JOT;QUOTE QUAD;CIRCLE STAR;QUAD COLON;UP TACK DIAERESIS;DEL DIAERESIS"),
  (0x2363, "APL FUNCTIONAL SYMBOL ", "STAR DIAERESIS;JOT DIAERESIS;CIRCLE DIAERESIS;DOWN SHOE STILE;LEFT SHOE STILE"),
  (0x2368, "APL FUNCTIONAL SYMBOL ", "TILDE DIAERESIS;GREATER-THAN DIAERESIS;COMMA BAR;DEL TILDE;ZILDE;STILE TILDE"),
  (0x236E, "APL FUNCTIONAL SYMBOL ", "SEMICOLON UNDERBAR;QUAD NOT EQUAL;QUAD QUESTION;DOWN CARET TILDE"),
  (0x2372, "APL FUNCTIONAL SYMBOL ", "UP CARET TILDE;IOTA;RHO;OMEGA;ALPHA UNDERBAR;EPSILON UNDERBAR;IOTA UNDERBAR"),
  (0x2379, "APL FUNCTIONAL SYMBOL ", "OMEGA UNDERBAR;ALPHA")]

/-- The names from U+237B on. -/
def names237B : List NameRow := [
  (0x237B, "", "NOT CHECK MARK;RIGHT ANGLE WITH DOWNWARDS ZIGZAG ARROW;SHOULDERED OPEN BOX;BELL SYMBOL"),
  (0x237F, "", "VERTICAL LINE WITH MIDDLE DOT;INSERTION SYMBOL;CONTINUOUS UNDERLINE SYMBOL"),
  (0x2382, "", "DISCONTINUOUS UNDERLINE SYMBOL;EMPHASIS SYMBOL;COMPOSITION SYMBOL"),
  (0x2385, "", "WHITE SQUARE WITH CENTRE VERTICAL LINE;ENTER SYMBOL;ALTERNATIVE KEY SYMBOL;HELM SYMBOL"),
  (0x2389, "CIRCLED ", "HORIZONTAL BAR WITH NOTCH;TRIANGLE DOWN"),
  (0x238B, "", "BROKEN CIRCLE WITH NORTHWEST ARROW;UNDO SYMBOL;MONOSTABLE SYMBOL;HYSTERESIS SYMBOL"),
  (0x238F, "OPEN-CIRCUIT-OUTPUT ", "H-TYPE SYMBOL;L-TYPE SYMBOL"),
  (0x2391, "PASSIVE-PULL-", "DOWN-OUTPUT SYMBOL;UP-OUTPUT SYMBOL"),
  (0x2393, "", "DIRECT CURRENT SYMBOL FORM TWO;SOFTWARE-FUNCTION SYMBOL;APL FUNCTIONAL SYMBOL QUAD"),
  (0x2396, "", "DECIMAL SEPARATOR KEY SYMBOL;PREVIOUS PAGE;NEXT PAGE;PRINT SCREEN SYMBOL;CLEAR SCREEN SYMBOL"),
  (0x239B, "LEFT PARENTHESIS ", "UPPER HOOK;EXTENSION;LOWER HOOK"),
  (0x239E, "RIGHT PARENTHESIS ", "UPPER HOOK;EXTENSION;LOWER HOOK"),
  (0x23A1, "LEFT SQUARE BRACKET ", "UPPER CORNER;EXTENSION;LOWER CORNER"),
  (0x23A4, "RIGHT SQUARE BRACKET ", "UPPER CORNER;EXTENSION;LOWER CORNER"),
  (0x23A7, "LEFT CURLY BRACKET ", "UPPER HOOK;MIDDLE PIECE;LOWER HOOK"), (0x23AA, "CURLY BRACKET ", "EXTENSION"),
  (0x23AB, "RIGHT CURLY BRACKET ", "UPPER HOOK;MIDDLE PIECE;LOWER HOOK"),
  (0x23AE, "", "INTEGRAL EXTENSION;HORIZONTAL LINE EXTENSION;UPPER LEFT OR LOWER RIGHT CURLY BRACKET SECTION"),
  (0x23B1, "", "UPPER RIGHT OR LOWER LEFT CURLY BRACKET SECTION;SUMMATION TOP;SUMMATION BOTTOM;TOP SQUARE BRACKET"),
  (0x23B5, "BOTTOM SQUARE ", "BRACKET;BRACKET OVER TOP SQUARE BRACKET"),
  (0x23B7, "", "RADICAL SYMBOL BOTTOM;LEFT VERTICAL BOX LINE;RIGHT VERTICAL BOX LINE"),
  (0x23BA, "HORIZONTAL SCAN LINE-", "1;3;7;9"),
  (0x23BE, "DENTISTRY SYMBOL LIGHT VERTICAL ", "AND TOP RIGHT;AND BOTTOM RIGHT;WITH CIRCLE"),
  (0x23C1, "DENTISTRY SYMBOL LIGHT ", "DOWN AND HORIZONTAL WITH CIRCLE;UP AND HORIZONTAL WITH CIRCLE"),
  (0x23C3, "DENTISTRY SYMBOL LIGHT ", "VERTICAL WITH TRIANGLE;DOWN AND HORIZONTAL WITH TRIANGLE"),
  (0x23C5, "DENTISTRY SYMBOL LIGHT ", "UP AND HORIZONTAL WITH TRIANGLE;VERTICAL AND WAVE"),
  (0x23C7, "DENTISTRY SYMBOL LIGHT ", "DOWN AND HORIZONTAL WITH WAVE;UP AND HORIZONTAL WITH WAVE"),
  (0x23C9, "DENTISTRY SYMBOL LIGHT ", "DOWN AND HORIZONTAL;UP AND HORIZONTAL"),
  (0x23CB, "DENTISTRY SYMBOL LIGHT VERTICAL AND ", "TOP LEFT;BOTTOM LEFT"),
  (0x23CD, "", "SQUARE FOOT;RETURN SYMBOL;EJECT SYMBOL;VERTICAL LINE EXTENSION"),
  (0x23D1, "METRICAL ", "BREVE;LONG OVER SHORT;SHORT OVER LONG;LONG OVER TWO SHORTS;TWO SHORTS OVER LONG"),
  (0x23D6, "METRICAL ", "TWO SHORTS JOINED;TRISEME;TETRASEME;PENTASEME"),
  (0x23DA, "", "EARTH GROUND;FUSE;TOP PARENTHESIS;BOTTOM PARENTHESIS;TOP CURLY BRACKET;BOTTOM CURLY BRACKET"),
  (0x23E0, "", "TOP TORTOISE SHELL BRACKET;BOTTOM TORTOISE SHELL BRACKET;WHITE TRAPEZIUM;BENZENE RING WITH CIRCLE"),
  (0x23E4, "", "STRAIGHTNESS;FLATNESS;AC CURRENT;ELECTRICAL INTERSECTION;DECIMAL EXPONENT SYMBOL"),
  (0x23E9, "BLACK ", "RIGHT-POINTING DOUBLE TRIANGLE;LEFT-POINTING DOUBLE TRIANGLE;UP-POINTING DOUBLE TRIANGLE"),
  (0x23EC, "BLACK ", "DOWN-POINTING DOUBLE TRIANGLE;RIGHT-POINTING DOUBLE TRIANGLE WITH VERTICAL BAR"),
  (0x23EE, "BLACK LEFT-POINTING DOUBLE TRIANGLE WITH VERTICAL ", "BAR"),
  (0x23EF, "", "BLACK RIGHT-POINTING TRIANGLE WITH DOUBLE VERTICAL BAR;ALARM CLOCK;STOPWATCH;TIMER CLOCK"),
  (0x23F3, "", "HOURGLASS WITH FLOWING SAND;BLACK MEDIUM LEFT-POINTING TRIANGLE"),
  (0x23F5, "BLACK MEDIUM ", "RIGHT-POINTING TRIANGLE;UP-POINTING TRIANGLE;DOWN-POINTING TRIANGLE"),
  (0x23F8, "", "DOUBLE VERTICAL BAR;BLACK SQUARE FOR STOP;BLACK CIRCLE FOR RECORD;POWER SYMBOL;POWER ON-OFF SYMBOL"),
  (0x23FD, "", "POWER ON SYMBOL;POWER SLEEP SYMBOL;OBSERVER EYE SYMBOL"),
  (0x2400, "SYMBOL FOR ", "NULL;START OF HEADING;START OF TEXT;END OF TEXT;END OF TRANSMISSION;ENQUIRY;ACKNOWLEDGE"),
  (0x2407, "SYMBOL FOR ", "BELL;BACKSPACE;HORIZONTAL TABULATION;LINE FEED;VERTICAL TABULATION;FORM FEED"),
  (0x240D, "SYMBOL FOR ", "CARRIAGE RETURN;SHIFT OUT;SHIFT IN;DATA LINK ESCAPE"),
  (0x2411, "SYMBOL FOR DEVICE CONTROL ", "ONE;TWO;THREE;FOUR"),
  (0x2415, "SYMBOL FOR ", "NEGATIVE ACKNOWLEDGE;SYNCHRONOUS IDLE;END OF TRANSMISSION BLOCK;CANCEL;END OF MEDIUM"),
  (0x241A, "SYMBOL FOR ", "SUBSTITUTE;ESCAPE;FILE SEPARATOR;GROUP SEPARATOR;RECORD SEPARATOR;UNIT SEPARATOR;SPACE"),
  (0x2421, "", "SYMBOL FOR DELETE;BLANK SYMBOL;OPEN BOX"),
  (0x2424, "SYMBOL FOR ", "NEWLINE;DELETE FORM TWO;SUBSTITUTE FORM TWO"),
  (0x2440, "OCR ", "HOOK;CHAIR;FORK;INVERTED FORK;BELT BUCKLE;BOW TIE;BRANCH BANK IDENTIFICATION;AMOUNT OF CHECK"),
  (0x2448, "OCR ", "DASH;CUSTOMER ACCOUNT NUMBER;DOUBLE BACKSLASH"),
  (0x2460, "CIRCLED DIGIT ", "ONE;TWO;THREE;FOUR;FIVE;SIX;SEVEN;EIGHT;NINE"),
  (0x2469, "CIRCLED NUMBER ", "TEN;ELEVEN;TWELVE;THIRTEEN;FOURTEEN;FIFTEEN;SIXTEEN;SEVENTEEN;EIGHTEEN;NINETEEN"),
  (0x2473, "CIRCLED NUMBER ", "TWENTY"),
  (0x2474, "PARENTHESIZED DIGIT ", "ONE;TWO;THREE;FOUR;FIVE;SIX;SEVEN;EIGHT;NINE"),
  (0x247D, "PARENTHESIZED NUMBER ", "TEN;ELEVEN;TWELVE;THIRTEEN;FOURTEEN;FIFTEEN;SIXTEEN;SEVENTEEN;EIGHTEEN"),
  (0x2486, "PARENTHESIZED NUMBER ", "NINETEEN;TWENTY"),
  (0x2488, "DIGIT ", "ONE FULL STOP;TWO FULL STOP;THREE FULL STOP;FOUR FULL STOP;FIVE FULL STOP;SIX FULL STOP"),
  (0x248E, "", "DIGIT SEVEN FULL STOP;DIGIT EIGHT FULL STOP;DIGIT NINE FULL STOP;NUMBER TEN FULL STOP"),
  (0x2492, "NUMBER ", "ELEVEN FULL STOP;TWELVE FULL STOP;THIRTEEN FULL STOP;FOURTEEN FULL STOP;FIFTEEN FULL STOP"),
  (0x2497, "NUMBER ", "SIXTEEN FULL STOP;SEVENTEEN FULL STOP;EIGHTEEN FULL STOP;NINETEEN FULL STOP;TWENTY FULL STOP"),
  (0x249C, "PARENTHESIZED LATIN SMALL LETTER ", "A;B;C;D;E;F;G;H;I;J;K;L;M;N;O;P;Q;R;S;T;U;V;W;X;Y;Z"),
  (0x24B6, "CIRCLED LATIN CAPITAL LETTER ", "A;B;C;D;E;F;G;H;I;J;K;L;M;N;O;P;Q;R;S;T;U;V;W;X;Y;Z"),
  (0x24D0, "CIRCLED LATIN SMALL LETTER ", "A;B;C;D;E;F;G;H;I;J;K;L;M;N;O;P;Q;R;S;T;U;V;W;X;Y;Z"),
  (0x24EA, "", "CIRCLED DIGIT ZERO;NEGATIVE CIRCLED NUMBER ELEVEN"),
  (0x24EC, "NEGATIVE CIRCLED NUMBER ", "TWELVE;THIRTEEN;FOURTEEN;FIFTEEN;SIXTEEN;SEVENTEEN;EIGHTEEN;NINETEEN;TWENTY"),
  (0x24F5, "DOUBLE CIRCLED DIGIT ", "ONE;TWO;THREE;FOUR;FIVE;SIX;SEVEN;EIGHT;NINE"),
  (0x24FE, "", "DOUBLE CIRCLED NUMBER TEN;NEGATIVE CIRCLED DIGIT ZERO;BOX DRAWINGS LIGHT HORIZONTAL"),
  (0x2501, "BOX DRAWINGS ", "HEAVY HORIZONTAL;LIGHT VERTICAL;HEAVY VERTICAL;LIGHT TRIPLE DASH HORIZONTAL"),
  (0x2505, "BOX DRAWINGS ", "HEAVY TRIPLE DASH HORIZONTAL;LIGHT TRIPLE DASH VERTICAL;HEAVY TRIPLE DASH VERTICAL"),
  (0x2508, "BOX DRAWINGS ", "LIGHT QUADRUPLE DASH HORIZONTAL;HEAVY QUADRUPLE DASH HORIZONTAL"),
  (0x250A, "BOX DRAWINGS ", "LIGHT QUADRUPLE DASH VERTICAL;HEAVY QUADRUPLE DASH VERTICAL;LIGHT DOWN AND RIGHT"),
  (0x250D, "BOX DRAWINGS DOWN ", "LIGHT AND RIGHT HEAVY;HEAVY AND RIGHT LIGHT"),
  (0x250F, "BOX DRAWINGS ", "HEAVY DOWN AND RIGHT;LIGHT DOWN AND LEFT;DOWN LIGHT AND LEFT HEAVY"),
  (0x2512, "BOX DRAWINGS ", "DOWN HEAVY AND LEFT LIGHT;HEAVY DOWN AND LEFT;LIGHT UP AND RIGHT"),
  (0x2515, "BOX DRAWINGS ", "UP LIGHT AND RIGHT HEAVY;UP HEAVY AND RIGHT LIGHT;HEAVY UP AND RIGHT;LIGHT UP AND LEFT"),
  (0x2519, "BOX DRAWINGS ", "UP LIGHT AND LEFT HEAVY;UP HEAVY AND LEFT LIGHT;HEAVY UP AND LEFT"),
  (0x251C, "BOX DRAWINGS ", "LIGHT VERTICAL AND RIGHT;VERTICAL LIGHT AND RIGHT HEAVY;UP HEAVY AND RIGHT DOWN LIGHT"),
  (0x251F, "BOX DRAWINGS ", "DOWN HEAVY AND RIGHT UP LIGHT;VERTICAL HEAVY AND RIGHT LIGHT"),
  (0x2521, "BOX DRAWINGS ", "DOWN LIGHT AND RIGHT UP HEAVY;UP LIGHT AND RIGHT DOWN HEAVY;HEAVY VERTICAL AND RIGHT"),
  (0x2524, "BOX DRAWINGS ", "LIGHT VERTICAL AND LEFT;VERTICAL LIGHT AND LEFT HEAVY;UP HEAVY AND LEFT DOWN LIGHT"),
  (0x2527, "BOX DRAWINGS ", "DOWN HEAVY AND LEFT UP LIGHT;VERTICAL HEAVY AND LEFT LIGHT"),
  (0x2529, "BOX DRAWINGS ", "DOWN LIGHT AND LEFT UP HEAVY;UP LIGHT AND LEFT DOWN HEAVY;HEAVY VERTICAL AND LEFT"),
  (0x252C, "BOX DRAWINGS ", "LIGHT DOWN AND HORIZONTAL;LEFT HEAVY AND RIGHT DOWN LIGHT"),
  (0x252E, "BOX DRAWINGS ", "RIGHT HEAVY AND LEFT DOWN LIGHT;DOWN LIGHT AND HORIZONTAL HEAVY"),
  (0x2530, "BOX DRAWINGS ", "DOWN HEAVY AND HORIZONTAL LIGHT;RIGHT LIGHT AND LEFT DOWN HEAVY"),
  (0x2532, "BOX DRAWINGS ", "LEFT LIGHT AND RIGHT DOWN HEAVY;HEAVY DOWN AND HORIZONTAL;LIGHT UP AND HORIZONTAL"),
  (0x2535, "BOX DRAWINGS ", "LEFT HEAVY AND RIGHT UP LIGHT;RIGHT HEAVY AND LEFT UP LIGHT"),
  (0x2537, "BOX DRAWINGS UP ", "LIGHT AND HORIZONTAL HEAVY;HEAVY AND HORIZONTAL LIGHT"),
  (0x2539, "BOX DRAWINGS ", "RIGHT LIGHT AND LEFT UP HEAVY;LEFT LIGHT AND RIGHT UP HEAVY;HEAVY UP AND HORIZONTAL"),
  (0x253C, "BOX DRAWINGS ", "LIGHT VERTICAL AND HORIZONTAL;LEFT HEAVY AND RIGHT VERTICAL LIGHT"),
  (0x253E, "BOX DRAWINGS ", "RIGHT HEAVY AND LEFT VERTICAL LIGHT;VERTICAL LIGHT AND HORIZONTAL HEAVY"),
  (0x2540, "BOX DRAWINGS ", "UP HEAVY AND DOWN HORIZONTAL LIGHT;DOWN HEAVY AND UP HORIZONTAL LIGHT"),
  (0x2542, "BOX DRAWINGS ", "VERTICAL HEAVY AND HORIZONTAL LIGHT;LEFT UP HEAVY AND RIGHT DOWN LIGHT"),
  (0x2544, "BOX DRAWINGS ", "RIGHT UP HEAVY AND LEFT DOWN LIGHT;LEFT DOWN HEAVY AND RIGHT UP LIGHT"),
  (0x2546, "BOX DRAWINGS ", "RIGHT DOWN HEAVY AND LEFT UP LIGHT;DOWN LIGHT AND UP HORIZONTAL HEAVY"),
  (0x2548, "BOX DRAWINGS ", "UP LIGHT AND DOWN HORIZONTAL HEAVY;RIGHT LIGHT AND LEFT VERTICAL HEAVY"),
  (0x254A, "BOX DRAWINGS ", "LEFT LIGHT AND RIGHT VERTICAL HEAVY;HEAVY VERTICAL AND HORIZONTAL")]

/-- The names from U+254C on. -/
def names254C : List NameRow := [
  (0x254C, "BOX DRAWINGS ", "LIGHT DOUBLE DASH HORIZONTAL;HEAVY DOUBLE DASH HORIZONTAL;LIGHT DOUBLE DASH VERTICAL"),
  (0x254F, "BOX DRAWINGS ", "HEAVY DOUBLE DASH VERTICAL;DOUBLE HORIZONTAL;DOUBLE VERTICAL"),
  (0x2552, "BOX DRAWINGS ", "DOWN SINGLE AND RIGHT DOUBLE;DOWN DOUBLE AND RIGHT SINGLE;DOUBLE DOWN AND RIGHT"),
  (0x2555, "BOX DRAWINGS ", "DOWN SINGLE AND LEFT DOUBLE;DOWN DOUBLE AND LEFT SINGLE;DOUBLE DOWN AND LEFT"),
  (0x2558, "BOX DRAWINGS ", "UP SINGLE AND RIGHT DOUBLE;UP DOUBLE AND RIGHT SINGLE;DOUBLE UP AND RIGHT"),
  (0x255B, "BOX DRAWINGS ", "UP SINGLE AND LEFT DOUBLE;UP DOUBLE AND LEFT SINGLE;DOUBLE UP AND LEFT"),
  (0x255E, "BOX DRAWINGS VERTICAL ", "SINGLE AND RIGHT DOUBLE;DOUBLE AND RIGHT SINGLE"),
  (0x2560, "BOX DRAWINGS ", "DOUBLE VERTICAL AND RIGHT;VERTICAL SINGLE AND LEFT DOUBLE"),
  (0x2562, "BOX DRAWINGS ", "VERTICAL DOUBLE AND LEFT SINGLE;DOUBLE VERTICAL AND LEFT"),
  (0x2564, "BOX DRAWINGS DOWN ", "SINGLE AND HORIZONTAL DOUBLE;DOUBLE AND HORIZONTAL SINGLE"),
  (0x2566, "BOX DRAWINGS ", "DOUBLE DOWN AND HORIZONTAL;UP SINGLE AND HORIZONTAL DOUBLE"),
  (0x2568, "BOX DRAWINGS ", "UP DOUBLE AND HORIZONTAL SINGLE;DOUBLE UP AND HORIZONTAL"),
  (0x256A, "BOX DRAWINGS VERTICAL ", "SINGLE AND HORIZONTAL DOUBLE;DOUBLE AND HORIZONTAL SINGLE"),
  (0x256C, "BOX DRAWINGS DOUBLE VERTICAL AND ", "HORIZONTAL"),
  (0x256D, "BOX DRAWINGS LIGHT ARC ", "DOWN AND RIGHT;DOWN AND LEFT;UP AND LEFT;UP AND RIGHT"),
  (0x2571, "BOX DRAWINGS LIGHT DIAGONAL ", "UPPER RIGHT TO LOWER LEFT;UPPER LEFT TO LOWER RIGHT;CROSS"),
  (0x2574, "BOX DRAWINGS LIGHT ", "LEFT;UP;RIGHT;DOWN"), (0x2578, "BOX DRAWINGS HEAVY ", "LEFT;UP;RIGHT;DOWN"),
  (0x257C, "BOX DRAWINGS ", "LIGHT LEFT AND HEAVY RIGHT;LIGHT UP AND HEAVY DOWN;HEAVY LEFT AND LIGHT RIGHT"),
  (0x257F, "", "BOX DRAWINGS HEAVY UP AND LIGHT DOWN;UPPER HALF BLOCK;LOWER ONE EIGHTH BLOCK"),
  (0x2582, "LOWER ", "ONE QUARTER BLOCK;THREE EIGHTHS BLOCK;HALF BLOCK;FIVE EIGHTHS BLOCK;THREE QUARTERS BLOCK"),
  (0x2587, "", "LOWER SEVEN EIGHTHS BLOCK;FULL BLOCK;LEFT SEVEN EIGHTHS BLOCK;LEFT THREE QUARTERS BLOCK"),
  (0x258B, "LEFT ", "FIVE EIGHTHS BLOCK;HALF BLOCK;THREE EIGHTHS BLOCK;ONE QUARTER BLOCK;ONE EIGHTH BLOCK"),
  (0x2590, "", "RIGHT HALF BLOCK;LIGHT SHADE;MEDIUM SHADE;DARK SHADE;UPPER ONE EIGHTH BLOCK;RIGHT ONE EIGHTH BLOCK"),
  (0x2596, "QUADRANT ", "LOWER LEFT;LOWER RIGHT;UPPER LEFT"),
  (0x2599, "QUADRANT UPPER LEFT AND LOWER ", "LEFT AND LOWER RIGHT;RIGHT"),
  (0x259B, "QUADRANT UPPER LEFT AND UPPER RIGHT AND LOWER ", "LEFT;RIGHT"),
  (0x259D, "QUADRANT UPPER ", "RIGHT;RIGHT AND LOWER LEFT;RIGHT AND LOWER LEFT AND LOWER RIGHT"),
  (0x25A0, "", "BLACK SQUARE;WHITE SQUARE"),
  (0x25A2, "WHITE SQUARE ", "WITH ROUNDED CORNERS;CONTAINING BLACK SMALL SQUARE"),
  (0x25A4, "SQUARE WITH ", "HORIZONTAL FILL;VERTICAL FILL;ORTHOGONAL CROSSHATCH FILL;UPPER LEFT TO LOWER RIGHT FILL"),
  (0x25A8, "SQUARE WITH ", "UPPER RIGHT TO LOWER LEFT FILL;DIAGONAL CROSSHATCH FILL"),
  (0x25AA, "", "BLACK SMALL SQUARE;WHITE SMALL SQUARE;BLACK RECTANGLE;WHITE RECTANGLE;BLACK VERTICAL RECTANGLE"),
  (0x25AF, "", "WHITE VERTICAL RECTANGLE;BLACK PARALLELOGRAM;WHITE PARALLELOGRAM;BLACK UP-POINTING TRIANGLE"),
  (0x25B3, "", "WHITE UP-POINTING TRIANGLE;BLACK UP-POINTING SMALL TRIANGLE;WHITE UP-POINTING SMALL TRIANGLE"),
  (0x25B6, "", "BLACK RIGHT-POINTING TRIANGLE;WHITE RIGHT-POINTING TRIANGLE;BLACK RIGHT-POINTING SMALL TRIANGLE"),
  (0x25B9, "", "WHITE RIGHT-POINTING SMALL TRIANGLE;BLACK RIGHT-POINTING POINTER;WHITE RIGHT-POINTING POINTER"),
  (0x25BC, "", "BLACK DOWN-POINTING TRIANGLE;WHITE DOWN-POINTING TRIANGLE;BLACK DOWN-POINTING SMALL TRIANGLE"),
  (0x25BF, "", "WHITE DOWN-POINTING SMALL TRIANGLE;BLACK LEFT-POINTING TRIANGLE;WHITE LEFT-POINTING TRIANGLE"),
  (0x25C2, "", "BLACK LEFT-POINTING SMALL TRIANGLE;WHITE LEFT-POINTING SMALL TRIANGLE;BLACK LEFT-POINTING POINTER"),
  (0x25C5, "", "WHITE LEFT-POINTING POINTER;BLACK DIAMOND"),
  (0x25C7, "WHITE ", "DIAMOND;DIAMOND CONTAINING BLACK SMALL DIAMOND"),
  (0x25C9, "", "FISHEYE;LOZENGE;WHITE CIRCLE;DOTTED CIRCLE;CIRCLE WITH VERTICAL FILL;BULLSEYE;BLACK CIRCLE"),
  (0x25D0, "CIRCLE WITH ", "LEFT HALF BLACK;RIGHT HALF BLACK;LOWER HALF BLACK;UPPER HALF BLACK"),
  (0x25D4, "CIRCLE WITH ", "UPPER RIGHT QUADRANT BLACK;ALL BUT UPPER LEFT QUADRANT BLACK"),
  (0x25D6, "", "LEFT HALF BLACK CIRCLE;RIGHT HALF BLACK CIRCLE;INVERSE BULLET;INVERSE WHITE CIRCLE"),
  (0x25DA, "", "UPPER HALF INVERSE WHITE CIRCLE;LOWER HALF INVERSE WHITE CIRCLE;UPPER LEFT QUADRANT CIRCULAR ARC"),
  (0x25DD, "", "UPPER RIGHT QUADRANT CIRCULAR ARC;LOWER RIGHT QUADRANT CIRCULAR ARC"),
  (0x25DF, "", "LOWER LEFT QUADRANT CIRCULAR ARC;UPPER HALF CIRCLE;LOWER HALF CIRCLE"),
  (0x25E2, "BLACK ", "LOWER RIGHT TRIANGLE;LOWER LEFT TRIANGLE;UPPER LEFT TRIANGLE;UPPER RIGHT TRIANGLE"),
  (0x25E6, "", "WHITE BULLET;SQUARE WITH LEFT HALF BLACK"),
  (0x25E8, "SQUARE WITH ", "RIGHT HALF BLACK;UPPER LEFT DIAGONAL HALF BLACK;LOWER RIGHT DIAGONAL HALF BLACK"),
  (0x25EB, "WHITE ", "SQUARE WITH VERTICAL BISECTING LINE;UP-POINTING TRIANGLE WITH DOT"),
  (0x25ED, "UP-POINTING TRIANGLE WITH ", "LEFT HALF BLACK;RIGHT HALF BLACK"), (0x25EF, "LARGE ", "CIRCLE"),
  (0x25F0, "WHITE SQUARE WITH ", "UPPER LEFT QUADRANT;LOWER LEFT QUADRANT;LOWER RIGHT QUADRANT;UPPER RIGHT QUADRANT"),
  (0x25F4, "WHITE CIRCLE WITH ", "UPPER LEFT QUADRANT;LOWER LEFT QUADRANT;LOWER RIGHT QUADRANT;UPPER RIGHT QUADRANT"),
  (0x25F8, "", "UPPER LEFT TRIANGLE;UPPER RIGHT TRIANGLE;LOWER LEFT TRIANGLE;WHITE MEDIUM SQUARE"),
  (0x25FC, "", "BLACK MEDIUM SQUARE;WHITE MEDIUM SMALL SQUARE;BLACK MEDIUM SMALL SQUARE;LOWER RIGHT TRIANGLE"),
  (0x2600, "", "BLACK SUN WITH RAYS;CLOUD;UMBRELLA;SNOWMAN;COMET;BLACK STAR;WHITE STAR;LIGHTNING;THUNDERSTORM;SUN"),
  (0x260A, "", "ASCENDING NODE;DESCENDING NODE;CONJUNCTION;OPPOSITION;BLACK TELEPHONE;WHITE TELEPHONE;BALLOT BOX"),
  (0x2611, "BALLOT BOX WITH ", "CHECK;X"),
  (0x2613, "", "SALTIRE;UMBRELLA WITH RAIN DROPS;HOT BEVERAGE;WHITE SHOGI PIECE;BLACK SHOGI PIECE;SHAMROCK"),
  (0x2619, "", "REVERSED ROTATED FLORAL HEART BULLET;BLACK LEFT POINTING INDEX;BLACK RIGHT POINTING INDEX"),
  (0x261C, "WHITE ", "LEFT POINTING INDEX;UP POINTING INDEX;RIGHT POINTING INDEX;DOWN POINTING INDEX"),
  (0x2620, "", "SKULL AND CROSSBONES;CAUTION SIGN;RADIOACTIVE SIGN;BIOHAZARD SIGN;CADUCEUS;ANKH;ORTHODOX CROSS"),
  (0x2627, "", "CHI RHO;CROSS OF LORRAINE;CROSS OF JERUSALEM;STAR AND CRESCENT;FARSI SYMBOL;ADI SHAKTI"),
  (0x262D, "", "HAMMER AND SICKLE;PEACE SYMBOL;YIN YANG"),
  (0x2630, "TRIGRAM FOR ", "HEAVEN;LAKE;FIRE;THUNDER;WIND;WATER;MOUNTAIN;EARTH"),
  (0x2638, "", "WHEEL OF DHARMA;WHITE FROWNING FACE;WHITE SMILING FACE;BLACK SMILING FACE;WHITE SUN WITH RAYS"),
  (0x263D, "", "FIRST QUARTER MOON;LAST QUARTER MOON;MERCURY;FEMALE SIGN;EARTH;MALE SIGN;JUPITER;SATURN;URANUS"),
  (0x2646, "", "NEPTUNE;PLUTO;ARIES;TAURUS;GEMINI;CANCER;LEO;VIRGO;LIBRA;SCORPIUS;SAGITTARIUS;CAPRICORN;AQUARIUS"),
  (0x2653, "", "PISCES"), (0x2654, "WHITE CHESS ", "KING;QUEEN;ROOK;BISHOP;KNIGHT;PAWN"),
  (0x265A, "BLACK CHESS ", "KING;QUEEN;ROOK;BISHOP;KNIGHT;PAWN"),
  (0x2660, "", "BLACK SPADE SUIT;WHITE HEART SUIT;WHITE DIAMOND SUIT;BLACK CLUB SUIT;WHITE SPADE SUIT"),
  (0x2665, "", "BLACK HEART SUIT;BLACK DIAMOND SUIT;WHITE CLUB SUIT;HOT SPRINGS;QUARTER NOTE;EIGHTH NOTE"),
  (0x266B, "BEAMED ", "EIGHTH NOTES;SIXTEENTH NOTES"), (0x266D, "MUSIC ", "FLAT SIGN;NATURAL SIGN;SHARP SIGN"),
  (0x2670, "", "WEST SYRIAC CROSS;EAST SYRIAC CROSS;UNIVERSAL RECYCLING SYMBOL"),
  (0x2673, "RECYCLING SYMBOL FOR TYPE-", "1 PLASTICS;2 PLASTICS;3 PLASTICS;4 PLASTICS;5 PLASTICS;6 PLASTICS"),
  (0x2679, "RECYCLING SYMBOL FOR ", "TYPE-7 PLASTICS;GENERIC MATERIALS"),
  (0x267B, "", "BLACK UNIVERSAL RECYCLING SYMBOL;RECYCLED PAPER SYMBOL;PARTIALLY-RECYCLED PAPER SYMBOL"),
  (0x267E, "", "PERMANENT PAPER SIGN;WHEELCHAIR SYMBOL"), (0x2680, "DIE FACE-", "1;2;3;4;5;6"),
  (0x2686, "WHITE CIRCLE WITH ", "DOT RIGHT;TWO DOTS"),
  (0x2688, "BLACK CIRCLE WITH ", "WHITE DOT RIGHT;TWO WHITE DOTS"), (0x268A, "MONOGRAM FOR ", "YANG;YIN"),
  (0x268C, "DIGRAM FOR ", "GREATER YANG;LESSER YIN;LESSER YANG;GREATER YIN"),
  (0x2690, "", "WHITE FLAG;BLACK FLAG;HAMMER AND PICK;ANCHOR;CROSSED SWORDS;STAFF OF AESCULAPIUS;SCALES;ALEMBIC"),
  (0x2698, "", "FLOWER;GEAR;STAFF OF HERMES;ATOM SYMBOL;FLEUR-DE-LIS;OUTLINED WHITE STAR"),
  (0x269E, "THREE LINES CONVERGING ", "RIGHT;LEFT"),
  (0x26A0, "", "WARNING SIGN;HIGH VOLTAGE SIGN;DOUBLED FEMALE SIGN;DOUBLED MALE SIGN"),
  (0x26A4, "", "INTERLOCKED FEMALE AND MALE SIGN;MALE AND FEMALE SIGN"),
  (0x26A6, "MALE WITH STROKE ", "SIGN;AND MALE AND FEMALE SIGN"),
  (0x26A8, "", "VERTICAL MALE WITH STROKE SIGN;HORIZONTAL MALE WITH STROKE SIGN"),
  (0x26AA, "MEDIUM ", "WHITE CIRCLE;BLACK CIRCLE;SMALL WHITE CIRCLE"),
  (0x26AD, "", "MARRIAGE SYMBOL;DIVORCE SYMBOL;UNMARRIED PARTNERSHIP SYMBOL;COFFIN;FUNERAL URN;NEUTER;CERES;PALLAS"),
  (0x26B5, "", "JUNO;VESTA;CHIRON;BLACK MOON LILITH;SEXTILE;SEMISEXTILE;QUINCUNX;SESQUIQUADRATE;SOCCER BALL"),
  (0x26BE, "", "BASEBALL;SQUARED KEY;WHITE DRAUGHTS MAN;WHITE DRAUGHTS KING;BLACK DRAUGHTS MAN;BLACK DRAUGHTS KING")]

/-- The names from U+26C4 on. -/
def names26C4 : List NameRow := [
  (0x26C4, "", "SNOWMAN WITHOUT SNOW;SUN BEHIND CLOUD;RAIN;BLACK SNOWMAN;THUNDER CLOUD AND RAIN"),
  (0x26C9, "TURNED ", "WHITE SHOGI PIECE;BLACK SHOGI PIECE"),
  (0x26CB, "", "WHITE DIAMOND IN SQUARE;CROSSING LANES;DISABLED CAR;OPHIUCHUS;PICK;CAR SLIDING"),
  (0x26D1, "", "HELMET WITH WHITE CROSS;CIRCLED CROSSING LANES;CHAINS;NO ENTRY;ALTERNATE ONE-WAY LEFT WAY TRAFFIC"),
  (0x26D6, "", "BLACK TWO-WAY LEFT WAY TRAFFIC;WHITE TWO-WAY LEFT WAY TRAFFIC;BLACK LEFT LANE MERGE"),
  (0x26D9, "", "WHITE LEFT LANE MERGE;DRIVE SLOW SIGN;HEAVY WHITE DOWN-POINTING TRIANGLE;LEFT CLOSED ENTRY"),
  (0x26DD, "", "SQUARED SALTIRE;FALLING DIAGONAL IN WHITE CIRCLE IN BLACK SQUARE;BLACK TRUCK"),
  (0x26E0, "RESTRICTED LEFT ENTRY-", "1;2"),
  (0x26E2, "", "ASTRONOMICAL SYMBOL FOR URANUS;HEAVY CIRCLE WITH STROKE AND TWO DOTS ABOVE;PENTAGRAM"),
  (0x26E5, "", "RIGHT-HANDED INTERLACED PENTAGRAM;LEFT-HANDED INTERLACED PENTAGRAM;INVERTED PENTAGRAM"),
  (0x26E8, "", "BLACK CROSS ON SHIELD;SHINTO SHRINE;CHURCH;CASTLE;HISTORIC SITE;GEAR WITHOUT HUB;GEAR WITH HANDLES"),
  (0x26EF, "", "MAP SYMBOL FOR LIGHTHOUSE;MOUNTAIN;UMBRELLA ON GROUND;FOUNTAIN;FLAG IN HOLE;FERRY;SAILBOAT"),
  (0x26F6, "", "SQUARE FOUR CORNERS;SKIER;ICE SKATE;PERSON WITH BALL;TENT;JAPANESE BANK SYMBOL"),
  (0x26FC, "", "HEADSTONE GRAVEYARD SYMBOL;FUEL PUMP;CUP ON BLACK SQUARE"),
  (0x26FF, "", "WHITE FLAG WITH HORIZONTAL MIDDLE BLACK STRIPE;BLACK SAFETY SCISSORS;UPPER BLADE SCISSORS"),
  (0x2702, "", "BLACK SCISSORS;LOWER BLADE SCISSORS;WHITE SCISSORS;WHITE HEAVY CHECK MARK;TELEPHONE LOCATION SIGN"),
  (0x2707, "", "TAPE DRIVE;AIRPLANE;ENVELOPE;RAISED FIST;RAISED HAND;VICTORY HAND;WRITING HAND;LOWER RIGHT PENCIL"),
  (0x270F, "", "PENCIL;UPPER RIGHT PENCIL;WHITE NIB;BLACK NIB;CHECK MARK;HEAVY CHECK MARK;MULTIPLICATION X"),
  (0x2716, "", "HEAVY MULTIPLICATION X;BALLOT X;HEAVY BALLOT X;OUTLINED GREEK CROSS;HEAVY GREEK CROSS"),
  (0x271B, "", "OPEN CENTRE CROSS;HEAVY OPEN CENTRE CROSS;LATIN CROSS;SHADOWED WHITE LATIN CROSS"),
  (0x271F, "", "OUTLINED LATIN CROSS;MALTESE CROSS;STAR OF DAVID;FOUR TEARDROP-SPOKED ASTERISK"),
  (0x2723, "", "FOUR BALLOON-SPOKED ASTERISK;HEAVY FOUR BALLOON-SPOKED ASTERISK;FOUR CLUB-SPOKED ASTERISK"),
  (0x2726, "", "BLACK FOUR POINTED STAR;WHITE FOUR POINTED STAR;SPARKLES;STRESS OUTLINED WHITE STAR"),
  (0x272A, "", "CIRCLED WHITE STAR;OPEN CENTRE BLACK STAR;BLACK CENTRE WHITE STAR;OUTLINED BLACK STAR"),
  (0x272E, "", "HEAVY OUTLINED BLACK STAR;PINWHEEL STAR;SHADOWED WHITE STAR;HEAVY ASTERISK;OPEN CENTRE ASTERISK"),
  (0x2733, "EIGHT ", "SPOKED ASTERISK;POINTED BLACK STAR;POINTED PINWHEEL STAR"),
  (0x2736, "", "SIX POINTED BLACK STAR;EIGHT POINTED RECTILINEAR BLACK STAR"),
  (0x2738, "", "HEAVY EIGHT POINTED RECTILINEAR BLACK STAR;TWELVE POINTED BLACK STAR;SIXTEEN POINTED ASTERISK"),
  (0x273B, "", "TEARDROP-SPOKED ASTERISK;OPEN CENTRE TEARDROP-SPOKED ASTERISK;HEAVY TEARDROP-SPOKED ASTERISK"),
  (0x273E, "", "SIX PETALLED BLACK AND WHITE FLORETTE;BLACK FLORETTE;WHITE FLORETTE"),
  (0x2741, "", "EIGHT PETALLED OUTLINED BLACK FLORETTE;CIRCLED OPEN CENTRE EIGHT POINTED STAR"),
  (0x2743, "", "HEAVY TEARDROP-SPOKED PINWHEEL ASTERISK;SNOWFLAKE;TIGHT TRIFOLIATE SNOWFLAKE"),
  (0x2746, "", "HEAVY CHEVRON SNOWFLAKE;SPARKLE;HEAVY SPARKLE;BALLOON-SPOKED ASTERISK"),
  (0x274A, "", "EIGHT TEARDROP-SPOKED PROPELLER ASTERISK;HEAVY EIGHT TEARDROP-SPOKED PROPELLER ASTERISK;CROSS MARK"),
  (0x274D, "", "SHADOWED WHITE CIRCLE;NEGATIVE SQUARED CROSS MARK;LOWER RIGHT DROP-SHADOWED WHITE SQUARE"),
  (0x2750, "", "UPPER RIGHT DROP-SHADOWED WHITE SQUARE;LOWER RIGHT SHADOWED WHITE SQUARE"),
  (0x2752, "", "UPPER RIGHT SHADOWED WHITE SQUARE;BLACK QUESTION MARK ORNAMENT"),
  (0x2754, "WHITE ", "QUESTION MARK ORNAMENT;EXCLAMATION MARK ORNAMENT"),
  (0x2756, "", "BLACK DIAMOND MINUS WHITE X;HEAVY EXCLAMATION MARK SYMBOL;LIGHT VERTICAL BAR;MEDIUM VERTICAL BAR"),
  (0x275A, "HEAVY ", "VERTICAL BAR;SINGLE TURNED COMMA QUOTATION MARK ORNAMENT;SINGLE COMMA QUOTATION MARK ORNAMENT"),
  (0x275D, "HEAVY DOUBLE ", "TURNED COMMA QUOTATION MARK ORNAMENT;COMMA QUOTATION MARK ORNAMENT"),
  (0x275F, "HEAVY LOW ", "SINGLE COMMA QUOTATION MARK ORNAMENT;DOUBLE COMMA QUOTATION MARK ORNAMENT"),
  (0x2761, "CURVED STEM PARAGRAPH SIGN ", "ORNAMENT"),
  (0x2762, "HEAVY ", "EXCLAMATION MARK ORNAMENT;HEART EXCLAMATION MARK ORNAMENT;BLACK HEART"),
  (0x2765, "", "ROTATED HEAVY BLACK HEART BULLET;FLORAL HEART;ROTATED FLORAL HEART BULLET"),
  (0x2768, "MEDIUM ", "LEFT PARENTHESIS ORNAMENT;RIGHT PARENTHESIS ORNAMENT"),
  (0x276A, "MEDIUM FLATTENED ", "LEFT PARENTHESIS ORNAMENT;RIGHT PARENTHESIS ORNAMENT"),
  (0x276C, "MEDIUM ", "LEFT-POINTING ANGLE BRACKET ORNAMENT;RIGHT-POINTING ANGLE BRACKET ORNAMENT"),
  (0x276E, "HEAVY ", "LEFT-POINTING ANGLE QUOTATION MARK ORNAMENT;RIGHT-POINTING ANGLE QUOTATION MARK ORNAMENT"),
  (0x2770, "HEAVY ", "LEFT-POINTING ANGLE BRACKET ORNAMENT;RIGHT-POINTING ANGLE BRACKET ORNAMENT"),
  (0x2772, "LIGHT ", "LEFT TORTOISE SHELL BRACKET ORNAMENT;RIGHT TORTOISE SHELL BRACKET ORNAMENT"),
  (0x2774, "MEDIUM ", "LEFT CURLY BRACKET ORNAMENT;RIGHT CURLY BRACKET ORNAMENT"),
  (0x2776, "DINGBAT NEGATIVE CIRCLED DIGIT ", "ONE;TWO;THREE;FOUR;FIVE;SIX;SEVEN;EIGHT;NINE"),
  (0x277F, "DINGBAT NEGATIVE CIRCLED NUMBER ", "TEN"),
  (0x2780, "DINGBAT CIRCLED SANS-SERIF DIGIT ", "ONE;TWO;THREE;FOUR;FIVE;SIX;SEVEN;EIGHT;NINE"),
  (0x2789, "DINGBAT CIRCLED SANS-SERIF NUMBER ", "TEN"),
  (0x278A, "DINGBAT NEGATIVE CIRCLED SANS-SERIF DIGIT ", "ONE;TWO;THREE;FOUR;FIVE;SIX;SEVEN;EIGHT;NINE"),
  (0x2793, "", "DINGBAT NEGATIVE CIRCLED SANS-SERIF NUMBER TEN;HEAVY WIDE-HEADED RIGHTWARDS ARROW"),
  (0x2795, "HEAVY ", "PLUS SIGN;MINUS SIGN;DIVISION SIGN;SOUTH EAST ARROW;RIGHTWARDS ARROW;NORTH EAST ARROW"),
  (0x279B, "", "DRAFTING POINT RIGHTWARDS ARROW;HEAVY ROUND-TIPPED RIGHTWARDS ARROW"),
  (0x279D, "", "TRIANGLE-HEADED RIGHTWARDS ARROW;HEAVY TRIANGLE-HEADED RIGHTWARDS ARROW"),
  (0x279F, "", "DASHED TRIANGLE-HEADED RIGHTWARDS ARROW;HEAVY DASHED TRIANGLE-HEADED RIGHTWARDS ARROW"),
  (0x27A1, "", "BLACK RIGHTWARDS ARROW;THREE-D TOP-LIGHTED RIGHTWARDS ARROWHEAD"),
  (0x27A3, "", "THREE-D BOTTOM-LIGHTED RIGHTWARDS ARROWHEAD;BLACK RIGHTWARDS ARROWHEAD"),
  (0x27A5, "HEAVY BLACK CURVED ", "DOWNWARDS AND RIGHTWARDS ARROW;UPWARDS AND RIGHTWARDS ARROW"),
  (0x27A7, "", "SQUAT BLACK RIGHTWARDS ARROW;HEAVY CONCAVE-POINTED BLACK RIGHTWARDS ARROW"),
  (0x27A9, "", "RIGHT-SHADED WHITE RIGHTWARDS ARROW;LEFT-SHADED WHITE RIGHTWARDS ARROW"),
  (0x27AB, "", "BACK-TILTED SHADOWED WHITE RIGHTWARDS ARROW;FRONT-TILTED SHADOWED WHITE RIGHTWARDS ARROW"),
  (0x27AD, "HEAVY ", "LOWER RIGHT-SHADOWED WHITE RIGHTWARDS ARROW;UPPER RIGHT-SHADOWED WHITE RIGHTWARDS ARROW"),
  (0x27AF, "", "NOTCHED LOWER RIGHT-SHADOWED WHITE RIGHTWARDS ARROW;CURLY LOOP"),
  (0x27B1, "", "NOTCHED UPPER RIGHT-SHADOWED WHITE RIGHTWARDS ARROW;CIRCLED HEAVY WHITE RIGHTWARDS ARROW"),
  (0x27B3, "WHITE-FEATHERED RIGHTWARDS ", "ARROW"),
  (0x27B4, "BLACK-FEATHERED ", "SOUTH EAST ARROW;RIGHTWARDS ARROW;NORTH EAST ARROW"),
  (0x27B7, "HEAVY BLACK-FEATHERED ", "SOUTH EAST ARROW;RIGHTWARDS ARROW;NORTH EAST ARROW"),
  (0x27BA, "", "TEARDROP-BARBED RIGHTWARDS ARROW;HEAVY TEARDROP-SHANKED RIGHTWARDS ARROW"),
  (0x27BC, "", "WEDGE-TAILED RIGHTWARDS ARROW;HEAVY WEDGE-TAILED RIGHTWARDS ARROW;OPEN-OUTLINED RIGHTWARDS ARROW"),
  (0x27BF, "", "DOUBLE CURLY LOOP;THREE DIMENSIONAL ANGLE;WHITE TRIANGLE CONTAINING SMALL WHITE TRIANGLE"),
  (0x27C2, "", "PERPENDICULAR;OPEN SUBSET;OPEN SUPERSET;LEFT S-SHAPED BAG DELIMITER;RIGHT S-SHAPED BAG DELIMITER"),
  (0x27C7, "", "OR WITH DOT INSIDE;REVERSE SOLIDUS PRECEDING SUBSET;SUPERSET PRECEDING SOLIDUS"),
  (0x27CA, "", "VERTICAL BAR WITH HORIZONTAL STROKE;MATHEMATICAL RISING DIAGONAL;LONG DIVISION"),
  (0x27CD, "", "MATHEMATICAL FALLING DIAGONAL;SQUARED LOGICAL AND;SQUARED LOGICAL OR;WHITE DIAMOND WITH CENTRED DOT"),
  (0x27D1, "", "AND WITH DOT;ELEMENT OF OPENING UPWARDS;LOWER RIGHT CORNER WITH DOT;UPPER LEFT CORNER WITH DOT"),
  (0x27D5, "", "LEFT OUTER JOIN;RIGHT OUTER JOIN;FULL OUTER JOIN;LARGE UP TACK;LARGE DOWN TACK"),
  (0x27DA, "LEFT ", "AND RIGHT DOUBLE TURNSTILE;AND RIGHT TACK;MULTIMAP"),
  (0x27DD, "", "LONG RIGHT TACK;LONG LEFT TACK;UP TACK WITH CIRCLE ABOVE;LOZENGE DIVIDED BY HORIZONTAL RULE"),
  (0x27E1, "WHITE CONCAVE-SIDED ", "DIAMOND;DIAMOND WITH LEFTWARDS TICK;DIAMOND WITH RIGHTWARDS TICK"),
  (0x27E4, "WHITE SQUARE WITH ", "LEFTWARDS TICK;RIGHTWARDS TICK"),
  (0x27E6, "MATHEMATICAL ", "LEFT WHITE SQUARE BRACKET;RIGHT WHITE SQUARE BRACKET;LEFT ANGLE BRACKET"),
  (0x27E9, "MATHEMATICAL ", "RIGHT ANGLE BRACKET;LEFT DOUBLE ANGLE BRACKET;RIGHT DOUBLE ANGLE BRACKET"),
  (0x27EC, "MATHEMATICAL ", "LEFT WHITE TORTOISE SHELL BRACKET;RIGHT WHITE TORTOISE SHELL BRACKET"),
  (0x27EE, "MATHEMATICAL ", "LEFT FLATTENED PARENTHESIS;RIGHT FLATTENED PARENTHESIS"),
  (0x27F0, "", "UPWARDS QUADRUPLE ARROW;DOWNWARDS QUADRUPLE ARROW;ANTICLOCKWISE GAPPED CIRCLE ARROW"),
  (0x27F3, "", "CLOCKWISE GAPPED CIRCLE ARROW;RIGHT ARROW WITH CIRCLED PLUS;LONG LEFTWARDS ARROW"),
  (0x27F6, "LONG ", "RIGHTWARDS ARROW;LEFT RIGHT ARROW;LEFTWARDS DOUBLE ARROW;RIGHTWARDS DOUBLE ARROW"),
  (0x27FA, "LONG ", "LEFT RIGHT DOUBLE ARROW;LEFTWARDS ARROW FROM BAR;RIGHTWARDS ARROW FROM BAR"),
  (0x27FD, "LONG ", "LEFTWARDS DOUBLE ARROW FROM BAR;RIGHTWARDS DOUBLE ARROW FROM BAR;RIGHTWARDS SQUIGGLE ARROW"),
  (0x2800, "BRAILLE PATTERN ", "BLANK"),
  (0x2801, "BRAILLE PATTERN DOTS-", "1;2;12;3;13;23;123;4;14;24;124;34;134;234;1234;5;15;25;125;35;135;235;1235;45"),
  (0x2819, "BRAILLE PATTERN DOTS-", "145;245;1245;345;1345;2345;12345;6;16;26;126;36;136;236;1236;46;146;246;1246"),
  (0x282C, "BRAILLE PATTERN DOTS-", "346;1346;2346;12346;56;156;256;1256;356;1356;2356;12356;456;1456;2456;12456")]

/-- The names from U+283C on. -/
def names283C : List NameRow := [
  (0x283C, "BRAILLE PATTERN DOTS-", "3456;13456;23456;123456;7;17;27;127;37;137;237;1237;47;147;247;1247;347;1347"),
  (0x284E, "BRAILLE PATTERN DOTS-", "2347;12347;57;157;257;1257;357;1357;2357;12357;457;1457;2457;12457;3457;13457"),
  (0x285E, "BRAILLE PATTERN DOTS-", "23457;123457;67;167;267;1267;367;1367;2367;12367;467;1467;2467;12467;3467"),
  (0x286D, "BRAILLE PATTERN DOTS-", "13467;23467;123467;567;1567;2567;12567;3567;13567;23567;123567;4567;14567"),
  (0x287A, "BRAILLE PATTERN DOTS-", "24567;124567;34567;134567;234567;1234567;8;18;28;128;38;138;238;1238;48;148"),
  (0x288A, "BRAILLE PATTERN DOTS-", "248;1248;348;1348;2348;12348;58;158;258;1258;358;1358;2358;12358;458;1458;2458"),
  (0x289B, "BRAILLE PATTERN DOTS-", "12458;3458;13458;23458;123458;68;168;268;1268;368;1368;2368;12368;468;1468"),
  (0x28AA, "BRAILLE PATTERN DOTS-", "2468;12468;3468;13468;23468;123468;568;1568;2568;12568;3568;13568;23568;123568"),
  (0x28B8, "BRAILLE PATTERN DOTS-", "4568;14568;24568;124568;34568;134568;234568;1234568;78;178;278;1278;378;1378"),
  (0x28C6, "BRAILLE PATTERN DOTS-", "2378;12378;478;1478;2478;12478;3478;13478;23478;123478;578;1578;2578;12578"),
  (0x28D4, "BRAILLE PATTERN DOTS-", "3578;13578;23578;123578;4578;14578;24578;124578;34578;134578;234578;1234578"),
  (0x28E0, "BRAILLE PATTERN DOTS-", "678;1678;2678;12678;3678;13678;23678;123678;4678;14678;24678;124678;34678"),
  (0x28ED, "BRAILLE PATTERN DOTS-", "134678;234678;1234678;5678;15678;25678;125678;35678;135678;235678;1235678"),
  (0x28F8, "BRAILLE PATTERN DOTS-", "45678;145678;245678;1245678;345678;1345678;2345678;12345678"),
  (0x2900, "RIGHTWARDS TWO-HEADED ARROW WITH ", "VERTICAL STROKE;DOUBLE VERTICAL STROKE"),
  (0x2902, "", "LEFTWARDS DOUBLE ARROW WITH VERTICAL STROKE;RIGHTWARDS DOUBLE ARROW WITH VERTICAL STROKE"),
  (0x2904, "", "LEFT RIGHT DOUBLE ARROW WITH VERTICAL STROKE;RIGHTWARDS TWO-HEADED ARROW FROM BAR"),
  (0x2906, "", "LEFTWARDS DOUBLE ARROW FROM BAR;RIGHTWARDS DOUBLE ARROW FROM BAR"),
  (0x2908, "", "DOWNWARDS ARROW WITH HORIZONTAL STROKE;UPWARDS ARROW WITH HORIZONTAL STROKE;UPWARDS TRIPLE ARROW"),
  (0x290B, "", "DOWNWARDS TRIPLE ARROW;LEFTWARDS DOUBLE DASH ARROW;RIGHTWARDS DOUBLE DASH ARROW"),
  (0x290E, "LEFTWARDS TRIPLE DASH ", "ARROW"),
  (0x290F, "RIGHTWARDS ", "TRIPLE DASH ARROW;TWO-HEADED TRIPLE DASH ARROW;ARROW WITH DOTTED STEM"),
  (0x2912, "", "UPWARDS ARROW TO BAR;DOWNWARDS ARROW TO BAR"),
  (0x2914, "RIGHTWARDS ARROW WITH TAIL WITH ", "VERTICAL STROKE;DOUBLE VERTICAL STROKE"),
  (0x2916, "RIGHTWARDS TWO-HEADED ARROW WITH ", "TAIL;TAIL WITH VERTICAL STROKE;TAIL WITH DOUBLE VERTICAL STROKE"),
  (0x2919, "", "LEFTWARDS ARROW-TAIL;RIGHTWARDS ARROW-TAIL;LEFTWARDS DOUBLE ARROW-TAIL;RIGHTWARDS DOUBLE ARROW-TAIL"),
  (0x291D, "", "LEFTWARDS ARROW TO BLACK DIAMOND;RIGHTWARDS ARROW TO BLACK DIAMOND"),
  (0x291F, "", "LEFTWARDS ARROW FROM BAR TO BLACK DIAMOND;RIGHTWARDS ARROW FROM BAR TO BLACK DIAMOND"),
  (0x2921, "NORTH ", "WEST AND SOUTH EAST ARROW;EAST AND SOUTH WEST ARROW;WEST ARROW WITH HOOK;EAST ARROW WITH HOOK"),
  (0x2925, "SOUTH ", "EAST ARROW WITH HOOK;WEST ARROW WITH HOOK"),
  (0x2927, "NORTH ", "WEST ARROW AND NORTH EAST ARROW;EAST ARROW AND SOUTH EAST ARROW"),
  (0x2929, "SOUTH ", "EAST ARROW AND SOUTH WEST ARROW;WEST ARROW AND NORTH WEST ARROW"),
  (0x292B, "", "RISING DIAGONAL CROSSING FALLING DIAGONAL;FALLING DIAGONAL CROSSING RISING DIAGONAL"),
  (0x292D, "", "SOUTH EAST ARROW CROSSING NORTH EAST ARROW;NORTH EAST ARROW CROSSING SOUTH EAST ARROW"),
  (0x292F, "", "FALLING DIAGONAL CROSSING NORTH EAST ARROW;RISING DIAGONAL CROSSING SOUTH EAST ARROW"),
  (0x2931, "NORTH ", "EAST ARROW CROSSING NORTH WEST ARROW;WEST ARROW CROSSING NORTH EAST ARROW"),
  (0x2933, "WAVE ARROW POINTING DIRECTLY ", "RIGHT"),
  (0x2934, "ARROW POINTING RIGHTWARDS THEN CURVING ", "UPWARDS;DOWNWARDS"),
  (0x2936, "ARROW POINTING DOWNWARDS THEN CURVING ", "LEFTWARDS;RIGHTWARDS"),
  (0x2938, "", "RIGHT-SIDE ARC CLOCKWISE ARROW;LEFT-SIDE ARC ANTICLOCKWISE ARROW;TOP ARC ANTICLOCKWISE ARROW"),
  (0x293B, "", "BOTTOM ARC ANTICLOCKWISE ARROW;TOP ARC CLOCKWISE ARROW WITH MINUS"),
  (0x293D, "", "TOP ARC ANTICLOCKWISE ARROW WITH PLUS;LOWER RIGHT SEMICIRCULAR CLOCKWISE ARROW"),
  (0x293F, "", "LOWER LEFT SEMICIRCULAR ANTICLOCKWISE ARROW;ANTICLOCKWISE CLOSED CIRCLE ARROW"),
  (0x2941, "", "CLOCKWISE CLOSED CIRCLE ARROW;RIGHTWARDS ARROW ABOVE SHORT LEFTWARDS ARROW"),
  (0x2943, "", "LEFTWARDS ARROW ABOVE SHORT RIGHTWARDS ARROW;SHORT RIGHTWARDS ARROW ABOVE LEFTWARDS ARROW"),
  (0x2945, "", "RIGHTWARDS ARROW WITH PLUS BELOW;LEFTWARDS ARROW WITH PLUS BELOW;RIGHTWARDS ARROW THROUGH X"),
  (0x2948, "", "LEFT RIGHT ARROW THROUGH SMALL CIRCLE;UPWARDS TWO-HEADED ARROW FROM SMALL CIRCLE"),
  (0x294A, "LEFT BARB ", "UP RIGHT BARB DOWN HARPOON;DOWN RIGHT BARB UP HARPOON"),
  (0x294C, "UP BARB ", "RIGHT DOWN BARB LEFT HARPOON;LEFT DOWN BARB RIGHT HARPOON"),
  (0x294E, "", "LEFT BARB UP RIGHT BARB UP HARPOON;UP BARB RIGHT DOWN BARB RIGHT HARPOON"),
  (0x2950, "", "LEFT BARB DOWN RIGHT BARB DOWN HARPOON;UP BARB LEFT DOWN BARB LEFT HARPOON"),
  (0x2952, "", "LEFTWARDS HARPOON WITH BARB UP TO BAR;RIGHTWARDS HARPOON WITH BARB UP TO BAR"),
  (0x2954, "", "UPWARDS HARPOON WITH BARB RIGHT TO BAR;DOWNWARDS HARPOON WITH BARB RIGHT TO BAR"),
  (0x2956, "", "LEFTWARDS HARPOON WITH BARB DOWN TO BAR;RIGHTWARDS HARPOON WITH BARB DOWN TO BAR"),
  (0x2958, "", "UPWARDS HARPOON WITH BARB LEFT TO BAR;DOWNWARDS HARPOON WITH BARB LEFT TO BAR"),
  (0x295A, "", "LEFTWARDS HARPOON WITH BARB UP FROM BAR;RIGHTWARDS HARPOON WITH BARB UP FROM BAR"),
  (0x295C, "", "UPWARDS HARPOON WITH BARB RIGHT FROM BAR;DOWNWARDS HARPOON WITH BARB RIGHT FROM BAR"),
  (0x295E, "", "LEFTWARDS HARPOON WITH BARB DOWN FROM BAR;RIGHTWARDS HARPOON WITH BARB DOWN FROM BAR"),
  (0x2960, "", "UPWARDS HARPOON WITH BARB LEFT FROM BAR;DOWNWARDS HARPOON WITH BARB LEFT FROM BAR"),
  (0x2962, "LEFTWARDS HARPOON WITH BARB UP ABOVE LEFTWARDS HARPOON WITH BARB ", "DOWN"),
  (0x2963, "UPWARDS HARPOON WITH BARB LEFT BESIDE UPWARDS HARPOON WITH BARB ", "RIGHT"),
  (0x2964, "RIGHTWARDS HARPOON WITH BARB UP ABOVE RIGHTWARDS HARPOON WITH BARB ", "DOWN"),
  (0x2965, "DOWNWARDS HARPOON WITH BARB LEFT BESIDE DOWNWARDS HARPOON WITH BARB ", "RIGHT"),
  (0x2966, "LEFTWARDS HARPOON WITH BARB UP ABOVE RIGHTWARDS HARPOON WITH BARB ", "UP"),
  (0x2967, "LEFTWARDS HARPOON WITH BARB DOWN ABOVE RIGHTWARDS HARPOON WITH BARB ", "DOWN"),
  (0x2968, "RIGHTWARDS HARPOON WITH BARB UP ABOVE LEFTWARDS HARPOON WITH BARB ", "UP"),
  (0x2969, "RIGHTWARDS HARPOON WITH BARB DOWN ABOVE LEFTWARDS HARPOON WITH BARB ", "DOWN"),
  (0x296A, "LEFTWARDS HARPOON WITH BARB ", "UP ABOVE LONG DASH;DOWN BELOW LONG DASH"),
  (0x296C, "RIGHTWARDS HARPOON WITH BARB ", "UP ABOVE LONG DASH;DOWN BELOW LONG DASH"),
  (0x296E, "UPWARDS HARPOON WITH BARB LEFT BESIDE DOWNWARDS HARPOON WITH BARB ", "RIGHT"),
  (0x296F, "DOWNWARDS HARPOON WITH BARB LEFT BESIDE UPWARDS HARPOON WITH BARB ", "RIGHT"),
  (0x2970, "", "RIGHT DOUBLE ARROW WITH ROUNDED HEAD;EQUALS SIGN ABOVE RIGHTWARDS ARROW"),
  (0x2972, "", "TILDE OPERATOR ABOVE RIGHTWARDS ARROW;LEFTWARDS ARROW ABOVE TILDE OPERATOR"),
  (0x2974, "RIGHTWARDS ARROW ABOVE ", "TILDE OPERATOR;ALMOST EQUAL TO"),
  (0x2976, "", "LESS-THAN ABOVE LEFTWARDS ARROW;LEFTWARDS ARROW THROUGH LESS-THAN"),
  (0x2978, "", "GREATER-THAN ABOVE RIGHTWARDS ARROW;SUBSET ABOVE RIGHTWARDS ARROW;LEFTWARDS ARROW THROUGH SUBSET"),
  (0x297B, "", "SUPERSET ABOVE LEFTWARDS ARROW;LEFT FISH TAIL;RIGHT FISH TAIL;UP FISH TAIL;DOWN FISH TAIL"),
  (0x2980, "", "TRIPLE VERTICAL BAR DELIMITER;Z NOTATION SPOT;Z NOTATION TYPE COLON;LEFT WHITE CURLY BRACKET"),
  (0x2984, "", "RIGHT WHITE CURLY BRACKET;LEFT WHITE PARENTHESIS;RIGHT WHITE PARENTHESIS"),
  (0x2987, "Z NOTATION ", "LEFT IMAGE BRACKET;RIGHT IMAGE BRACKET;LEFT BINDING BRACKET;RIGHT BINDING BRACKET"),
  (0x298B, "", "LEFT SQUARE BRACKET WITH UNDERBAR;RIGHT SQUARE BRACKET WITH UNDERBAR"),
  (0x298D, "", "LEFT SQUARE BRACKET WITH TICK IN TOP CORNER;RIGHT SQUARE BRACKET WITH TICK IN BOTTOM CORNER"),
  (0x298F, "", "LEFT SQUARE BRACKET WITH TICK IN BOTTOM CORNER;RIGHT SQUARE BRACKET WITH TICK IN TOP CORNER"),
  (0x2991, "", "LEFT ANGLE BRACKET WITH DOT;RIGHT ANGLE BRACKET WITH DOT;LEFT ARC LESS-THAN BRACKET"),
  (0x2994, "", "RIGHT ARC GREATER-THAN BRACKET;DOUBLE LEFT ARC GREATER-THAN BRACKET"),
  (0x2996, "", "DOUBLE RIGHT ARC LESS-THAN BRACKET;LEFT BLACK TORTOISE SHELL BRACKET"),
  (0x2998, "", "RIGHT BLACK TORTOISE SHELL BRACKET;DOTTED FENCE;VERTICAL ZIGZAG LINE;MEASURED ANGLE OPENING LEFT"),
  (0x299C, "", "RIGHT ANGLE VARIANT WITH SQUARE;MEASURED RIGHT ANGLE WITH DOT;ANGLE WITH S INSIDE;ACUTE ANGLE"),
  (0x29A0, "SPHERICAL ANGLE OPENING ", "LEFT;UP"),
  (0x29A2, "", "TURNED ANGLE;REVERSED ANGLE;ANGLE WITH UNDERBAR;REVERSED ANGLE WITH UNDERBAR"),
  (0x29A6, "OBLIQUE ANGLE OPENING ", "UP;DOWN"),
  (0x29A8, "MEASURED ANGLE WITH OPEN ARM ENDING IN ARROW POINTING UP AND ", "RIGHT;LEFT"),
  (0x29AA, "MEASURED ANGLE WITH OPEN ARM ENDING IN ARROW POINTING ", "DOWN AND RIGHT;DOWN AND LEFT;RIGHT AND UP"),
  (0x29AD, "MEASURED ANGLE WITH OPEN ARM ENDING IN ARROW POINTING ", "LEFT AND UP;RIGHT AND DOWN;LEFT AND DOWN"),
  (0x29B0, "REVERSED EMPTY ", "SET"),
  (0x29B1, "EMPTY SET WITH ", "OVERBAR;SMALL CIRCLE ABOVE;RIGHT ARROW ABOVE;LEFT ARROW ABOVE"),
  (0x29B5, "CIRCLE WITH HORIZONTAL ", "BAR"),
  (0x29B6, "CIRCLED ", "VERTICAL BAR;PARALLEL;REVERSE SOLIDUS;PERPENDICULAR"),
  (0x29BA, "CIRCLE ", "DIVIDED BY HORIZONTAL BAR AND TOP HALF DIVIDED BY VERTICAL BAR;WITH SUPERIMPOSED X"),
  (0x29BC, "", "CIRCLED ANTICLOCKWISE-ROTATED DIVISION SIGN;UP ARROW THROUGH CIRCLE")]

/-- The names from U+29BE on. -/
def names29BE : List NameRow := [
  (0x29BE, "CIRCLED ", "WHITE BULLET;BULLET;LESS-THAN;GREATER-THAN"),
  (0x29C2, "CIRCLE WITH ", "SMALL CIRCLE TO THE RIGHT;TWO HORIZONTAL STROKES TO THE RIGHT"),
  (0x29C4, "SQUARED ", "RISING DIAGONAL SLASH;FALLING DIAGONAL SLASH;ASTERISK;SMALL CIRCLE;SQUARE"),
  (0x29C9, "", "TWO JOINED SQUARES;TRIANGLE WITH DOT ABOVE;TRIANGLE WITH UNDERBAR;S IN TRIANGLE"),
  (0x29CD, "", "TRIANGLE WITH SERIFS AT BOTTOM;RIGHT TRIANGLE ABOVE LEFT TRIANGLE;LEFT TRIANGLE BESIDE VERTICAL BAR"),
  (0x29D0, "", "VERTICAL BAR BESIDE RIGHT TRIANGLE;BOWTIE WITH LEFT HALF BLACK;BOWTIE WITH RIGHT HALF BLACK"),
  (0x29D3, "", "BLACK BOWTIE;TIMES WITH LEFT HALF BLACK;TIMES WITH RIGHT HALF BLACK;WHITE HOURGLASS;BLACK HOURGLASS"),
  (0x29D8, "", "LEFT WIGGLY FENCE;RIGHT WIGGLY FENCE;LEFT DOUBLE WIGGLY FENCE;RIGHT DOUBLE WIGGLY FENCE"),
  (0x29DC, "", "INCOMPLETE INFINITY;TIE OVER INFINITY;INFINITY NEGATED WITH VERTICAL BAR;DOUBLE-ENDED MULTIMAP"),
  (0x29E0, "", "SQUARE WITH CONTOURED OUTLINE;INCREASES AS;SHUFFLE PRODUCT"),
  (0x29E3, "EQUALS SIGN AND SLANTED ", "PARALLEL;PARALLEL WITH TILDE ABOVE"),
  (0x29E5, "", "IDENTICAL TO AND SLANTED PARALLEL;GLEICH STARK;THERMODYNAMIC"),
  (0x29E8, "DOWN-POINTING TRIANGLE WITH ", "LEFT HALF BLACK;RIGHT HALF BLACK"),
  (0x29EA, "BLACK ", "DIAMOND WITH DOWN ARROW;LOZENGE"),
  (0x29EC, "", "WHITE CIRCLE WITH DOWN ARROW;BLACK CIRCLE WITH DOWN ARROW"),
  (0x29EE, "ERROR-BARRED ", "WHITE SQUARE;BLACK SQUARE;WHITE DIAMOND;BLACK DIAMOND;WHITE CIRCLE;BLACK CIRCLE"),
  (0x29F4, "", "RULE-DELAYED;REVERSE SOLIDUS OPERATOR;SOLIDUS WITH OVERBAR;REVERSE SOLIDUS WITH HORIZONTAL STROKE"),
  (0x29F8, "", "BIG SOLIDUS;BIG REVERSE SOLIDUS;DOUBLE PLUS;TRIPLE PLUS;LEFT-POINTING CURVED ANGLE BRACKET"),
  (0x29FD, "", "RIGHT-POINTING CURVED ANGLE BRACKET;TINY;MINY"),
  (0x2A00, "N-ARY CIRCLED ", "DOT OPERATOR;PLUS OPERATOR;TIMES OPERATOR"),
  (0x2A03, "N-ARY UNION OPERATOR WITH ", "DOT;PLUS"), (0x2A05, "N-ARY SQUARE ", "INTERSECTION OPERATOR;UNION OPERATOR"),
  (0x2A07, "TWO LOGICAL ", "AND OPERATOR;OR OPERATOR"),
  (0x2A09, "", "N-ARY TIMES OPERATOR;MODULO TWO SUM;SUMMATION WITH INTEGRAL;QUADRUPLE INTEGRAL OPERATOR"),
  (0x2A0D, "", "FINITE PART INTEGRAL;INTEGRAL WITH DOUBLE STROKE;INTEGRAL AVERAGE WITH SLASH;CIRCULATION FUNCTION"),
  (0x2A11, "", "ANTICLOCKWISE INTEGRATION;LINE INTEGRATION WITH RECTANGULAR PATH AROUND POLE"),
  (0x2A13, "LINE INTEGRATION ", "WITH SEMICIRCULAR PATH AROUND POLE;NOT INCLUDING THE POLE"),
  (0x2A15, "", "INTEGRAL AROUND A POINT OPERATOR;QUATERNION INTEGRAL OPERATOR"),
  (0x2A17, "INTEGRAL WITH ", "LEFTWARDS ARROW WITH HOOK;TIMES SIGN;INTERSECTION;UNION;OVERBAR;UNDERBAR"),
  (0x2A1D, "", "JOIN;LARGE LEFT TRIANGLE OPERATOR"), (0x2A1F, "Z NOTATION SCHEMA ", "COMPOSITION;PIPING;PROJECTION"),
  (0x2A22, "PLUS SIGN WITH ", "SMALL CIRCLE ABOVE;CIRCUMFLEX ACCENT ABOVE;TILDE ABOVE;DOT BELOW;TILDE BELOW"),
  (0x2A27, "PLUS SIGN WITH ", "SUBSCRIPT TWO;BLACK TRIANGLE"),
  (0x2A29, "MINUS SIGN WITH ", "COMMA ABOVE;DOT BELOW;FALLING DOTS;RISING DOTS"),
  (0x2A2D, "", "PLUS SIGN IN LEFT HALF CIRCLE;PLUS SIGN IN RIGHT HALF CIRCLE;VECTOR OR CROSS PRODUCT"),
  (0x2A30, "MULTIPLICATION SIGN WITH ", "DOT ABOVE;UNDERBAR"),
  (0x2A32, "", "SEMIDIRECT PRODUCT WITH BOTTOM CLOSED;SMASH PRODUCT"),
  (0x2A34, "MULTIPLICATION SIGN IN ", "LEFT HALF CIRCLE;RIGHT HALF CIRCLE"),
  (0x2A36, "", "CIRCLED MULTIPLICATION SIGN WITH CIRCUMFLEX ACCENT;MULTIPLICATION SIGN IN DOUBLE CIRCLE"),
  (0x2A38, "", "CIRCLED DIVISION SIGN;PLUS SIGN IN TRIANGLE;MINUS SIGN IN TRIANGLE;MULTIPLICATION SIGN IN TRIANGLE"),
  (0x2A3C, "", "INTERIOR PRODUCT;RIGHTHAND INTERIOR PRODUCT;Z NOTATION RELATIONAL COMPOSITION"),
  (0x2A3F, "", "AMALGAMATION OR COPRODUCT;INTERSECTION WITH DOT;UNION WITH MINUS SIGN;UNION WITH OVERBAR"),
  (0x2A43, "INTERSECTION WITH ", "OVERBAR;LOGICAL AND"), (0x2A45, "UNION ", "WITH LOGICAL OR;ABOVE INTERSECTION"),
  (0x2A47, "", "INTERSECTION ABOVE UNION;UNION ABOVE BAR ABOVE INTERSECTION;INTERSECTION ABOVE BAR ABOVE UNION"),
  (0x2A4A, "", "UNION BESIDE AND JOINED WITH UNION;INTERSECTION BESIDE AND JOINED WITH INTERSECTION"),
  (0x2A4C, "CLOSED ", "UNION WITH SERIFS;INTERSECTION WITH SERIFS"), (0x2A4E, "DOUBLE SQUARE ", "INTERSECTION;UNION"),
  (0x2A50, "", "CLOSED UNION WITH SERIFS AND SMASH PRODUCT;LOGICAL AND WITH DOT ABOVE;LOGICAL OR WITH DOT ABOVE"),
  (0x2A53, "DOUBLE LOGICAL ", "AND;OR"), (0x2A55, "TWO INTERSECTING LOGICAL ", "AND;OR"),
  (0x2A57, "", "SLOPING LARGE OR;SLOPING LARGE AND;LOGICAL OR OVERLAPPING LOGICAL AND"),
  (0x2A5A, "LOGICAL ", "AND WITH MIDDLE STEM;OR WITH MIDDLE STEM;AND WITH HORIZONTAL DASH;OR WITH HORIZONTAL DASH"),
  (0x2A5E, "LOGICAL AND WITH ", "DOUBLE OVERBAR;UNDERBAR;DOUBLE UNDERBAR"), (0x2A61, "SMALL VEE WITH ", "UNDERBAR"),
  (0x2A62, "LOGICAL OR WITH DOUBLE ", "OVERBAR;UNDERBAR"),
  (0x2A64, "Z NOTATION ", "DOMAIN ANTIRESTRICTION;RANGE ANTIRESTRICTION"),
  (0x2A66, "", "EQUALS SIGN WITH DOT BELOW;IDENTICAL WITH DOT ABOVE"),
  (0x2A68, "TRIPLE HORIZONTAL BAR WITH ", "DOUBLE VERTICAL STROKE;TRIPLE VERTICAL STROKE"),
  (0x2A6A, "TILDE OPERATOR WITH ", "DOT ABOVE;RISING DOTS"),
  (0x2A6C, "", "SIMILAR MINUS SIMILAR;CONGRUENT WITH DOT ABOVE;EQUALS WITH ASTERISK"),
  (0x2A6F, "", "ALMOST EQUAL TO WITH CIRCUMFLEX ACCENT;APPROXIMATELY EQUAL OR EQUAL TO;EQUALS SIGN ABOVE PLUS SIGN"),
  (0x2A72, "", "PLUS SIGN ABOVE EQUALS SIGN;EQUALS SIGN ABOVE TILDE OPERATOR;DOUBLE COLON EQUAL"),
  (0x2A75, "", "TWO CONSECUTIVE EQUALS SIGNS;THREE CONSECUTIVE EQUALS SIGNS"),
  (0x2A77, "", "EQUALS SIGN WITH TWO DOTS ABOVE AND TWO DOTS BELOW;EQUIVALENT WITH FOUR DOTS ABOVE"),
  (0x2A79, "", "LESS-THAN WITH CIRCLE INSIDE;GREATER-THAN WITH CIRCLE INSIDE;LESS-THAN WITH QUESTION MARK ABOVE"),
  (0x2A7C, "", "GREATER-THAN WITH QUESTION MARK ABOVE;LESS-THAN OR SLANTED EQUAL TO"),
  (0x2A7E, "", "GREATER-THAN OR SLANTED EQUAL TO;LESS-THAN OR SLANTED EQUAL TO WITH DOT INSIDE"),
  (0x2A80, "", "GREATER-THAN OR SLANTED EQUAL TO WITH DOT INSIDE;LESS-THAN OR SLANTED EQUAL TO WITH DOT ABOVE"),
  (0x2A82, "", "GREATER-THAN OR SLANTED EQUAL TO WITH DOT ABOVE;LESS-THAN OR SLANTED EQUAL TO WITH DOT ABOVE RIGHT"),
  (0x2A84, "", "GREATER-THAN OR SLANTED EQUAL TO WITH DOT ABOVE LEFT;LESS-THAN OR APPROXIMATE"),
  (0x2A86, "", "GREATER-THAN OR APPROXIMATE;LESS-THAN AND SINGLE-LINE NOT EQUAL TO"),
  (0x2A88, "", "GREATER-THAN AND SINGLE-LINE NOT EQUAL TO;LESS-THAN AND NOT APPROXIMATE"),
  (0x2A8A, "", "GREATER-THAN AND NOT APPROXIMATE;LESS-THAN ABOVE DOUBLE-LINE EQUAL ABOVE GREATER-THAN"),
  (0x2A8C, "", "GREATER-THAN ABOVE DOUBLE-LINE EQUAL ABOVE LESS-THAN;LESS-THAN ABOVE SIMILAR OR EQUAL"),
  (0x2A8E, "", "GREATER-THAN ABOVE SIMILAR OR EQUAL;LESS-THAN ABOVE SIMILAR ABOVE GREATER-THAN"),
  (0x2A90, "", "GREATER-THAN ABOVE SIMILAR ABOVE LESS-THAN;LESS-THAN ABOVE GREATER-THAN ABOVE DOUBLE-LINE EQUAL"),
  (0x2A92, "GREATER-THAN ABOVE LESS-THAN ABOVE DOUBLE-LINE ", "EQUAL"),
  (0x2A93, "LESS-THAN ABOVE SLANTED EQUAL ABOVE GREATER-THAN ABOVE SLANTED ", "EQUAL"),
  (0x2A94, "GREATER-THAN ABOVE SLANTED EQUAL ABOVE LESS-THAN ABOVE SLANTED ", "EQUAL"),
  (0x2A95, "SLANTED EQUAL TO OR ", "LESS-THAN;GREATER-THAN;LESS-THAN WITH DOT INSIDE;GREATER-THAN WITH DOT INSIDE"),
  (0x2A99, "DOUBLE-LINE EQUAL TO OR ", "LESS-THAN;GREATER-THAN"),
  (0x2A9B, "DOUBLE-LINE SLANTED EQUAL TO OR ", "LESS-THAN;GREATER-THAN"),
  (0x2A9D, "SIMILAR OR ", "LESS-THAN;GREATER-THAN"),
  (0x2A9F, "SIMILAR ABOVE ", "LESS-THAN ABOVE EQUALS SIGN;GREATER-THAN ABOVE EQUALS SIGN"),
  (0x2AA1, "DOUBLE NESTED ", "LESS-THAN;GREATER-THAN;LESS-THAN WITH UNDERBAR"),
  (0x2AA4, "", "GREATER-THAN OVERLAPPING LESS-THAN;GREATER-THAN BESIDE LESS-THAN;LESS-THAN CLOSED BY CURVE"),
  (0x2AA7, "", "GREATER-THAN CLOSED BY CURVE;LESS-THAN CLOSED BY CURVE ABOVE SLANTED EQUAL"),
  (0x2AA9, "", "GREATER-THAN CLOSED BY CURVE ABOVE SLANTED EQUAL;SMALLER THAN;LARGER THAN;SMALLER THAN OR EQUAL TO"),
  (0x2AAD, "", "LARGER THAN OR EQUAL TO;EQUALS SIGN WITH BUMPY ABOVE;PRECEDES ABOVE SINGLE-LINE EQUALS SIGN"),
  (0x2AB0, "", "SUCCEEDS ABOVE SINGLE-LINE EQUALS SIGN;PRECEDES ABOVE SINGLE-LINE NOT EQUAL TO"),
  (0x2AB2, "", "SUCCEEDS ABOVE SINGLE-LINE NOT EQUAL TO;PRECEDES ABOVE EQUALS SIGN;SUCCEEDS ABOVE EQUALS SIGN"),
  (0x2AB5, "", "PRECEDES ABOVE NOT EQUAL TO;SUCCEEDS ABOVE NOT EQUAL TO;PRECEDES ABOVE ALMOST EQUAL TO"),
  (0x2AB8, "", "SUCCEEDS ABOVE ALMOST EQUAL TO;PRECEDES ABOVE NOT ALMOST EQUAL TO"),
  (0x2ABA, "", "SUCCEEDS ABOVE NOT ALMOST EQUAL TO;DOUBLE PRECEDES;DOUBLE SUCCEEDS;SUBSET WITH DOT"),
  (0x2ABE, "", "SUPERSET WITH DOT;SUBSET WITH PLUS SIGN BELOW;SUPERSET WITH PLUS SIGN BELOW"),
  (0x2AC1, "", "SUBSET WITH MULTIPLICATION SIGN BELOW;SUPERSET WITH MULTIPLICATION SIGN BELOW"),
  (0x2AC3, "", "SUBSET OF OR EQUAL TO WITH DOT ABOVE;SUPERSET OF OR EQUAL TO WITH DOT ABOVE"),
  (0x2AC5, "", "SUBSET OF ABOVE EQUALS SIGN;SUPERSET OF ABOVE EQUALS SIGN;SUBSET OF ABOVE TILDE OPERATOR"),
  (0x2AC8, "", "SUPERSET OF ABOVE TILDE OPERATOR;SUBSET OF ABOVE ALMOST EQUAL TO;SUPERSET OF ABOVE ALMOST EQUAL TO")]

/-- The names from U+2ACB on. -/
def names2ACB : List NameRow := [
  (0x2ACB, "", "SUBSET OF ABOVE NOT EQUAL TO;SUPERSET OF ABOVE NOT EQUAL TO"),
  (0x2ACD, "SQUARE ", "LEFT OPEN BOX OPERATOR;RIGHT OPEN BOX OPERATOR"),
  (0x2ACF, "CLOSED ", "SUBSET;SUPERSET;SUBSET OR EQUAL TO;SUPERSET OR EQUAL TO"),
  (0x2AD3, "", "SUBSET ABOVE SUPERSET;SUPERSET ABOVE SUBSET;SUBSET ABOVE SUBSET"),
  (0x2AD6, "SUPERSET ", "ABOVE SUPERSET;BESIDE SUBSET;BESIDE AND JOINED BY DASH WITH SUBSET"),
  (0x2AD9, "", "ELEMENT OF OPENING DOWNWARDS;PITCHFORK WITH TEE TOP;TRANSVERSAL INTERSECTION;FORKING;NONFORKING"),
  (0x2ADE, "SHORT ", "LEFT TACK;DOWN TACK;UP TACK"),
  (0x2AE1, "", "PERPENDICULAR WITH S;VERTICAL BAR TRIPLE RIGHT TURNSTILE;DOUBLE VERTICAL BAR LEFT TURNSTILE"),
  (0x2AE4, "", "VERTICAL BAR DOUBLE LEFT TURNSTILE;DOUBLE VERTICAL BAR DOUBLE LEFT TURNSTILE"),
  (0x2AE6, "", "LONG DASH FROM LEFT MEMBER OF DOUBLE VERTICAL;SHORT DOWN TACK WITH OVERBAR"),
  (0x2AE8, "SHORT UP TACK ", "WITH UNDERBAR;ABOVE SHORT DOWN TACK"),
  (0x2AEA, "DOUBLE ", "DOWN TACK;UP TACK;STROKE NOT SIGN"),
  (0x2AED, "", "REVERSED DOUBLE STROKE NOT SIGN;DOES NOT DIVIDE WITH REVERSED NEGATION SLASH"),
  (0x2AEF, "VERTICAL LINE WITH CIRCLE ", "ABOVE;BELOW"),
  (0x2AF1, "", "DOWN TACK WITH CIRCLE BELOW;PARALLEL WITH HORIZONTAL STROKE;PARALLEL WITH TILDE OPERATOR"),
  (0x2AF4, "TRIPLE VERTICAL BAR ", "BINARY RELATION;WITH HORIZONTAL STROKE"),
  (0x2AF6, "TRIPLE ", "COLON OPERATOR;NESTED LESS-THAN;NESTED GREATER-THAN"),
  (0x2AF9, "DOUBLE-LINE SLANTED ", "LESS-THAN OR EQUAL TO;GREATER-THAN OR EQUAL TO"),
  (0x2AFB, "", "TRIPLE SOLIDUS BINARY RELATION;LARGE TRIPLE VERTICAL BAR OPERATOR;DOUBLE SOLIDUS OPERATOR"),
  (0x2AFE, "", "WHITE VERTICAL BAR;N-ARY WHITE VERTICAL BAR;NORTH EAST WHITE ARROW;NORTH WEST WHITE ARROW"),
  (0x2B02, "", "SOUTH EAST WHITE ARROW;SOUTH WEST WHITE ARROW;LEFT RIGHT WHITE ARROW;LEFTWARDS BLACK ARROW"),
  (0x2B06, "", "UPWARDS BLACK ARROW;DOWNWARDS BLACK ARROW;NORTH EAST BLACK ARROW;NORTH WEST BLACK ARROW"),
  (0x2B0A, "", "SOUTH EAST BLACK ARROW;SOUTH WEST BLACK ARROW;LEFT RIGHT BLACK ARROW;UP DOWN BLACK ARROW"),
  (0x2B0E, "RIGHTWARDS ARROW WITH TIP ", "DOWNWARDS;UPWARDS"),
  (0x2B10, "LEFTWARDS ARROW WITH TIP ", "DOWNWARDS;UPWARDS"),
  (0x2B12, "SQUARE WITH ", "TOP HALF BLACK;BOTTOM HALF BLACK;UPPER RIGHT DIAGONAL HALF BLACK"),
  (0x2B15, "SQUARE WITH LOWER LEFT DIAGONAL HALF ", "BLACK"),
  (0x2B16, "DIAMOND WITH ", "LEFT HALF BLACK;RIGHT HALF BLACK;TOP HALF BLACK;BOTTOM HALF BLACK"),
  (0x2B1A, "", "DOTTED SQUARE;BLACK LARGE SQUARE;WHITE LARGE SQUARE;BLACK VERY SMALL SQUARE;WHITE VERY SMALL SQUARE"),
  (0x2B1F, "", "BLACK PENTAGON;WHITE PENTAGON;WHITE HEXAGON;BLACK HEXAGON;HORIZONTAL BLACK HEXAGON"),
  (0x2B24, "", "BLACK LARGE CIRCLE;BLACK MEDIUM DIAMOND;WHITE MEDIUM DIAMOND;BLACK MEDIUM LOZENGE"),
  (0x2B28, "", "WHITE MEDIUM LOZENGE;BLACK SMALL DIAMOND;BLACK SMALL LOZENGE;WHITE SMALL LOZENGE"),
  (0x2B2C, "", "BLACK HORIZONTAL ELLIPSE;WHITE HORIZONTAL ELLIPSE;BLACK VERTICAL ELLIPSE;WHITE VERTICAL ELLIPSE"),
  (0x2B30, "", "LEFT ARROW WITH SMALL CIRCLE;THREE LEFTWARDS ARROWS;LEFT ARROW WITH CIRCLED PLUS"),
  (0x2B33, "", "LONG LEFTWARDS SQUIGGLE ARROW;LEFTWARDS TWO-HEADED ARROW WITH VERTICAL STROKE"),
  (0x2B35, "LEFTWARDS TWO-HEADED ", "ARROW WITH DOUBLE VERTICAL STROKE;ARROW FROM BAR;TRIPLE DASH ARROW"),
  (0x2B38, "LEFTWARDS ARROW WITH ", "DOTTED STEM;TAIL WITH VERTICAL STROKE;TAIL WITH DOUBLE VERTICAL STROKE"),
  (0x2B3B, "LEFTWARDS TWO-HEADED ARROW WITH ", "TAIL;TAIL WITH VERTICAL STROKE;TAIL WITH DOUBLE VERTICAL STROKE"),
  (0x2B3E, "", "LEFTWARDS ARROW THROUGH X;WAVE ARROW POINTING DIRECTLY LEFT;EQUALS SIGN ABOVE LEFTWARDS ARROW"),
  (0x2B41, "", "REVERSE TILDE OPERATOR ABOVE LEFTWARDS ARROW;LEFTWARDS ARROW ABOVE REVERSE ALMOST EQUAL TO"),
  (0x2B43, "RIGHTWARDS ARROW THROUGH ", "GREATER-THAN;SUPERSET"),
  (0x2B45, "", "LEFTWARDS QUADRUPLE ARROW;RIGHTWARDS QUADRUPLE ARROW;REVERSE TILDE OPERATOR ABOVE RIGHTWARDS ARROW"),
  (0x2B48, "", "RIGHTWARDS ARROW ABOVE REVERSE ALMOST EQUAL TO;TILDE OPERATOR ABOVE LEFTWARDS ARROW"),
  (0x2B4A, "LEFTWARDS ARROW ABOVE ", "ALMOST EQUAL TO;REVERSE TILDE OPERATOR"),
  (0x2B4C, "", "RIGHTWARDS ARROW ABOVE REVERSE TILDE OPERATOR;DOWNWARDS TRIANGLE-HEADED ZIGZAG ARROW"),
  (0x2B4E, "", "SHORT SLANTED NORTH ARROW;SHORT BACKSLANTED SOUTH ARROW;WHITE MEDIUM STAR;BLACK SMALL STAR"),
  (0x2B52, "", "WHITE SMALL STAR;BLACK RIGHT-POINTING PENTAGON;WHITE RIGHT-POINTING PENTAGON"),
  (0x2B55, "HEAVY ", "LARGE CIRCLE;OVAL WITH OVAL INSIDE;CIRCLE WITH CIRCLE INSIDE;CIRCLE;CIRCLED SALTIRE"),
  (0x2B5A, "", "SLANTED NORTH ARROW WITH HOOKED HEAD;BACKSLANTED SOUTH ARROW WITH HOOKED TAIL"),
  (0x2B5C, "", "SLANTED NORTH ARROW WITH HORIZONTAL TAIL;BACKSLANTED SOUTH ARROW WITH HORIZONTAL TAIL"),
  (0x2B5E, "", "BENT ARROW POINTING DOWNWARDS THEN NORTH EAST;SHORT BENT ARROW POINTING DOWNWARDS THEN NORTH EAST"),
  (0x2B60, "", "LEFTWARDS TRIANGLE-HEADED ARROW;UPWARDS TRIANGLE-HEADED ARROW;RIGHTWARDS TRIANGLE-HEADED ARROW"),
  (0x2B63, "", "DOWNWARDS TRIANGLE-HEADED ARROW;LEFT RIGHT TRIANGLE-HEADED ARROW;UP DOWN TRIANGLE-HEADED ARROW"),
  (0x2B66, "NORTH ", "WEST TRIANGLE-HEADED ARROW;EAST TRIANGLE-HEADED ARROW"),
  (0x2B68, "SOUTH ", "EAST TRIANGLE-HEADED ARROW;WEST TRIANGLE-HEADED ARROW"),
  (0x2B6A, "", "LEFTWARDS TRIANGLE-HEADED DASHED ARROW;UPWARDS TRIANGLE-HEADED DASHED ARROW"),
  (0x2B6C, "", "RIGHTWARDS TRIANGLE-HEADED DASHED ARROW;DOWNWARDS TRIANGLE-HEADED DASHED ARROW"),
  (0x2B6E, "", "CLOCKWISE TRIANGLE-HEADED OPEN CIRCLE ARROW;ANTICLOCKWISE TRIANGLE-HEADED OPEN CIRCLE ARROW"),
  (0x2B70, "", "LEFTWARDS TRIANGLE-HEADED ARROW TO BAR;UPWARDS TRIANGLE-HEADED ARROW TO BAR"),
  (0x2B72, "", "RIGHTWARDS TRIANGLE-HEADED ARROW TO BAR;DOWNWARDS TRIANGLE-HEADED ARROW TO BAR"),
  (0x2B76, "NORTH ", "WEST TRIANGLE-HEADED ARROW TO BAR;EAST TRIANGLE-HEADED ARROW TO BAR"),
  (0x2B78, "SOUTH ", "EAST TRIANGLE-HEADED ARROW TO BAR;WEST TRIANGLE-HEADED ARROW TO BAR"),
  (0x2B7A, "LEFTWARDS TRIANGLE-HEADED ARROW WITH DOUBLE HORIZONTAL ", "STROKE"),
  (0x2B7B, "UPWARDS TRIANGLE-HEADED ARROW WITH DOUBLE HORIZONTAL ", "STROKE"),
  (0x2B7C, "RIGHTWARDS TRIANGLE-HEADED ARROW WITH DOUBLE HORIZONTAL ", "STROKE"),
  (0x2B7D, "", "DOWNWARDS TRIANGLE-HEADED ARROW WITH DOUBLE HORIZONTAL STROKE;HORIZONTAL TAB KEY;VERTICAL TAB KEY"),
  (0x2B80, "LEFTWARDS TRIANGLE-HEADED ARROW OVER RIGHTWARDS TRIANGLE-HEADED ", "ARROW"),
  (0x2B81, "UPWARDS TRIANGLE-HEADED ARROW LEFTWARDS OF DOWNWARDS TRIANGLE-HEADED ", "ARROW"),
  (0x2B82, "RIGHTWARDS TRIANGLE-HEADED ARROW OVER LEFTWARDS TRIANGLE-HEADED ", "ARROW"),
  (0x2B83, "DOWNWARDS TRIANGLE-HEADED ARROW LEFTWARDS OF UPWARDS TRIANGLE-HEADED ", "ARROW"),
  (0x2B84, "", "LEFTWARDS TRIANGLE-HEADED PAIRED ARROWS;UPWARDS TRIANGLE-HEADED PAIRED ARROWS"),
  (0x2B86, "", "RIGHTWARDS TRIANGLE-HEADED PAIRED ARROWS;DOWNWARDS TRIANGLE-HEADED PAIRED ARROWS"),
  (0x2B88, "", "LEFTWARDS BLACK CIRCLED WHITE ARROW;UPWARDS BLACK CIRCLED WHITE ARROW"),
  (0x2B8A, "", "RIGHTWARDS BLACK CIRCLED WHITE ARROW;DOWNWARDS BLACK CIRCLED WHITE ARROW"),
  (0x2B8C, "ANTICLOCKWISE TRIANGLE-HEADED ", "RIGHT U-SHAPED ARROW;BOTTOM U-SHAPED ARROW;LEFT U-SHAPED ARROW"),
  (0x2B8F, "", "ANTICLOCKWISE TRIANGLE-HEADED TOP U-SHAPED ARROW;RETURN LEFT;RETURN RIGHT;NEWLINE LEFT"),
  (0x2B93, "", "NEWLINE RIGHT;FOUR CORNER ARROWS CIRCLING ANTICLOCKWISE;RIGHTWARDS BLACK ARROW"),
  (0x2B97, "SYMBOL FOR TYPE A ", "ELECTRONICS"),
  (0x2B98, "THREE-D ", "TOP-LIGHTED LEFTWARDS EQUILATERAL ARROWHEAD;RIGHT-LIGHTED UPWARDS EQUILATERAL ARROWHEAD"),
  (0x2B9A, "THREE-D ", "TOP-LIGHTED RIGHTWARDS EQUILATERAL ARROWHEAD;LEFT-LIGHTED DOWNWARDS EQUILATERAL ARROWHEAD"),
  (0x2B9C, "BLACK ", "LEFTWARDS EQUILATERAL ARROWHEAD;UPWARDS EQUILATERAL ARROWHEAD"),
  (0x2B9E, "BLACK ", "RIGHTWARDS EQUILATERAL ARROWHEAD;DOWNWARDS EQUILATERAL ARROWHEAD"),
  (0x2BA0, "DOWNWARDS TRIANGLE-HEADED ARROW WITH LONG TIP ", "LEFTWARDS;RIGHTWARDS"),
  (0x2BA2, "UPWARDS TRIANGLE-HEADED ARROW WITH LONG TIP ", "LEFTWARDS;RIGHTWARDS"),
  (0x2BA4, "LEFTWARDS TRIANGLE-HEADED ARROW WITH LONG TIP ", "UPWARDS"),
  (0x2BA5, "RIGHTWARDS TRIANGLE-HEADED ARROW WITH LONG TIP ", "UPWARDS"),
  (0x2BA6, "LEFTWARDS TRIANGLE-HEADED ARROW WITH LONG TIP ", "DOWNWARDS"),
  (0x2BA7, "RIGHTWARDS TRIANGLE-HEADED ARROW WITH LONG TIP ", "DOWNWARDS"),
  (0x2BA8, "BLACK CURVED DOWNWARDS AND ", "LEFTWARDS ARROW;RIGHTWARDS ARROW"),
  (0x2BAA, "BLACK CURVED UPWARDS AND ", "LEFTWARDS ARROW;RIGHTWARDS ARROW"),
  (0x2BAC, "BLACK CURVED ", "LEFTWARDS AND UPWARDS ARROW;RIGHTWARDS AND UPWARDS ARROW;LEFTWARDS AND DOWNWARDS ARROW"),
  (0x2BAF, "BLACK CURVED RIGHTWARDS AND DOWNWARDS ", "ARROW"),
  (0x2BB0, "RIBBON ARROW ", "DOWN LEFT;DOWN RIGHT;UP LEFT;UP RIGHT;LEFT UP;RIGHT UP;LEFT DOWN;RIGHT DOWN"),
  (0x2BB8, "", "UPWARDS WHITE ARROW FROM BAR WITH HORIZONTAL BAR;UP ARROWHEAD IN A RECTANGLE BOX"),
  (0x2BBA, "OVERLAPPING ", "WHITE SQUARES;WHITE AND BLACK SQUARES;BLACK SQUARES"),
  (0x2BBD, "", "BALLOT BOX WITH LIGHT X;CIRCLED X;CIRCLED BOLD X;BLACK SQUARE CENTRED;BLACK DIAMOND CENTRED"),
  (0x2BC2, "", "TURNED BLACK PENTAGON;HORIZONTAL BLACK OCTAGON;BLACK OCTAGON"),
  (0x2BC5, "BLACK MEDIUM ", "UP-POINTING TRIANGLE CENTRED;DOWN-POINTING TRIANGLE CENTRED"),
  (0x2BC7, "BLACK MEDIUM ", "LEFT-POINTING TRIANGLE CENTRED;RIGHT-POINTING TRIANGLE CENTRED"),
  (0x2BC9, "", "NEPTUNE FORM TWO;TOP HALF BLACK CIRCLE;BOTTOM HALF BLACK CIRCLE;LIGHT FOUR POINTED BLACK CUSP")]

/-- The names from U+2BCD on. -/
def names2BCD : List NameRow := [
  (0x2BCD, "", "ROTATED LIGHT FOUR POINTED BLACK CUSP;WHITE FOUR POINTED CUSP;ROTATED WHITE FOUR POINTED CUSP"),
  (0x2BD0, "", "SQUARE POSITION INDICATOR;UNCERTAINTY SIGN;GROUP MARK"), (0x2BD3, "PLUTO FORM ", "TWO;THREE;FOUR;FIVE"),
  (0x2BD7, "", "TRANSPLUTO;PROSERPINA;ASTRAEA;HYGIEA;PHOLUS;NESSUS;WHITE MOON SELENA;BLACK DIAMOND ON CROSS"),
  (0x2BDF, "", "TRUE LIGHT MOON ARTA;CUPIDO;HADES;ZEUS;KRONOS;APOLLON;ADMETOS;VULCANUS;POSEIDON"),
  (0x2BE8, "", "LEFT HALF BLACK STAR;RIGHT HALF BLACK STAR;STAR WITH LEFT HALF BLACK;STAR WITH RIGHT HALF BLACK"),
  (0x2BEC, "LEFTWARDS TWO-HEADED ARROW WITH TRIANGLE ", "ARROWHEADS"),
  (0x2BED, "UPWARDS TWO-HEADED ARROW WITH TRIANGLE ", "ARROWHEADS"),
  (0x2BEE, "RIGHTWARDS TWO-HEADED ARROW WITH TRIANGLE ", "ARROWHEADS"),
  (0x2BEF, "", "DOWNWARDS TWO-HEADED ARROW WITH TRIANGLE ARROWHEADS;ERIS FORM ONE;ERIS FORM TWO;SEDNA"),
  (0x2BF3, "RUSSIAN ASTROLOGICAL SYMBOL ", "VIGINTILE;NOVILE;QUINTILE;BINOVILE;SENTAGON;TREDECILE"),
  (0x2BF9, "", "EQUALS SIGN WITH INFINITY BELOW;UNITED SYMBOL;SEPARATED SYMBOL;DOUBLED SYMBOL;PASSED SYMBOL"),
  (0x2BFE, "", "REVERSED RIGHT ANGLE;HELLSCHREIBER PAUSE SYMBOL;GLAGOLITIC CAPITAL LETTER AZU"),
  (0x2C01, "GLAGOLITIC CAPITAL LETTER ", "BUKY;VEDE;GLAGOLI;DOBRO;YESTU;ZHIVETE;DZELO;ZEMLJA;IZHE;INITIAL IZHE;I"),
  (0x2C0C, "GLAGOLITIC CAPITAL LETTER ", "DJERVI;KAKO;LJUDIJE;MYSLITE;NASHI;ONU;POKOJI;RITSI;SLOVO;TVRIDO;UKU;FRITU"),
  (0x2C18, "GLAGOLITIC CAPITAL LETTER ", "HERU;OTU;PE;SHTA;TSI;CHRIVI;SHA;YERU;YERI;YATI;SPIDERY HA;YU;SMALL YUS"),
  (0x2C25, "GLAGOLITIC CAPITAL LETTER ", "SMALL YUS WITH TAIL;YO;IOTATED SMALL YUS;BIG YUS;IOTATED BIG YUS;FITA"),
  (0x2C2B, "GLAGOLITIC CAPITAL LETTER ", "IZHITSA;SHTAPIC;TROKUTASTI A;LATINATE MYSLITE;CAUDATE CHRIVI"),
  (0x2C30, "GLAGOLITIC SMALL LETTER ", "AZU;BUKY;VEDE;GLAGOLI;DOBRO;YESTU;ZHIVETE;DZELO;ZEMLJA;IZHE;INITIAL IZHE;I"),
  (0x2C3C, "GLAGOLITIC SMALL LETTER ", "DJERVI;KAKO;LJUDIJE;MYSLITE;NASHI;ONU;POKOJI;RITSI;SLOVO;TVRIDO;UKU;FRITU"),
  (0x2C48, "GLAGOLITIC SMALL LETTER ", "HERU;OTU;PE;SHTA;TSI;CHRIVI;SHA;YERU;YERI;YATI;SPIDERY HA;YU;SMALL YUS"),
  (0x2C55, "GLAGOLITIC SMALL LETTER ", "SMALL YUS WITH TAIL;YO;IOTATED SMALL YUS;BIG YUS;IOTATED BIG YUS;FITA"),
  (0x2C5B, "GLAGOLITIC SMALL LETTER ", "IZHITSA;SHTAPIC;TROKUTASTI A;LATINATE MYSLITE;CAUDATE CHRIVI"),
  (0x2C60, "LATIN ", "CAPITAL LETTER L WITH DOUBLE BAR;SMALL LETTER L WITH DOUBLE BAR"),
  (0x2C62, "LATIN CAPITAL LETTER ", "L WITH MIDDLE TILDE;P WITH STROKE;R WITH TAIL"),
  (0x2C65, "LATIN SMALL LETTER ", "A WITH STROKE;T WITH DIAGONAL STROKE"),
  (0x2C67, "LATIN ", "CAPITAL LETTER H WITH DESCENDER;SMALL LETTER H WITH DESCENDER;CAPITAL LETTER K WITH DESCENDER"),
  (0x2C6A, "LATIN ", "SMALL LETTER K WITH DESCENDER;CAPITAL LETTER Z WITH DESCENDER;SMALL LETTER Z WITH DESCENDER"),
  (0x2C6D, "LATIN CAPITAL LETTER ", "ALPHA;M WITH HOOK;TURNED A;TURNED ALPHA"),
  (0x2C71, "LATIN ", "SMALL LETTER V WITH RIGHT HOOK;CAPITAL LETTER W WITH HOOK;SMALL LETTER W WITH HOOK"),
  (0x2C74, "LATIN ", "SMALL LETTER V WITH CURL;CAPITAL LETTER HALF H"),
  (0x2C76, "LATIN SMALL LETTER ", "HALF H;TAILLESS PHI;E WITH NOTCH;TURNED R WITH TAIL;O WITH LOW RING INSIDE"),
  (0x2C7B, "", "LATIN LETTER SMALL CAPITAL TURNED E;LATIN SUBSCRIPT SMALL LETTER J;MODIFIER LETTER CAPITAL V"),
  (0x2C7E, "LATIN CAPITAL LETTER ", "S WITH SWASH TAIL;Z WITH SWASH TAIL"),
  (0x2C80, "COPTIC ", "CAPITAL LETTER ALFA;SMALL LETTER ALFA;CAPITAL LETTER VIDA;SMALL LETTER VIDA"),
  (0x2C84, "COPTIC ", "CAPITAL LETTER GAMMA;SMALL LETTER GAMMA;CAPITAL LETTER DALDA;SMALL LETTER DALDA"),
  (0x2C88, "COPTIC ", "CAPITAL LETTER EIE;SMALL LETTER EIE;CAPITAL LETTER SOU;SMALL LETTER SOU;CAPITAL LETTER ZATA"),
  (0x2C8D, "COPTIC ", "SMALL LETTER ZATA;CAPITAL LETTER HATE;SMALL LETTER HATE;CAPITAL LETTER THETHE"),
  (0x2C91, "COPTIC ", "SMALL LETTER THETHE;CAPITAL LETTER IAUDA;SMALL LETTER IAUDA;CAPITAL LETTER KAPA"),
  (0x2C95, "COPTIC ", "SMALL LETTER KAPA;CAPITAL LETTER LAULA;SMALL LETTER LAULA;CAPITAL LETTER MI;SMALL LETTER MI"),
  (0x2C9A, "COPTIC ", "CAPITAL LETTER NI;SMALL LETTER NI;CAPITAL LETTER KSI;SMALL LETTER KSI;CAPITAL LETTER O"),
  (0x2C9F, "COPTIC ", "SMALL LETTER O;CAPITAL LETTER PI;SMALL LETTER PI;CAPITAL LETTER RO;SMALL LETTER RO"),
  (0x2CA4, "COPTIC ", "CAPITAL LETTER SIMA;SMALL LETTER SIMA;CAPITAL LETTER TAU;SMALL LETTER TAU;CAPITAL LETTER UA"),
  (0x2CA9, "COPTIC ", "SMALL LETTER UA;CAPITAL LETTER FI;SMALL LETTER FI;CAPITAL LETTER KHI;SMALL LETTER KHI"),
  (0x2CAE, "COPTIC ", "CAPITAL LETTER PSI;SMALL LETTER PSI;CAPITAL LETTER OOU;SMALL LETTER OOU"),
  (0x2CB2, "COPTIC ", "CAPITAL LETTER DIALECT-P ALEF;SMALL LETTER DIALECT-P ALEF;CAPITAL LETTER OLD COPTIC AIN"),
  (0x2CB5, "COPTIC ", "SMALL LETTER OLD COPTIC AIN;CAPITAL LETTER CRYPTOGRAMMIC EIE;SMALL LETTER CRYPTOGRAMMIC EIE"),
  (0x2CB8, "COPTIC ", "CAPITAL LETTER DIALECT-P KAPA;SMALL LETTER DIALECT-P KAPA;CAPITAL LETTER DIALECT-P NI"),
  (0x2CBB, "COPTIC ", "SMALL LETTER DIALECT-P NI;CAPITAL LETTER CRYPTOGRAMMIC NI;SMALL LETTER CRYPTOGRAMMIC NI"),
  (0x2CBE, "COPTIC ", "CAPITAL LETTER OLD COPTIC OOU;SMALL LETTER OLD COPTIC OOU;CAPITAL LETTER SAMPI"),
  (0x2CC1, "COPTIC ", "SMALL LETTER SAMPI;CAPITAL LETTER CROSSED SHEI;SMALL LETTER CROSSED SHEI"),
  (0x2CC4, "COPTIC ", "CAPITAL LETTER OLD COPTIC SHEI;SMALL LETTER OLD COPTIC SHEI;CAPITAL LETTER OLD COPTIC ESH"),
  (0x2CC7, "COPTIC ", "SMALL LETTER OLD COPTIC ESH;CAPITAL LETTER AKHMIMIC KHEI;SMALL LETTER AKHMIMIC KHEI"),
  (0x2CCA, "COPTIC ", "CAPITAL LETTER DIALECT-P HORI;SMALL LETTER DIALECT-P HORI;CAPITAL LETTER OLD COPTIC HORI"),
  (0x2CCD, "COPTIC ", "SMALL LETTER OLD COPTIC HORI;CAPITAL LETTER OLD COPTIC HA;SMALL LETTER OLD COPTIC HA"),
  (0x2CD0, "COPTIC ", "CAPITAL LETTER L-SHAPED HA;SMALL LETTER L-SHAPED HA;CAPITAL LETTER OLD COPTIC HEI"),
  (0x2CD3, "COPTIC ", "SMALL LETTER OLD COPTIC HEI;CAPITAL LETTER OLD COPTIC HAT;SMALL LETTER OLD COPTIC HAT"),
  (0x2CD6, "COPTIC ", "CAPITAL LETTER OLD COPTIC GANGIA;SMALL LETTER OLD COPTIC GANGIA"),
  (0x2CD8, "COPTIC ", "CAPITAL LETTER OLD COPTIC DJA;SMALL LETTER OLD COPTIC DJA;CAPITAL LETTER OLD COPTIC SHIMA"),
  (0x2CDB, "COPTIC ", "SMALL LETTER OLD COPTIC SHIMA;CAPITAL LETTER OLD NUBIAN SHIMA;SMALL LETTER OLD NUBIAN SHIMA"),
  (0x2CDE, "COPTIC ", "CAPITAL LETTER OLD NUBIAN NGI;SMALL LETTER OLD NUBIAN NGI;CAPITAL LETTER OLD NUBIAN NYI"),
  (0x2CE1, "COPTIC ", "SMALL LETTER OLD NUBIAN NYI;CAPITAL LETTER OLD NUBIAN WAU;SMALL LETTER OLD NUBIAN WAU"),
  (0x2CE4, "COPTIC SYMBOL ", "KAI;MI RO;PI RO;STAUROS;TAU RO;KHI RO;SHIMA SIMA"),
  (0x2CEB, "COPTIC ", "CAPITAL LETTER CRYPTOGRAMMIC SHEI;SMALL LETTER CRYPTOGRAMMIC SHEI"),
  (0x2CED, "COPTIC ", "CAPITAL LETTER CRYPTOGRAMMIC GANGIA;SMALL LETTER CRYPTOGRAMMIC GANGIA"),
  (0x2CEF, "COPTIC COMBINING ", "NI ABOVE;SPIRITUS ASPER;SPIRITUS LENIS"),
  (0x2CF2, "COPTIC ", "CAPITAL LETTER BOHAIRIC KHEI;SMALL LETTER BOHAIRIC KHEI"),
  (0x2CF9, "COPTIC OLD NUBIAN ", "FULL STOP;DIRECT QUESTION MARK;INDIRECT QUESTION MARK;VERSE DIVIDER"),
  (0x2CFD, "COPTIC ", "FRACTION ONE HALF;FULL STOP;MORPHOLOGICAL DIVIDER"),
  (0x2D00, "GEORGIAN SMALL LETTER ", "AN;BAN;GAN;DON;EN;VIN;ZEN;TAN;IN;KAN;LAS;MAN;NAR;ON;PAR;ZHAR;RAE;SAN;TAR;UN"),
  (0x2D14, "GEORGIAN SMALL LETTER ", "PHAR;KHAR;GHAN;QAR;SHIN;CHIN;CAN;JIL;CIL;CHAR;XAN;JHAN;HAE;HE;HIE;WE;HAR;HOE"),
  (0x2D27, "GEORGIAN SMALL LETTER ", "YN"), (0x2D2D, "GEORGIAN SMALL LETTER ", "AEN"),
  (0x2D30, "TIFINAGH LETTER ", "YA;YAB;YABH;YAG;YAGHH;BERBER ACADEMY YAJ;YAJ;YAD;YADH;YADD;YADDH;YEY;YAF;YAK"),
  (0x2D3E, "TIFINAGH LETTER ", "TUAREG YAK;YAKHH;YAH;BERBER ACADEMY YAH;TUAREG YAH;YAHH;YAA;YAKH;TUAREG YAKH;YAQ"),
  (0x2D48, "TIFINAGH LETTER ", "TUAREG YAQ;YI;YAZH;AHAGGAR YAZH;TUAREG YAZH;YAL;YAM;YAN;TUAREG YAGN;TUAREG YANG;YAP"),
  (0x2D53, "TIFINAGH LETTER ", "YU;YAR;YARR;YAGH;TUAREG YAGH;AYER YAGH;YAS;YASS;YASH;YAT;YATH;YACH;YATT;YAV;YAW;YAY"),
  (0x2D63, "TIFINAGH LETTER ", "YAZ;TAWELLEMET YAZ;YAZZ;YE;YO"),
  (0x2D6F, "TIFINAGH ", "MODIFIER LETTER LABIALIZATION MARK;SEPARATOR MARK"), (0x2D7F, "TIFINAGH CONSONANT ", "JOINER"),
  (0x2D80, "ETHIOPIC SYLLABLE ", "LOA;MOA;ROA;SOA;SHOA;BOA;TOA;COA;NOA;NYOA;GLOTTAL OA;ZOA;DOA;DDOA;JOA;THOA;CHOA"),
  (0x2D91, "ETHIOPIC SYLLABLE ", "PHOA;POA;GGWA;GGWI;GGWEE;GGWE"),
  (0x2DA0, "ETHIOPIC SYLLABLE ", "SSA;SSU;SSI;SSAA;SSEE;SSE;SSO"),
  (0x2DA8, "ETHIOPIC SYLLABLE ", "CCA;CCU;CCI;CCAA;CCEE;CCE;CCO"),
  (0x2DB0, "ETHIOPIC SYLLABLE ", "ZZA;ZZU;ZZI;ZZAA;ZZEE;ZZE;ZZO"),
  (0x2DB8, "ETHIOPIC SYLLABLE ", "CCHA;CCHU;CCHI;CCHAA;CCHEE;CCHE;CCHO"),
  (0x2DC0, "ETHIOPIC SYLLABLE ", "QYA;QYU;QYI;QYAA;QYEE;QYE;QYO"),
  (0x2DC8, "ETHIOPIC SYLLABLE ", "KYA;KYU;KYI;KYAA;KYEE;KYE;KYO"),
  (0x2DD0, "ETHIOPIC SYLLABLE ", "XYA;XYU;XYI;XYAA;XYEE;XYE;XYO"),
  (0x2DD8, "ETHIOPIC SYLLABLE ", "GYA;GYU;GYI;GYAA;GYEE;GYE;GYO"),
  (0x2DE0, "COMBINING CYRILLIC LETTER ", "BE;VE;GHE;DE;ZHE;ZE;KA;EL;EM;EN;O;PE;ER;ES;TE;HA;TSE;CHE;SHA;SHCHA;FITA"),
  (0x2DF5, "COMBINING CYRILLIC LETTER ", "ES-TE;A;IE;DJERV;MONOGRAPH UK;YAT;YU;IOTIFIED A;LITTLE YUS;BIG YUS"),
  (0x2DFF, "COMBINING CYRILLIC LETTER IOTIFIED BIG ", "YUS"),
  (0x2E00, "RIGHT ANGLE ", "SUBSTITUTION MARKER;DOTTED SUBSTITUTION MARKER"),
  (0x2E02, "", "LEFT SUBSTITUTION BRACKET;RIGHT SUBSTITUTION BRACKET;LEFT DOTTED SUBSTITUTION BRACKET"),
  (0x2E05, "", "RIGHT DOTTED SUBSTITUTION BRACKET;RAISED INTERPOLATION MARKER;RAISED DOTTED INTERPOLATION MARKER"),
  (0x2E08, "", "DOTTED TRANSPOSITION MARKER;LEFT TRANSPOSITION BRACKET;RIGHT TRANSPOSITION BRACKET;RAISED SQUARE"),
  (0x2E0C, "", "LEFT RAISED OMISSION BRACKET;RIGHT RAISED OMISSION BRACKET;EDITORIAL CORONIS;PARAGRAPHOS"),
  (0x2E10, "", "FORKED PARAGRAPHOS;REVERSED FORKED PARAGRAPHOS;HYPODIASTOLE;DOTTED OBELOS;DOWNWARDS ANCORA"),
  (0x2E15, "", "UPWARDS ANCORA;DOTTED RIGHT-POINTING ANGLE;DOUBLE OBLIQUE HYPHEN;INVERTED INTERROBANG;PALM BRANCH")]

/-- The names from U+2E1A on. -/
def names2E1A : List NameRow := [
  (0x2E1A, "", "HYPHEN WITH DIAERESIS;TILDE WITH RING ABOVE;LEFT LOW PARAPHRASE BRACKET"),
  (0x2E1D, "", "RIGHT LOW PARAPHRASE BRACKET;TILDE WITH DOT ABOVE;TILDE WITH DOT BELOW;LEFT VERTICAL BAR WITH QUILL"),
  (0x2E21, "", "RIGHT VERTICAL BAR WITH QUILL;TOP LEFT HALF BRACKET;TOP RIGHT HALF BRACKET;BOTTOM LEFT HALF BRACKET"),
  (0x2E25, "", "BOTTOM RIGHT HALF BRACKET;LEFT SIDEWAYS U BRACKET;RIGHT SIDEWAYS U BRACKET;LEFT DOUBLE PARENTHESIS"),
  (0x2E29, "", "RIGHT DOUBLE PARENTHESIS;TWO DOTS OVER ONE DOT PUNCTUATION;ONE DOT OVER TWO DOTS PUNCTUATION"),
  (0x2E2C, "", "SQUARED FOUR DOT PUNCTUATION;FIVE DOT MARK;REVERSED QUESTION MARK;VERTICAL TILDE;RING POINT"),
  (0x2E31, "", "WORD SEPARATOR MIDDLE DOT;TURNED COMMA;RAISED DOT;RAISED COMMA;TURNED SEMICOLON"),
  (0x2E36, "", "DAGGER WITH LEFT GUARD;DAGGER WITH RIGHT GUARD;TURNED DAGGER;TOP HALF SECTION SIGN;TWO-EM DASH"),
  (0x2E3B, "", "THREE-EM DASH;STENOGRAPHIC FULL STOP;VERTICAL SIX DOTS;WIGGLY VERTICAL LINE;CAPITULUM;DOUBLE HYPHEN"),
  (0x2E41, "", "REVERSED COMMA;DOUBLE LOW-REVERSED-9 QUOTATION MARK;DASH WITH LEFT UPTURN;DOUBLE SUSPENSION MARK"),
  (0x2E45, "INVERTED LOW ", "KAVYKA;KAVYKA WITH KAVYKA ABOVE"),
  (0x2E47, "", "LOW KAVYKA;LOW KAVYKA WITH DOT;DOUBLE STACKED COMMA;DOTTED SOLIDUS;TRIPLE DAGGER;MEDIEVAL COMMA"),
  (0x2E4D, "", "PARAGRAPHUS MARK;PUNCTUS ELEVATUS MARK;CORNISH VERSE DIVIDER;CROSS PATTY WITH RIGHT CROSSBAR"),
  (0x2E51, "", "CROSS PATTY WITH LEFT CROSSBAR;TIRONIAN SIGN CAPITAL ET;MEDIEVAL EXCLAMATION MARK"),
  (0x2E54, "", "MEDIEVAL QUESTION MARK;LEFT SQUARE BRACKET WITH STROKE;RIGHT SQUARE BRACKET WITH STROKE"),
  (0x2E57, "", "LEFT SQUARE BRACKET WITH DOUBLE STROKE;RIGHT SQUARE BRACKET WITH DOUBLE STROKE"),
  (0x2E59, "TOP HALF ", "LEFT PARENTHESIS;RIGHT PARENTHESIS"),
  (0x2E5B, "", "BOTTOM HALF LEFT PARENTHESIS;BOTTOM HALF RIGHT PARENTHESIS;OBLIQUE HYPHEN"),
  (0x2E80, "CJK RADICAL ", "REPEAT;CLIFF;SECOND ONE;SECOND TWO;SECOND THREE;PERSON;BOX;TABLE;KNIFE ONE;KNIFE TWO"),
  (0x2E8A, "CJK RADICAL ", "DIVINATION;SEAL;SMALL ONE;SMALL TWO;LAME ONE;LAME TWO;LAME THREE;LAME FOUR;SNAKE;THREAD"),
  (0x2E94, "CJK RADICAL ", "SNOUT ONE;SNOUT TWO;HEART ONE;HEART TWO;HAND;RAP"),
  (0x2E9B, "CJK RADICAL ", "CHOKE;SUN;MOON;DEATH;MOTHER;CIVILIAN;WATER ONE;WATER TWO;FIRE;PAW ONE;PAW TWO"),
  (0x2EA6, "CJK RADICAL ", "SIMPLIFIED HALF TREE TRUNK;COW;DOG;JADE;BOLT OF CLOTH;EYE;SPIRIT ONE;SPIRIT TWO;BAMBOO"),
  (0x2EAF, "CJK RADICAL ", "SILK;C-SIMPLIFIED SILK;NET ONE;NET TWO;NET THREE;NET FOUR;MESH;SHEEP;RAM;EWE;OLD"),
  (0x2EBA, "CJK RADICAL ", "BRUSH ONE;BRUSH TWO;MEAT;MORTAR;GRASS ONE;GRASS TWO;GRASS THREE;TIGER;CLOTHES;WEST ONE"),
  (0x2EC4, "CJK RADICAL ", "WEST TWO;C-SIMPLIFIED SEE;SIMPLIFIED HORN;HORN;C-SIMPLIFIED SPEECH;C-SIMPLIFIED SHELL"),
  (0x2ECA, "CJK RADICAL ", "FOOT;C-SIMPLIFIED CART;SIMPLIFIED WALK;WALK ONE;WALK TWO;CITY;C-SIMPLIFIED GOLD"),
  (0x2ED1, "CJK RADICAL ", "LONG ONE;LONG TWO;C-SIMPLIFIED LONG;C-SIMPLIFIED GATE;MOUND ONE;MOUND TWO;RAIN;BLUE"),
  (0x2ED9, "CJK RADICAL C-SIMPLIFIED ", "TANNED LEATHER;LEAF;WIND;FLY"),
  (0x2EDD, "CJK RADICAL ", "EAT ONE;EAT TWO;EAT THREE;C-SIMPLIFIED EAT;HEAD;C-SIMPLIFIED HORSE;BONE;GHOST"),
  (0x2EE5, "CJK RADICAL C-SIMPLIFIED ", "FISH;BIRD;SALT"),
  (0x2EE8, "CJK RADICAL ", "SIMPLIFIED WHEAT;SIMPLIFIED YELLOW;C-SIMPLIFIED FROG;J-SIMPLIFIED EVEN"),
  (0x2EEC, "CJK RADICAL ", "C-SIMPLIFIED EVEN;J-SIMPLIFIED TOOTH;C-SIMPLIFIED TOOTH;J-SIMPLIFIED DRAGON"),
  (0x2EF0, "CJK RADICAL ", "C-SIMPLIFIED DRAGON;TURTLE;J-SIMPLIFIED TURTLE;C-SIMPLIFIED TURTLE"),
  (0x2F00, "KANGXI RADICAL ", "ONE;LINE;DOT;SLASH;SECOND;HOOK;TWO;LID;MAN;LEGS;ENTER;EIGHT;DOWN BOX;COVER;ICE;TABLE"),
  (0x2F10, "KANGXI RADICAL ", "OPEN BOX;KNIFE;POWER;WRAP;SPOON;RIGHT OPEN BOX;HIDING ENCLOSURE;TEN;DIVINATION;SEAL"),
  (0x2F1A, "KANGXI RADICAL ", "CLIFF;PRIVATE;AGAIN;MOUTH;ENCLOSURE;EARTH;SCHOLAR;GO;GO SLOWLY;EVENING;BIG;WOMAN"),
  (0x2F26, "KANGXI RADICAL ", "CHILD;ROOF;INCH;SMALL;LAME;CORPSE;SPROUT;MOUNTAIN;RIVER;WORK;ONESELF;TURBAN;DRY"),
  (0x2F33, "KANGXI RADICAL ", "SHORT THREAD;DOTTED CLIFF;LONG STRIDE;TWO HANDS;SHOOT;BOW;SNOUT;BRISTLE;STEP;HEART"),
  (0x2F3D, "KANGXI RADICAL ", "HALBERD;DOOR;HAND;BRANCH;RAP;SCRIPT;DIPPER;AXE;SQUARE;NOT;SUN;SAY;MOON;TREE;LACK"),
  (0x2F4C, "KANGXI RADICAL ", "STOP;DEATH;WEAPON;DO NOT;COMPARE;FUR;CLAN;STEAM;WATER;FIRE;CLAW;FATHER;DOUBLE X"),
  (0x2F59, "KANGXI RADICAL ", "HALF TREE TRUNK;SLICE;FANG;COW;DOG;PROFOUND;JADE;MELON;TILE;SWEET;LIFE;USE;FIELD"),
  (0x2F66, "KANGXI RADICAL ", "BOLT OF CLOTH;SICKNESS;DOTTED TENT;WHITE;SKIN;DISH;EYE;SPEAR;ARROW;STONE;SPIRIT"),
  (0x2F71, "KANGXI RADICAL ", "TRACK;GRAIN;CAVE;STAND;BAMBOO;RICE;SILK;JAR;NET;SHEEP;FEATHER;OLD;AND;PLOW;EAR;BRUSH"),
  (0x2F81, "KANGXI RADICAL ", "MEAT;MINISTER;SELF;ARRIVE;MORTAR;TONGUE;OPPOSE;BOAT;STOPPING;COLOR;GRASS;TIGER"),
  (0x2F8D, "KANGXI RADICAL ", "INSECT;BLOOD;WALK ENCLOSURE;CLOTHES;WEST;SEE;HORN;SPEECH;VALLEY;BEAN;PIG;BADGER"),
  (0x2F99, "KANGXI RADICAL ", "SHELL;RED;RUN;FOOT;BODY;CART;BITTER;MORNING;WALK;CITY;WINE;DISTINGUISH;VILLAGE;GOLD"),
  (0x2FA7, "KANGXI RADICAL ", "LONG;GATE;MOUND;SLAVE;SHORT TAILED BIRD;RAIN;BLUE;WRONG;FACE;LEATHER;TANNED LEATHER"),
  (0x2FB2, "KANGXI RADICAL ", "LEEK;SOUND;LEAF;WIND;FLY;EAT;HEAD;FRAGRANT;HORSE;BONE;TALL;HAIR;FIGHT"),
  (0x2FBF, "KANGXI RADICAL ", "SACRIFICIAL WINE;CAULDRON;GHOST;FISH;BIRD;SALT;DEER;WHEAT;HEMP;YELLOW;MILLET;BLACK"),
  (0x2FCB, "KANGXI RADICAL ", "EMBROIDERY;FROG;TRIPOD;DRUM;RAT;NOSE;EVEN;TOOTH;DRAGON;TURTLE;FLUTE"),
  (0x2FF0, "IDEOGRAPHIC DESCRIPTION CHARACTER ", "LEFT TO RIGHT;ABOVE TO BELOW;LEFT TO MIDDLE AND RIGHT"),
  (0x2FF3, "IDEOGRAPHIC DESCRIPTION CHARACTER ", "ABOVE TO MIDDLE AND BELOW;FULL SURROUND"),
  (0x2FF5, "IDEOGRAPHIC DESCRIPTION CHARACTER SURROUND FROM ", "ABOVE;BELOW;LEFT;UPPER LEFT;UPPER RIGHT;LOWER LEFT"),
  (0x2FFB, "IDEOGRAPHIC DESCRIPTION CHARACTER ", "OVERLAID"), (0x3000, "IDEOGRAPHIC ", "SPACE;COMMA;FULL STOP"),
  (0x3003, "", "DITTO MARK;JAPANESE INDUSTRIAL STANDARD SYMBOL"),
  (0x3005, "IDEOGRAPHIC ", "ITERATION MARK;CLOSING MARK;NUMBER ZERO"),
  (0x3008, "", "LEFT ANGLE BRACKET;RIGHT ANGLE BRACKET;LEFT DOUBLE ANGLE BRACKET;RIGHT DOUBLE ANGLE BRACKET"),
  (0x300C, "", "LEFT CORNER BRACKET;RIGHT CORNER BRACKET;LEFT WHITE CORNER BRACKET;RIGHT WHITE CORNER BRACKET"),
  (0x3010, "", "LEFT BLACK LENTICULAR BRACKET;RIGHT BLACK LENTICULAR BRACKET;POSTAL MARK;GETA MARK"),
  (0x3014, "", "LEFT TORTOISE SHELL BRACKET;RIGHT TORTOISE SHELL BRACKET;LEFT WHITE LENTICULAR BRACKET"),
  (0x3017, "", "RIGHT WHITE LENTICULAR BRACKET;LEFT WHITE TORTOISE SHELL BRACKET;RIGHT WHITE TORTOISE SHELL BRACKET"),
  (0x301A, "", "LEFT WHITE SQUARE BRACKET;RIGHT WHITE SQUARE BRACKET;WAVE DASH;REVERSED DOUBLE PRIME QUOTATION MARK"),
  (0x301E, "", "DOUBLE PRIME QUOTATION MARK;LOW DOUBLE PRIME QUOTATION MARK;POSTAL MARK FACE"),
  (0x3021, "HANGZHOU NUMERAL ", "ONE;TWO;THREE;FOUR;FIVE;SIX;SEVEN;EIGHT;NINE"),
  (0x302A, "IDEOGRAPHIC ", "LEVEL TONE MARK;RISING TONE MARK;DEPARTING TONE MARK;ENTERING TONE MARK"),
  (0x302E, "", "HANGUL SINGLE DOT TONE MARK;HANGUL DOUBLE DOT TONE MARK;WAVY DASH"),
  (0x3031, "VERTICAL KANA REPEAT ", "MARK;WITH VOICED SOUND MARK;MARK UPPER HALF;WITH VOICED SOUND MARK UPPER HALF"),
  (0x3035, "", "VERTICAL KANA REPEAT MARK LOWER HALF;CIRCLED POSTAL MARK"),
  (0x3037, "IDEOGRAPHIC TELEGRAPH LINE FEED SEPARATOR ", "SYMBOL"), (0x3038, "HANGZHOU NUMERAL ", "TEN;TWENTY;THIRTY"),
  (0x303B, "", "VERTICAL IDEOGRAPHIC ITERATION MARK;MASU MARK;PART ALTERNATION MARK"),
  (0x303E, "IDEOGRAPHIC ", "VARIATION INDICATOR;HALF FILL SPACE"),
  (0x3041, "HIRAGANA LETTER ", "SMALL A;A;SMALL I;I;SMALL U;U;SMALL E;E;SMALL O;O;KA;GA;KI;GI;KU;GU;KE;GE;KO;GO;SA"),
  (0x3056, "HIRAGANA LETTER ", "ZA;SI;ZI;SU;ZU;SE;ZE;SO;ZO;TA;DA;TI;DI;SMALL TU;TU;DU;TE;DE;TO;DO;NA;NI;NU;NE;NO;HA"),
  (0x3070, "HIRAGANA LETTER ", "BA;PA;HI;BI;PI;HU;BU;PU;HE;BE;PE;HO;BO;PO;MA;MI;MU;ME;MO;SMALL YA;YA;SMALL YU;YU"),
  (0x3087, "HIRAGANA LETTER ", "SMALL YO;YO;RA;RI;RU;RE;RO;SMALL WA;WA;WI;WE;WO;N;VU;SMALL KA;SMALL KE"),
  (0x3099, "COMBINING KATAKANA-HIRAGANA ", "VOICED SOUND MARK;SEMI-VOICED SOUND MARK"),
  (0x309B, "KATAKANA-HIRAGANA ", "VOICED SOUND MARK;SEMI-VOICED SOUND MARK"),
  (0x309D, "HIRAGANA ", "ITERATION MARK;VOICED ITERATION MARK;DIGRAPH YORI"),
  (0x30A0, "KATAKANA-HIRAGANA DOUBLE ", "HYPHEN"),
  (0x30A1, "KATAKANA LETTER ", "SMALL A;A;SMALL I;I;SMALL U;U;SMALL E;E;SMALL O;O;KA;GA;KI;GI;KU;GU;KE;GE;KO;GO;SA"),
  (0x30B6, "KATAKANA LETTER ", "ZA;SI;ZI;SU;ZU;SE;ZE;SO;ZO;TA;DA;TI;DI;SMALL TU;TU;DU;TE;DE;TO;DO;NA;NI;NU;NE;NO;HA"),
  (0x30D0, "KATAKANA LETTER ", "BA;PA;HI;BI;PI;HU;BU;PU;HE;BE;PE;HO;BO;PO;MA;MI;MU;ME;MO;SMALL YA;YA;SMALL YU;YU"),
  (0x30E7, "KATAKANA LETTER ", "SMALL YO;YO;RA;RI;RU;RE;RO;SMALL WA;WA;WI;WE;WO;N;VU;SMALL KA;SMALL KE;VA;VI;VE;VO"),
  (0x30FB, "", "KATAKANA MIDDLE DOT;KATAKANA-HIRAGANA PROLONGED SOUND MARK"),
  (0x30FD, "KATAKANA ", "ITERATION MARK;VOICED ITERATION MARK;DIGRAPH KOTO"),
  (0x3105, "BOPOMOFO LETTER ", "B;P;M;F;D;T;N;L;G;K;H;J;Q;X;ZH;CH;SH;R;Z;C;S;A;O;E;EH;AI;EI;AU;OU;AN;EN;ANG;ENG;ER"),
  (0x3127, "BOPOMOFO LETTER ", "I;U;IU;V;NG;GN;IH;O WITH DOT ABOVE;NN"),
  (0x3131, "HANGUL LETTER ", "KIYEOK;SSANGKIYEOK;KIYEOK-SIOS;NIEUN;NIEUN-CIEUC;NIEUN-HIEUH;TIKEUT;SSANGTIKEUT;RIEUL"),
  (0x313A, "HANGUL LETTER RIEUL-", "KIYEOK;MIEUM;PIEUP;SIOS;THIEUTH;PHIEUPH;HIEUH"),
  (0x3141, "HANGUL LETTER ", "MIEUM;PIEUP;SSANGPIEUP;PIEUP-SIOS;SIOS;SSANGSIOS;IEUNG;CIEUC;SSANGCIEUC;CHIEUCH"),
  (0x314B, "HANGUL LETTER ", "KHIEUKH;THIEUTH;PHIEUPH;HIEUH;A;AE;YA;YAE;EO;E;YEO;YE;O;WA;WAE;OE;YO;U;WEO;WE;WI;YU"),
  (0x3161, "HANGUL ", "LETTER EU;LETTER YI;LETTER I;FILLER;LETTER SSANGNIEUN"),
  (0x3166, "HANGUL LETTER NIEUN-", "TIKEUT;SIOS;PANSIOS"),
  (0x3169, "HANGUL LETTER RIEUL-", "KIYEOK-SIOS;TIKEUT;PIEUP-SIOS;PANSIOS;YEORINHIEUH"),
  (0x316E, "HANGUL LETTER ", "MIEUM-PIEUP;MIEUM-SIOS;MIEUM-PANSIOS;KAPYEOUNMIEUM"),
  (0x3172, "HANGUL LETTER PIEUP-", "KIYEOK;TIKEUT;SIOS-KIYEOK;SIOS-TIKEUT;CIEUC;THIEUTH"),
  (0x3178, "HANGUL LETTER ", "KAPYEOUNPIEUP;KAPYEOUNSSANGPIEUP;SIOS-KIYEOK;SIOS-NIEUN;SIOS-TIKEUT;SIOS-PIEUP")]

/-- The names from U+317E on. -/
def names317E : List NameRow := [
  (0x317E, "HANGUL LETTER ", "SIOS-CIEUC;PANSIOS;SSANGIEUNG;YESIEUNG;YESIEUNG-SIOS;YESIEUNG-PANSIOS;KAPYEOUNPHIEUPH"),
  (0x3185, "HANGUL LETTER ", "SSANGHIEUH;YEORINHIEUH;YO-YA;YO-YAE;YO-I;YU-YEO;YU-YE;YU-I;ARAEA;ARAEAE"),
  (0x3190, "IDEOGRAPHIC ANNOTATION ", "LINKING MARK;REVERSE MARK;ONE MARK;TWO MARK;THREE MARK;FOUR MARK;TOP MARK"),
  (0x3197, "IDEOGRAPHIC ANNOTATION ", "MIDDLE MARK;BOTTOM MARK;FIRST MARK;SECOND MARK;THIRD MARK;FOURTH MARK"),
  (0x319D, "IDEOGRAPHIC ANNOTATION ", "HEAVEN MARK;EARTH MARK;MAN MARK"),
  (0x31A0, "BOPOMOFO LETTER ", "BU;ZI;JI;GU;EE;ENN;OO;ONN;IR;ANN;INN;UNN;IM;NGG;AINN;AUNN;AM;OM;ONG;INNN"),
  (0x31B4, "BOPOMOFO FINAL LETTER ", "P;T;K;H"),
  (0x31B8, "BOPOMOFO ", "LETTER GH;LETTER LH;LETTER ZY;FINAL LETTER G;LETTER GW;LETTER KW;LETTER OE;LETTER AH"),
  (0x31C0, "CJK STROKE ", "T;WG;XG;BXG;SW;HZZ;HZG;HP;HZWG;SZWG;HZT;HZZP;HPWG;HZW;HZZZ;N;H;S;P;SP;D;HZ;HG;SZ;SWZ;ST"),
  (0x31DA, "CJK STROKE ", "SG;PD;PZ;TN;SZZ;SWG;HXWG;HZZZG;PG;Q"),
  (0x31F0, "KATAKANA LETTER SMALL ", "KU;SI;SU;TO;NU;HA;HI;HU;HE;HO;MU;RA;RI;RU;RE;RO"),
  (0x3200, "PARENTHESIZED HANGUL ", "KIYEOK;NIEUN;TIKEUT;RIEUL;MIEUM;PIEUP;SIOS;IEUNG;CIEUC;CHIEUCH;KHIEUKH;THIEUTH"),
  (0x320C, "PARENTHESIZED HANGUL ", "PHIEUPH;HIEUH;KIYEOK A;NIEUN A;TIKEUT A;RIEUL A;MIEUM A;PIEUP A;SIOS A;IEUNG A"),
  (0x3216, "PARENTHESIZED HANGUL ", "CIEUC A;CHIEUCH A;KHIEUKH A;THIEUTH A;PHIEUPH A;HIEUH A;CIEUC U"),
  (0x321D, "PARENTHESIZED KOREAN CHARACTER ", "OJEON;O HU"),
  (0x3220, "PARENTHESIZED IDEOGRAPH ", "ONE;TWO;THREE;FOUR;FIVE;SIX;SEVEN;EIGHT;NINE;TEN;MOON;FIRE;WATER;WOOD;METAL"),
  (0x322F, "PARENTHESIZED IDEOGRAPH ", "EARTH;SUN;STOCK;HAVE;SOCIETY;NAME;SPECIAL;FINANCIAL;CONGRATULATION;LABOR"),
  (0x3239, "PARENTHESIZED IDEOGRAPH ", "REPRESENT;CALL;STUDY;SUPERVISE;ENTERPRISE;RESOURCE;ALLIANCE;FESTIVAL;REST"),
  (0x3242, "PARENTHESIZED IDEOGRAPH ", "SELF;REACH"),
  (0x3244, "CIRCLED IDEOGRAPH ", "QUESTION;KINDERGARTEN;SCHOOL;KOTO"),
  (0x3248, "CIRCLED NUMBER ", "TEN ON BLACK SQUARE;TWENTY ON BLACK SQUARE;THIRTY ON BLACK SQUARE"),
  (0x324B, "CIRCLED NUMBER ", "FORTY ON BLACK SQUARE;FIFTY ON BLACK SQUARE;SIXTY ON BLACK SQUARE"),
  (0x324E, "", "CIRCLED NUMBER SEVENTY ON BLACK SQUARE;CIRCLED NUMBER EIGHTY ON BLACK SQUARE;PARTNERSHIP SIGN"),
  (0x3251, "CIRCLED NUMBER TWENTY ", "ONE;TWO;THREE;FOUR;FIVE;SIX;SEVEN;EIGHT;NINE"),
  (0x325A, "CIRCLED NUMBER ", "THIRTY;THIRTY ONE;THIRTY TWO;THIRTY THREE;THIRTY FOUR;THIRTY FIVE"),
  (0x3260, "CIRCLED HANGUL ", "KIYEOK;NIEUN;TIKEUT;RIEUL;MIEUM;PIEUP;SIOS;IEUNG;CIEUC;CHIEUCH;KHIEUKH;THIEUTH"),
  (0x326C, "CIRCLED HANGUL ", "PHIEUPH;HIEUH;KIYEOK A;NIEUN A;TIKEUT A;RIEUL A;MIEUM A;PIEUP A;SIOS A;IEUNG A"),
  (0x3276, "CIRCLED HANGUL ", "CIEUC A;CHIEUCH A;KHIEUKH A;THIEUTH A;PHIEUPH A;HIEUH A"),
  (0x327C, "CIRCLED KOREAN CHARACTER ", "CHAMKO;JUEUI"), (0x327E, "", "CIRCLED HANGUL IEUNG U;KOREAN STANDARD SYMBOL"),
  (0x3280, "CIRCLED IDEOGRAPH ", "ONE;TWO;THREE;FOUR;FIVE;SIX;SEVEN;EIGHT;NINE;TEN;MOON;FIRE;WATER;WOOD;METAL;EARTH"),
  (0x3290, "CIRCLED IDEOGRAPH ", "SUN;STOCK;HAVE;SOCIETY;NAME;SPECIAL;FINANCIAL;CONGRATULATION;LABOR;SECRET;MALE"),
  (0x329B, "CIRCLED IDEOGRAPH ", "FEMALE;SUITABLE;EXCELLENT;PRINT;ATTENTION;ITEM;REST;COPY;CORRECT;HIGH;CENTRE;LOW"),
  (0x32A7, "CIRCLED IDEOGRAPH ", "LEFT;RIGHT;MEDICINE;RELIGION;STUDY;SUPERVISE;ENTERPRISE;RESOURCE;ALLIANCE;NIGHT"),
  (0x32B1, "CIRCLED NUMBER ", "THIRTY SIX;THIRTY SEVEN;THIRTY EIGHT;THIRTY NINE;FORTY"),
  (0x32B6, "CIRCLED NUMBER FORTY ", "ONE;TWO;THREE;FOUR;FIVE;SIX;SEVEN;EIGHT;NINE"),
  (0x32BF, "CIRCLED NUMBER ", "FIFTY"),
  (0x32C0, "IDEOGRAPHIC TELEGRAPH SYMBOL FOR ", "JANUARY;FEBRUARY;MARCH;APRIL;MAY;JUNE;JULY;AUGUST;SEPTEMBER"),
  (0x32C9, "IDEOGRAPHIC TELEGRAPH SYMBOL FOR ", "OCTOBER;NOVEMBER;DECEMBER"),
  (0x32CC, "", "SQUARE HG;SQUARE ERG;SQUARE EV;LIMITED LIABILITY SIGN"),
  (0x32D0, "CIRCLED KATAKANA ", "A;I;U;E;O;KA;KI;KU;KE;KO;SA;SI;SU;SE;SO;TA;TI;TU;TE;TO;NA;NI;NU;NE;NO;HA;HI;HU;HE"),
  (0x32ED, "CIRCLED KATAKANA ", "HO;MA;MI;MU;ME;MO;YA;YU;YO;RA;RI;RU;RE;RO;WA;WI;WE;WO"),
  (0x32FF, "SQUARE ", "ERA NAME REIWA;APAATO;ARUHUA;ANPEA;AARU;ININGU;INTI;UON;ESUKUUDO;EEKAA;ONSU;OOMU;KAIRI"),
  (0x330C, "SQUARE ", "KARATTO;KARORII;GARON;GANMA;GIGA;GINII;KYURII;GIRUDAA;KIRO;KIROGURAMU;KIROMEETORU;KIROWATTO"),
  (0x3318, "SQUARE ", "GURAMU;GURAMUTON;KURUZEIRO;KUROONE;KEESU;KORUNA;KOOPO;SAIKURU;SANTIIMU;SIRINGU;SENTI;SENTO"),
  (0x3324, "SQUARE ", "DAASU;DESI;DORU;TON;NANO;NOTTO;HAITU;PAASENTO;PAATU;BAARERU;PIASUTORU;PIKURU;PIKO;BIRU"),
  (0x3332, "SQUARE ", "HUARADDO;HUIITO;BUSSYERU;HURAN;HEKUTAARU;PESO;PENIHI;HERUTU;PENSU;PEEZI;BEETA;POINTO;BORUTO"),
  (0x333F, "SQUARE ", "HON;PONDO;HOORU;HOON;MAIKURO;MAIRU;MAHHA;MARUKU;MANSYON;MIKURON;MIRI;MIRIBAARU;MEGA;MEGATON"),
  (0x334D, "SQUARE ", "MEETORU;YAADO;YAARU;YUAN;RITTORU;RIRA;RUPII;RUUBURU;REMU;RENTOGEN;WATTO"),
  (0x3358, "IDEOGRAPHIC TELEGRAPH SYMBOL FOR HOUR ", "ZERO;ONE;TWO;THREE;FOUR;FIVE;SIX;SEVEN;EIGHT;NINE;TEN;ELEVEN"),
  (0x3364, "IDEOGRAPHIC TELEGRAPH SYMBOL FOR HOUR ", "TWELVE;THIRTEEN;FOURTEEN;FIFTEEN;SIXTEEN;SEVENTEEN;EIGHTEEN"),
  (0x336B, "IDEOGRAPHIC TELEGRAPH SYMBOL FOR HOUR ", "NINETEEN;TWENTY"),
  (0x336D, "IDEOGRAPHIC TELEGRAPH SYMBOL FOR HOUR TWENTY-", "ONE;TWO;THREE;FOUR"),
  (0x3371, "SQUARE ", "HPA;DA;AU;BAR;OV;PC;DM;DM SQUARED;DM CUBED;IU"),
  (0x337B, "SQUARE ERA NAME ", "HEISEI;SYOUWA;TAISYOU;MEIZI"),
  (0x337F, "SQUARE ", "CORPORATION;PA AMPS;NA;MU A;MA;KA;KB;MB;GB;CAL;KCAL;PF;NF;MU F;MU G;MG;KG;HZ;KHZ;MHZ;GHZ;THZ"),
  (0x3395, "SQUARE ", "MU L;ML;DL;KL;FM;NM;MU M;MM;CM;KM;MM SQUARED;CM SQUARED;M SQUARED;KM SQUARED;MM CUBED"),
  (0x33A4, "SQUARE ", "CM CUBED;M CUBED;KM CUBED;M OVER S;M OVER S SQUARED;PA;KPA;MPA;GPA;RAD;RAD OVER S"),
  (0x33AF, "SQUARE ", "RAD OVER S SQUARED;PS;NS;MU S;MS;PV;NV;MU V;MV;KV;MV MEGA;PW;NW;MU W;MW;KW;MW MEGA;K OHM"),
  (0x33C1, "SQUARE ", "M OHM;AM;BQ;CC;CD;C OVER KG;CO;DB;GY;HA;HP;IN;KK;KM CAPITAL;KT;LM;LN;LOG;LX;MB SMALL;MIL;MOL"),
  (0x33D7, "SQUARE ", "PH;PM;PPM;PR;SR;SV;WB;V OVER M;A OVER M"),
  (0x33E0, "IDEOGRAPHIC TELEGRAPH SYMBOL FOR DAY ", "ONE;TWO;THREE;FOUR;FIVE;SIX;SEVEN;EIGHT;NINE;TEN;ELEVEN;TWELVE"),
  (0x33EC, "IDEOGRAPHIC TELEGRAPH SYMBOL FOR DAY ", "THIRTEEN;FOURTEEN;FIFTEEN;SIXTEEN;SEVENTEEN;EIGHTEEN;NINETEEN"),
  (0x33F3, "IDEOGRAPHIC TELEGRAPH SYMBOL FOR DAY ", "TWENTY"),
  (0x33F4, "IDEOGRAPHIC TELEGRAPH SYMBOL FOR DAY TWENTY-", "ONE;TWO;THREE;FOUR;FIVE;SIX;SEVEN;EIGHT;NINE"),
  (0x33FD, "IDEOGRAPHIC TELEGRAPH SYMBOL FOR DAY ", "THIRTY;THIRTY-ONE"), (0x33FF, "SQUARE ", "GAL"),
  (0x4DC0, "HEXAGRAM FOR THE ", "CREATIVE HEAVEN;RECEPTIVE EARTH"),
  (0x4DC2, "HEXAGRAM FOR ", "DIFFICULTY AT THE BEGINNING;YOUTHFUL FOLLY;WAITING;CONFLICT;THE ARMY;HOLDING TOGETHER"),
  (0x4DC8, "HEXAGRAM FOR ", "SMALL TAMING;TREADING;PEACE;STANDSTILL;FELLOWSHIP;GREAT POSSESSION;MODESTY;ENTHUSIASM"),
  (0x4DD0, "HEXAGRAM FOR ", "FOLLOWING;WORK ON THE DECAYED;APPROACH;CONTEMPLATION;BITING THROUGH;GRACE"),
  (0x4DD6, "HEXAGRAM FOR ", "SPLITTING APART;RETURN;INNOCENCE;GREAT TAMING;MOUTH CORNERS;GREAT PREPONDERANCE"),
  (0x4DDC, "HEXAGRAM FOR ", "THE ABYSMAL WATER;THE CLINGING FIRE;INFLUENCE;DURATION;RETREAT;GREAT POWER;PROGRESS"),
  (0x4DE3, "HEXAGRAM FOR ", "DARKENING OF THE LIGHT;THE FAMILY;OPPOSITION;OBSTRUCTION;DELIVERANCE;DECREASE;INCREASE"),
  (0x4DEA, "HEXAGRAM FOR ", "BREAKTHROUGH;COMING TO MEET;GATHERING TOGETHER;PUSHING UPWARD;OPPRESSION;THE WELL"),
  (0x4DF0, "HEXAGRAM FOR ", "REVOLUTION;THE CAULDRON;THE AROUSING THUNDER;THE KEEPING STILL MOUNTAIN;DEVELOPMENT"),
  (0x4DF5, "HEXAGRAM FOR ", "THE MARRYING MAIDEN;ABUNDANCE;THE WANDERER;THE GENTLE WIND;THE JOYOUS LAKE;DISPERSION"),
  (0x4DFB, "HEXAGRAM FOR ", "LIMITATION;INNER TRUTH;SMALL PREPONDERANCE;AFTER COMPLETION;BEFORE COMPLETION")]

/-- The rows of this part. -/
def symbolsNames : List (List NameRow) := [
  names2000, names21D5, names237B, names254C, names26C4, names283C, names29BE, names2ACB, names2BCD,
  names2E1A, names317E]

end SourceAtlas.Unicode
