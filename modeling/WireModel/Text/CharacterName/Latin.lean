import WireModel.Text.CharacterName.Family

/-!
# Names of Latin

The names of letters, signs and marks of the Latin script, of punctuation in ASCII, and of marks
that combine with letters.
-/

namespace WireModel.Text.CharacterName

def latin : List Family := [
  ⟨[";COMBINING ;COMBINING DOUBLE "], ["ACUTE ACCENT;BREVE;GRAVE ACCENT;LOW LINE;MACRON;TILDE"]⟩,
  ⟨[""],
    ["AMPERSAND;APOSTROPHE;ASTERISK;BROKEN BAR;CENT SIGN;COMMA;COMMERCIAL AT;COPYRIGHT SIGN",
     "CURRENCY SIGN;CYRILLIC LETTER SMALL CAPITAL EL;DEGREE SIGN;DIVISION SIGN;DOLLAR SIGN",
     "DOUBLE ACUTE ACCENT;EQUALS SIGN;FEMININE ORDINAL INDICATOR;FULL STOP;GREATER-THAN SIGN",
     "HYPHEN-MINUS;INVERTED QUESTION MARK;LEFT CURLY BRACKET;LEFT PARENTHESIS",
     "LEFT SQUARE BRACKET;LEFT-POINTING DOUBLE ANGLE QUOTATION MARK;LESS-THAN SIGN",
     "MASCULINE ORDINAL INDICATOR;MICRO SIGN;MIDDLE DOT;MODIFIER BREVE WITH INVERTED BREVE",
     "MULTIPLICATION SIGN;NO-BREAK SPACE;NOT SIGN;NUMBER SIGN;PERCENT SIGN;PILCROW SIGN",
     "PLUS SIGN;PLUS-MINUS SIGN;POUND SIGN;QUESTION MARK;QUOTATION MARK;REGISTERED SIGN",
     "REVERSE SOLIDUS;RIGHT-POINTING DOUBLE ANGLE QUOTATION MARK;SECTION SIGN;SEMICOLON",
     "SMALL TILDE;SOFT HYPHEN;SOLIDUS;SPACE;VERTICAL LINE;YEN SIGN"]⟩,
  ⟨[";COMBINING "], ["CARON;CEDILLA;CIRCUMFLEX ACCENT;DIAERESIS;DOT ABOVE;OGONEK;RING ABOVE"]⟩,
  ⟨[";MODIFIER LETTER RAISED "], ["COLON;EXCLAMATION MARK;INVERTED EXCLAMATION MARK"]⟩,
  ⟨["COMBINING "],
    ["ACUTE ACCENT BELOW;ACUTE TONE MARK;ACUTE-GRAVE-ACUTE;ACUTE-MACRON;ALMOST EQUAL TO ABOVE",
     "ALMOST EQUAL TO BELOW;ANNUITY SYMBOL;ANTICLOCKWISE ARROW ABOVE",
     "ANTICLOCKWISE RING OVERLAY;ASTERISK ABOVE;ASTERISK BELOW;BREVE-MACRON;BRIDGE ABOVE",
     "BRIDGE BELOW;CANDRABINDU;CARON BELOW;CIRCUMFLEX ACCENT BELOW;CLOCKWISE ARROW ABOVE",
     "CLOCKWISE RING OVERLAY;COMMA ABOVE;COMMA ABOVE RIGHT;COMMA BELOW;CONJOINING MACRON",
     "CONJOINING MACRON BELOW;CYRILLIC TITLO LEFT HALF;CYRILLIC TITLO RIGHT HALF;DELETION MARK",
     "DIAERESIS BELOW;DIAERESIS-RING;DOT ABOVE LEFT;DOT ABOVE RIGHT;DOT BELOW;DOT BELOW LEFT",
     "DOTTED ACUTE ACCENT;DOTTED GRAVE ACCENT;DOUBLED CIRCUMFLEX ACCENT;DOWN TACK BELOW",
     "DOWNWARDS ARROW;EQUALS SIGN BELOW;FERMATA;FOUR DOTS ABOVE;GRAPHEME JOINER",
     "GRAVE ACCENT BELOW;GRAVE TONE MARK;GRAVE-ACUTE-GRAVE;GRAVE-MACRON;GREEK DIALYTIKA TONOS",
     "GREEK KORONIS;GREEK PERISPOMENI;GREEK YPOGEGRAMMENI;HOMOTHETIC ABOVE;HOOK ABOVE;HORN",
     "INFINITY;IS BELOW;KAVYKA ABOVE LEFT;KAVYKA ABOVE RIGHT;LEFTWARDS ARROW OVERLAY",
     "LEFTWARDS HARPOON WITH BARB DOWNWARDS;LIGHT CENTRALIZATION STROKE BELOW",
     "LONG DOUBLE SOLIDUS OVERLAY;LONG SOLIDUS OVERLAY;LONG STROKE OVERLAY",
     "LONG VERTICAL LINE OVERLAY;MACRON-ACUTE;MACRON-BREVE;MACRON-GRAVE;MINUS SIGN BELOW",
     "NOT TILDE ABOVE;NUMBER SIGN ABOVE;OGONEK ABOVE;PALATALIZED HOOK BELOW",
     "RETROFLEX HOOK BELOW;REVERSE SOLIDUS OVERLAY;REVERSED COMMA ABOVE",
     "RIGHTWARDS HARPOON WITH BARB DOWNWARDS;RING OVERLAY;SEAGULL BELOW;SHORT SOLIDUS OVERLAY",
     "SHORT STROKE OVERLAY;SHORT VERTICAL LINE OVERLAY;SNAKE BELOW;SQUARE BELOW",
     "SQUARE BRACKETS ABOVE;STRONG CENTRALIZATION STROKE BELOW;SUSPENSION MARK",
     "THREE DOTS ABOVE;TILDE BELOW;TILDE LEFT HALF BELOW;TILDE OVERLAY;TILDE RIGHT HALF BELOW",
     "TRIPLE ACUTE ACCENT;TRIPLE DOT;TRIPLE UNDERDOT;TURNED COMMA ABOVE;UP TACK ABOVE",
     "UP TACK BELOW;UPWARDS ARROW BELOW;UR ABOVE;US ABOVE;VERTICAL TILDE;WIDE BRIDGE ABOVE",
     "WIDE INVERTED BRIDGE BELOW;WIGGLY LINE BELOW;X ABOVE;X BELOW;X-X BELOW;ZIGZAG ABOVE",
     "ZIGZAG BELOW"]⟩,
  ⟨["COMBINING ;COMBINING DOUBLE "],
    ["BREVE BELOW;OPEN MARK BELOW;OVERLINE;PLUS SIGN ABOVE;PLUS SIGN BELOW;RING BELOW",
     "VERTICAL LINE ABOVE;VERTICAL LINE BELOW"]⟩,
  ⟨["COMBINING DOUBLE "],
    ["CIRCUMFLEX ABOVE;INVERTED BREVE;INVERTED BREVE BELOW;MACRON BELOW;PARENTHESES ABOVE",
     "RIGHTWARDS ARROW BELOW;TILDE LEFT HALF;TILDE RIGHT HALF;VERTICAL STROKE OVERLAY"]⟩,
  ⟨["COMBINING ENCLOSING "],
    ["CIRCLE;CIRCLE BACKSLASH;DIAMOND;KEYCAP;SCREEN;SQUARE;UPWARD POINTING TRIANGLE"]⟩,
  ⟨["COMBINING INVERTED "],
    ["BREVE;BREVE BELOW;BRIDGE BELOW;DOUBLE ARCH ABOVE;DOUBLE ARCH BELOW"]⟩,
  ⟨["COMBINING LATIN LETTER "],
    ["SMALL CAPITAL G;SMALL CAPITAL L;SMALL CAPITAL M;SMALL CAPITAL N;SMALL CAPITAL R"]⟩,
  ⟨["COMBINING LATIN SMALL LETTER "],
    ["A;A WITH DIAERESIS;AE;ALPHA;AO;AV;B;BETA;C;C CEDILLA;D;E;ESH;ETH;F",
     "FLATTENED OPEN A ABOVE;G;H;I;INSULAR D;INSULAR G;INSULAR R;INSULAR T;K;L",
     "L WITH DOUBLE MIDDLE TILDE;LONG S;M;N;O;O WITH DIAERESIS",
     "O WITH LIGHT CENTRALIZATION STROKE;P;R;R BELOW;R ROTUNDA;S;SCHWA;T;TURNED W BELOW;U",
     "U WITH DIAERESIS;U WITH LIGHT CENTRALIZATION STROKE;V;W;W BELOW;X;Z"]⟩,
  ⟨["COMBINING LEFT "],
    ["ANGLE ABOVE;ANGLE BELOW;ARROWHEAD ABOVE;ARROWHEAD BELOW;PARENTHESIS ABOVE LEFT",
     "PARENTHESIS BELOW LEFT;RIGHT ARROW ABOVE;RIGHT ARROW BELOW"]⟩,
  ⟨["COMBINING LEFT ;COMBINING RIGHT "],
    ["ARROW ABOVE;ARROW BELOW;HALF RING ABOVE;HALF RING BELOW;HARPOON ABOVE;TACK BELOW"]⟩,
  ⟨["COMBINING LIGATURE ;COMBINING MACRON "],
    ["LEFT HALF;LEFT HALF BELOW;RIGHT HALF;RIGHT HALF BELOW"]⟩,
  ⟨["COMBINING MACRON "], ["BELOW"]⟩,
  ⟨["COMBINING PARENTHESES "], ["ABOVE;BELOW;OVERLAY"]⟩,
  ⟨["COMBINING RIGHT "], ["PARENTHESIS ABOVE RIGHT;PARENTHESIS BELOW RIGHT"]⟩,
  ⟨["COMBINING RIGHT ARROWHEAD "],
    ["ABOVE;AND DOWN ARROWHEAD BELOW;AND UP ARROWHEAD BELOW;BELOW"]⟩,
  ⟨["DIGIT "], ["EIGHT;FIVE;FOUR;NINE;SEVEN;SIX;ZERO"]⟩,
  ⟨["DIGIT ;SUPERSCRIPT "], ["ONE;THREE;TWO"]⟩,
  ⟨["GREEK LETTER SMALL CAPITAL "], ["GAMMA;LAMDA;OMEGA;PI;PSI;RHO"]⟩,
  ⟨["GREEK SUBSCRIPT "],
    ["SMALL LETTER BETA;SMALL LETTER CHI;SMALL LETTER GAMMA;SMALL LETTER PHI;SMALL LETTER RHO"]⟩,
  ⟨["LATIN "],
    ["CAPITAL LIGATURE IJ;CAPITAL LIGATURE OE;SMALL CAPITAL LETTER I WITH STROKE",
     "SMALL CAPITAL LETTER U WITH STROKE"]⟩,
  ⟨["LATIN CAPITAL LETTER ;LATIN SMALL LETTER ;MODIFIER LETTER SMALL "],
    ["A;AE;ALPHA;B;BETA;C;CHI;D;E;ENG;ESH;ETH;EZH;F;G;GAMMA;H;HENG;IOTA;J;J WITH CROSSED-TAIL",
     "K;L;M;M WITH HOOK;O;OPEN E;OPEN O;P;Q;R;S;SCHWA;SCRIPT G;T;U;U BAR;UPSILON;V;V WITH HOOK",
     "W;X;Y;Z"]⟩,
  ⟨["LATIN CAPITAL LETTER ;LATIN SMALL LETTER "],
    ["AA;AE WITH ACUTE;AE WITH MACRON;ANGLICANA W;AO;AU;AV;AV WITH HORIZONTAL BAR;AY;BROKEN L",
     "CLOSED INSULAR G;CON;CUATRILLO;CUATRILLO WITH COMMA;DZ;DZ WITH CARON;EGYPTOLOGICAL AIN",
     "EGYPTOLOGICAL ALEF;ET;EZH REVERSED;EZH WITH CARON;F WITH DOT ABOVE;F WITH HOOK",
     "F WITH STROKE;GLOTTAL A;GLOTTAL I;GLOTTAL STOP;GLOTTAL U;HALF H;I;IS;J WITH CIRCUMFLEX",
     "J WITH STROKE;LJ;M WITH ACUTE;M WITH DOT ABOVE;M WITH DOT BELOW;MIDDLE SCOTS S",
     "MIDDLE-WELSH LL;MIDDLE-WELSH V;N;NJ;OI;OLD POLISH O;OMEGA;OO;OU;Q WITH DIAGONAL STROKE",
     "Q WITH STROKE THROUGH DESCENDER;R ROTUNDA;RUM ROTUNDA;SALTILLO;SHARP S;SIGMOID S;THORN",
     "THORN WITH STROKE;THORN WITH STROKE THROUGH DESCENDER;TONE FIVE;TONE SIX;TONE TWO",
     "TRESILLO;TZ;V WITH DIAGONAL STROKE;V WITH DOT BELOW;V WITH TILDE;VEND;VISIGOTHIC Z",
     "VOLAPUK AE;VOLAPUK OE;VOLAPUK UE;VY;X WITH DIAERESIS;X WITH DOT ABOVE;YOGH"]⟩,
  ⟨["LATIN CAPITAL LETTER "],
    ["AFRICAN D;B WITH DOT ABOVE;B WITH DOT BELOW;B WITH FLOURISH;B WITH HOOK",
     "B WITH LINE BELOW;B WITH STROKE;B WITH TOPBAR;HWAIR;P WITH ACUTE;P WITH DOT ABOVE",
     "P WITH FLOURISH;P WITH HOOK;P WITH SQUIRREL TAIL;P WITH STROKE",
     "P WITH STROKE THROUGH DESCENDER;REVERSED C WITH DOT;REVERSED E;REVERSED HALF H",
     "REVERSED OPEN E;SMALL CAPITAL I;SMALL Q WITH HOOK TAIL;W WITH ACUTE;W WITH CIRCUMFLEX",
     "W WITH DIAERESIS;W WITH DOT ABOVE;W WITH DOT BELOW;W WITH GRAVE;W WITH HOOK;WYNN"]⟩,
  ⟨["LATIN CAPITAL LETTER A WITH ;LATIN SMALL LETTER A WITH "],
    ["ACUTE;BREVE;BREVE AND ACUTE;BREVE AND DOT BELOW;BREVE AND GRAVE;BREVE AND HOOK ABOVE",
     "BREVE AND TILDE;CARON;CIRCUMFLEX;DIAERESIS;DIAERESIS AND MACRON;DOT ABOVE",
     "DOT ABOVE AND MACRON;DOT BELOW;DOUBLE GRAVE;GRAVE;HOOK ABOVE;INVERTED BREVE;MACRON",
     "OGONEK;RING ABOVE;RING ABOVE AND ACUTE;RING BELOW;STROKE;TILDE"]⟩,
  ⟨["LATIN CAPITAL LETTER A WITH CIRCUMFLEX ;LATIN CAPITAL LETTER O WITH CIRCUMFLEX ",
    "LATIN SMALL LETTER A WITH CIRCUMFLEX ;LATIN SMALL LETTER O WITH CIRCUMFLEX "],
    ["AND ACUTE;AND DOT BELOW;AND GRAVE;AND HOOK ABOVE;AND TILDE"]⟩,
  ⟨["LATIN CAPITAL LETTER C WITH ;LATIN SMALL LETTER C WITH "],
    ["ACUTE;BAR;CARON;CEDILLA;CEDILLA AND ACUTE;CIRCUMFLEX;DOT ABOVE;HOOK;PALATAL HOOK;STROKE"]⟩,
  ⟨["LATIN CAPITAL LETTER D WITH ;LATIN SMALL LETTER D WITH "],
    ["CARON;CEDILLA;CIRCUMFLEX BELOW;DOT ABOVE;DOT BELOW;HOOK;LINE BELOW;SHORT STROKE OVERLAY",
     "STROKE;TOPBAR"]⟩,
  ⟨["LATIN CAPITAL LETTER D WITH "], ["SMALL LETTER Z;SMALL LETTER Z WITH CARON"]⟩,
  ⟨["LATIN CAPITAL LETTER E WITH ;LATIN CAPITAL LETTER I WITH ;LATIN SMALL LETTER E WITH ",
    "LATIN SMALL LETTER I WITH "],
    ["ACUTE;BREVE;CARON;CIRCUMFLEX;DIAERESIS;DOT BELOW;DOUBLE GRAVE;GRAVE;HOOK ABOVE",
     "INVERTED BREVE;MACRON;OGONEK;STROKE;TILDE;TILDE BELOW"]⟩,
  ⟨["LATIN CAPITAL LETTER E WITH ;LATIN SMALL LETTER E WITH "],
    ["CEDILLA;CEDILLA AND BREVE;DOT ABOVE;MACRON AND ACUTE;MACRON AND GRAVE"]⟩,
  ⟨["LATIN CAPITAL LETTER E WITH CIRCUMFLEX ;LATIN SMALL LETTER E WITH CIRCUMFLEX "],
    ["AND ACUTE;AND DOT BELOW;AND GRAVE;AND HOOK ABOVE;AND TILDE;BELOW"]⟩,
  ⟨["LATIN CAPITAL LETTER G WITH ;LATIN SMALL LETTER G WITH "],
    ["ACUTE;BREVE;CARON;CEDILLA;CIRCUMFLEX;DOT ABOVE;HOOK;MACRON;OBLIQUE STROKE;STROKE"]⟩,
  ⟨["LATIN CAPITAL LETTER H WITH ;LATIN SMALL LETTER H WITH "],
    ["BREVE BELOW;CARON;CEDILLA;CIRCUMFLEX;DESCENDER;DIAERESIS;DOT ABOVE;DOT BELOW;HOOK;STROKE"]⟩,
  ⟨["LATIN CAPITAL LETTER I WITH ;LATIN SMALL LETTER I WITH "], ["DIAERESIS AND ACUTE"]⟩,
  ⟨["LATIN CAPITAL LETTER I WITH "], ["DOT ABOVE"]⟩,
  ⟨["LATIN CAPITAL LETTER INSULAR ;LATIN SMALL LETTER INSULAR "], ["D;F;G;R;S;T"]⟩,
  ⟨["LATIN CAPITAL LETTER K WITH ;LATIN SMALL LETTER K WITH "],
    ["ACUTE;CARON;CEDILLA;DESCENDER;DIAGONAL STROKE;DOT BELOW;HOOK;LINE BELOW;OBLIQUE STROKE",
     "STROKE;STROKE AND DIAGONAL STROKE"]⟩,
  ⟨["LATIN CAPITAL LETTER L WITH ;LATIN SMALL LETTER L WITH "],
    ["ACUTE;BAR;BELT;CARON;CEDILLA;CIRCUMFLEX BELOW;DOT BELOW;DOT BELOW AND MACRON;DOUBLE BAR",
     "HIGH STROKE;LINE BELOW;MIDDLE DOT;MIDDLE TILDE;STROKE"]⟩,
  ⟨["LATIN CAPITAL LETTER L WITH ;LATIN CAPITAL LETTER N WITH "], ["SMALL LETTER J"]⟩,
  ⟨["LATIN CAPITAL LETTER N WITH ;LATIN SMALL LETTER N WITH "],
    ["ACUTE;CARON;CEDILLA;CIRCUMFLEX BELOW;DESCENDER;DOT ABOVE;DOT BELOW;GRAVE;LEFT HOOK",
     "LINE BELOW;LONG RIGHT LEG;OBLIQUE STROKE;TILDE"]⟩,
  ⟨["LATIN CAPITAL LETTER O WITH ;LATIN CAPITAL LETTER U WITH ;LATIN SMALL LETTER O WITH ",
    "LATIN SMALL LETTER U WITH "],
    ["ACUTE;BREVE;CARON;CIRCUMFLEX;DIAERESIS;DOT BELOW;DOUBLE ACUTE;DOUBLE GRAVE;GRAVE",
     "HOOK ABOVE;HORN;HORN AND ACUTE;HORN AND DOT BELOW;HORN AND GRAVE;HORN AND HOOK ABOVE",
     "HORN AND TILDE;INVERTED BREVE;MACRON;OGONEK;STROKE;TILDE;TILDE AND ACUTE"]⟩,
  ⟨["LATIN CAPITAL LETTER O WITH ;LATIN SMALL LETTER O WITH "],
    ["DIAERESIS AND MACRON;DOT ABOVE;DOT ABOVE AND MACRON;LONG STROKE OVERLAY;LOOP",
     "MACRON AND ACUTE;MACRON AND GRAVE;OGONEK AND MACRON;STROKE AND ACUTE;TILDE AND DIAERESIS",
     "TILDE AND MACRON"]⟩,
  ⟨["LATIN CAPITAL LETTER O WITH "], ["MIDDLE TILDE"]⟩,
  ⟨["LATIN CAPITAL LETTER R WITH ;LATIN SMALL LETTER R WITH "],
    ["ACUTE;CARON;CEDILLA;DOT ABOVE;DOT BELOW;DOT BELOW AND MACRON;DOUBLE GRAVE;INVERTED BREVE",
     "LINE BELOW;OBLIQUE STROKE;STROKE;TAIL"]⟩,
  ⟨["LATIN CAPITAL LETTER S WITH ;LATIN SMALL LETTER S WITH "],
    ["ACUTE;ACUTE AND DOT ABOVE;CARON;CARON AND DOT ABOVE;CEDILLA;CIRCUMFLEX;COMMA BELOW",
     "DOT ABOVE;DOT BELOW;DOT BELOW AND DOT ABOVE;HOOK;OBLIQUE STROKE;SHORT STROKE OVERLAY",
     "SWASH TAIL"]⟩,
  ⟨["LATIN CAPITAL LETTER T WITH ;LATIN SMALL LETTER T WITH "],
    ["CARON;CEDILLA;CIRCUMFLEX BELOW;COMMA BELOW;DIAGONAL STROKE;DOT ABOVE;DOT BELOW;HOOK",
     "LINE BELOW;RETROFLEX HOOK;STROKE"]⟩,
  ⟨["LATIN CAPITAL LETTER TURNED "], ["A;ALPHA;H;INSULAR G;K;L;M;T;V"]⟩,
  ⟨["LATIN CAPITAL LETTER U WITH ;LATIN SMALL LETTER U WITH "],
    ["CIRCUMFLEX BELOW;MACRON AND DIAERESIS;RING ABOVE;TILDE BELOW"]⟩,
  ⟨["LATIN CAPITAL LETTER U WITH DIAERESIS ;LATIN SMALL LETTER U WITH DIAERESIS "],
    ["AND ACUTE;AND CARON;AND GRAVE;AND MACRON;BELOW"]⟩,
  ⟨["LATIN CAPITAL LETTER Y WITH ;LATIN SMALL LETTER Y WITH "],
    ["ACUTE;CIRCUMFLEX;DIAERESIS;DOT ABOVE;DOT BELOW;GRAVE;HOOK;HOOK ABOVE;LOOP;MACRON;STROKE",
     "TILDE"]⟩,
  ⟨["LATIN CAPITAL LETTER Z WITH ;LATIN SMALL LETTER Z WITH "],
    ["ACUTE;CARON;CIRCUMFLEX;DESCENDER;DOT ABOVE;DOT BELOW;HOOK;LINE BELOW;PALATAL HOOK;STROKE",
     "SWASH TAIL"]⟩,
  ⟨["LATIN EPIGRAPHIC LETTER "],
    ["ARCHAIC M;I LONGA;INVERTED M;REVERSED F;REVERSED P;SIDEWAYS I"]⟩,
  ⟨["LATIN LETTER "],
    ["AIN;BIDENTAL PERCUSSIVE;BILABIAL PERCUSSIVE;INVERTED GLOTTAL STOP",
     "INVERTED GLOTTAL STOP WITH CURL;INVERTED GLOTTAL STOP WITH STROKE",
     "PHARYNGEAL VOICED FRICATIVE;RETROFLEX CLICK;REVERSED ESH LOOP;SINOLOGICAL DOT",
     "STRETCHED C;STRETCHED C WITH CURL;TWO WITH STROKE;VOICED LARYNGEAL SPIRANT;WYNN;YR"]⟩,
  ⟨["LATIN LETTER ;MODIFIER LETTER "],
    ["ALVEOLAR CLICK;BILABIAL CLICK;DENTAL CLICK;GLOTTAL STOP;GLOTTAL STOP WITH STROKE",
     "LATERAL CLICK;RETROFLEX CLICK WITH RETROFLEX HOOK;REVERSED GLOTTAL STOP WITH STROKE"]⟩,
  ⟨["LATIN LETTER SMALL CAPITAL ;MODIFIER LETTER CAPITAL "],
    ["A;AE;B;BARRED B;C;D;E;F;G;H;I;J;K;L;M;N;O;OU;P;Q;R;REVERSED N;T;U;V;W"]⟩,
  ⟨["LATIN LETTER SMALL CAPITAL "],
    ["ETH;EZH;G WITH HOOK;INVERTED R;L WITH BELT;L WITH STROKE;OE;OPEN O;R WITH RIGHT LEG",
     "REVERSED R;RUM;S;TURNED E;TURNED G;TURNED K;TURNED M;TURNED R;Y;Z"]⟩,
  ⟨["LATIN SMALL LETTER "],
    ["A REVERSED-SCHWA;ALPHA WITH RETROFLEX HOOK;BARRED ALPHA;BARRED E;BASELINE ESH",
     "BLACKLETTER E;BLACKLETTER O;BLACKLETTER O WITH STROKE;CHI WITH LOW LEFT SERIF",
     "CHI WITH LOW RIGHT RING;CLOSED OPEN E;DB DIGRAPH;DEZH DIGRAPH WITH PALATAL HOOK",
     "DEZH DIGRAPH WITH RETROFLEX HOOK;DOTLESS I;DOTLESS J;DOUBLE R;DOUBLE R WITH CROSSED-TAIL",
     "DOUBLE THORN;DOUBLE WYNN;DUM;ENG WITH CROSSED-TAIL;ENG WITH PALATAL HOOK;ESH WITH CURL",
     "ESH WITH DOUBLE BAR;ESH WITH DOUBLE BAR AND CURL;ESH WITH PALATAL HOOK",
     "ESH WITH RETROFLEX HOOK;EZH WITH CURL;EZH WITH PALATAL HOOK;EZH WITH RETROFLEX HOOK",
     "EZH WITH TAIL;F WITH MIDDLE TILDE;F WITH PALATAL HOOK;FENG DIGRAPH WITH TRILL;HV",
     "INVERTED ALPHA;INVERTED OE;IOTA WITH STROKE;IOTIFIED E;J WITH CARON;KRA",
     "LAMBDA WITH STROKE;LENIS F;LONG S;LONG S WITH DIAGONAL STROKE;LONG S WITH DOT ABOVE",
     "LONG S WITH HIGH STROKE;LUM;M WITH CROSSED-TAIL;M WITH MIDDLE TILDE;M WITH PALATAL HOOK",
     "MUM;N PRECEDED BY APOSTROPHE;NUM;OPEN E WITH RETROFLEX HOOK;OPEN O WITH RETROFLEX HOOK",
     "OPEN O WITH STROKE;OPEN OE;Q WITH HOOK;Q WITH HOOK TAIL;QP DIGRAPH;R WITHOUT HANDLE;RUM",
     "SAKHA YAT;SCHWA WITH HOOK;SCHWA WITH RETROFLEX HOOK;SCRIPT G WITH CROSSED-TAIL;SCRIPT R",
     "SCRIPT R WITH RING;SQUAT REVERSED ESH;STIRRUP R;TAILLESS PHI",
     "TESH DIGRAPH WITH PALATAL HOOK;TESH DIGRAPH WITH RETROFLEX HOOK;TH WITH STRIKETHROUGH",
     "TUM;U BAR WITH SHORT RIGHT LEG;UE;UI;UM;UO;UPSILON WITH STROKE;V WITH CURL",
     "V WITH PALATAL HOOK;X WITH LONG LEFT LEG;X WITH LONG LEFT LEG AND LOW RIGHT RING",
     "X WITH LONG LEFT LEG WITH SERIF;X WITH LOW RIGHT RING;X WITH PALATAL HOOK"]⟩,
  ⟨["LATIN SMALL LETTER ;MODIFIER LETTER SMALL "],
    ["BARRED O;BOTTOM HALF O;CLOSED OMEGA;CLOSED REVERSED OPEN E;DELTA;DEZH DIGRAPH",
     "DOTLESS J WITH STROKE;DOTLESS J WITH STROKE AND HOOK;DZ DIGRAPH;DZ DIGRAPH WITH CURL",
     "DZ DIGRAPH WITH RETROFLEX HOOK;FENG DIGRAPH;HENG WITH HOOK;LEZH;LEZH WITH RETROFLEX HOOK",
     "LS DIGRAPH;LZ DIGRAPH;PHI;RAMS HORN;TC DIGRAPH WITH CURL;TESH DIGRAPH;TOP HALF O",
     "TS DIGRAPH;TS DIGRAPH WITH RETROFLEX HOOK;V WITH RIGHT HOOK"]⟩,
  ⟨["LATIN SMALL LETTER A WITH "], ["RETROFLEX HOOK;RIGHT HALF RING"]⟩,
  ⟨["LATIN SMALL LETTER B WITH "],
    ["DOT ABOVE;DOT BELOW;FLOURISH;HOOK;LINE BELOW;MIDDLE TILDE;PALATAL HOOK;STROKE;TOPBAR"]⟩,
  ⟨["LATIN SMALL LETTER C WITH "], ["CURL;RETROFLEX HOOK"]⟩,
  ⟨["LATIN SMALL LETTER D WITH ;LATIN SMALL LETTER S WITH ;LATIN SMALL LETTER T WITH "],
    ["CURL;MIDDLE TILDE;PALATAL HOOK"]⟩,
  ⟨["LATIN SMALL LETTER D WITH "], ["HOOK AND TAIL;TAIL"]⟩,
  ⟨["LATIN SMALL LETTER E WITH "], ["FLOURISH;NOTCH;RETROFLEX HOOK"]⟩,
  ⟨["LATIN SMALL LETTER G WITH ;LATIN SMALL LETTER K WITH "], ["PALATAL HOOK"]⟩,
  ⟨["LATIN SMALL LETTER H WITH "], ["LINE BELOW;PALATAL HOOK"]⟩,
  ⟨["LATIN SMALL LETTER I WITH "], ["RETROFLEX HOOK;STROKE AND RETROFLEX HOOK"]⟩,
  ⟨["LATIN SMALL LETTER L WITH "],
    ["BELT AND PALATAL HOOK;CURL;DOUBLE MIDDLE TILDE;FISHHOOK;INVERTED LAZY S;MIDDLE RING",
     "PALATAL HOOK;RETROFLEX HOOK;RETROFLEX HOOK AND BELT"]⟩,
  ⟨["LATIN SMALL LETTER N WITH "], ["CROSSED-TAIL;PALATAL HOOK"]⟩,
  ⟨["LATIN SMALL LETTER N WITH ;LATIN SMALL LETTER Z WITH "],
    ["CURL;MIDDLE TILDE;RETROFLEX HOOK"]⟩,
  ⟨["LATIN SMALL LETTER O WITH "], ["LOW RING INSIDE;RETROFLEX HOOK"]⟩,
  ⟨["LATIN SMALL LETTER P WITH "],
    ["ACUTE;DOT ABOVE;FLOURISH;HOOK;MIDDLE TILDE;PALATAL HOOK;SQUIRREL TAIL;STROKE",
     "STROKE THROUGH DESCENDER"]⟩,
  ⟨["LATIN SMALL LETTER R WITH "],
    ["CROSSED-TAIL;FISHHOOK;FISHHOOK AND MIDDLE TILDE;FISHHOOK AND PALATAL HOOK;LONG LEG",
     "MIDDLE TILDE;PALATAL HOOK"]⟩,
  ⟨["LATIN SMALL LETTER REVERSED "],
    ["C WITH DOT;E;ENG;HALF H;K;OPEN E;OPEN E WITH HOOK;OPEN E WITH RETROFLEX HOOK",
     "R WITH FISHHOOK;SCRIPT G"]⟩,
  ⟨["LATIN SMALL LETTER SIDEWAYS "], ["DIAERESIZED U;O;O WITH STROKE;OPEN O;TURNED M;U"]⟩,
  ⟨["LATIN SMALL LETTER T WITH "], ["DIAERESIS;HOOK AND RETROFLEX HOOK"]⟩,
  ⟨["LATIN SMALL LETTER TURNED ;MODIFIER LETTER SMALL TURNED "],
    ["A;AE;ALPHA;H;I;M;M WITH LONG LEG;OPEN E;R;R WITH HOOK;R WITH LONG LEG",
     "R WITH LONG LEG AND RETROFLEX HOOK;V;W;Y;Y WITH BELT"]⟩,
  ⟨["LATIN SMALL LETTER TURNED "],
    ["DELTA;E;G;H WITH FISHHOOK;H WITH FISHHOOK AND TAIL;INSULAR G;K;L;O OPEN-O",
     "O OPEN-O WITH STROKE;OE;OE WITH HORIZONTAL STROKE;OE WITH STROKE;R WITH MIDDLE TILDE",
     "R WITH PALATAL HOOK;R WITH TAIL;T;T WITH CURL;UI"]⟩,
  ⟨["LATIN SMALL LETTER U WITH "], ["LEFT HOOK;RETROFLEX HOOK;SHORT RIGHT LEG"]⟩,
  ⟨["LATIN SMALL LETTER W WITH "],
    ["ACUTE;CIRCUMFLEX;DIAERESIS;DOT ABOVE;DOT BELOW;GRAVE;HOOK;RING ABOVE"]⟩,
  ⟨["LATIN SMALL LETTER Y WITH "], ["RING ABOVE;SHORT RIGHT LEG"]⟩,
  ⟨["LATIN SMALL LIGATURE "], ["FF;FFI;FFL;FI;FL;IJ;LONG S T;OE;ST"]⟩,
  ⟨["LATIN SUBSCRIPT "],
    ["SMALL LETTER I;SMALL LETTER J;SMALL LETTER R;SMALL LETTER U;SMALL LETTER V"]⟩,
  ⟨["MODIFIER LETTER ;MODIFIER LETTER LOW "],
    ["ACUTE ACCENT;CIRCUMFLEX ACCENT;DOWN ARROWHEAD;GRAVE ACCENT;LEFT ARROWHEAD;MACRON",
     "RIGHT ARROWHEAD;UP ARROWHEAD;VERTICAL LINE"]⟩,
  ⟨["MODIFIER LETTER "],
    ["APOSTROPHE;BEGIN HIGH TONE;BEGIN LOW TONE;CENTRED LEFT HALF RING;CENTRED RIGHT HALF RING",
     "COLON;CROSS ACCENT;CYRILLIC EN;DOT HORIZONTAL BAR;DOT SLASH;DOT VERTICAL BAR",
     "DOUBLE APOSTROPHE;DOUBLE PRIME;DOWN TACK;END HIGH TONE;END LOW TONE",
     "HALF TRIANGULAR COLON;LEFT HALF RING;LEFT TACK;LOWER RIGHT CORNER ANGLE",
     "MID DOTTED LEFT-STEM TONE BAR;MID DOTTED TONE BAR;MID LEFT-STEM TONE BAR;MID TONE BAR",
     "MIDDLE DOUBLE ACUTE ACCENT;MIDDLE DOUBLE GRAVE ACCENT;MIDDLE GRAVE ACCENT;MINUS SIGN",
     "OPEN SHELF;PLUS SIGN;PRIME;REVERSED COMMA;REVERSED GLOTTAL STOP;RHOTIC HOOK",
     "RIGHT HALF RING;RIGHT TACK;SHELF;SHORT EQUALS SIGN;STRESS AND HIGH TONE",
     "STRESS AND LOW TONE;SUPERSCRIPT HALF TRIANGULAR COLON;SUPERSCRIPT TRIANGULAR COLON",
     "TRIANGULAR COLON;TURNED COMMA;UNASPIRATED;UP TACK;US;VOICING;YANG DEPARTING TONE MARK",
     "YIN DEPARTING TONE MARK"]⟩,
  ⟨["MODIFIER LETTER ;MODIFIER LETTER EXTRA-"],
    ["HIGH DOTTED LEFT-STEM TONE BAR;HIGH DOTTED TONE BAR;HIGH LEFT-STEM TONE BAR",
     "HIGH TONE BAR"]⟩,
  ⟨["MODIFIER LETTER CAPITAL ;MODIFIER LETTER SMALL "], ["H WITH STROKE;REVERSED E"]⟩,
  ⟨["MODIFIER LETTER CHINESE TONE "],
    ["YANG PING;YANG QU;YANG RU;YANG SHANG;YIN PING;YIN QU;YIN RU;YIN SHANG"]⟩,
  ⟨["MODIFIER LETTER EXTRA-"],
    ["LOW DOTTED LEFT-STEM TONE BAR;LOW DOTTED TONE BAR;LOW LEFT-STEM TONE BAR;LOW TONE BAR"]⟩,
  ⟨["MODIFIER LETTER LOW "],
    ["DOTTED LEFT-STEM TONE BAR;DOTTED TONE BAR;INVERTED EXCLAMATION MARK;LEFT ARROW",
     "LEFT-STEM TONE BAR;RING;TILDE;TONE BAR"]⟩,
  ⟨["MODIFIER LETTER RAISED "], ["DOWN ARROW;UP ARROW"]⟩,
  ⟨["MODIFIER LETTER SMALL "],
    ["AIN;B WITH HOOK;C WITH CURL;D WITH HOOK;D WITH HOOK AND TAIL;D WITH TAIL;G WITH HOOK",
     "GREEK GAMMA;GREEK PHI;H WITH HOOK;I WITH STROKE;L WITH BELT;L WITH INVERTED LAZY S",
     "L WITH MIDDLE TILDE;L WITH PALATAL HOOK;L WITH RETROFLEX HOOK",
     "L WITH RETROFLEX HOOK AND BELT;LIGATURE OE;N WITH LEFT HOOK;N WITH RETROFLEX HOOK",
     "O WITH STROKE;R WITH FISHHOOK;R WITH TAIL;REVERSED GLOTTAL STOP;REVERSED OPEN E",
     "S WITH CURL;S WITH HOOK;SIDEWAYS U;T WITH PALATAL HOOK;T WITH RETROFLEX HOOK;THETA",
     "U WITH LEFT HOOK;Z WITH CURL;Z WITH RETROFLEX HOOK"]⟩,
  ⟨["MODIFIER LETTER SMALL CAPITAL "],
    ["AA;B;G;G WITH HOOK;H;I;I WITH STROKE;INVERTED R;L;L WITH BELT;N;OE;R;U;Y"]⟩,
  ⟨["RIGHT "], ["CURLY BRACKET;PARENTHESIS;SQUARE BRACKET"]⟩,
  ⟨["VULGAR FRACTION "], ["ONE HALF;ONE QUARTER;THREE QUARTERS"]⟩]

end WireModel.Text.CharacterName
