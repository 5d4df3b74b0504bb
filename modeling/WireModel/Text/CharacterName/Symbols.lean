import WireModel.Text.CharacterName.Family

/-!
# Names of symbols

The names of punctuation, arrows, mathematical and technical symbols, and control characters.
-/

namespace WireModel.Text.CharacterName

def symbols : List Family := [
  ⟨[""],
    ["AC CURRENT;ACCOUNT OF;ACTIVATE ARABIC FORM SHAPING;ACTIVATE SYMMETRIC SWAPPING",
     "ACUTE ANGLE;ADDRESSED TO THE SUBJECT;ADI SHAKTI;ADMETOS;AIRPLANE;AKTIESELSKAB",
     "ALARM CLOCK;ALEF SYMBOL;ALEMBIC;ALL AROUND-PROFILE;ALL EQUAL TO",
     "ALTERNATE ONE-WAY LEFT WAY TRAFFIC;ALTERNATIVE KEY SYMBOL;AMALGAMATION OR COPRODUCT",
     "ANCHOR;AND WITH DOT;ANGLE;ANGLE WITH S INSIDE;ANGSTROM SIGN;ANKH;APOLLON",
     "APPROACHES THE LIMIT;AQUARIUS;ARC;ARIES;ARROWHEAD-SHAPED POINTER;ASCENDING NODE",
     "ASSERTION;ASTERISM;ASTRAEA;ASTRONOMICAL SYMBOL FOR URANUS;ATOM SYMBOL;AUSTRAL SIGN",
     "BACK-TILTED SHADOWED WHITE RIGHTWARDS ARROW;BACKSLANTED SOUTH ARROW WITH HOOKED TAIL",
     "BACKSLANTED SOUTH ARROW WITH HORIZONTAL TAIL;BASEBALL;BEAMED EIGHTH NOTES",
     "BEAMED SIXTEENTH NOTES;BECAUSE;BELL SYMBOL;BENZENE RING;BENZENE RING WITH CIRCLE",
     "BET SYMBOL;BETWEEN;BIG REVERSE SOLIDUS;BIG SOLIDUS;BIOHAZARD SIGN;BITCOIN SIGN",
     "BLANK SYMBOL;BOWTIE WITH LEFT HALF BLACK;BOWTIE WITH RIGHT HALF BLACK",
     "BRAILLE PATTERN BLANK;BROKEN CIRCLE WITH NORTHWEST ARROW;BULLET OPERATOR;BULLSEYE",
     "CADA UNA;CADUCEUS;CANCEL TAG;CANCER;CAPITULUM;CAPRICORN;CAR SLIDING;CARE OF;CARET",
     "CARET INSERTION POINT;CASTLE;CAUTION SIGN;CEDI SIGN;CENTRE LINE SYMBOL;CERES;CHAINS",
     "CHARACTER TIE;CHECKER BOARD;CHECKER BOARD FILL;CHI RHO;CHIRON;CHURCH",
     "CIRCLE DIVIDED BY HORIZONTAL BAR AND TOP HALF DIVIDED BY VERTICAL BAR",
     "CIRCULATION FUNCTION;CLEAR SCREEN SYMBOL;CLOSE UP;CLOUD;COFFIN;COLON EQUALS;COLON SIGN",
     "COMET;COMMERCIAL MINUS SIGN;COMPLEMENT;COMPOSITION SYMBOL;CONGRUENT WITH DOT ABOVE",
     "CONICAL TAPER;CONJUNCTION;CONTINUOUS UNDERLINE SYMBOL;CONTOUR INTEGRAL;COPYLEFT SYMBOL",
     "CORNISH VERSE DIVIDER;CORRESPONDS TO;COUNTERBORE;COUNTERSINK",
     "CROSSED NEGATIVE SQUARED LATIN CAPITAL LETTER P;CROSSED SWORDS;CRUZEIRO SIGN;CUBE ROOT",
     "CUP ON BLACK SQUARE;CUPIDO;CURVED STEM PARAGRAPH SIGN ORNAMENT;CYLINDRICITY",
     "DAGGER WITH LEFT GUARD;DAGGER WITH RIGHT GUARD;DALET SYMBOL;DARK SHADE",
     "DASH WITH LEFT UPTURN;DECIMAL EXPONENT SYMBOL;DECIMAL SEPARATOR KEY SYMBOL",
     "DEGREE CELSIUS;DEGREE FAHRENHEIT;DELTA EQUAL TO;DESCENDING NODE;DIAMETER SIGN",
     "DIFFERENCE BETWEEN;DIMENSION ORIGIN;DIRECT CURRENT SYMBOL FORM TWO;DISABLED CAR",
     "DISCONTINUOUS UNDERLINE SYMBOL;DIVIDES;DIVISION TIMES;DIVORCE SYMBOL;DONG SIGN;DOT MINUS",
     "DOT PLUS;DOWN-POINTING TRIANGLE WITH LEFT HALF BLACK",
     "DOWN-POINTING TRIANGLE WITH RIGHT HALF BLACK;DRACHMA SIGN",
     "DRAFTING POINT RIGHTWARDS ARROW;DRIVE SLOW SIGN;EARTH;EARTH GROUND;EAST SYRIAC CROSS",
     "EDITORIAL CORONIS;EIGHTH NOTE;EJECT SYMBOL;ELECTRIC ARROW;ELECTRICAL INTERSECTION",
     "EM DASH;EM QUAD;EM SPACE;EMPHASIS SYMBOL;EN DASH;EN QUAD;EN SPACE;END OF PROOF",
     "ENTER SYMBOL;ENVELOPE;EQUALS COLON;EQUALS WITH ASTERISK;EQUIANGULAR TO",
     "EQUIVALENT WITH FOUR DOTS ABOVE;ERASE TO THE LEFT;ERASE TO THE RIGHT;ERIS FORM ONE",
     "ERIS FORM TWO;ESTIMATED SYMBOL;ESTIMATES;EULER CONSTANT;EURO SIGN;EURO-CURRENCY SIGN",
     "EXCESS;EXCLAMATION QUESTION MARK;FACSIMILE SIGN;FARSI SYMBOL;FEMALE SIGN;FERRY",
     "FIGURE DASH;FIGURE SPACE;FINITE PART INTEGRAL;FIRST QUARTER MOON;FIRST STRONG ISOLATE",
     "FISHEYE;FIVE DOT MARK;FIVE DOT PUNCTUATION;FLAG IN HOLE;FLATNESS;FLEUR-DE-LIS",
     "FLORAL HEART;FLOWER;FLOWER PUNCTUATION MARK;FOR ALL;FORCES;FORKING;FOUNTAIN",
     "FOUR-PER-EM SPACE;FOURTH ROOT;FRACTION NUMERATOR ONE;FRACTION SLASH;FRENCH FRANC SIGN",
     "FRONT-TILTED SHADOWED WHITE RIGHTWARDS ARROW;FROWN;FUEL PUMP;FULL BLOCK;FULL OUTER JOIN",
     "FUNCTION APPLICATION;FUNERAL URN;FUSE;GEAR;GEAR WITH HANDLES;GEAR WITHOUT HUB;GEMINI",
     "GEOMETRIC PROPORTION;GEOMETRICALLY EQUAL TO;GEOMETRICALLY EQUIVALENT TO",
     "GERMAN PENNY SIGN;GIMEL SYMBOL;GLEICH STARK;GROUP MARK;GUARANI SIGN;HADES;HAIR SPACE",
     "HAMMER AND PICK;HAMMER AND SICKLE;HEADSTONE GRAVEYARD SYMBOL;HELLSCHREIBER PAUSE SYMBOL",
     "HELM SYMBOL;HELMET WITH WHITE CROSS;HERMITIAN CONJUGATE MATRIX;HIGH VOLTAGE SIGN",
     "HISTORIC SITE;HOLLOW QUILT SQUARE ORNAMENT;HOLLOW QUILT SQUARE ORNAMENT IN BLACK SQUARE",
     "HOMOTHETIC;HOT BEVERAGE;HOT SPRINGS;HOURGLASS;HOURGLASS WITH FLOWING SAND;HOUSE",
     "HRYVNIA SIGN;HYGIEA;HYPHEN BULLET;HYPHEN WITH DIAERESIS;HYPHENATION POINT;HYPODIASTOLE",
     "HYSTERESIS SYMBOL;ICE SKATE;IMAGE OF OR APPROXIMATELY EQUAL TO;INCOMPLETE INFINITY",
     "INCREASES AS;INCREMENT;INDIAN RUPEE SIGN;INFINITY;INFINITY NEGATED WITH VERTICAL BAR",
     "INFORMATION SOURCE;INHIBIT ARABIC FORM SHAPING;INHIBIT SYMMETRIC SWAPPING",
     "INSERTION SYMBOL;INTERCALATE;INTERIOR PRODUCT;INTERLOCKED FEMALE AND MALE SIGN",
     "JAPANESE BANK SYMBOL;JOIN;JUNO;JUPITER;KELVIN SIGN;KEYBOARD;KIP SIGN;KRONOS",
     "L B BAR SYMBOL;LANGUAGE TAG;LARGER THAN;LARGER THAN OR EQUAL TO;LARI SIGN",
     "LAST QUARTER MOON;LATIN CROSS;LATIN SMALL LETTER REVERSED C;LEO;LIBRA;LIGHTNING",
     "LINE SEPARATOR;LIRA SIGN;LIVRE TOURNOIS SIGN;LOW ASTERISK;LOW KAVYKA WITH DOT",
     "LOZENGE DIVIDED BY HORIZONTAL RULE;MALTESE CROSS;MANAT SIGN;MAP SYMBOL FOR LIGHTHOUSE",
     "MARRIAGE SYMBOL;MASK WORK SYMBOL;MERCURY;MIDDLE THIRD WHITE RIGHT POINTING INDEX",
     "MIDLINE HORIZONTAL ELLIPSIS;MILL SIGN;MINUS TILDE;MINUS-OR-PLUS SIGN;MINY;MODELS",
     "MODULO TWO SUM;MONOGRAM FOR YANG;MONOGRAM FOR YIN;MONOSTABLE SYMBOL;MOUNTAIN",
     "MUCH GREATER-THAN;MUCH LESS-THAN;MULTIMAP;MULTISET;MULTISET MULTIPLICATION",
     "MULTISET UNION;NABLA;NAIRA SIGN;NAND;NARROW NO-BREAK SPACE;NATIONAL DIGIT SHAPES",
     "NEGATED DOUBLE VERTICAL BAR DOUBLE RIGHT TURNSTILE;NEPTUNE;NEPTUNE FORM TWO;NESSUS",
     "NEUTER;NEW SHEQEL SIGN;NEWLINE LEFT;NEWLINE RIGHT;NEXT PAGE;NO ENTRY",
     "NOMINAL DIGIT SHAPES;NON-BREAKING HYPHEN;NONFORKING;NOR;NORDIC MARK SIGN",
     "NOTCHED LOWER RIGHT-SHADOWED WHITE RIGHTWARDS ARROW",
     "NOTCHED UPPER RIGHT-SHADOWED WHITE RIGHTWARDS ARROW;NUMERO SIGN",
     "OBJECT REPLACEMENT CHARACTER;OBSERVER EYE SYMBOL;ONE DOT LEADER",
     "ONE DOT OVER TWO DOTS PUNCTUATION;OPEN BOX;OPEN SUBSET;OPEN SUPERSET",
     "OPEN-CIRCUIT-OUTPUT H-TYPE SYMBOL;OPEN-CIRCUIT-OUTPUT L-TYPE SYMBOL",
     "OPEN-OUTLINED RIGHTWARDS ARROW;OPHIUCHUS;OPPOSITION;OPTION KEY;OR WITH DOT INSIDE",
     "ORIGINAL OF;ORTHODOX CROSS;OUNCE SIGN;OVERLINE;PALLAS;PALM BRANCH;PARAGRAPH SEPARATOR",
     "PARAGRAPHOS;PARAGRAPHUS MARK;PARTIAL DIFFERENTIAL;PARTIALLY-RECYCLED PAPER SYMBOL",
     "PASSED SYMBOL;PASSIVE-PULL-DOWN-OUTPUT SYMBOL;PASSIVE-PULL-UP-OUTPUT SYMBOL;PEACE SYMBOL",
     "PENCIL;PER MILLE SIGN;PER SIGN;PER TEN THOUSAND SIGN;PERMANENT PAPER SIGN",
     "PERPENDICULAR WITH S;PERSON WITH BALL;PERSPECTIVE;PESETA SIGN;PESO SIGN;PHOLUS;PICK",
     "PINWHEEL STAR;PISCES;PITCHFORK;PITCHFORK WITH TEE TOP;PLACE OF INTEREST SIGN",
     "PLANCK CONSTANT;PLANCK CONSTANT OVER TWO PI;PLUTO;POP DIRECTIONAL FORMATTING",
     "POP DIRECTIONAL ISOLATE;POSEIDON;PRESCRIPTION TAKE;PREVIOUS PAGE;PRINT SCREEN SYMBOL",
     "PROJECTIVE;PROPERTY LINE;PROPORTION;PROPORTIONAL TO;PROSERPINA;PUNCTUATION SPACE",
     "PUNCTUS ELEVATUS MARK;QUADRANT LOWER LEFT;QUADRANT LOWER RIGHT",
     "QUADRUPLE INTEGRAL OPERATOR;QUADRUPLE PRIME;QUARTER NOTE;QUATERNION INTEGRAL OPERATOR",
     "QUESTION EXCLAMATION MARK;QUESTIONED EQUAL TO;QUINCUNX;RADICAL SYMBOL BOTTOM",
     "RADIOACTIVE SIGN;RAIN;RATIO;RECYCLED PAPER SYMBOL;REFERENCE MARK;REPLACEMENT CHARACTER",
     "RESPONSE;RESTRICTED LEFT ENTRY-1;RESTRICTED LEFT ENTRY-2;RIGHTHAND INTERIOR PRODUCT",
     "RISING DIAGONAL CROSSING FALLING DIAGONAL;RISING DIAGONAL CROSSING SOUTH EAST ARROW",
     "ROUND TARGET;RUBLE SIGN;RULE-DELAYED;RUPEE SIGN;S IN TRIANGLE;SAGITTARIUS;SAILBOAT",
     "SATURN;SCALES;SCORPIUS;SCRUPLE;SECTOR;SEDNA;SEGMENT",
     "SEMIDIRECT PRODUCT WITH BOTTOM CLOSED;SEMISEXTILE;SEPARATED SYMBOL;SERVICE MARK",
     "SESQUIQUADRATE;SET MINUS;SEXTILE;SHAMROCK;SHINTO SHRINE;SHOULDERED OPEN BOX",
     "SHUFFLE PRODUCT;SINE WAVE;SIX PETALLED BLACK AND WHITE FLORETTE",
     "SIX POINTED PINWHEEL STAR;SIX-PER-EM SPACE;SIXTEEN POINTED ASTERISK;SKIER",
     "SKULL AND CROSSBONES;SLOPE;SLOPING LARGE AND;SLOPING LARGE OR;SMALLER THAN",
     "SMALLER THAN OR EQUAL TO;SMASH PRODUCT;SMILE;SNOWFLAKE;SNOWMAN WITHOUT SNOW;SOCCER BALL",
     "SOFTWARE-FUNCTION SYMBOL;SOLID QUILT SQUARE ORNAMENT",
     "SOLID QUILT SQUARE ORNAMENT IN BLACK SQUARE;SOLIDUS WITH OVERBAR;SOM SIGN",
     "SOUND RECORDING COPYRIGHT;SPARKLES;SPESMILO SIGN;SQUAT BLACK RIGHTWARDS ARROW",
     "STAFF OF AESCULAPIUS;STAFF OF HERMES;STENOGRAPHIC FULL STOP;STICK FIGURE;STOPWATCH",
     "STRAIGHTNESS;STRESS OUTLINED WHITE STAR;STRICTLY EQUIVALENT TO;SUN;SUN BEHIND CLOUD",
     "SURFACE INTEGRAL;SWASH AMPERSAND ORNAMENT;SWUNG DASH;SYMMETRY;TAPE DRIVE;TAURUS",
     "TEARDROP-BARBED RIGHTWARDS ARROW;TENGE SIGN;TENT;THERE DOES NOT EXIST;THERE EXISTS",
     "THEREFORE;THERMODYNAMIC;THIN GREEK CROSS;THIN SALTIRE;THIN SPACE;THUNDER CLOUD AND RAIN",
     "THUNDERSTORM;TIE OVER INFINITY;TIGHT TRIFOLIATE SNOWFLAKE;TIMER CLOCK",
     "TIMES WITH LEFT HALF BLACK;TIMES WITH RIGHT HALF BLACK;TINY;TIRONIAN SIGN CAPITAL ET",
     "TIRONIAN SIGN ET;TORTOISE SHELL BRACKETED LATIN CAPITAL LETTER S;TOTAL RUNOUT",
     "TRADE MARK SIGN;TRANSPLUTO;TRANSVERSAL INTERSECTION;TRIANGULAR BULLET;TRICOLON",
     "TRUE LIGHT MOON ARTA;TUGRIK SIGN;TURKISH LIRA SIGN;TWO-EM DASH;UMBRELLA",
     "UMBRELLA ON GROUND;UMBRELLA WITH RAIN DROPS;UNCERTAINTY SIGN;UNDO SYMBOL;UNITED SYMBOL",
     "UNMARRIED PARTNERSHIP SYMBOL;UP-POINTING TRIANGLE WITH LEFT HALF BLACK",
     "UP-POINTING TRIANGLE WITH RIGHT HALF BLACK;URANUS;VECTOR OR CROSS PRODUCT;VERSICLE",
     "VERY BOLD GREEK CROSS;VERY MUCH GREATER-THAN;VERY MUCH LESS-THAN;VESTA;VICTORY HAND",
     "VIEWDATA SQUARE;VIRGO;VOIDED GREEK CROSS;VOLUME INTEGRAL;VULCANUS;WARNING SIGN;WATCH",
     "WAVE ARROW POINTING DIRECTLY LEFT;WAVE ARROW POINTING DIRECTLY RIGHT;WAVY LINE",
     "WEST SYRIAC CROSS;WHEEL OF DHARMA;WHEELCHAIR SYMBOL;WHITE-FEATHERED RIGHTWARDS ARROW",
     "WIGGLY VERTICAL LINE;WON SIGN;WORD JOINER;WORD SEPARATOR MIDDLE DOT;WREATH PRODUCT",
     "WRITING HAND;X IN A RECTANGLE BOX;XOR;YIN YANG;ZEUS"]⟩,
  ⟨[";REVERSED "], ["ANGLE WITH UNDERBAR;FORKED PARAGRAPHOS"]⟩,
  ⟨[";CIRCLED "],
    ["ASTERISK OPERATOR;BULLET;CROSSING LANES;DIVISION SLASH;DOT OPERATOR;PERPENDICULAR"]⟩,
  ⟨[";NOT "],
    ["ASYMPTOTICALLY EQUAL TO;EQUIVALENT TO;NORMAL SUBGROUP OF;NORMAL SUBGROUP OF OR EQUAL TO",
     "TRUE"]⟩,
  ⟨[";FOUR "], ["BALLOON-SPOKED ASTERISK;TEARDROP-SPOKED ASTERISK"]⟩,
  ⟨[";SHORT "], ["BENT ARROW POINTING DOWNWARDS THEN NORTH EAST"]⟩,
  ⟨[";BLACK "], ["BOWTIE;LOZENGE;SNOWMAN;UNIVERSAL RECYCLING SYMBOL"]⟩,
  ⟨[";HEAVY "],
    ["CHECK MARK;DASHED TRIANGLE-HEADED RIGHTWARDS ARROW;LIGATURE OPEN ET ORNAMENT;MINUS SIGN",
     "SALTIRE;SCRIPT LIGATURE ET ORNAMENT;SIX POINTED BLACK STAR;SPARKLE",
     "TRIANGLE-HEADED RIGHTWARDS ARROW;WEDGE-TAILED RIGHTWARDS ARROW"]⟩,
  ⟨[";DOUBLE "], ["DAGGER;HYPHEN;INTEGRAL;INTERSECTION;PRECEDES;PRIME;SUCCEEDS;UNION"]⟩,
  ⟨[";SQUARE "], ["IMAGE OF;POSITION INDICATOR"]⟩,
  ⟨[";INVERTED "], ["INTERROBANG;LOW KAVYKA;OHM SIGN;PENTAGRAM;UNDERTIE"]⟩,
  ⟨[";HEAVY ;LIGHT "], ["TWELVE POINTED BLACK STAR"]⟩,
  ⟨["ALMOST "], ["EQUAL OR EQUAL TO;EQUAL TO;EQUAL TO WITH CIRCUMFLEX ACCENT"]⟩,
  ⟨["ANTICLOCKWISE ;CLOCKWISE "],
    ["CLOSED CIRCLE ARROW;CONTOUR INTEGRAL;GAPPED CIRCLE ARROW;OPEN CIRCLE ARROW",
     "TOP SEMICIRCLE ARROW"]⟩,
  ⟨["ANTICLOCKWISE "], ["INTEGRATION"]⟩,
  ⟨["ANTICLOCKWISE TRIANGLE-"],
    ["HEADED BOTTOM U-SHAPED ARROW;HEADED LEFT U-SHAPED ARROW;HEADED OPEN CIRCLE ARROW",
     "HEADED RIGHT U-SHAPED ARROW;HEADED TOP U-SHAPED ARROW"]⟩,
  ⟨["APL FUNCTIONAL SYMBOL "],
    ["ALPHA;ALPHA UNDERBAR;BACKSLASH BAR;COMMA BAR;DEL DIAERESIS;DEL STILE;DEL TILDE",
     "DELTA STILE;DELTA UNDERBAR;DIAMOND UNDERBAR;DOWN CARET TILDE;DOWN SHOE STILE",
     "DOWN TACK JOT;DOWN TACK UNDERBAR;DOWNWARDS VANE;EPSILON UNDERBAR;GREATER-THAN DIAERESIS",
     "I-BEAM;IOTA;IOTA UNDERBAR;JOT DIAERESIS;JOT UNDERBAR;LEFT SHOE STILE;LEFTWARDS VANE",
     "OMEGA;OMEGA UNDERBAR;QUAD;QUOTE QUAD;QUOTE UNDERBAR;RHO;RIGHTWARDS VANE",
     "SEMICOLON UNDERBAR;SLASH BAR;SQUISH QUAD;STAR DIAERESIS;STILE TILDE;TILDE DIAERESIS",
     "UP CARET TILDE;UP SHOE JOT;UP TACK DIAERESIS;UP TACK JOT;UP TACK OVERBAR;UPWARDS VANE",
     "ZILDE"]⟩,
  ⟨["APL FUNCTIONAL SYMBOL CIRCLE "], ["BACKSLASH;DIAERESIS;JOT;STAR;STILE;UNDERBAR"]⟩,
  ⟨["APL FUNCTIONAL SYMBOL QUAD "],
    ["BACKSLASH;CIRCLE;COLON;DEL;DELTA;DIAMOND;DIVIDE;DOWN CARET;DOWNWARDS ARROW;EQUAL",
     "GREATER-THAN;JOT;LEFTWARDS ARROW;LESS-THAN;NOT EQUAL;QUESTION;RIGHTWARDS ARROW;SLASH",
     "UP CARET;UPWARDS ARROW"]⟩,
  ⟨["APPROXIMATELY "],
    ["BUT NOT ACTUALLY EQUAL TO;EQUAL OR EQUAL TO;EQUAL TO;EQUAL TO OR THE IMAGE OF"]⟩,
  ⟨["ARROW POINTING "],
    ["DOWNWARDS THEN CURVING LEFTWARDS;DOWNWARDS THEN CURVING RIGHTWARDS",
     "RIGHTWARDS THEN CURVING DOWNWARDS;RIGHTWARDS THEN CURVING SOUTH WEST",
     "RIGHTWARDS THEN CURVING UPWARDS;UPWARDS THEN NORTH WEST"]⟩,
  ⟨["BALLOT "], ["BOX;BOX WITH CHECK;BOX WITH LIGHT X;BOX WITH X;X"]⟩,
  ⟨["BLACK "],
    ["CENTRE WHITE STAR;CROSS ON SHIELD;DOWNWARDS EQUILATERAL ARROWHEAD;LARGE CIRCLE",
     "LEFTWARDS BULLET;LEFTWARDS EQUILATERAL ARROWHEAD;LOWER LEFT TRIANGLE",
     "LOWER RIGHT TRIANGLE;MOON LILITH;OCTAGON;SAFETY SCISSORS;SLIGHTLY SMALL CIRCLE",
     "SLIGHTLY SMALL SQUARE;SQUARE CENTRED;SQUARE FOR STOP;TINY DIAMOND;TINY LOZENGE",
     "TINY SQUARE;TRUCK;UPPER LEFT TRIANGLE;UPPER RIGHT TRIANGLE;UPWARDS EQUILATERAL ARROWHEAD",
     "VERTICAL ELLIPSE;VERTICAL RECTANGLE;VERY SMALL DIAMOND;VERY SMALL LOZENGE"]⟩,
  ⟨["BLACK ;WHITE "],
    ["CIRCLE;CLUB SUIT;DIAMOND;DRAUGHTS KING;DRAUGHTS MAN;FLAG;FLORETTE;FOUR POINTED STAR",
     "HEART SUIT;HEXAGON;HORIZONTAL ELLIPSE;HOURGLASS;LARGE SQUARE;LEFT LANE MERGE",
     "LEFT POINTING INDEX;NIB;PARALLELOGRAM;PENTAGON;QUESTION MARK ORNAMENT;RECTANGLE",
     "RIGHT POINTING INDEX;SCISSORS;SHOGI PIECE;SMILING FACE;SPADE SUIT;SQUARE;STAR",
     "SUN WITH RAYS;TELEPHONE;TWO-WAY LEFT WAY TRAFFIC;VERY SMALL SQUARE"]⟩,
  ⟨["BLACK CHESS ;WHITE CHESS "], ["BISHOP;KING;KNIGHT;PAWN;QUEEN;ROOK"]⟩,
  ⟨["BLACK CIRCLE "], ["FOR RECORD;WITH DOWN ARROW;WITH TWO WHITE DOTS;WITH WHITE DOT RIGHT"]⟩,
  ⟨["BLACK CURVED "],
    ["DOWNWARDS AND LEFTWARDS ARROW;DOWNWARDS AND RIGHTWARDS ARROW",
     "LEFTWARDS AND DOWNWARDS ARROW;LEFTWARDS AND UPWARDS ARROW;RIGHTWARDS AND DOWNWARDS ARROW",
     "RIGHTWARDS AND UPWARDS ARROW;UPWARDS AND LEFTWARDS ARROW;UPWARDS AND RIGHTWARDS ARROW"]⟩,
  ⟨["BLACK DIAMOND "], ["CENTRED;MINUS WHITE X;ON CROSS;SUIT;WITH DOWN ARROW"]⟩,
  ⟨["BLACK DOWN-POINTING ;BLACK LEFT-POINTING ;BLACK RIGHT-POINTING ;BLACK UP-POINTING "],
    ["DOUBLE TRIANGLE;ISOSCELES RIGHT TRIANGLE;SMALL TRIANGLE;TRIANGLE"]⟩,
  ⟨["BLACK LEFT-POINTING ;BLACK RIGHT-POINTING "], ["DOUBLE TRIANGLE WITH VERTICAL BAR;POINTER"]⟩,
  ⟨["BLACK MEDIUM "],
    ["DIAMOND;DOWN-POINTING TRIANGLE CENTRED;LEFT-POINTING TRIANGLE CENTRED;LOZENGE",
     "RIGHT-POINTING TRIANGLE;RIGHT-POINTING TRIANGLE CENTRED;SMALL DIAMOND;SQUARE",
     "UP-POINTING TRIANGLE;UP-POINTING TRIANGLE CENTRED"]⟩,
  ⟨["BLACK MEDIUM ;WHITE "],
    ["DOWN-POINTING TRIANGLE;LEFT-POINTING TRIANGLE;SMALL LOZENGE;SMALL SQUARE"]⟩,
  ⟨["BLACK RIGHT-POINTING "], ["PENTAGON;TRIANGLE WITH DOUBLE VERTICAL BAR"]⟩,
  ⟨["BLACK RIGHTWARDS "], ["ARROW;ARROWHEAD;BULLET;EQUILATERAL ARROWHEAD"]⟩,
  ⟨["BLACK SMALL ;WHITE MEDIUM "], ["DIAMOND;LOZENGE;SQUARE;STAR"]⟩,
  ⟨["BLACK-FEATHERED "], ["NORTH EAST ARROW;RIGHTWARDS ARROW;SOUTH EAST ARROW"]⟩,
  ⟨["BLACK-LETTER CAPITAL "], ["C;H;I;R;Z"]⟩,
  ⟨["BLOCK SEXTANT-"],
    ["12;13;14;15;16;23;24;25;26;34;35;36;45;46;56;123;124;125;126;134;136;145;146;156;234;235",
     "236;245;256;345;346;356;456;1234;1235;1236;1245;1246;1256;1345;1346;1356;1456;2345;2346",
     "2356;2456;3456;12345;12346;12356;12456;13456;23456"]⟩,
  ⟨["BOLD ;LIGHT ;MEDIUM ;VERY HEAVY "], ["EIGHT SPOKED ASTERISK"]⟩,
  ⟨["BOLD ;EXTREMELY HEAVY ;VERY HEAVY "],
    ["FIVE SPOKED ASTERISK;GREEK CROSS;SALTIRE;SIX SPOKED ASTERISK;WHITE CIRCLE;WHITE SQUARE"]⟩,
  ⟨["BOTTOM ;TOP "],
    ["ARC ANTICLOCKWISE ARROW;CURLY BRACKET;LEFT CORNER;LEFT CROP;LEFT HALF BRACKET",
     "PARENTHESIS;RIGHT CORNER;RIGHT CROP;RIGHT HALF BRACKET;SQUARE BRACKET",
     "TORTOISE SHELL BRACKET"]⟩,
  ⟨["BOTTOM "],
    ["HALF BLACK CIRCLE;HALF INTEGRAL;HALF LEFT PARENTHESIS;HALF RIGHT PARENTHESIS",
     "SQUARE BRACKET OVER TOP SQUARE BRACKET"]⟩,
  ⟨["BOX DRAWINGS "],
    ["UP DOUBLE AND HORIZONTAL SINGLE;UP DOUBLE AND LEFT SINGLE;UP DOUBLE AND RIGHT SINGLE",
     "UP SINGLE AND HORIZONTAL DOUBLE;UP SINGLE AND LEFT DOUBLE;UP SINGLE AND RIGHT DOUBLE"]⟩,
  ⟨["BOX DRAWINGS DOUBLE ;BOX DRAWINGS HEAVY ;BOX DRAWINGS LIGHT "],
    ["DOWN AND HORIZONTAL;DOWN AND LEFT;DOWN AND RIGHT;HORIZONTAL;UP AND HORIZONTAL",
     "UP AND LEFT;UP AND RIGHT;VERTICAL;VERTICAL AND HORIZONTAL;VERTICAL AND LEFT",
     "VERTICAL AND RIGHT"]⟩,
  ⟨["BOX DRAWINGS DOWN ;BOX DRAWINGS VERTICAL "],
    ["DOUBLE AND HORIZONTAL SINGLE;DOUBLE AND LEFT SINGLE;DOUBLE AND RIGHT SINGLE",
     "SINGLE AND HORIZONTAL DOUBLE;SINGLE AND LEFT DOUBLE;SINGLE AND RIGHT DOUBLE"]⟩,
  ⟨["BOX DRAWINGS DOWN HEAVY "],
    ["AND HORIZONTAL LIGHT;AND LEFT LIGHT;AND LEFT UP LIGHT;AND RIGHT LIGHT;AND RIGHT UP LIGHT",
     "AND UP HORIZONTAL LIGHT"]⟩,
  ⟨["BOX DRAWINGS DOWN LIGHT "],
    ["AND HORIZONTAL HEAVY;AND LEFT HEAVY;AND LEFT UP HEAVY;AND RIGHT HEAVY;AND RIGHT UP HEAVY",
     "AND UP HORIZONTAL HEAVY"]⟩,
  ⟨["BOX DRAWINGS HEAVY ;BOX DRAWINGS LIGHT "],
    ["DOUBLE DASH HORIZONTAL;DOUBLE DASH VERTICAL;DOWN;LEFT;QUADRUPLE DASH HORIZONTAL",
     "QUADRUPLE DASH VERTICAL;RIGHT;TRIPLE DASH HORIZONTAL;TRIPLE DASH VERTICAL;UP"]⟩,
  ⟨["BOX DRAWINGS HEAVY "], ["LEFT AND LIGHT RIGHT;UP AND LIGHT DOWN"]⟩,
  ⟨["BOX DRAWINGS LEFT "],
    ["DOWN HEAVY AND RIGHT UP LIGHT;HEAVY AND RIGHT DOWN LIGHT;HEAVY AND RIGHT UP LIGHT",
     "HEAVY AND RIGHT VERTICAL LIGHT;LIGHT AND RIGHT DOWN HEAVY;LIGHT AND RIGHT UP HEAVY",
     "LIGHT AND RIGHT VERTICAL HEAVY;UP HEAVY AND RIGHT DOWN LIGHT"]⟩,
  ⟨["BOX DRAWINGS LIGHT "],
    ["ARC DOWN AND LEFT;ARC DOWN AND RIGHT;ARC UP AND LEFT;ARC UP AND RIGHT",
     "HORIZONTAL WITH VERTICAL STROKE;LEFT AND HEAVY RIGHT;UP AND HEAVY DOWN"]⟩,
  ⟨["BOX DRAWINGS LIGHT DIAGONAL "],
    ["CROSS;DIAMOND;MIDDLE LEFT TO LOWER CENTRE;MIDDLE LEFT TO LOWER CENTRE TO MIDDLE RIGHT",
     "MIDDLE LEFT TO UPPER CENTRE TO MIDDLE RIGHT",
     "MIDDLE LEFT TO UPPER CENTRE TO MIDDLE RIGHT TO LOWER CENTRE;MIDDLE RIGHT TO LOWER CENTRE",
     "MIDDLE RIGHT TO UPPER CENTRE TO MIDDLE LEFT TO LOWER CENTRE;UPPER LEFT TO LOWER RIGHT",
     "UPPER RIGHT TO LOWER LEFT"]⟩,
  ⟨["BOX DRAWINGS LIGHT DIAGONAL UPPER CENTRE "],
    ["TO MIDDLE LEFT;TO MIDDLE LEFT AND MIDDLE RIGHT TO LOWER CENTRE",
     "TO MIDDLE LEFT TO LOWER CENTRE;TO MIDDLE LEFT TO LOWER CENTRE TO MIDDLE RIGHT",
     "TO MIDDLE RIGHT;TO MIDDLE RIGHT AND MIDDLE LEFT TO LOWER CENTRE",
     "TO MIDDLE RIGHT TO LOWER CENTRE;TO MIDDLE RIGHT TO LOWER CENTRE TO MIDDLE LEFT"]⟩,
  ⟨["BOX DRAWINGS RIGHT "],
    ["DOWN HEAVY AND LEFT UP LIGHT;HEAVY AND LEFT DOWN LIGHT;HEAVY AND LEFT UP LIGHT",
     "HEAVY AND LEFT VERTICAL LIGHT;LIGHT AND LEFT DOWN HEAVY;LIGHT AND LEFT UP HEAVY",
     "LIGHT AND LEFT VERTICAL HEAVY;UP HEAVY AND LEFT DOWN LIGHT"]⟩,
  ⟨["BOX DRAWINGS UP HEAVY "],
    ["AND DOWN HORIZONTAL LIGHT;AND HORIZONTAL LIGHT;AND LEFT DOWN LIGHT;AND LEFT LIGHT",
     "AND RIGHT DOWN LIGHT;AND RIGHT LIGHT"]⟩,
  ⟨["BOX DRAWINGS UP LIGHT "],
    ["AND DOWN HORIZONTAL HEAVY;AND HORIZONTAL HEAVY;AND LEFT DOWN HEAVY;AND LEFT HEAVY",
     "AND RIGHT DOWN HEAVY;AND RIGHT HEAVY"]⟩,
  ⟨["BOX DRAWINGS VERTICAL "],
    ["HEAVY AND HORIZONTAL LIGHT;HEAVY AND LEFT LIGHT;HEAVY AND RIGHT LIGHT",
     "LIGHT AND HORIZONTAL HEAVY;LIGHT AND LEFT HEAVY;LIGHT AND RIGHT HEAVY"]⟩,
  ⟨["CIRCLE WITH "],
    ["ALL BUT UPPER LEFT QUADRANT BLACK;HORIZONTAL BAR;LOWER HALF BLACK",
     "SMALL CIRCLE TO THE RIGHT;SUPERIMPOSED X;TWO HORIZONTAL STROKES TO THE RIGHT",
     "UPPER HALF BLACK;UPPER RIGHT QUADRANT BLACK"]⟩,
  ⟨["CIRCLE WITH ;SQUARE WITH "], ["LEFT HALF BLACK;RIGHT HALF BLACK;VERTICAL FILL"]⟩,
  ⟨["CIRCLED "],
    ["ANTICLOCKWISE ARROW;ANTICLOCKWISE-ROTATED DIVISION SIGN;BOLD X;C WITH OVERLAID BACKSLASH",
     "CC;CD;DASH;DIVISION SIGN;DOLLAR SIGN WITH OVERLAID BACKSLASH;EQUALS;GREATER-THAN",
     "HEAVY WHITE RIGHTWARDS ARROW;HORIZONTAL BAR WITH NOTCH;HUMAN FIGURE",
     "ITALIC LATIN CAPITAL LETTER C;ITALIC LATIN CAPITAL LETTER R;LESS-THAN;MINUS",
     "MULTIPLICATION SIGN WITH CIRCUMFLEX ACCENT;OPEN CENTRE EIGHT POINTED STAR;PARALLEL;PLUS",
     "REVERSE SOLIDUS;RING OPERATOR;SQUARE;TIMES;TRIANGLE;TRIANGLE DOWN;VERTICAL BAR",
     "WHITE BULLET;WHITE STAR;WZ;X;ZERO WITH SLASH"]⟩,
  ⟨["CIRCLED DIGIT ;DINGBAT CIRCLED SANS-SERIF DIGIT ",
    "DINGBAT NEGATIVE CIRCLED SANS-SERIF DIGIT ;SEGMENTED DIGIT ;TAG DIGIT "],
    ["EIGHT;FIVE;FOUR;NINE;ONE;SEVEN;SIX;THREE;TWO;ZERO"]⟩,
  ⟨["CIRCLED LATIN CAPITAL LETTER ;CIRCLED LATIN SMALL LETTER ",
    "NEGATIVE CIRCLED LATIN CAPITAL LETTER ;NEGATIVE SQUARED LATIN CAPITAL LETTER ",
    "PARENTHESIZED LATIN CAPITAL LETTER ;PARENTHESIZED LATIN SMALL LETTER ",
    "REGIONAL INDICATOR SYMBOL LETTER ;SQUARED LATIN CAPITAL LETTER ;TAG LATIN CAPITAL LETTER ",
    "TAG LATIN SMALL LETTER "],
    ["A;B;C;D;E;F;G;H;I;J;K;L;M;N;O;P;Q;R;S;T;U;V;W;X;Y;Z"]⟩,
  ⟨["CIRCLED NUMBER ;NEGATIVE CIRCLED NUMBER ;PARENTHESIZED NUMBER "],
    ["EIGHTEEN;ELEVEN;FIFTEEN;FOURTEEN;NINETEEN;SEVENTEEN;SIXTEEN;THIRTEEN;TWELVE;TWENTY"]⟩,
  ⟨["CIRCLED NUMBER ;PARENTHESIZED NUMBER "], ["TEN"]⟩,
  ⟨["CLOCKWISE "], ["INTEGRAL;TRIANGLE-HEADED OPEN CIRCLE ARROW"]⟩,
  ⟨["CLOSED "],
    ["INTERSECTION WITH SERIFS;SUBSET;SUBSET OR EQUAL TO;SUPERSET;SUPERSET OR EQUAL TO",
     "UNION WITH SERIFS;UNION WITH SERIFS AND SMASH PRODUCT"]⟩,
  ⟨["CONTAINS ;SMALL CONTAINS "],
    ["AS MEMBER;WITH OVERBAR;WITH VERTICAL BAR AT END OF HORIZONTAL STROKE"]⟩,
  ⟨["CONTAINS "],
    ["AS NORMAL SUBGROUP;AS NORMAL SUBGROUP OR EQUAL TO;WITH LONG HORIZONTAL STROKE"]⟩,
  ⟨["CROSS "],
    ["MARK;OF JERUSALEM;OF LORRAINE;PATTY WITH LEFT CROSSBAR;PATTY WITH RIGHT CROSSBAR"]⟩,
  ⟨["CURLY "], ["BRACKET EXTENSION;LOGICAL AND;LOGICAL OR;LOOP"]⟩,
  ⟨["DENTISTRY SYMBOL LIGHT "],
    ["DOWN AND HORIZONTAL;DOWN AND HORIZONTAL WITH CIRCLE;DOWN AND HORIZONTAL WITH TRIANGLE",
     "DOWN AND HORIZONTAL WITH WAVE;UP AND HORIZONTAL;UP AND HORIZONTAL WITH CIRCLE",
     "UP AND HORIZONTAL WITH TRIANGLE;UP AND HORIZONTAL WITH WAVE"]⟩,
  ⟨["DENTISTRY SYMBOL LIGHT VERTICAL "],
    ["AND BOTTOM LEFT;AND BOTTOM RIGHT;AND TOP LEFT;AND TOP RIGHT;AND WAVE;WITH CIRCLE",
     "WITH TRIANGLE"]⟩,
  ⟨["DIAMOND ;STAR "], ["OPERATOR;WITH LEFT HALF BLACK;WITH RIGHT HALF BLACK"]⟩,
  ⟨["DIAMOND "], ["TARGET;WITH BOTTOM HALF BLACK;WITH TOP HALF BLACK"]⟩,
  ⟨["DIGIT "],
    ["EIGHT COMMA;EIGHT FULL STOP;FIVE COMMA;FIVE FULL STOP;FOUR COMMA;FOUR FULL STOP",
     "NINE COMMA;NINE FULL STOP;ONE COMMA;ONE FULL STOP;SEVEN COMMA;SEVEN FULL STOP;SIX COMMA",
     "SIX FULL STOP;THREE COMMA;THREE FULL STOP;TWO COMMA;TWO FULL STOP;ZERO COMMA",
     "ZERO FULL STOP"]⟩,
  ⟨["DIGRAM "], ["FOR GREATER YANG;FOR GREATER YIN;FOR LESSER YANG;FOR LESSER YIN"]⟩,
  ⟨["DINGBAT "],
    ["CIRCLED SANS-SERIF NUMBER TEN;NEGATIVE CIRCLED NUMBER TEN",
     "NEGATIVE CIRCLED SANS-SERIF NUMBER TEN"]⟩,
  ⟨["DINGBAT NEGATIVE CIRCLED DIGIT ;DOUBLE CIRCLED DIGIT ;PARENTHESIZED DIGIT ;ROMAN NUMERAL ",
    "SMALL ROMAN NUMERAL "],
    ["EIGHT;FIVE;FOUR;NINE;ONE;SEVEN;SIX;THREE;TWO"]⟩,
  ⟨["DOES NOT "],
    ["CONTAIN AS MEMBER;CONTAIN AS NORMAL SUBGROUP;CONTAIN AS NORMAL SUBGROUP OR EQUAL;DIVIDE",
     "DIVIDE WITH REVERSED NEGATION SLASH;FORCE;PRECEDE;PRECEDE OR EQUAL;PROVE;SUCCEED",
     "SUCCEED OR EQUAL"]⟩,
  ⟨["DOTTED "],
    ["CIRCLE;CROSS;FENCE;OBELOS;RIGHT-POINTING ANGLE;SOLIDUS;SQUARE;TRANSPOSITION MARKER"]⟩,
  ⟨["DOUBLE "],
    ["CIRCLED NUMBER TEN;COLON EQUAL;CURLY LOOP;DOWN TACK;EXCLAMATION MARK",
     "LEFT ARC GREATER-THAN BRACKET;LOGICAL AND;LOGICAL OR;LOW LINE",
     "LOW-REVERSED-9 QUOTATION MARK;NESTED LESS-THAN WITH UNDERBAR;OBLIQUE HYPHEN",
     "QUESTION MARK;RIGHT ARC LESS-THAN BRACKET;SOLIDUS OPERATOR;SQUARE INTERSECTION",
     "SQUARE UNION;STACKED COMMA;STROKE NOT SIGN;SUBSET;SUPERSET;SUSPENSION MARK;UP TACK"]⟩,
  ⟨["DOUBLE ;SINGLE "], ["HIGH-REVERSED-9 QUOTATION MARK;LOW-9 QUOTATION MARK"]⟩,
  ⟨["DOUBLE ;TRIPLE "], ["NESTED GREATER-THAN;NESTED LESS-THAN;PLUS"]⟩,
  ⟨["DOUBLE VERTICAL "],
    ["BAR;BAR DOUBLE LEFT TURNSTILE;BAR DOUBLE RIGHT TURNSTILE;BAR LEFT TURNSTILE;LINE"]⟩,
  ⟨["DOUBLE-"],
    ["ENDED MULTIMAP;LINE EQUAL TO OR GREATER-THAN;LINE EQUAL TO OR LESS-THAN",
     "STRUCK N-ARY SUMMATION;STRUCK SMALL GAMMA;STRUCK SMALL PI"]⟩,
  ⟨["DOUBLE-LINE SLANTED ;SLANTED "], ["EQUAL TO OR GREATER-THAN;EQUAL TO OR LESS-THAN"]⟩,
  ⟨["DOUBLE-LINE SLANTED "], ["GREATER-THAN OR EQUAL TO;LESS-THAN OR EQUAL TO"]⟩,
  ⟨["DOUBLE-STRUCK CAPITAL "], ["C;GAMMA;H;N;P;PI;Q;R;Z"]⟩,
  ⟨["DOUBLE-STRUCK ITALIC "], ["CAPITAL D;SMALL D;SMALL E;SMALL I;SMALL J"]⟩,
  ⟨["DOUBLED "], ["FEMALE SIGN;MALE SIGN;SYMBOL"]⟩,
  ⟨["DOWN ;UP "], ["ARROWHEAD;FISH TAIL;RIGHT DIAGONAL ELLIPSIS;TACK"]⟩,
  ⟨["DOWN "], ["TACK WITH CIRCLE BELOW"]⟩,
  ⟨["DOWNWARDS ;UPWARDS "],
    ["ANCORA;ARROW AND RIGHT ONE EIGHTH BLOCK;ARROW FROM BAR;ARROW TO BAR;DOUBLE ARROW",
     "TWO-HEADED ARROW WITH TRIANGLE ARROWHEADS"]⟩,
  ⟨["DOWNWARDS ;LEFTWARDS ;RIGHTWARDS ;UPWARDS "],
    ["ARROW;BLACK ARROW;BLACK CIRCLED WHITE ARROW;COMPRESSED ARROW;DASHED ARROW",
     "FINGER-POST ARROW;HEAVY ARROW;HEAVY COMPRESSED ARROW;PAIRED ARROWS;QUADRUPLE ARROW",
     "ROCKET;SANS-SERIF ARROW;SQUARED ARROW;TRIANGLE ARROWHEAD;TRIPLE ARROW;TWO HEADED ARROW",
     "WHITE ARROW"]⟩,
  ⟨["DOWNWARDS "],
    ["ARROW LEFTWARDS OF UPWARDS ARROW;WHITE ARROW WITHIN TRIANGLE ARROWHEAD;ZIGZAG ARROW"]⟩,
  ⟨["DOWNWARDS ARROW WITH "], ["CORNER LEFTWARDS"]⟩,
  ⟨["DOWNWARDS ARROW WITH ;UPWARDS ARROW WITH "],
    ["DOUBLE STROKE;HORIZONTAL STROKE;TIP LEFTWARDS;TIP RIGHTWARDS"]⟩,
  ⟨["DOWNWARDS ARROW WITH ;LEFTWARDS ARROW WITH ;RIGHTWARDS ARROW WITH ;UPWARDS ARROW WITH "],
    ["EQUILATERAL ARROWHEAD;LARGE TRIANGLE ARROWHEAD;MEDIUM TRIANGLE ARROWHEAD;NOTCHED TAIL",
     "SMALL EQUILATERAL ARROWHEAD;SMALL TRIANGLE ARROWHEAD"]⟩,
  ⟨["DOWNWARDS HARPOON WITH BARB ;UPWARDS HARPOON WITH BARB "],
    ["LEFT BESIDE DOWNWARDS HARPOON WITH BARB RIGHT",
     "LEFT BESIDE UPWARDS HARPOON WITH BARB RIGHT;LEFT FROM BAR;LEFT TO BAR;LEFTWARDS",
     "RIGHT FROM BAR;RIGHT TO BAR;RIGHTWARDS"]⟩,
  ⟨["DOWNWARDS TRIANGLE-"],
    ["HEADED ARROW;HEADED DASHED ARROW;HEADED PAIRED ARROWS;HEADED ZIGZAG ARROW"]⟩,
  ⟨["DOWNWARDS TRIANGLE-HEADED ARROW "], ["LEFTWARDS OF UPWARDS TRIANGLE-HEADED ARROW"]⟩,
  ⟨["DOWNWARDS TRIANGLE-HEADED ARROW ;UPWARDS TRIANGLE-HEADED ARROW "],
    ["TO BAR;WITH BOLD SHAFT;WITH DOUBLE HORIZONTAL STROKE;WITH HEAVY SHAFT",
     "WITH LONG TIP LEFTWARDS;WITH LONG TIP RIGHTWARDS;WITH MEDIUM SHAFT;WITH NARROW SHAFT",
     "WITH VERY HEAVY SHAFT"]⟩,
  ⟨["EIGHT "], ["PETALLED OUTLINED BLACK FLORETTE"]⟩,
  ⟨["EIGHT ;HEAVY EIGHT "],
    ["POINTED BLACK STAR;POINTED PINWHEEL STAR;POINTED RECTILINEAR BLACK STAR;SPOKED ASTERISK",
     "TEARDROP-SPOKED PROPELLER ASTERISK"]⟩,
  ⟨["ELEMENT "], ["OF;OF OPENING DOWNWARDS;OF OPENING UPWARDS"]⟩,
  ⟨["ELEMENT OF WITH "],
    ["DOT ABOVE;LONG HORIZONTAL STROKE;OVERBAR;TWO HORIZONTAL STROKES;UNDERBAR",
     "VERTICAL BAR AT END OF HORIZONTAL STROKE"]⟩,
  ⟨["EMPTY "],
    ["SET;SET WITH LEFT ARROW ABOVE;SET WITH OVERBAR;SET WITH RIGHT ARROW ABOVE",
     "SET WITH SMALL CIRCLE ABOVE"]⟩,
  ⟨["EQUAL "],
    ["AND PARALLEL TO;TO BY DEFINITION;TO OR GREATER-THAN;TO OR LESS-THAN;TO OR PRECEDES",
     "TO OR SUCCEEDS"]⟩,
  ⟨["EQUALS SIGN "],
    ["ABOVE LEFTWARDS ARROW;ABOVE PLUS SIGN;ABOVE TILDE OPERATOR;AND SLANTED PARALLEL",
     "AND SLANTED PARALLEL WITH TILDE ABOVE;WITH BUMPY ABOVE;WITH DOT BELOW",
     "WITH INFINITY BELOW;WITH TWO DOTS ABOVE AND TWO DOTS BELOW"]⟩,
  ⟨["EQUALS SIGN ;SUBSET ;TILDE OPERATOR "], ["ABOVE RIGHTWARDS ARROW"]⟩,
  ⟨["ERROR-BARRED "],
    ["BLACK CIRCLE;BLACK DIAMOND;BLACK SQUARE;WHITE CIRCLE;WHITE DIAMOND;WHITE SQUARE"]⟩,
  ⟨["FALLING "],
    ["DIAGONAL CROSSING NORTH EAST ARROW;DIAGONAL CROSSING RISING DIAGONAL",
     "DIAGONAL IN WHITE CIRCLE IN BLACK SQUARE"]⟩,
  ⟨["FOUR "],
    ["CLUB-SPOKED ASTERISK;CORNER ARROWS CIRCLING ANTICLOCKWISE;DOT MARK;DOT PUNCTUATION",
     "POINTED BLACK STAR"]⟩,
  ⟨["GREATER-THAN ;LESS-THAN "],
    ["AND NOT APPROXIMATE;AND SINGLE-LINE NOT EQUAL TO;BUT NOT EQUAL TO;BUT NOT EQUIVALENT TO",
     "CLOSED BY CURVE;CLOSED BY CURVE ABOVE SLANTED EQUAL;OR APPROXIMATE;OR EQUAL TO",
     "OR EQUIVALENT TO;OVER EQUAL TO;WITH CIRCLE INSIDE;WITH DOT;WITH QUESTION MARK ABOVE"]⟩,
  ⟨["GREATER-THAN "],
    ["BESIDE LESS-THAN;EQUAL TO OR LESS-THAN;OR LESS-THAN;OR SLANTED EQUAL TO",
     "OR SLANTED EQUAL TO WITH DOT ABOVE;OR SLANTED EQUAL TO WITH DOT ABOVE LEFT",
     "OR SLANTED EQUAL TO WITH DOT INSIDE;OVERLAPPING LESS-THAN"]⟩,
  ⟨["GREATER-THAN ABOVE "],
    ["DOUBLE-LINE EQUAL ABOVE LESS-THAN;LESS-THAN ABOVE DOUBLE-LINE EQUAL;RIGHTWARDS ARROW",
     "SIMILAR ABOVE LESS-THAN;SIMILAR OR EQUAL",
     "SLANTED EQUAL ABOVE LESS-THAN ABOVE SLANTED EQUAL"]⟩,
  ⟨["HEAVY "],
    ["AMPERSAND ORNAMENT;ASTERISK;BALLOT X;BLACK CURVED DOWNWARDS AND RIGHTWARDS ARROW",
     "BLACK CURVED UPWARDS AND RIGHTWARDS ARROW;BLACK HEART;BLACK-FEATHERED NORTH EAST ARROW",
     "BLACK-FEATHERED RIGHTWARDS ARROW;BLACK-FEATHERED SOUTH EAST ARROW;CHEVRON SNOWFLAKE",
     "CIRCLE;CIRCLE WITH CIRCLE INSIDE;CIRCLE WITH STROKE AND TWO DOTS ABOVE;CIRCLED SALTIRE",
     "CONCAVE-POINTED BLACK RIGHTWARDS ARROW;DIVISION SIGN",
     "DOUBLE COMMA QUOTATION MARK ORNAMENT;DOUBLE TURNED COMMA QUOTATION MARK ORNAMENT",
     "DOWNWARDS ARROW WITH EQUILATERAL ARROWHEAD",
     "DOWNWARDS ARROW WITH LARGE EQUILATERAL ARROWHEAD;EQUALS SIGN;EXCLAMATION MARK SYMBOL",
     "FIVE POINTED BLACK STAR;FOUR BALLOON-SPOKED ASTERISK;HEART EXCLAMATION MARK ORNAMENT",
     "HORIZONTAL FILL;INTERROBANG ORNAMENT;LARGE CIRCLE",
     "LEFT-POINTING ANGLE QUOTATION MARK ORNAMENT;LEFTWARDS ARROW WITH EQUILATERAL ARROWHEAD",
     "LEFTWARDS ARROW WITH LARGE EQUILATERAL ARROWHEAD",
     "LOW DOUBLE COMMA QUOTATION MARK ORNAMENT;LOW SINGLE COMMA QUOTATION MARK ORNAMENT",
     "LOWER RIGHT-SHADOWED WHITE RIGHTWARDS ARROW;MULTIPLICATION X;OPEN CENTRE CROSS",
     "OUTLINED BLACK STAR;OVAL WITH OVAL INSIDE;PLUS SIGN",
     "RIGHT-POINTING ANGLE QUOTATION MARK ORNAMENT;ROUND-TIPPED RIGHTWARDS ARROW",
     "SANS-SERIF INTERROBANG ORNAMENT;SINGLE COMMA QUOTATION MARK ORNAMENT",
     "SINGLE TURNED COMMA QUOTATION MARK ORNAMENT;TWELVE POINTED PINWHEEL STAR",
     "UPPER RIGHT-SHADOWED WHITE RIGHTWARDS ARROW;UPWARDS ARROW WITH EQUILATERAL ARROWHEAD",
     "UPWARDS ARROW WITH LARGE EQUILATERAL ARROWHEAD;WHITE DOWN-POINTING TRIANGLE",
     "WIDE-HEADED RIGHTWARDS ARROW"]⟩,
  ⟨["HEAVY ;WHITE "], ["EXCLAMATION MARK ORNAMENT"]⟩,
  ⟨["HEAVY ;LIGHT ;MEDIUM "],
    ["FIVE SPOKED ASTERISK;GREEK CROSS;SIX SPOKED ASTERISK;VERTICAL BAR;WHITE SQUARE"]⟩,
  ⟨["HEAVY ;MEDIUM "],
    ["LEFT-POINTING ANGLE BRACKET ORNAMENT;RIGHT-POINTING ANGLE BRACKET ORNAMENT;WHITE CIRCLE"]⟩,
  ⟨["HEAVY ARROW "],
    ["SHAFT WIDTH ONE;SHAFT WIDTH ONE HALF;SHAFT WIDTH ONE THIRD;SHAFT WIDTH TWO THIRDS"]⟩,
  ⟨["HEAVY NORTH ;HEAVY SOUTH "],
    ["EAST ARROW;EAST POINTING BUD;EAST POINTING VINE LEAF;WEST POINTING BUD",
     "WEST POINTING VINE LEAF"]⟩,
  ⟨["HEAVY RIGHTWARDS "],
    ["ARROW;ARROW WITH EQUILATERAL ARROWHEAD;ARROW WITH LARGE EQUILATERAL ARROWHEAD"]⟩,
  ⟨["HEAVY TEARDROP-"], ["SHANKED RIGHTWARDS ARROW;SPOKED ASTERISK;SPOKED PINWHEEL ASTERISK"]⟩,
  ⟨["HORIZONTAL "],
    ["BAR;BLACK HEXAGON;BLACK OCTAGON;ONE EIGHTH BLOCK-1358;SCAN LINE-1;SCAN LINE-3",
     "SCAN LINE-7;SCAN LINE-9"]⟩,
  ⟨["HORIZONTAL ;VERTICAL "], ["ELLIPSIS;LINE EXTENSION;MALE WITH STROKE SIGN;TAB KEY"]⟩,
  ⟨["IDENTICAL "], ["TO;TO AND SLANTED PARALLEL;WITH DOT ABOVE"]⟩,
  ⟨["INTEGRAL "], ["AROUND A POINT OPERATOR;AVERAGE WITH SLASH;EXTENSION"]⟩,
  ⟨["INTEGRAL WITH "],
    ["DOUBLE STROKE;INTERSECTION;LEFTWARDS ARROW WITH HOOK;OVERBAR;TIMES SIGN;UNDERBAR;UNION"]⟩,
  ⟨["INTERLINEAR "], ["ANNOTATION ANCHOR;ANNOTATION SEPARATOR;ANNOTATION TERMINATOR"]⟩,
  ⟨["INTERSECTION "],
    ["ABOVE BAR ABOVE UNION;ABOVE UNION;BESIDE AND JOINED WITH INTERSECTION;WITH DOT",
     "WITH LOGICAL AND;WITH OVERBAR"]⟩,
  ⟨["INVERSE "],
    ["BULLET;CHECK MARK;CHECKER BOARD FILL;DOWNWARDS ARROW WITH TIP LEFTWARDS;MEDIUM SHADE",
     "WHITE CIRCLE"]⟩,
  ⟨["INVERTED "], ["LAZY S;LOW KAVYKA WITH KAVYKA ABOVE"]⟩,
  ⟨["INVISIBLE "], ["PLUS;SEPARATOR;TIMES"]⟩,
  ⟨["LARGE "],
    ["BLUE SQUARE;BROWN CIRCLE;BROWN SQUARE;CIRCLE;DOWN TACK;GREEN CIRCLE;GREEN SQUARE",
     "LEFT TRIANGLE OPERATOR;ORANGE CIRCLE;ORANGE SQUARE;PURPLE CIRCLE;PURPLE SQUARE",
     "RED SQUARE;TRIPLE VERTICAL BAR OPERATOR;UP TACK;YELLOW CIRCLE;YELLOW SQUARE"]⟩,
  ⟨["LATIN SUBSCRIPT SMALL LETTER "], ["A;E;H;K;L;M;N;O;P;S;SCHWA;T;X"]⟩,
  ⟨["LEFT "],
    ["ANGLE BRACKET WITH DOT;ARC LESS-THAN BRACKET;BARB DOWN RIGHT BARB DOWN HARPOON",
     "BARB DOWN RIGHT BARB UP HARPOON;BARB UP RIGHT BARB DOWN HARPOON",
     "BARB UP RIGHT BARB UP HARPOON;CLOSED ENTRY;DOUBLE PARENTHESIS;DOUBLE QUOTATION MARK",
     "DOUBLE WIGGLY FENCE;MULTIMAP;TRIANGLE BESIDE VERTICAL BAR"]⟩,
  ⟨["LEFT ;RIGHT "],
    ["ARROW WITH CIRCLED PLUS;ARROW WITH SMALL CIRCLE;BLACK TORTOISE SHELL BRACKET;CEILING",
     "CURLY BRACKET LOWER HOOK;CURLY BRACKET MIDDLE PIECE;CURLY BRACKET UPPER HOOK",
     "DOTTED SUBSTITUTION BRACKET;FISH TAIL;FLOOR;LOW PARAPHRASE BRACKET",
     "NORMAL FACTOR SEMIDIRECT PRODUCT;OUTER JOIN;RAISED OMISSION BRACKET",
     "S-SHAPED BAG DELIMITER;SEMIDIRECT PRODUCT;SIDEWAYS U BRACKET;SINGLE QUOTATION MARK",
     "SUBSTITUTION BRACKET;TACK;THIRD WHITE RIGHT POINTING INDEX;TRANSPOSITION BRACKET",
     "VERTICAL BAR WITH QUILL;VERTICAL BOX LINE;WHITE CURLY BRACKET;WHITE PARENTHESIS",
     "WIGGLY FENCE"]⟩,
  ⟨["LEFT ;LOWER ;RIGHT ;UPPER "],
    ["FIVE EIGHTHS BLOCK;ONE EIGHTH BLOCK;ONE QUARTER BLOCK;SEVEN EIGHTHS BLOCK",
     "THREE EIGHTHS BLOCK;THREE QUARTERS BLOCK;TRIANGULAR ONE QUARTER BLOCK"]⟩,
  ⟨["LEFT AND "],
    ["LOWER AND RIGHT TRIANGULAR THREE QUARTERS BLOCK;LOWER ONE EIGHTH BLOCK",
     "RIGHT DOUBLE TURNSTILE;RIGHT TACK;RIGHT TRIANGULAR HALF BLOCK",
     "UPPER AND RIGHT TRIANGULAR THREE QUARTERS BLOCK;UPPER ONE EIGHTH BLOCK"]⟩,
  ⟨["LEFT HALF ;RIGHT HALF "], ["BLACK CIRCLE;BLACK STAR;BLOCK;FOLDER;MEDIUM SHADE;RUNNING MAN"]⟩,
  ⟨["LEFT HALF "], ["INVERSE MEDIUM SHADE AND RIGHT HALF BLOCK"]⟩,
  ⟨["LEFT PARENTHESIS ;RIGHT PARENTHESIS "], ["EXTENSION;LOWER HOOK;UPPER HOOK"]⟩,
  ⟨["LEFT RIGHT ;NORTH EAST ;NORTH WEST ;SOUTH EAST ;SOUTH WEST ;UP DOWN "],
    ["ARROW;BLACK ARROW;DOUBLE ARROW;SANS-SERIF ARROW;TRIANGLE-HEADED ARROW;WHITE ARROW"]⟩,
  ⟨["LEFT RIGHT "],
    ["ARROW THROUGH SMALL CIRCLE;ARROW WITH DOUBLE VERTICAL STROKE;ARROW WITH STROKE",
     "ARROW WITH VERTICAL STROKE;DOUBLE ARROW WITH STROKE;DOUBLE ARROW WITH VERTICAL STROKE",
     "OPEN-HEADED ARROW;WAVE ARROW"]⟩,
  ⟨["LEFT SQUARE BRACKET ;RIGHT SQUARE BRACKET "],
    ["EXTENSION;LOWER CORNER;UPPER CORNER;WITH DOUBLE STROKE;WITH QUILL;WITH STROKE",
     "WITH TICK IN BOTTOM CORNER;WITH TICK IN TOP CORNER;WITH UNDERBAR"]⟩,
  ⟨["LEFT-;RIGHT-"],
    ["HANDED INTERLACED PENTAGRAM;POINTING ANGLE BRACKET;POINTING CURVED ANGLE BRACKET",
     "SHADED WHITE RIGHTWARDS ARROW"]⟩,
  ⟨["LEFT-"],
    ["SIDE ARC ANTICLOCKWISE ARROW;TO-RIGHT EMBEDDING;TO-RIGHT ISOLATE;TO-RIGHT MARK",
     "TO-RIGHT OVERRIDE"]⟩,
  ⟨["LEFTWARDS ;RIGHTWARDS "],
    ["ARROW-TAIL;BACK-TILTED SHADOWED WHITE ARROW;FRONT-TILTED SHADOWED WHITE ARROW",
     "LEFT-SHADED WHITE ARROW;OPEN-HEADED ARROW;RIGHT-SHADED WHITE ARROW;SQUIGGLE ARROW",
     "TOP SHADED WHITE ARROW;TRIPLE DASH ARROW;TWO-HEADED TRIPLE DASH ARROW;WAVE ARROW",
     "WHITE ARROW WITHIN TRIANGLE ARROWHEAD"]⟩,
  ⟨["LEFTWARDS "], ["BOTTOM-SHADED WHITE ARROW;HARPOON OVER RIGHTWARDS HARPOON"]⟩,
  ⟨["LEFTWARDS ;RIGHTWARDS ;UPWARDS "],
    ["TRIANGLE-HEADED ARROW;TRIANGLE-HEADED DASHED ARROW;TRIANGLE-HEADED PAIRED ARROWS"]⟩,
  ⟨["LEFTWARDS ARROW ;RIGHTWARDS ARROW "],
    ["ABOVE ALMOST EQUAL TO;ABOVE REVERSE ALMOST EQUAL TO;ABOVE REVERSE TILDE OPERATOR",
     "ABOVE TILDE OPERATOR;AND UPPER AND LOWER ONE EIGHTH BLOCK;FROM BAR",
     "FROM BAR TO BLACK DIAMOND;THROUGH X;TO BAR;TO BLACK DIAMOND"]⟩,
  ⟨["LEFTWARDS ARROW "],
    ["ABOVE SHORT RIGHTWARDS ARROW;OVER RIGHTWARDS ARROW;THROUGH LESS-THAN;THROUGH SUBSET",
     "TO BAR OVER RIGHTWARDS ARROW TO BAR"]⟩,
  ⟨["LEFTWARDS ARROW WITH ;RIGHTWARDS ARROW WITH "],
    ["DOTTED STEM;DOUBLE VERTICAL STROKE;HOOK;LOOP;PLUS BELOW;STROKE;TAIL",
     "TAIL WITH DOUBLE VERTICAL STROKE;TAIL WITH VERTICAL STROKE;TIP DOWNWARDS;TIP UPWARDS",
     "VERTICAL STROKE"]⟩,
  ⟨["LEFTWARDS DOUBLE ;RIGHTWARDS DOUBLE "],
    ["ARROW;ARROW FROM BAR;ARROW WITH STROKE;ARROW WITH VERTICAL STROKE;ARROW-TAIL;DASH ARROW"]⟩,
  ⟨["LEFTWARDS HARPOON WITH BARB "],
    ["DOWN ABOVE RIGHTWARDS HARPOON WITH BARB DOWN;UP ABOVE LEFTWARDS HARPOON WITH BARB DOWN",
     "UP ABOVE RIGHTWARDS HARPOON WITH BARB UP"]⟩,
  ⟨["LEFTWARDS HARPOON WITH BARB ;RIGHTWARDS HARPOON WITH BARB "],
    ["DOWN BELOW LONG DASH;DOWN FROM BAR;DOWN TO BAR;DOWNWARDS;UP ABOVE LONG DASH;UP FROM BAR",
     "UP TO BAR;UPWARDS"]⟩,
  ⟨["LEFTWARDS TRIANGLE-HEADED ARROW "], ["OVER RIGHTWARDS TRIANGLE-HEADED ARROW"]⟩,
  ⟨["LEFTWARDS TRIANGLE-HEADED ARROW ;RIGHTWARDS TRIANGLE-HEADED ARROW "],
    ["TO BAR;WITH BOLD SHAFT;WITH DOUBLE HORIZONTAL STROKE;WITH HEAVY SHAFT",
     "WITH LONG TIP DOWNWARDS;WITH LONG TIP UPWARDS;WITH MEDIUM SHAFT;WITH NARROW SHAFT",
     "WITH VERY HEAVY SHAFT"]⟩,
  ⟨["LEFTWARDS TWO-HEADED ARROW ;RIGHTWARDS TWO-HEADED ARROW "],
    ["FROM BAR;WITH DOUBLE VERTICAL STROKE;WITH TAIL;WITH TAIL WITH DOUBLE VERTICAL STROKE",
     "WITH TAIL WITH VERTICAL STROKE;WITH TRIANGLE ARROWHEADS;WITH VERTICAL STROKE"]⟩,
  ⟨["LESS-THAN "], ["EQUAL TO OR GREATER-THAN;OR GREATER-THAN"]⟩,
  ⟨["LESS-THAN ABOVE "],
    ["DOUBLE-LINE EQUAL ABOVE GREATER-THAN;GREATER-THAN ABOVE DOUBLE-LINE EQUAL",
     "LEFTWARDS ARROW;SIMILAR ABOVE GREATER-THAN;SIMILAR OR EQUAL",
     "SLANTED EQUAL ABOVE GREATER-THAN ABOVE SLANTED EQUAL"]⟩,
  ⟨["LESS-THAN OR SLANTED "],
    ["EQUAL TO;EQUAL TO WITH DOT ABOVE;EQUAL TO WITH DOT ABOVE RIGHT;EQUAL TO WITH DOT INSIDE"]⟩,
  ⟨["LIGHT "],
    ["FIVE POINTED BLACK STAR;FOUR POINTED BLACK CUSP;LEFT TORTOISE SHELL BRACKET ORNAMENT",
     "RIGHT TORTOISE SHELL BRACKET ORNAMENT"]⟩,
  ⟨["LIGHT ;MEDIUM "], ["FOUR POINTED BLACK STAR;SALTIRE;SHADE;THREE POINTED BLACK STAR"]⟩,
  ⟨["LINE INTEGRATION "],
    ["NOT INCLUDING THE POLE;WITH RECTANGULAR PATH AROUND POLE",
     "WITH SEMICIRCULAR PATH AROUND POLE"]⟩,
  ⟨["LOGICAL "],
    ["AND;OR;OR OVERLAPPING LOGICAL AND;OR WITH DOT ABOVE;OR WITH DOUBLE OVERBAR",
     "OR WITH DOUBLE UNDERBAR;OR WITH HORIZONTAL DASH;OR WITH MIDDLE STEM"]⟩,
  ⟨["LOGICAL AND WITH "],
    ["DOT ABOVE;DOUBLE OVERBAR;DOUBLE UNDERBAR;HORIZONTAL DASH;MIDDLE STEM;UNDERBAR"]⟩,
  ⟨["LONG "],
    ["DASH FROM LEFT MEMBER OF DOUBLE VERTICAL;DIVISION;LEFT RIGHT ARROW",
     "LEFT RIGHT DOUBLE ARROW;LEFT TACK;RIGHT TACK"]⟩,
  ⟨["LONG LEFTWARDS ;LONG RIGHTWARDS "],
    ["ARROW;ARROW FROM BAR;DOUBLE ARROW;DOUBLE ARROW FROM BAR;SQUIGGLE ARROW"]⟩,
  ⟨["LOWER ;UPPER "], ["BLADE SCISSORS"]⟩,
  ⟨["LOWER "], ["HALF BLOCK;HALF CIRCLE;HALF INVERSE WHITE CIRCLE;HALF MEDIUM SHADE"]⟩,
  ⟨["LOWER LEFT ;UPPER RIGHT "],
    ["BLOCK DIAGONAL LOWER MIDDLE LEFT TO LOWER CENTRE",
     "BLOCK DIAGONAL LOWER MIDDLE LEFT TO LOWER RIGHT;QUADRANT CIRCULAR ARC;TRIANGLE",
     "TRIANGULAR MEDIUM SHADE"]⟩,
  ⟨["LOWER LEFT "], ["SEMICIRCULAR ANTICLOCKWISE ARROW"]⟩,
  ⟨["LOWER LEFT BLOCK DIAGONAL UPPER ;UPPER RIGHT BLOCK DIAGONAL UPPER "],
    ["CENTRE TO LOWER MIDDLE RIGHT;CENTRE TO LOWER RIGHT;CENTRE TO UPPER MIDDLE RIGHT",
     "LEFT TO LOWER CENTRE;LEFT TO LOWER MIDDLE RIGHT;LEFT TO UPPER MIDDLE RIGHT",
     "MIDDLE LEFT TO LOWER CENTRE;MIDDLE LEFT TO LOWER MIDDLE RIGHT;MIDDLE LEFT TO LOWER RIGHT"]⟩,
  ⟨["LOWER RIGHT ;UPPER LEFT "],
    ["BLOCK DIAGONAL UPPER MIDDLE LEFT TO UPPER CENTRE",
     "BLOCK DIAGONAL UPPER MIDDLE LEFT TO UPPER RIGHT;CORNER WITH DOT;QUADRANT CIRCULAR ARC",
     "TRIANGLE;TRIANGULAR MEDIUM SHADE"]⟩,
  ⟨["LOWER RIGHT ;UPPER RIGHT "], ["DROP-SHADOWED WHITE SQUARE;PENCIL;SHADOWED WHITE SQUARE"]⟩,
  ⟨["LOWER RIGHT "], ["SEMICIRCULAR CLOCKWISE ARROW"]⟩,
  ⟨["LOWER RIGHT BLOCK DIAGONAL LOWER ;UPPER LEFT BLOCK DIAGONAL LOWER "],
    ["CENTRE TO LOWER MIDDLE RIGHT;CENTRE TO UPPER MIDDLE RIGHT;CENTRE TO UPPER RIGHT",
     "LEFT TO LOWER MIDDLE RIGHT;LEFT TO UPPER CENTRE;LEFT TO UPPER MIDDLE RIGHT",
     "MIDDLE LEFT TO UPPER CENTRE;MIDDLE LEFT TO UPPER MIDDLE RIGHT;MIDDLE LEFT TO UPPER RIGHT"]⟩,
  ⟨["MALE "], ["AND FEMALE SIGN;SIGN;WITH STROKE AND MALE AND FEMALE SIGN;WITH STROKE SIGN"]⟩,
  ⟨["MATHEMATICAL "],
    ["FALLING DIAGONAL;LEFT ANGLE BRACKET;LEFT DOUBLE ANGLE BRACKET;LEFT FLATTENED PARENTHESIS",
     "LEFT WHITE SQUARE BRACKET;LEFT WHITE TORTOISE SHELL BRACKET;RISING DIAGONAL"]⟩,
  ⟨["MATHEMATICAL RIGHT "],
    ["ANGLE BRACKET;DOUBLE ANGLE BRACKET;FLATTENED PARENTHESIS;WHITE SQUARE BRACKET",
     "WHITE TORTOISE SHELL BRACKET"]⟩,
  ⟨["MEASURED "], ["ANGLE;ANGLE OPENING LEFT;BY;RIGHT ANGLE WITH DOT"]⟩,
  ⟨["MEASURED ANGLE WITH OPEN ARM ENDING IN ARROW POINTING "],
    ["DOWN AND LEFT;DOWN AND RIGHT;LEFT AND DOWN;LEFT AND UP;RIGHT AND DOWN;RIGHT AND UP",
     "UP AND LEFT;UP AND RIGHT"]⟩,
  ⟨["MEDIEVAL ;PRESENTATION FORM FOR VERTICAL ;TAG "], ["COMMA;EXCLAMATION MARK;QUESTION MARK"]⟩,
  ⟨["MEDIUM "],
    ["BLACK CIRCLE;BOLD WHITE CIRCLE;EIGHT POINTED BLACK STAR",
     "FLATTENED LEFT PARENTHESIS ORNAMENT;FLATTENED RIGHT PARENTHESIS ORNAMENT",
     "FOUR POINTED PINWHEEL STAR;LEFT CURLY BRACKET ORNAMENT;LEFT PARENTHESIS ORNAMENT",
     "MATHEMATICAL SPACE;RIGHT CURLY BRACKET ORNAMENT;RIGHT PARENTHESIS ORNAMENT",
     "SIX POINTED BLACK STAR;SMALL WHITE CIRCLE;THREE POINTED PINWHEEL STAR"]⟩,
  ⟨["METRICAL "],
    ["BREVE;LONG OVER SHORT;LONG OVER TWO SHORTS;PENTASEME;SHORT OVER LONG;TETRASEME;TRISEME",
     "TWO SHORTS JOINED;TWO SHORTS OVER LONG"]⟩,
  ⟨["MINUS SIGN "],
    ["IN TRIANGLE;WITH COMMA ABOVE;WITH DOT BELOW;WITH FALLING DOTS;WITH RISING DOTS"]⟩,
  ⟨["MULTIPLICATION "], ["SIGN IN DOUBLE CIRCLE;SIGN WITH DOT ABOVE;SIGN WITH UNDERBAR;X"]⟩,
  ⟨["MULTIPLICATION ;PLUS "],
    ["SIGN IN LEFT HALF CIRCLE;SIGN IN RIGHT HALF CIRCLE;SIGN IN TRIANGLE"]⟩,
  ⟨["MUSIC "], ["FLAT SIGN;NATURAL SIGN;SHARP SIGN"]⟩,
  ⟨["N-ARY "],
    ["CIRCLED DOT OPERATOR;CIRCLED PLUS OPERATOR;CIRCLED TIMES OPERATOR;COPRODUCT;INTERSECTION",
     "LOGICAL AND;LOGICAL OR;PRODUCT;SQUARE INTERSECTION OPERATOR;SQUARE UNION OPERATOR",
     "SUMMATION;TIMES OPERATOR;UNION;UNION OPERATOR WITH DOT;UNION OPERATOR WITH PLUS",
     "WHITE VERTICAL BAR"]⟩,
  ⟨["NEGATIVE "],
    ["CIRCLED DIGIT ZERO;CIRCLED SQUARE;CIRCLED TRIANGLE;DIAGONAL CROSS;DIAGONAL DIAMOND",
     "DIAGONAL MIDDLE RIGHT TO LOWER CENTRE"]⟩,
  ⟨["NEGATIVE SQUARED "], ["AB;CROSS MARK;IC;PA;QUESTION MARK;SA;WC"]⟩,
  ⟨["NEITHER "],
    ["A SUBSET OF NOR EQUAL TO;A SUPERSET OF NOR EQUAL TO;APPROXIMATELY NOR ACTUALLY EQUAL TO",
     "GREATER-THAN NOR EQUAL TO;GREATER-THAN NOR EQUIVALENT TO;GREATER-THAN NOR LESS-THAN",
     "LESS-THAN NOR EQUAL TO;LESS-THAN NOR EQUIVALENT TO;LESS-THAN NOR GREATER-THAN"]⟩,
  ⟨["NORTH EAST "],
    ["AND SOUTH WEST ARROW;ARROW AND SOUTH EAST ARROW;ARROW CROSSING NORTH WEST ARROW",
     "ARROW CROSSING SOUTH EAST ARROW"]⟩,
  ⟨["NORTH EAST ;SOUTH EAST ;SOUTH WEST "], ["ARROW WITH HOOK"]⟩,
  ⟨["NORTH EAST ;NORTH WEST ;SOUTH EAST ;SOUTH WEST "],
    ["POINTING BUD;POINTING LEAF;POINTING VINE LEAF;TRIANGLE-HEADED ARROW TO BAR"]⟩,
  ⟨["NORTH WEST "], ["AND SOUTH EAST ARROW"]⟩,
  ⟨["NORTH WEST ARROW "],
    ["AND NORTH EAST ARROW;CROSSING NORTH EAST ARROW;TO CORNER;TO LONG BAR;WITH HOOK"]⟩,
  ⟨["NOT "],
    ["A SUBSET OF;A SUPERSET OF;ALMOST EQUAL TO;AN ELEMENT OF;CHECK MARK;EQUAL TO;GREATER-THAN",
     "IDENTICAL TO;LESS-THAN;PARALLEL TO;SQUARE IMAGE OF OR EQUAL TO",
     "SQUARE ORIGINAL OF OR EQUAL TO;TILDE"]⟩,
  ⟨["NUMBER "],
    ["EIGHTEEN FULL STOP;ELEVEN FULL STOP;FIFTEEN FULL STOP;FOURTEEN FULL STOP",
     "NINETEEN FULL STOP;SEVENTEEN FULL STOP;SIXTEEN FULL STOP;TEN FULL STOP",
     "THIRTEEN FULL STOP;TWELVE FULL STOP;TWENTY FULL STOP"]⟩,
  ⟨["OBLIQUE "], ["ANGLE OPENING DOWN;ANGLE OPENING UP;HYPHEN"]⟩,
  ⟨["OCR "],
    ["AMOUNT OF CHECK;BELT BUCKLE;BOW TIE;BRANCH BANK IDENTIFICATION;CHAIR",
     "CUSTOMER ACCOUNT NUMBER;DASH;DOUBLE BACKSLASH;FORK;HOOK;INVERTED FORK"]⟩,
  ⟨["OLD TURKIC LETTER ORKHON ;OLD TURKIC LETTER YENISEI "],
    ["A;AB;AD;AEB;AEG;AEK;AEN;AET;AEY;AG;AL;AQ;AR;ASH;AT;AY;EC;ENC;ENT;ENY;ESH;EZ;I;IQ;OE;OEK",
     "OQ"]⟩,
  ⟨["OLD TURKIC LETTER ORKHON "], ["AED;AEL;AER;AES;AN;AS;BASH;ELT;EM;ENG;EP;IC;O;OP;OT"]⟩,
  ⟨["OLD TURKIC LETTER YENISEI "], ["AE;AENG;ANG;E"]⟩,
  ⟨["OPEN CENTRE "], ["ASTERISK;BLACK STAR;CROSS;TEARDROP-SPOKED ASTERISK"]⟩,
  ⟨["OUTLINED "], ["BLACK STAR;GREEK CROSS;LATIN CROSS;WHITE STAR"]⟩,
  ⟨["OVERLAPPING "], ["BLACK SQUARES;WHITE AND BLACK SQUARES;WHITE SQUARES"]⟩,
  ⟨["PARALLEL "], ["TO;WITH HORIZONTAL STROKE;WITH TILDE OPERATOR"]⟩,
  ⟨["PLUS "], ["SIGN ABOVE EQUALS SIGN"]⟩,
  ⟨["PLUS SIGN WITH "],
    ["BLACK TRIANGLE;CIRCUMFLEX ACCENT ABOVE;DOT BELOW;SMALL CIRCLE ABOVE;SUBSCRIPT TWO",
     "TILDE ABOVE;TILDE BELOW"]⟩,
  ⟨["PLUTO "], ["FORM FIVE;FORM FOUR;FORM THREE;FORM TWO"]⟩,
  ⟨["POWER "], ["ON SYMBOL;ON-OFF SYMBOL;SLEEP SYMBOL;SYMBOL"]⟩,
  ⟨["PRECEDES ;SUCCEEDS "], ["BUT NOT EQUIVALENT TO;OR EQUAL TO;OR EQUIVALENT TO;UNDER RELATION"]⟩,
  ⟨["PRECEDES ABOVE ;SUCCEEDS ABOVE "],
    ["ALMOST EQUAL TO;EQUALS SIGN;NOT ALMOST EQUAL TO;NOT EQUAL TO;SINGLE-LINE EQUALS SIGN",
     "SINGLE-LINE NOT EQUAL TO"]⟩,
  ⟨["PRESENTATION FORM FOR VERTICAL "],
    ["COLON;HORIZONTAL ELLIPSIS;IDEOGRAPHIC COMMA;IDEOGRAPHIC FULL STOP",
     "LEFT WHITE LENTICULAR BRACKET;RIGHT WHITE LENTICULAR BRAKCET;SEMICOLON"]⟩,
  ⟨["QUADRANT UPPER "],
    ["LEFT;LEFT AND LOWER LEFT AND LOWER RIGHT;LEFT AND LOWER RIGHT",
     "LEFT AND UPPER RIGHT AND LOWER LEFT;LEFT AND UPPER RIGHT AND LOWER RIGHT;RIGHT",
     "RIGHT AND LOWER LEFT;RIGHT AND LOWER LEFT AND LOWER RIGHT"]⟩,
  ⟨["RAISED "],
    ["COMMA;DOT;DOTTED INTERPOLATION MARKER;FIST;HAND;INTERPOLATION MARKER;MC SIGN;MD SIGN",
     "MR SIGN;SQUARE"]⟩,
  ⟨["RECYCLING SYMBOL FOR "],
    ["GENERIC MATERIALS;TYPE-1 PLASTICS;TYPE-2 PLASTICS;TYPE-3 PLASTICS;TYPE-4 PLASTICS",
     "TYPE-5 PLASTICS;TYPE-6 PLASTICS;TYPE-7 PLASTICS"]⟩,
  ⟨["RETURN "], ["LEFT;RIGHT;SYMBOL"]⟩,
  ⟨["REVERSE "],
    ["CHECKER BOARD;LIGHT FOUR POINTED PINWHEEL STAR;SOLIDUS OPERATOR;SOLIDUS PRECEDING SUBSET",
     "SOLIDUS WITH HORIZONTAL STROKE;TILDE OPERATOR ABOVE LEFTWARDS ARROW",
     "TILDE OPERATOR ABOVE RIGHTWARDS ARROW"]⟩,
  ⟨["REVERSED ;TURNED "], ["ANGLE;COMMA;NOT SIGN;SANS-SERIF CAPITAL L;SEMICOLON"]⟩,
  ⟨["REVERSED "],
    ["DOUBLE PRIME;DOUBLE STROKE NOT SIGN;EMPTY SET;PILCROW SIGN;PRIME;QUESTION MARK",
     "RIGHT ANGLE;ROTATED FLORAL HEART BULLET;TILDE;TILDE EQUALS;TRIPLE PRIME"]⟩,
  ⟨["RIBBON ARROW "],
    ["DOWN LEFT;DOWN RIGHT;LEFT DOWN;LEFT UP;RIGHT DOWN;RIGHT UP;UP LEFT;UP RIGHT"]⟩,
  ⟨["RIGHT ;UPPER "], ["AND LOWER ONE EIGHTH BLOCK"]⟩,
  ⟨["RIGHT "],
    ["AND UPPER ONE EIGHTH BLOCK;ANGLE;ARC GREATER-THAN BRACKET;OPEN SQUARED DOT;TRIANGLE",
     "TRIANGLE ABOVE LEFT TRIANGLE"]⟩,
  ⟨["RIGHT ANGLE "],
    ["BRACKET WITH DOT;DOTTED SUBSTITUTION MARKER;SUBSTITUTION MARKER;VARIANT WITH SQUARE",
     "WITH ARC;WITH DOWNWARDS ZIGZAG ARROW"]⟩,
  ⟨["RIGHT DOUBLE "], ["ARROW WITH ROUNDED HEAD;PARENTHESIS;QUOTATION MARK;WIGGLY FENCE"]⟩,
  ⟨["RIGHT-"],
    ["SIDE ARC CLOCKWISE ARROW;TO-LEFT EMBEDDING;TO-LEFT ISOLATE;TO-LEFT MARK;TO-LEFT OVERRIDE"]⟩,
  ⟨["RIGHTWARDS "],
    ["BOTTOM SHADED WHITE ARROW;HARPOON OVER LEFTWARDS HARPOON;WHITE ARROW FROM WALL"]⟩,
  ⟨["RIGHTWARDS ARROW "],
    ["ABOVE SHORT LEFTWARDS ARROW;OVER LEFTWARDS ARROW;THROUGH GREATER-THAN;THROUGH SUPERSET"]⟩,
  ⟨["RIGHTWARDS ARROW WITH "], ["CORNER DOWNWARDS"]⟩,
  ⟨["RIGHTWARDS HARPOON WITH BARB "],
    ["DOWN ABOVE LEFTWARDS HARPOON WITH BARB DOWN;UP ABOVE LEFTWARDS HARPOON WITH BARB UP",
     "UP ABOVE RIGHTWARDS HARPOON WITH BARB DOWN"]⟩,
  ⟨["RIGHTWARDS TRIANGLE-HEADED ARROW "], ["OVER LEFTWARDS TRIANGLE-HEADED ARROW"]⟩,
  ⟨["RING "], ["EQUAL TO;IN EQUAL TO;OPERATOR;POINT"]⟩,
  ⟨["ROMAN NUMERAL ;SMALL ROMAN NUMERAL "],
    ["ELEVEN;FIFTY;FIVE HUNDRED;ONE HUNDRED;ONE THOUSAND;TEN;TWELVE"]⟩,
  ⟨["ROMAN NUMERAL "],
    ["FIFTY EARLY FORM;FIFTY THOUSAND;FIVE THOUSAND;ONE HUNDRED THOUSAND;ONE THOUSAND C D",
     "REVERSED ONE HUNDRED;SIX LATE FORM;TEN THOUSAND"]⟩,
  ⟨["ROTATED "],
    ["CAPITAL Q;FLORAL HEART BULLET;HEAVY BLACK HEART BULLET;LIGHT FOUR POINTED BLACK CUSP",
     "WHITE FOUR POINTED CUSP"]⟩,
  ⟨["RUSSIAN ASTROLOGICAL SYMBOL "], ["BINOVILE;NOVILE;QUINTILE;SENTAGON;TREDECILE;VIGINTILE"]⟩,
  ⟨["SANS-SERIF "],
    ["HEAVY DOUBLE COMMA QUOTATION MARK ORNAMENT",
     "HEAVY DOUBLE TURNED COMMA QUOTATION MARK ORNAMENT",
     "HEAVY LOW DOUBLE COMMA QUOTATION MARK ORNAMENT;INTERROBANG ORNAMENT"]⟩,
  ⟨["SCRIPT CAPITAL "], ["B;E;F;H;I;L;M;P;R"]⟩,
  ⟨["SCRIPT SMALL "], ["E;G;L;O"]⟩,
  ⟨["SHADOWED "], ["WHITE CIRCLE;WHITE LATIN CROSS;WHITE STAR"]⟩,
  ⟨["SHORT "],
    ["BACKSLANTED SOUTH ARROW;DOWN TACK;DOWN TACK WITH OVERBAR;LEFT TACK",
     "RIGHTWARDS ARROW ABOVE LEFTWARDS ARROW;SLANTED NORTH ARROW;UP TACK",
     "UP TACK ABOVE SHORT DOWN TACK;UP TACK WITH UNDERBAR"]⟩,
  ⟨["SIMILAR "],
    ["ABOVE GREATER-THAN ABOVE EQUALS SIGN;ABOVE LESS-THAN ABOVE EQUALS SIGN;MINUS SIMILAR",
     "OR GREATER-THAN;OR LESS-THAN"]⟩,
  ⟨["SINGLE "], ["LEFT-POINTING ANGLE QUOTATION MARK;RIGHT-POINTING ANGLE QUOTATION MARK"]⟩,
  ⟨["SLANTED "],
    ["EQUAL TO OR GREATER-THAN WITH DOT INSIDE;EQUAL TO OR LESS-THAN WITH DOT INSIDE",
     "NORTH ARROW WITH HOOKED HEAD;NORTH ARROW WITH HORIZONTAL TAIL"]⟩,
  ⟨["SMALL "],
    ["ELEMENT OF;ELEMENT OF WITH OVERBAR",
     "ELEMENT OF WITH VERTICAL BAR AT END OF HORIZONTAL STROKE;VEE WITH UNDERBAR"]⟩,
  ⟨["SOUTH EAST "],
    ["ARROW AND SOUTH WEST ARROW;ARROW CROSSING NORTH EAST ARROW;ARROW TO CORNER"]⟩,
  ⟨["SOUTH WEST "], ["ARROW AND NORTH WEST ARROW"]⟩,
  ⟨["SPHERICAL "], ["ANGLE;ANGLE OPENING LEFT;ANGLE OPENING UP"]⟩,
  ⟨["SQUARE "],
    ["CAP;CUP;DJ;FOOT;FOUR CORNERS;IMAGE OF OR EQUAL TO;IMAGE OF OR NOT EQUAL TO",
     "LEFT OPEN BOX OPERATOR;LOZENGE;RIGHT OPEN BOX OPERATOR;ROOT;TARGET"]⟩,
  ⟨["SQUARE ORIGINAL "], ["OF;OF OR EQUAL TO;OF OR NOT EQUAL TO"]⟩,
  ⟨["SQUARE WITH "],
    ["BOTTOM HALF BLACK;CONTOURED OUTLINE;DIAGONAL CROSSHATCH FILL;HORIZONTAL FILL",
     "LOWER LEFT DIAGONAL HALF BLACK;LOWER RIGHT DIAGONAL HALF BLACK",
     "ORTHOGONAL CROSSHATCH FILL;TOP HALF BLACK;UPPER LEFT DIAGONAL HALF BLACK",
     "UPPER LEFT TO LOWER RIGHT FILL;UPPER RIGHT DIAGONAL HALF BLACK",
     "UPPER RIGHT TO LOWER LEFT FILL"]⟩,
  ⟨["SQUARED "],
    ["ASTERISK;CL;COOL;DOT OPERATOR;EIGHT K;FALLING DIAGONAL SLASH;FIVE POINT ONE",
     "FOUR DOT PUNCTUATION;FOUR K;FREE;HC;HDR;HI-RES;HV;ID;KEY;LATIN SMALL LETTER D",
     "LOGICAL AND;LOGICAL OR;LOSSLESS;MINUS;MV;NEW;NG;OK;ONE HUNDRED TWENTY P;PLUS;PPV",
     "RISING DIAGONAL SLASH;SALTIRE;SD;SECOND SCREEN;SEVEN POINT ONE;SHV;SIXTY P;SMALL CIRCLE",
     "SOS;SQUARE;SS;THREE D;TIMES;TWENTY-TWO POINT TWO;TWO K;UHD;UP WITH EXCLAMATION MARK;VOD",
     "VS;WC"]⟩,
  ⟨["STAR "], ["AND CRESCENT;EQUALS;OF DAVID"]⟩,
  ⟨["STICK FIGURE "], ["LEANING LEFT;LEANING RIGHT;WITH ARMS RAISED;WITH DRESS"]⟩,
  ⟨["SUBSCRIPT ;SUPERSCRIPT "], ["EIGHT;FIVE;FOUR;MINUS;NINE;SEVEN;SIX;ZERO"]⟩,
  ⟨["SUBSCRIPT ;SUPERSCRIPT ;TAG "], ["EQUALS SIGN;LEFT PARENTHESIS;PLUS SIGN;RIGHT PARENTHESIS"]⟩,
  ⟨["SUBSCRIPT "], ["ONE;THREE;TWO"]⟩,
  ⟨["SUBSET ;SUPERSET "],
    ["ABOVE SUBSET;ABOVE SUPERSET;OF;WITH DOT;WITH MULTIPLICATION SIGN BELOW",
     "WITH PLUS SIGN BELOW"]⟩,
  ⟨["SUBSET OF "],
    ["ABOVE ALMOST EQUAL TO;ABOVE EQUALS SIGN;ABOVE NOT EQUAL TO;ABOVE TILDE OPERATOR",
     "OR EQUAL TO;OR EQUAL TO WITH DOT ABOVE;WITH NOT EQUAL TO"]⟩,
  ⟨["SUMMATION "], ["BOTTOM;TOP;WITH INTEGRAL"]⟩,
  ⟨["SUPERSCRIPT "], ["LATIN SMALL LETTER I;LATIN SMALL LETTER N"]⟩,
  ⟨["SUPERSET "],
    ["ABOVE LEFTWARDS ARROW;BESIDE AND JOINED BY DASH WITH SUBSET;BESIDE SUBSET",
     "OF ABOVE ALMOST EQUAL TO;OF ABOVE EQUALS SIGN;OF ABOVE NOT EQUAL TO",
     "OF ABOVE TILDE OPERATOR;OF OR EQUAL TO;OF OR EQUAL TO WITH DOT ABOVE",
     "OF WITH NOT EQUAL TO;PRECEDING SOLIDUS"]⟩,
  ⟨["SYMBOL FOR "],
    ["ACKNOWLEDGE;BACKSPACE;BELL;CANCEL;CARRIAGE RETURN;DATA LINK ESCAPE;DELETE",
     "DELETE FORM TWO;DEVICE CONTROL FOUR;DEVICE CONTROL ONE;DEVICE CONTROL THREE",
     "DEVICE CONTROL TWO;END OF MEDIUM;END OF TEXT;END OF TRANSMISSION",
     "END OF TRANSMISSION BLOCK;ENQUIRY;ESCAPE;FILE SEPARATOR;FORM FEED;GROUP SEPARATOR",
     "HORIZONTAL TABULATION;LINE FEED;NEGATIVE ACKNOWLEDGE;NEWLINE;NULL;RECORD SEPARATOR",
     "SAMARITAN SOURCE;SHIFT IN;SHIFT OUT;SPACE;START OF HEADING;START OF TEXT;SUBSTITUTE",
     "SUBSTITUTE FORM TWO;SYNCHRONOUS IDLE;TYPE A ELECTRONICS;UNIT SEPARATOR",
     "VERTICAL TABULATION"]⟩,
  ⟨["TAG "],
    ["AMPERSAND;APOSTROPHE;ASTERISK;CIRCUMFLEX ACCENT;COLON;COMMERCIAL AT;DOLLAR SIGN",
     "FULL STOP;GRAVE ACCENT;GREATER-THAN SIGN;HYPHEN-MINUS;LEFT CURLY BRACKET",
     "LEFT SQUARE BRACKET;LESS-THAN SIGN;LOW LINE;NUMBER SIGN;PERCENT SIGN;QUOTATION MARK",
     "REVERSE SOLIDUS;RIGHT CURLY BRACKET;RIGHT SQUARE BRACKET;SEMICOLON;SOLIDUS;SPACE;TILDE",
     "VERTICAL LINE"]⟩,
  ⟨["TELEPHONE "], ["LOCATION SIGN;RECORDER;SIGN"]⟩,
  ⟨["THREE ;TWO "], ["CONSECUTIVE EQUALS SIGNS;DOT PUNCTUATION"]⟩,
  ⟨["THREE "],
    ["DIMENSIONAL ANGLE;LEFTWARDS ARROWS;LINES CONVERGING LEFT;LINES CONVERGING RIGHT",
     "POINTED BLACK STAR;RIGHTWARDS ARROWS"]⟩,
  ⟨["THREE-"],
    ["D BOTTOM-LIGHTED RIGHTWARDS ARROWHEAD;D LEFT-LIGHTED DOWNWARDS EQUILATERAL ARROWHEAD",
     "D RIGHT-LIGHTED UPWARDS EQUILATERAL ARROWHEAD",
     "D TOP-LIGHTED LEFTWARDS EQUILATERAL ARROWHEAD;D TOP-LIGHTED RIGHTWARDS ARROWHEAD",
     "D TOP-LIGHTED RIGHTWARDS EQUILATERAL ARROWHEAD;EM DASH;PER-EM SPACE"]⟩,
  ⟨["TILDE "], ["OPERATOR;WITH DOT ABOVE;WITH DOT BELOW;WITH RING ABOVE"]⟩,
  ⟨["TILDE OPERATOR "], ["ABOVE LEFTWARDS ARROW;WITH DOT ABOVE;WITH RISING DOTS"]⟩,
  ⟨["TOP "], ["ARC ANTICLOCKWISE ARROW WITH PLUS;ARC CLOCKWISE ARROW WITH MINUS"]⟩,
  ⟨["TOP HALF "], ["BLACK CIRCLE;INTEGRAL;LEFT PARENTHESIS;RIGHT PARENTHESIS;SECTION SIGN"]⟩,
  ⟨["TRIANGLE "], ["WITH DOT ABOVE;WITH SERIFS AT BOTTOM;WITH UNDERBAR"]⟩,
  ⟨["TRIGRAM FOR "], ["EARTH;FIRE;HEAVEN;LAKE;MOUNTAIN;THUNDER;WATER;WIND"]⟩,
  ⟨["TRIPLE "],
    ["COLON OPERATOR;DAGGER;HORIZONTAL BAR WITH DOUBLE VERTICAL STROKE",
     "HORIZONTAL BAR WITH TRIPLE VERTICAL STROKE;INTEGRAL;PRIME;SOLIDUS BINARY RELATION;TILDE"]⟩,
  ⟨["TRIPLE VERTICAL "],
    ["BAR BINARY RELATION;BAR DELIMITER;BAR RIGHT TURNSTILE;BAR WITH HORIZONTAL STROKE"]⟩,
  ⟨["TURNED "],
    ["AMPERSAND;BLACK PENTAGON;BLACK SHOGI PIECE;CAPITAL F;DAGGER;DIGIT THREE;DIGIT TWO",
     "GREEK SMALL LETTER IOTA;NORTH EAST POINTING LEAF;NORTH WEST POINTING LEAF",
     "SANS-SERIF CAPITAL G;SANS-SERIF CAPITAL Y;SMALL F;SOUTH EAST POINTING LEAF",
     "SOUTH WEST POINTING LEAF;WHITE SHOGI PIECE"]⟩,
  ⟨["TWO "],
    ["ASTERISKS ALIGNED VERTICALLY;DOT LEADER;DOTS OVER ONE DOT PUNCTUATION",
     "INTERSECTING LOGICAL AND;INTERSECTING LOGICAL OR;JOINED SQUARES;LOGICAL AND OPERATOR",
     "LOGICAL OR OPERATOR"]⟩,
  ⟨["UNION "],
    ["ABOVE BAR ABOVE INTERSECTION;ABOVE INTERSECTION;BESIDE AND JOINED WITH UNION",
     "WITH LOGICAL OR;WITH MINUS SIGN;WITH OVERBAR"]⟩,
  ⟨["UP "],
    ["ARROW THROUGH CIRCLE;ARROWHEAD BETWEEN TWO HORIZONTAL BARS;ARROWHEAD IN A RECTANGLE BOX",
     "TACK WITH CIRCLE ABOVE"]⟩,
  ⟨["UP BARB "],
    ["LEFT DOWN BARB LEFT HARPOON;LEFT DOWN BARB RIGHT HARPOON;RIGHT DOWN BARB LEFT HARPOON",
     "RIGHT DOWN BARB RIGHT HARPOON"]⟩,
  ⟨["UP DOWN "], ["ARROW WITH BASE"]⟩,
  ⟨["UPPER "],
    ["AND LEFT AND LOWER TRIANGULAR THREE QUARTERS BLOCK;AND LOWER TRIANGULAR HALF BLOCK",
     "AND RIGHT AND LOWER TRIANGULAR THREE QUARTERS BLOCK"]⟩,
  ⟨["UPPER HALF "],
    ["BLOCK;BLOCK AND LOWER HALF INVERSE MEDIUM SHADE;CIRCLE",
     "INVERSE MEDIUM SHADE AND LOWER HALF BLOCK;INVERSE WHITE CIRCLE;MEDIUM SHADE"]⟩,
  ⟨["UPPER LEFT "], ["OR LOWER RIGHT CURLY BRACKET SECTION;TO LOWER RIGHT FILL"]⟩,
  ⟨["UPPER RIGHT "], ["OR LOWER LEFT CURLY BRACKET SECTION;TO LOWER LEFT FILL"]⟩,
  ⟨["UPWARDS "],
    ["ARROW LEFTWARDS OF DOWNWARDS ARROW;TWO-HEADED ARROW FROM SMALL CIRCLE;WHITE DOUBLE ARROW",
     "WHITE DOUBLE ARROW ON PEDESTAL"]⟩,
  ⟨["UPWARDS TRIANGLE-HEADED ARROW "], ["LEFTWARDS OF DOWNWARDS TRIANGLE-HEADED ARROW"]⟩,
  ⟨["UPWARDS WHITE ARROW "],
    ["FROM BAR;FROM BAR WITH HORIZONTAL BAR;ON PEDESTAL;ON PEDESTAL WITH HORIZONTAL BAR",
     "ON PEDESTAL WITH VERTICAL BAR;WITHIN TRIANGLE ARROWHEAD"]⟩,
  ⟨["VERTICAL "],
    ["BAR BESIDE RIGHT TRIANGLE;BAR DOUBLE LEFT TURNSTILE;BAR TRIPLE RIGHT TURNSTILE",
     "BAR WITH HORIZONTAL STROKE;FOUR DOTS;LINE WITH CIRCLE ABOVE;LINE WITH CIRCLE BELOW",
     "LINE WITH MIDDLE DOT;SIX DOTS;TILDE;ZIGZAG LINE"]⟩,
  ⟨["VERY HEAVY "], ["EIGHT POINTED BLACK STAR;REVERSE SOLIDUS;SOLIDUS"]⟩,
  ⟨["VULGAR FRACTION "],
    ["FIVE EIGHTHS;FIVE SIXTHS;FOUR FIFTHS;ONE EIGHTH;ONE FIFTH;ONE NINTH;ONE SEVENTH",
     "ONE SIXTH;ONE TENTH;ONE THIRD;SEVEN EIGHTHS;THREE EIGHTHS;THREE FIFTHS;TWO FIFTHS",
     "TWO THIRDS;ZERO THIRDS"]⟩,
  ⟨["WHITE "],
    ["ARROW SHAFT WIDTH ONE;ARROW SHAFT WIDTH TWO THIRDS;BULLET",
     "CIRCLE CONTAINING BLACK SMALL CIRCLE;CONCAVE-SIDED DIAMOND",
     "CONCAVE-SIDED DIAMOND WITH LEFTWARDS TICK;CONCAVE-SIDED DIAMOND WITH RIGHTWARDS TICK",
     "DOWN POINTING INDEX;DOWN-POINTING SMALL TRIANGLE",
     "FLAG WITH HORIZONTAL MIDDLE BLACK STRIPE;FOUR POINTED CUSP;FROWNING FACE",
     "HEAVY CHECK MARK;HEAVY SALTIRE WITH ROUNDED CORNERS;LEFT-POINTING POINTER",
     "LEFT-POINTING SMALL TRIANGLE;LOZENGE CONTAINING BLACK SMALL LOZENGE;MOON SELENA",
     "SMALL STAR;SQUARE CONTAINING BLACK MEDIUM SQUARE;SQUARE CONTAINING BLACK SMALL SQUARE",
     "SQUARE CONTAINING BLACK VERY SMALL SQUARE;TRAPEZIUM",
     "TRIANGLE CONTAINING SMALL WHITE TRIANGLE;UP POINTING INDEX"]⟩,
  ⟨["WHITE CIRCLE WITH "], ["DOT RIGHT;DOWN ARROW;TWO DOTS"]⟩,
  ⟨["WHITE CIRCLE WITH ;WHITE SQUARE WITH "],
    ["LOWER LEFT QUADRANT;LOWER RIGHT QUADRANT;UPPER LEFT QUADRANT;UPPER RIGHT QUADRANT"]⟩,
  ⟨["WHITE DIAMOND "],
    ["CONTAINING BLACK MEDIUM DIAMOND;CONTAINING BLACK SMALL DIAMOND",
     "CONTAINING BLACK VERY SMALL DIAMOND;IN SQUARE;SUIT;WITH CENTRED DOT"]⟩,
  ⟨["WHITE MEDIUM "], ["SMALL SQUARE"]⟩,
  ⟨["WHITE RIGHT-POINTING "], ["PENTAGON;POINTER;SMALL TRIANGLE;TRIANGLE"]⟩,
  ⟨["WHITE SQUARE WITH "],
    ["CENTRE VERTICAL LINE;LEFTWARDS TICK;RIGHTWARDS TICK;ROUNDED CORNERS",
     "VERTICAL BISECTING LINE"]⟩,
  ⟨["WHITE UP-POINTING "], ["CHEVRON;SMALL TRIANGLE;TRIANGLE;TRIANGLE WITH DOT"]⟩,
  ⟨["WHITE VERTICAL "], ["BAR;ELLIPSE;RECTANGLE"]⟩,
  ⟨["WIDE-HEADED DOWNWARDS ;WIDE-HEADED LEFTWARDS ;WIDE-HEADED RIGHTWARDS ",
    "WIDE-HEADED UPWARDS "],
    ["BARB ARROW;HEAVY BARB ARROW;LIGHT BARB ARROW;MEDIUM BARB ARROW;VERY HEAVY BARB ARROW"]⟩,
  ⟨["WIDE-HEADED NORTH ;WIDE-HEADED SOUTH "],
    ["EAST BARB ARROW;EAST HEAVY BARB ARROW;EAST LIGHT BARB ARROW;EAST MEDIUM BARB ARROW",
     "EAST VERY HEAVY BARB ARROW;WEST BARB ARROW;WEST HEAVY BARB ARROW;WEST LIGHT BARB ARROW",
     "WEST MEDIUM BARB ARROW;WEST VERY HEAVY BARB ARROW"]⟩,
  ⟨["Z NOTATION "],
    ["BAG MEMBERSHIP;DOMAIN ANTIRESTRICTION;LEFT BINDING BRACKET;LEFT IMAGE BRACKET",
     "RANGE ANTIRESTRICTION;RELATIONAL COMPOSITION;RIGHT BINDING BRACKET;RIGHT IMAGE BRACKET",
     "SCHEMA COMPOSITION;SCHEMA PIPING;SCHEMA PROJECTION;SPOT;TYPE COLON"]⟩,
  ⟨["ZERO WIDTH "], ["JOINER;NO-BREAK SPACE;NON-JOINER;SPACE"]⟩]

def symbolsSeries : List Series := [
  ⟨"BLOCK SEXTANT-", 10, 1, 1, 6⟩,
  ⟨"DIE FACE-", 10, 1, 1, 6⟩,
  ⟨"HORIZONTAL ONE EIGHTH BLOCK-", 10, 1, 2, 7⟩,
  ⟨"VARIATION SELECTOR-", 10, 1, 1, 256⟩,
  ⟨"VERTICAL ONE EIGHTH BLOCK-", 10, 1, 2, 7⟩]

end WireModel.Text.CharacterName
