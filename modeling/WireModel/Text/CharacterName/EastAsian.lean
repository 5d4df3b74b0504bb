import WireModel.Text.CharacterName.Family

/-!
# Names of scripts of eastern Asia

The names of the Chinese, Japanese, Korean and other scripts of eastern Asia, apart from those
that follow a rule.
-/

namespace WireModel.Text.CharacterName

def eastAsian : List Family := [
  ⟨[""],
    ["CENTRELINE LOW LINE;CENTRELINE OVERLINE",
     "COMBINING KATAKANA-HIRAGANA SEMI-VOICED SOUND MARK",
     "COMBINING KATAKANA-HIRAGANA VOICED SOUND MARK;DASHED LOW LINE;DASHED OVERLINE;DITTO MARK",
     "DOUBLE PRIME QUOTATION MARK;DOUBLE WAVY OVERLINE;GETA MARK",
     "JAPANESE INDUSTRIAL STANDARD SYMBOL;KHITAN SMALL SCRIPT FILLER;KOREAN STANDARD SYMBOL",
     "LIMITED LIABILITY SIGN;LISU PUNCTUATION COMMA;LISU PUNCTUATION FULL STOP",
     "LOW DOUBLE PRIME QUOTATION MARK;MASU MARK;MONOGRAM FOR EARTH;NUSHU ITERATION MARK",
     "OLD CHINESE HOOK MARK;OLD CHINESE ITERATION MARK;PARENTHESIZED KOREAN CHARACTER O HU",
     "PARENTHESIZED KOREAN CHARACTER OJEON;PART ALTERNATION MARK;PARTNERSHIP SIGN;POSTAL MARK",
     "POSTAL MARK FACE;REVERSED DOUBLE PRIME QUOTATION MARK;SESAME DOT;TALLY MARK FIVE",
     "TALLY MARK ONE;TANGUT ITERATION MARK;VERTICAL IDEOGRAPHIC ITERATION MARK",
     "VIETNAMESE ALTERNATE READING MARK CA;VIETNAMESE ALTERNATE READING MARK NHAY;WAVE DASH",
     "WAVY DASH;WAVY LOW LINE;WAVY OVERLINE;WHITE SESAME DOT"]⟩,
  ⟨["BOPOMOFO FINAL LETTER "], ["G;H;K;P;T"]⟩,
  ⟨["BOPOMOFO LETTER ;MIAO VOWEL SIGN "], ["A;AI;AN;ANG;AU;E;EI;EN;ENG;ER;I;IU;N;NG;O;OO;OU;U"]⟩,
  ⟨["BOPOMOFO LETTER "],
    ["AH;AINN;AM;ANN;AUNN;B;BU;C;CH;D;EE;EH;ENN;F;G;GH;GN;GU;GW;H;IH;IM;INN;INNN;IR;J;JI;K;KW",
     "L;LH;M;NGG;NN;O WITH DOT ABOVE;OE;OM;ONG;ONN;P;Q;R;S;SH;T;UNN;V;X;Z;ZH;ZI;ZY"]⟩,
  ⟨["CIRCLED "], ["KOREAN CHARACTER CHAMKO;KOREAN CHARACTER JUEUI;POSTAL MARK"]⟩,
  ⟨["CIRCLED HANGUL ;HALFWIDTH HANGUL LETTER ;HANGUL CHOSEONG ;HANGUL CHOSEONG SIOS-",
    "HANGUL JONGSEONG ;HANGUL LETTER ;PARENTHESIZED HANGUL "],
    ["CHIEUCH;CIEUC;HIEUH;IEUNG;KHIEUKH;KIYEOK;MIEUM;NIEUN;PHIEUPH;PIEUP;RIEUL;THIEUTH;TIKEUT"]⟩,
  ⟨["CIRCLED HANGUL ;PARENTHESIZED HANGUL "],
    ["CHIEUCH A;CIEUC A;HIEUH A;IEUNG A;KHIEUKH A;KIYEOK A;MIEUM A;NIEUN A;PHIEUPH A;PIEUP A",
     "RIEUL A;SIOS;SIOS A;THIEUTH A;TIKEUT A"]⟩,
  ⟨["CIRCLED HANGUL "], ["IEUNG U"]⟩,
  ⟨["CIRCLED IDEOGRAPH "],
    ["ACCEPT;ADVANTAGE;ATTENTION;CENTRE;COPY;CORRECT;EXCELLENT;FEMALE;HIGH;ITEM;KINDERGARTEN",
     "KOTO;LEFT;LOW;MALE;MEDICINE;NIGHT;PRINT;QUESTION;RELIGION;RIGHT;SCHOOL;SECRET;SUITABLE"]⟩,
  ⟨["CIRCLED IDEOGRAPH ;PARENTHESIZED IDEOGRAPH "],
    ["ALLIANCE;CONGRATULATION;EARTH;ENTERPRISE;FINANCIAL;FIRE;HAVE;LABOR;METAL;MOON;NAME",
     "RESOURCE;REST;SOCIETY;SPECIAL;STOCK;STUDY;SUN;SUPERVISE;TEN;WATER;WOOD"]⟩,
  ⟨["CIRCLED IDEOGRAPH ;COUNTING ROD TENS DIGIT ;COUNTING ROD UNIT DIGIT ;FULLWIDTH DIGIT ",
    "HANGZHOU NUMERAL ;IDEOGRAPHIC TELEGRAPH SYMBOL FOR DAY TWENTY-;PARENTHESIZED IDEOGRAPH "],
    ["EIGHT;FIVE;FOUR;NINE;ONE;SEVEN;SIX;THREE;TWO"]⟩,
  ⟨["CIRCLED KATAKANA ;HALFWIDTH KATAKANA LETTER "],
    ["A;E;HA;HE;HI;HO;HU;I;KA;KE;KI;KO;KU;MA;ME;MI;MO;MU;NA;NE;NI;NO;NU;O;RA;RE;RI;RO;RU;SA;SE",
     "SI;SO;SU;TA;TE;TI;TO;TU;U;WA;WO;YA;YO;YU"]⟩,
  ⟨["CIRCLED KATAKANA "], ["WE;WI"]⟩,
  ⟨["CIRCLED NUMBER "],
    ["EIGHTY ON BLACK SQUARE;FIFTY;FIFTY ON BLACK SQUARE;FORTY;SEVENTY ON BLACK SQUARE",
     "SIXTY ON BLACK SQUARE;TEN ON BLACK SQUARE;THIRTY"]⟩,
  ⟨["CIRCLED NUMBER FORTY ;CIRCLED NUMBER THIRTY ;CIRCLED NUMBER TWENTY "],
    ["EIGHT;FIVE;FOUR;NINE;ON BLACK SQUARE;ONE;SEVEN;SIX;THREE;TWO"]⟩,
  ⟨["CJK RADICAL ;KANGXI RADICAL "],
    ["BAMBOO;BLUE;BOLT OF CLOTH;BONE;CITY;CLIFF;CLOTHES;COW;DEATH;DIVINATION;DOG;EYE;FIRE;FOOT",
     "GHOST;HAND;HEAD;HORN;JADE;MEAT;MOON;MORTAR;OLD;RAIN;RAP;SEAL;SHEEP;SILK;SUN;TABLE;TIGER",
     "TURTLE"]⟩,
  ⟨["CJK RADICAL "],
    ["BOX;BRUSH ONE;BRUSH TWO;CHOKE;CIVILIAN;EAT ONE;EAT THREE;EAT TWO;EWE;GRASS ONE",
     "GRASS THREE;GRASS TWO;HEART ONE;HEART TWO;KNIFE ONE;KNIFE TWO;LAME FOUR;LAME ONE",
     "LAME THREE;LAME TWO;LONG ONE;LONG TWO;MESH;MOTHER;MOUND ONE;MOUND TWO;NET FOUR;NET ONE",
     "NET THREE;NET TWO;PAW ONE;PAW TWO;PERSON;RAM;REPEAT;SECOND ONE;SECOND THREE;SECOND TWO",
     "SMALL ONE;SMALL TWO;SNAKE;SNOUT ONE;SNOUT TWO;SPIRIT ONE;SPIRIT TWO;THREAD;WALK ONE",
     "WALK TWO;WATER ONE;WATER TWO;WEST ONE;WEST TWO"]⟩,
  ⟨["CJK RADICAL C-SIMPLIFIED ;KANGXI RADICAL "],
    ["BIRD;CART;DRAGON;EAT;EVEN;FISH;FLY;FROG;GATE;GOLD;HORSE;LEAF;LONG;SALT;SEE;SHELL;SPEECH",
     "TANNED LEATHER;TOOTH;WIND"]⟩,
  ⟨["CJK RADICAL C-SIMPLIFIED "], ["SILK;TURTLE"]⟩,
  ⟨["CJK RADICAL J-SIMPLIFIED "], ["DRAGON;EVEN;TOOTH;TURTLE"]⟩,
  ⟨["CJK RADICAL SIMPLIFIED "], ["HALF TREE TRUNK;HORN;WALK;WHEAT;YELLOW"]⟩,
  ⟨["CJK STROKE "],
    ["BXG;D;H;HG;HP;HPWG;HXWG;HZ;HZG;HZT;HZW;HZWG;HZZ;HZZP;HZZZ;HZZZG;N;P;PD;PG;PZ;Q;S;SG;SP",
     "ST;SW;SWG;SWZ;SZ;SZWG;SZZ;T;TN;WG;XG"]⟩,
  ⟨["DIGRAM "],
    ["FOR EARTH;FOR EARTHLY HEAVEN;FOR EARTHLY HUMAN;FOR HEAVENLY EARTH;FOR HUMAN EARTH"]⟩,
  ⟨["FULLWIDTH ;SMALL "],
    ["AMPERSAND;ASTERISK;COLON;COMMA;COMMERCIAL AT;DOLLAR SIGN;EQUALS SIGN;EXCLAMATION MARK",
     "FULL STOP;GREATER-THAN SIGN;HYPHEN-MINUS;LEFT CURLY BRACKET;LEFT PARENTHESIS",
     "LESS-THAN SIGN;NUMBER SIGN;PERCENT SIGN;PLUS SIGN;QUESTION MARK;REVERSE SOLIDUS",
     "RIGHT CURLY BRACKET;RIGHT PARENTHESIS;SEMICOLON"]⟩,
  ⟨["FULLWIDTH "],
    ["APOSTROPHE;BROKEN BAR;CENT SIGN;CIRCUMFLEX ACCENT;GRAVE ACCENT;LEFT SQUARE BRACKET",
     "LEFT WHITE PARENTHESIS;LOW LINE;MACRON;NOT SIGN;POUND SIGN;QUOTATION MARK",
     "RIGHT SQUARE BRACKET;RIGHT WHITE PARENTHESIS;SOLIDUS;TILDE;VERTICAL LINE;WON SIGN",
     "YEN SIGN"]⟩,
  ⟨["FULLWIDTH DIGIT "], ["ZERO"]⟩,
  ⟨["FULLWIDTH LATIN CAPITAL LETTER ;FULLWIDTH LATIN SMALL LETTER "],
    ["A;B;C;D;E;F;G;H;I;J;K;L;M;N;O;P;Q;R;S;T;U;V;W;X;Y;Z"]⟩,
  ⟨["HALFWIDTH "],
    ["BLACK SQUARE;DOWNWARDS ARROW;FORMS LIGHT VERTICAL;HANGUL FILLER;IDEOGRAPHIC COMMA",
     "IDEOGRAPHIC FULL STOP;KATAKANA MIDDLE DOT;KATAKANA SEMI-VOICED SOUND MARK",
     "KATAKANA VOICED SOUND MARK;KATAKANA-HIRAGANA PROLONGED SOUND MARK;LEFT CORNER BRACKET",
     "LEFTWARDS ARROW;RIGHT CORNER BRACKET;RIGHTWARDS ARROW;UPWARDS ARROW;WHITE CIRCLE"]⟩,
  ⟨["HALFWIDTH HANGUL LETTER "],
    ["A;AE;E;EO;EU;I;KIYEOK-SIOS;NIEUN-CIEUC;NIEUN-HIEUH;O;OE;PIEUP-SIOS;U;WA;WAE;WE;WEO;WI;YA",
     "YAE;YE;YEO;YI;YO;YU"]⟩,
  ⟨["HALFWIDTH HANGUL LETTER ;HANGUL CHOSEONG ;HANGUL JONGSEONG ;HANGUL LETTER "],
    ["SIOS;SSANGCIEUC;SSANGKIYEOK;SSANGPIEUP;SSANGSIOS;SSANGTIKEUT"]⟩,
  ⟨["HALFWIDTH HANGUL LETTER RIEUL-;HANGUL JONGSEONG RIEUL-;HANGUL LETTER RIEUL-"],
    ["HIEUH;KIYEOK;MIEUM;PHIEUPH;PIEUP;SIOS;THIEUTH"]⟩,
  ⟨["HALFWIDTH KATAKANA LETTER "], ["N"]⟩,
  ⟨["HALFWIDTH KATAKANA LETTER SMALL "], ["A;E;I;O;TU;U;YA;YO;YU"]⟩,
  ⟨["HANGUL "], ["DOUBLE DOT TONE MARK;FILLER;SINGLE DOT TONE MARK"]⟩,
  ⟨["HANGUL CHOSEONG "],
    ["CEONGCHIEUMCHIEUCH;CEONGCHIEUMCIEUC;CEONGCHIEUMSIOS;CEONGCHIEUMSSANGCIEUC",
     "CEONGCHIEUMSSANGSIOS;CHIEUCH-HIEUH;CHIEUCH-KHIEUKH;CHITUEUMCHIEUCH;CHITUEUMCIEUC",
     "CHITUEUMSIOS;CHITUEUMSSANGCIEUC;CHITUEUMSSANGSIOS;CIEUC-IEUNG;FILLER;KAPYEOUNRIEUL",
     "KIYEOK-TIKEUT;PHIEUPH-PIEUP;RIEUL-HIEUH;RIEUL-NIEUN;SSANGRIEUL;TIKEUT-KIYEOK",
     "TIKEUT-RIEUL"]⟩,
  ⟨["HANGUL CHOSEONG ;HANGUL JONGSEONG ;HANGUL LETTER "],
    ["KAPYEOUNMIEUM;KAPYEOUNPHIEUPH;KAPYEOUNPIEUP;PANSIOS;SSANGIEUNG;SSANGNIEUN;YEORINHIEUH",
     "YESIEUNG"]⟩,
  ⟨["HANGUL CHOSEONG ;HANGUL LETTER "], ["KAPYEOUNSSANGPIEUP;MIEUM-PIEUP;SSANGHIEUH"]⟩,
  ⟨["HANGUL CHOSEONG IEUNG-"],
    ["CHIEUCH;CIEUC;KIYEOK;MIEUM;PANSIOS;PHIEUPH;PIEUP;SIOS;THIEUTH;TIKEUT"]⟩,
  ⟨["HANGUL CHOSEONG NIEUN-"], ["CIEUC;HIEUH;KIYEOK;PIEUP;SIOS;TIKEUT"]⟩,
  ⟨["HANGUL CHOSEONG PIEUP-"], ["CHIEUCH;NIEUN;PHIEUPH;SIOS-CIEUC;SIOS-PIEUP;SSANGSIOS"]⟩,
  ⟨["HANGUL CHOSEONG PIEUP-;HANGUL LETTER PIEUP-"],
    ["CIEUC;KIYEOK;SIOS;SIOS-KIYEOK;SIOS-TIKEUT;THIEUTH;TIKEUT"]⟩,
  ⟨["HANGUL CHOSEONG SIOS-"], ["PIEUP-KIYEOK;SSANGSIOS"]⟩,
  ⟨["HANGUL JONGSEONG "],
    ["CIEUC-PIEUP;CIEUC-SSANGPIEUP;HIEUH-MIEUM;HIEUH-NIEUN;HIEUH-PIEUP;HIEUH-RIEUL",
     "IEUNG-KHIEUKH;IEUNG-KIYEOK;IEUNG-SSANGKIYEOK;KAPYEOUNRIEUL;PANSIOS-KAPYEOUNPIEUP",
     "PANSIOS-PIEUP;PHIEUPH-PIEUP;PHIEUPH-SIOS;PHIEUPH-THIEUTH;SSANGMIEUM;SSANGRIEUL",
     "SSANGRIEUL-KHIEUKH;SSANGSIOS-KIYEOK;SSANGSIOS-TIKEUT;SSANGTIKEUT-PIEUP;YESIEUNG-HIEUH",
     "YESIEUNG-MIEUM;YESIEUNG-PANSIOS;YESIEUNG-SIOS"]⟩,
  ⟨["HANGUL JONGSEONG KIYEOK-"], ["CHIEUCH;HIEUH;KHIEUKH;NIEUN;PIEUP;RIEUL;SIOS;SIOS-KIYEOK"]⟩,
  ⟨["HANGUL JONGSEONG MIEUM-"],
    ["CHIEUCH;CIEUC;HIEUH;KIYEOK;NIEUN;PANSIOS;PIEUP;PIEUP-SIOS;RIEUL;SIOS;SSANGNIEUN",
     "SSANGSIOS"]⟩,
  ⟨["HANGUL JONGSEONG NIEUN-"], ["CHIEUCH;CIEUC;HIEUH;KIYEOK;PANSIOS;RIEUL;SIOS;THIEUTH;TIKEUT"]⟩,
  ⟨["HANGUL JONGSEONG PIEUP-"],
    ["CHIEUCH;CIEUC;HIEUH;MIEUM;PHIEUPH;RIEUL;RIEUL-PHIEUPH;SIOS;SIOS-TIKEUT;TIKEUT"]⟩,
  ⟨["HANGUL JONGSEONG RIEUL-"],
    ["KAPYEOUNPIEUP;KHIEUKH;KIYEOK-HIEUH;MIEUM-HIEUH;MIEUM-KIYEOK;MIEUM-SIOS;NIEUN;PIEUP-HIEUH",
     "PIEUP-PHIEUPH;PIEUP-TIKEUT;SSANGKIYEOK;SSANGSIOS;TIKEUT-HIEUH;YEORINHIEUH-HIEUH;YESIEUNG"]⟩,
  ⟨["HANGUL JONGSEONG RIEUL-;HANGUL LETTER RIEUL-"],
    ["KIYEOK-SIOS;PANSIOS;PIEUP-SIOS;TIKEUT;YEORINHIEUH"]⟩,
  ⟨["HANGUL JONGSEONG SIOS-"],
    ["CHIEUCH;CIEUC;HIEUH;KAPYEOUNPIEUP;KIYEOK;MIEUM;PANSIOS;PIEUP;RIEUL;THIEUTH;TIKEUT"]⟩,
  ⟨["HANGUL JONGSEONG TIKEUT-"], ["CHIEUCH;CIEUC;KIYEOK;PIEUP;RIEUL;SIOS;SIOS-KIYEOK;THIEUTH"]⟩,
  ⟨["HANGUL JUNGSEONG ;HANGUL LETTER "],
    ["A;AE;ARAEA;E;EO;EU;I;O;OE;U;WA;WAE;WE;WEO;WI;YA;YAE;YE;YEO;YI;YO;YO-I;YO-YA;YO-YAE;YU",
     "YU-I;YU-YE;YU-YEO"]⟩,
  ⟨["HANGUL JUNGSEONG "],
    ["A-EU;A-O;A-U;ARAEA-A;ARAEA-E;ARAEA-EO;ARAEA-I;ARAEA-U;EO-EU;EO-O;EO-U;EU-A;EU-E;EU-EO",
     "EU-EU;EU-O;EU-U;FILLER;I-A;I-ARAEA;I-EU;I-I;I-O;I-O-I;I-U;I-YA;I-YA-O;I-YAE;I-YE;I-YEO",
     "I-YO;I-YU;O-E;O-EO;O-O;O-O-I;O-U;O-YA;O-YAE;O-YE;O-YEO;SSANGARAEA;U-A;U-AE;U-EO-EU;U-I-I",
     "U-U;U-YE;U-YEO;YA-O;YA-U;YA-YO;YEO-O;YEO-U;YEO-YA;YI-U;YO-A;YO-AE;YO-EO;YO-O;YO-YEO;YU-A",
     "YU-AE;YU-E;YU-EO;YU-O;YU-U"]⟩,
  ⟨["HANGUL LETTER "],
    ["ARAEAE;KIYEOK-SIOS;MIEUM-PANSIOS;MIEUM-SIOS;NIEUN-CIEUC;NIEUN-HIEUH;NIEUN-PANSIOS",
     "NIEUN-SIOS;NIEUN-TIKEUT;SIOS-CIEUC;SIOS-KIYEOK;SIOS-NIEUN;SIOS-PIEUP;SIOS-TIKEUT",
     "YESIEUNG-PANSIOS;YESIEUNG-SIOS"]⟩,
  ⟨["HANGZHOU NUMERAL "], ["TEN;THIRTY;TWENTY"]⟩,
  ⟨["HENTAIGANA LETTER "],
    ["A-1;A-2;A-3;A-WO;E-2;E-3;E-4;E-5;E-6;HU-1;HU-2;HU-3;I-1;I-2;I-3;I-4;KA-KE;KO-1;KO-2;KO-3",
     "KO-KI;ME-1;ME-2;ME-MA;MU-1;MU-2;MU-3;MU-4;N-MU-MO-1;N-MU-MO-2;NE-KO;NI-TE;NO-1;NO-2;NO-3",
     "NO-4;NO-5;NU-1;NU-2;NU-3;O-1;O-2;O-3;RA-1;RA-2;RA-3;RA-4;RE-1;RE-2;RE-3;RE-4;SE-1;SE-2",
     "SE-3;SE-4;SE-5;TA-1;TA-2;TA-3;TA-4;TO-RA;TU-1;TU-2;TU-3;TU-4;TU-TO;U-1;U-2;U-3;U-4;U-5",
     "WA-1;WA-2;WA-3;WA-4;WA-5;WE-1;WE-2;WE-3;WE-4;WI-1;WI-2;WI-3;WI-4;WI-5;YA-1;YA-2;YA-3",
     "YA-4;YA-5;YA-YO;YU-1;YU-2;YU-3;YU-4"]⟩,
  ⟨["HEXAGRAM FOR "],
    ["ABUNDANCE;AFTER COMPLETION;APPROACH;BEFORE COMPLETION;BITING THROUGH;BREAKTHROUGH",
     "COMING TO MEET;CONFLICT;CONTEMPLATION;DARKENING OF THE LIGHT;DECREASE;DELIVERANCE",
     "DEVELOPMENT;DIFFICULTY AT THE BEGINNING;DISPERSION;DURATION;ENTHUSIASM;FELLOWSHIP",
     "FOLLOWING;GATHERING TOGETHER;GRACE;GREAT POSSESSION;GREAT POWER;GREAT PREPONDERANCE",
     "GREAT TAMING;HOLDING TOGETHER;INCREASE;INFLUENCE;INNER TRUTH;INNOCENCE;LIMITATION",
     "MODESTY;MOUTH CORNERS;OBSTRUCTION;OPPOSITION;OPPRESSION;PEACE;PROGRESS;PUSHING UPWARD",
     "RETREAT;RETURN;REVOLUTION;SMALL PREPONDERANCE;SMALL TAMING;SPLITTING APART;STANDSTILL",
     "TREADING;WAITING;WORK ON THE DECAYED;YOUTHFUL FOLLY"]⟩,
  ⟨["HEXAGRAM FOR THE "],
    ["ABYSMAL WATER;ARMY;AROUSING THUNDER;CAULDRON;CLINGING FIRE;CREATIVE HEAVEN;FAMILY",
     "GENTLE WIND;JOYOUS LAKE;KEEPING STILL MOUNTAIN;MARRYING MAIDEN;RECEPTIVE EARTH;WANDERER",
     "WELL"]⟩,
  ⟨["HIRAGANA "], ["DIGRAPH YORI"]⟩,
  ⟨["HIRAGANA ;KATAKANA "], ["ITERATION MARK;VOICED ITERATION MARK"]⟩,
  ⟨["HIRAGANA LETTER ;KATAKANA LETTER ;YI SYLLABLE "],
    ["A;BA;BE;BI;BO;BU;DA;DE;DI;DO;E;GE;GI;GO;GU;HA;HE;HO;I;KA;KI;KO;KU;MA;ME;MO;MU;NA;NE;NI",
     "NO;NU;O;PA;PI;PO;PU;RA;RE;RO;RU;SA;SE;SI;SO;SU;TA;TE;TI;TO;VU;WA;WE;YU;ZE;ZI;ZO;ZU"]⟩,
  ⟨["HIRAGANA LETTER ;KATAKANA LETTER "],
    ["ARCHAIC WU;ARCHAIC YE;DU;GA;HI;HU;KE;MI;N;PE;RI;TU;U;WI;WO;YA;YO;ZA"]⟩,
  ⟨["HIRAGANA LETTER SMALL ;KATAKANA LETTER SMALL "], ["A;E;I;KA;KE;O;TU;U;WA;WE;WI;WO;YA;YO;YU"]⟩,
  ⟨["IDEOGRAPHIC "],
    ["CLOSING MARK;COMMA;DEPARTING TONE MARK;ENTERING TONE MARK;FULL STOP;HALF FILL SPACE",
     "ITERATION MARK;LEVEL TONE MARK;NUMBER ZERO;RISING TONE MARK;SPACE",
     "TELEGRAPH LINE FEED SEPARATOR SYMBOL;VARIATION INDICATOR"]⟩,
  ⟨["IDEOGRAPHIC ANNOTATION "],
    ["BOTTOM MARK;EARTH MARK;FIRST MARK;FOUR MARK;FOURTH MARK;HEAVEN MARK;LINKING MARK",
     "MAN MARK;MIDDLE MARK;ONE MARK;REVERSE MARK;SECOND MARK;THIRD MARK;THREE MARK;TOP MARK",
     "TWO MARK"]⟩,
  ⟨["IDEOGRAPHIC DESCRIPTION CHARACTER "],
    ["ABOVE TO BELOW;ABOVE TO MIDDLE AND BELOW;FULL SURROUND;LEFT TO MIDDLE AND RIGHT",
     "LEFT TO RIGHT;OVERLAID"]⟩,
  ⟨["IDEOGRAPHIC DESCRIPTION CHARACTER SURROUND "],
    ["FROM ABOVE;FROM BELOW;FROM LEFT;FROM LOWER LEFT;FROM UPPER LEFT;FROM UPPER RIGHT"]⟩,
  ⟨["IDEOGRAPHIC TALLY "], ["MARK FIVE;MARK FOUR;MARK ONE;MARK THREE;MARK TWO"]⟩,
  ⟨["IDEOGRAPHIC TELEGRAPH SYMBOL FOR "],
    ["APRIL;AUGUST;DECEMBER;FEBRUARY;JANUARY;JULY;JUNE;MARCH;MAY;NOVEMBER;OCTOBER;SEPTEMBER"]⟩,
  ⟨["IDEOGRAPHIC TELEGRAPH SYMBOL FOR DAY ;IDEOGRAPHIC TELEGRAPH SYMBOL FOR HOUR "],
    ["EIGHT;EIGHTEEN;ELEVEN;FIFTEEN;FIVE;FOUR;FOURTEEN;NINE;NINETEEN;ONE;SEVEN;SEVENTEEN;SIX",
     "SIXTEEN;TEN;THIRTEEN;THREE;TWELVE;TWENTY;TWO"]⟩,
  ⟨["IDEOGRAPHIC TELEGRAPH SYMBOL FOR DAY "], ["THIRTY;THIRTY-ONE"]⟩,
  ⟨["IDEOGRAPHIC TELEGRAPH SYMBOL FOR HOUR "],
    ["TWENTY-FOUR;TWENTY-ONE;TWENTY-THREE;TWENTY-TWO;ZERO"]⟩,
  ⟨["KANGXI RADICAL "],
    ["AGAIN;AND;ARRIVE;ARROW;AXE;BADGER;BEAN;BIG;BITTER;BLACK;BLOOD;BOAT;BODY;BOW;BRANCH",
     "BRISTLE;BRUSH;CAULDRON;CAVE;CHILD;CLAN;CLAW;COLOR;COMPARE;CORPSE;COVER;DEER;DIPPER;DISH",
     "DISTINGUISH;DO NOT;DOOR;DOT;DOTTED CLIFF;DOTTED TENT;DOUBLE X;DOWN BOX;DRUM;DRY;EAR",
     "EARTH;EIGHT;EMBROIDERY;ENCLOSURE;ENTER;EVENING;FACE;FANG;FATHER;FEATHER;FIELD;FIGHT",
     "FLUTE;FRAGRANT;FUR;GO;GO SLOWLY;GRAIN;GRASS;HAIR;HALBERD;HALF TREE TRUNK;HEART;HEMP",
     "HIDING ENCLOSURE;HOOK;ICE;INCH;INSECT;JAR;KNIFE;LACK;LAME;LEATHER;LEEK;LEGS;LID;LIFE",
     "LINE;LONG STRIDE;MAN;MELON;MILLET;MINISTER;MORNING;MOUND;MOUNTAIN;MOUTH;NET;NOSE;NOT;ONE",
     "ONESELF;OPEN BOX;OPPOSE;PIG;PLOW;POWER;PRIVATE;PROFOUND;RAT;RED;RICE;RIGHT OPEN BOX",
     "RIVER;ROOF;RUN;SACRIFICIAL WINE;SAY;SCHOLAR;SCRIPT;SECOND;SELF;SHOOT;SHORT TAILED BIRD",
     "SHORT THREAD;SICKNESS;SKIN;SLASH;SLAVE;SLICE;SMALL;SNOUT;SOUND;SPEAR;SPIRIT;SPOON;SPROUT",
     "SQUARE;STAND;STEAM;STEP;STONE;STOP;STOPPING;SWEET;TALL;TEN;TILE;TONGUE;TRACK;TREE;TRIPOD",
     "TURBAN;TWO;TWO HANDS;USE;VALLEY;VILLAGE;WALK;WALK ENCLOSURE;WATER;WEAPON;WEST;WHEAT",
     "WHITE;WINE;WOMAN;WORK;WRAP;WRONG;YELLOW"]⟩,
  ⟨["KATAKANA "], ["DIGRAPH KOTO;MIDDLE DOT"]⟩,
  ⟨["KATAKANA LETTER "], ["ARCHAIC E;ARCHAIC YI;VA;VE;VI;VO"]⟩,
  ⟨["KATAKANA LETTER MINNAN ;KATAKANA LETTER MINNAN NASALIZED "],
    ["TONE-2;TONE-3;TONE-4;TONE-5;TONE-7;TONE-8"]⟩,
  ⟨["KATAKANA LETTER MINNAN NASALIZED "], ["TONE-1"]⟩,
  ⟨["KATAKANA LETTER SMALL "], ["HA;HE;HI;HO;HU;KU;MU;N;NU;RA;RE;RI;RO;RU;SI;SU;TO"]⟩,
  ⟨["KATAKANA-HIRAGANA "],
    ["DOUBLE HYPHEN;PROLONGED SOUND MARK;SEMI-VOICED SOUND MARK;VOICED SOUND MARK"]⟩,
  ⟨["LEFT ;PRESENTATION FORM FOR VERTICAL RIGHT ;RIGHT "],
    ["ANGLE BRACKET;BLACK LENTICULAR BRACKET;CORNER BRACKET;DOUBLE ANGLE BRACKET",
     "TORTOISE SHELL BRACKET"]⟩,
  ⟨["LEFT WHITE ;RIGHT WHITE "],
    ["CORNER BRACKET;LENTICULAR BRACKET;SQUARE BRACKET;TORTOISE SHELL BRACKET"]⟩,
  ⟨["LISU LETTER "], ["A;AE;CA;CHA;E;EU;I;JA;KHA;O;OE;PHA;THA;U;UE;UH;YA"]⟩,
  ⟨["LISU LETTER ;MIAO LETTER "],
    ["BA;DA;DZA;FA;GA;GHA;HA;HHA;KA;LA;MA;NA;NGA;PA;SA;SHA;TA;TSA;TSHA;WA;XA;ZA;ZHA"]⟩,
  ⟨["LISU LETTER TONE "], ["MYA BO;MYA CYA;MYA JEU;MYA NA;MYA TI;NA PO"]⟩,
  ⟨["MIAO "],
    ["SIGN ASPIRATION;SIGN CONSONANT MODIFIER BAR;SIGN REFORMED ASPIRATION",
     "SIGN REFORMED VOICING;TONE ABOVE;TONE BELOW;TONE RIGHT;TONE TOP RIGHT"]⟩,
  ⟨["MIAO LETTER "],
    ["AH;BRI;DDA;DLHA;DLHYA;DZHA;DZYI;DZZA;GHHA;LHA;LHYA;LYA;MHA;NASALIZATION;NGHA;NHA;NNA",
     "NNHA;NYA;NYHA;PLA;QA;QGA;RTE;SSA;SYI;TE;TLHA;TLHYA;TSE;TSSA;TTA;VA;VFA;YI DZHA;YI KA",
     "YI NNA;YI PA;YI TA;YI TSA;YI TSHA;YI TTA;ZSA;ZSHA;ZZA;ZZSA;ZZSYA;ZZYA"]⟩,
  ⟨["MIAO LETTER ARCHAIC "], ["MA;NA;NGA;ZZA"]⟩,
  ⟨["MIAO LETTER REFORMED "], ["TONE-1;TONE-2;TONE-4;TONE-5;TONE-6;TONE-8;TSHA"]⟩,
  ⟨["MIAO VOWEL SIGN "],
    ["AA;AE;AEE;AHH;EA;ERR;IA;IAN;IANG;IE;IG;II;ING;IO;IONG;OER;OEY;OG;ROUNDED ER;ROUNDED ERR",
     "UA;UAN;UANG;UEI;UI;UNG;UOG;UU;VW;W;WO;Y;YI;YUI"]⟩,
  ⟨["PARENTHESIZED HANGUL "], ["CIEUC U"]⟩,
  ⟨["PARENTHESIZED IDEOGRAPH "], ["CALL;FESTIVAL;REACH;REPRESENT;SELF"]⟩,
  ⟨["PRESENTATION FORM FOR VERTICAL "],
    ["EM DASH;EN DASH;LEFT ANGLE BRACKET;LEFT BLACK LENTICULAR BRACKET;LEFT CORNER BRACKET",
     "LEFT CURLY BRACKET;LEFT DOUBLE ANGLE BRACKET;LEFT PARENTHESIS;LEFT SQUARE BRACKET",
     "LEFT TORTOISE SHELL BRACKET;LEFT WHITE CORNER BRACKET;LOW LINE;TWO DOT LEADER",
     "WAVY LOW LINE"]⟩,
  ⟨["PRESENTATION FORM FOR VERTICAL RIGHT "],
    ["CURLY BRACKET;PARENTHESIS;SQUARE BRACKET;WHITE CORNER BRACKET"]⟩,
  ⟨["ROUNDED SYMBOL "], ["FOR CAI;FOR FU;FOR LU;FOR SHOU;FOR SHUANGXI;FOR XI"]⟩,
  ⟨["SMALL "],
    ["EM DASH;IDEOGRAPHIC COMMA;LEFT TORTOISE SHELL BRACKET;RIGHT TORTOISE SHELL BRACKET"]⟩,
  ⟨["SQUARE "],
    ["A OVER M;AARU;AM;ANPEA;APAATO;ARUHUA;AU;BAARERU;BAR;BEETA;BIRU;BORUTO;BQ;BUSSYERU",
     "C OVER KG;CAL;CC;CD;CM;CM CUBED;CM SQUARED;CO;CORPORATION;DA;DAASU;DB;DESI;DL;DM",
     "DM CUBED;DM SQUARED;DORU;EEKAA;ERA NAME HEISEI;ERA NAME MEIZI;ERA NAME REIWA",
     "ERA NAME SYOUWA;ERA NAME TAISYOU;ERG;ESUKUUDO;EV;FM;GAL;GANMA;GARON;GB;GHZ;GIGA;GINII",
     "GIRUDAA;GPA;GURAMU;GURAMUTON;GY;HA;HAITU;HEKUTAARU;HERUTU;HG;HIRAGANA HOKA;HON;HOON",
     "HOORU;HP;HPA;HUARADDO;HUIITO;HURAN;HZ;IN;ININGU;INTI;IU;K OHM;KA;KAIRI;KARATTO;KARORII",
     "KB;KCAL;KEESU;KG;KHZ;KIRO;KIROGURAMU;KIROMEETORU;KIROWATTO;KK;KL;KM;KM CAPITAL;KM CUBED",
     "KM SQUARED;KOOPO;KORUNA;KPA;KT;KUROONE;KURUZEIRO;KV;KW;KYURII;LM;LN;LOG;LX;M CUBED;M OHM",
     "M OVER S;M OVER S SQUARED;M SQUARED;MA;MAHHA;MAIKURO;MAIRU;MANSYON;MARUKU;MB;MB SMALL",
     "MEETORU;MEGA;MEGATON;MG;MHZ;MIKURON;MIL;MIRI;MIRIBAARU;ML;MM;MM CUBED;MM SQUARED;MOL;MPA",
     "MS;MV;MV MEGA;MW;MW MEGA;NA;NANO;NF;NM;NOTTO;NS;NV;NW;ONSU;OOMU;OV;PA;PA AMPS;PAASENTO",
     "PAATU;PC;PEEZI;PENIHI;PENSU;PESO;PF;PH;PIASUTORU;PIKO;PIKURU;PM;POINTO;PONDO;PPM;PR;PS",
     "PV;PW;RAD;RAD OVER S;RAD OVER S SQUARED;REMU;RENTOGEN;RIRA;RITTORU;RUPII;RUUBURU;SAIKURU",
     "SANTIIMU;SENTI;SENTO;SIRINGU;SR;SV;THZ;TON;UON;V OVER M;WATTO;WB;YAADO;YAARU;YUAN"]⟩,
  ⟨["SQUARE MU "], ["A;F;G;L;M;S;V;W"]⟩,
  ⟨["SQUARED "], ["KATAKANA DE;KATAKANA KOKO;KATAKANA SA"]⟩,
  ⟨["SQUARED CJK UNIFIED IDEOGRAPH-"],
    ["4E00;4E2D;4E8C;4E09;4EA4;5B57;5DE6;5F8C;6E80;6F14;7A7A;7D42;8CA9;8D70;53CC;53F3;55B6",
     "58F0;65B0;89E3;518D;521D;524D;591A;624B;751F;904A;914D;5272;5408;5439;5929;6253;6295",
     "6307;6355;6599;6620;6708;6709;7121;7533;7981"]⟩,
  ⟨["TETRAGRAM FOR "],
    ["ACCUMULATION;ADVANCE;AGGRAVATION;ASCENT;BARRIER;BOLD RESOLUTION;BRANCHING OUT;CENTRE",
     "CHANGE;CLOSED MOUTH;CLOSENESS;CLOSURE;COMPLETION;COMPLIANCE;CONSTANCY;CONTACT;CONTENTION",
     "CONTRARIETY;DARKENING;DECISIVENESS;DEFECTIVENESS OR DISTORTION;DEPARTURE;DIFFICULTIES",
     "DIMINISHMENT;DIMMING;DIVERGENCE;DOUBT;DUTIES;EASE;EMBELLISHMENT;ENCOUNTERS;ENDEAVOUR",
     "ENLARGEMENT;ETERNITY;EXHAUSTION;FAILURE;FLIGHT;FOLLOWING;FOSTERING;FULL CIRCLE;FULLNESS",
     "GATHERING;GATHERING IN;GOING TO MEET;GREATNESS;GUARDEDNESS;HARDNESS;HOLDING BACK",
     "INCREASE;INNER;JOY;KEEPING SMALL;KINSHIP;LABOURING;LAW OR MODEL;LEGION;MASSING;MEASURE",
     "MIRED;ON THE VERGE;OPPOSITION;PACKING;PATTERN;PENETRATION;PURITY;REACH;RELEASE;RESIDENCE",
     "RESISTANCE;RESPONSE;RITUAL;SEVERANCE;SINKING;STOPPAGE;STOVE;STRENGTH;UNITY",
     "VASTNESS OR WASTING;WAITING;WATCH;YOUTHFULNESS"]⟩,
  ⟨["TORTOISE SHELL BRACKETED CJK UNIFIED IDEOGRAPH-"],
    ["4E8C;4E09;5B89;52DD;70B9;76D7;672C;6253;6557"]⟩,
  ⟨["VERTICAL KANA REPEAT "],
    ["MARK;MARK LOWER HALF;MARK UPPER HALF;WITH VOICED SOUND MARK",
     "WITH VOICED SOUND MARK UPPER HALF"]⟩,
  ⟨["YI RADICAL ;YI SYLLABLE "],
    ["BBUT;BUR;CHE;CIP;CUOP;CY;CYP;CYT;DDUR;DU;GA;GEP;GGOP;GGUO;GOT;HMO;HXIT;HXOP;HXUO;JJIE",
     "JJUT;JJY;JO;KE;KIT;LI;LIE;LYR;MI;MOP;NBIE;NYIP;NYOP;NZUP;OP;PUT;PYT;QOT;SHAT;SHOP;SHUR",
     "SHY;SSI;TAT;TU;VEP;VUR;WO;YIT;YO;ZA;ZOT;ZUP;ZUR;ZZIET"]⟩,
  ⟨["YI SYLLABLE "],
    ["AP;AT;AX;BAP;BAT;BAX;BBA;BBAP;BBAT;BBAX;BBE;BBEP;BBEX;BBI;BBIE;BBIEP;BBIET;BBIEX;BBIP",
     "BBIT;BBIX;BBO;BBOP;BBOT;BBOX;BBU;BBUO;BBUOP;BBUOX;BBUP;BBUR;BBURX;BBUX;BBY;BBYP;BBYT",
     "BBYX;BEP;BEX;BIE;BIEP;BIET;BIEX;BIP;BIT;BIX;BOP;BOT;BOX;BUO;BUOP;BUOX;BUP;BURX;BUT;BUX",
     "BY;BYP;BYR;BYRX;BYT;BYX;CA;CAP;CAT;CAX;CE;CEP;CEX;CHA;CHAP;CHAT;CHAX;CHEP;CHET;CHEX;CHO",
     "CHOP;CHOT;CHOX;CHU;CHUO;CHUOP;CHUOT;CHUOX;CHUP;CHUR;CHURX;CHUX;CHY;CHYP;CHYR;CHYRX;CHYT",
     "CHYX;CI;CIE;CIEP;CIET;CIEX;CIT;CIX;CO;COP;COT;COX;CU;CUO;CUOX;CUP;CUR;CURX;CUT;CUX;CYR",
     "CYRX;CYX;DAP;DAT;DAX;DDA;DDAP;DDAT;DDAX;DDE;DDEP;DDEX;DDI;DDIE;DDIEP;DDIEX;DDIP;DDIT",
     "DDIX;DDO;DDOP;DDOT;DDOX;DDU;DDUO;DDUOP;DDUOX;DDUP;DDURX;DDUT;DDUX;DEP;DEX;DIE;DIEP;DIEX",
     "DIP;DIT;DIX;DOP;DOT;DOX;DUO;DUOX;DUP;DUR;DURX;DUT;DUX;EX;FA;FAP;FAT;FAX;FI;FIP;FIT;FIX",
     "FO;FOP;FOX;FU;FUP;FUR;FURX;FUT;FUX;FY;FYP;FYT;FYX;GAP;GAT;GAX;GET;GEX;GGA;GGAP;GGAT;GGAX",
     "GGE;GGEP;GGET;GGEX;GGI;GGIE;GGIEP;GGIEX;GGIT;GGIX;GGO;GGOT;GGOX;GGU;GGUOP;GGUOT;GGUOX",
     "GGUP;GGUR;GGURX;GGUT;GGUX;GIE;GIEP;GIET;GIEX;GIP;GIT;GIX;GOP;GOX;GUO;GUOP;GUOT;GUOX;GUP",
     "GUR;GURX;GUT;GUX;HAP;HAT;HAX;HEP;HEX;HIE;HIEX;HIT;HLA;HLAP;HLAT;HLAX;HLE;HLEP;HLEX;HLI",
     "HLIE;HLIEP;HLIEX;HLIP;HLIT;HLIX;HLO;HLOP;HLOX;HLU;HLUO;HLUOP;HLUOX;HLUP;HLUR;HLURX;HLUT",
     "HLUX;HLY;HLYP;HLYR;HLYRX;HLYT;HLYX;HMA;HMAP;HMAT;HMAX;HMI;HMIE;HMIEP;HMIEX;HMIP;HMIT",
     "HMIX;HMOP;HMOT;HMOX;HMU;HMUO;HMUOP;HMUOX;HMUP;HMUR;HMURX;HMUT;HMUX;HMY;HMYP;HMYR;HMYRX",
     "HMYX;HNA;HNAP;HNAT;HNAX;HNE;HNEP;HNEX;HNI;HNIE;HNIEP;HNIET;HNIEX;HNIP;HNIT;HNIX;HNOP",
     "HNOT;HNOX;HNUO;HNUOX;HNUT;HOP;HOT;HOX;HUO;HUOP;HUOT;HUOX;HXA;HXAP;HXAT;HXAX;HXE;HXEP",
     "HXEX;HXI;HXIE;HXIEP;HXIET;HXIEX;HXIP;HXIX;HXO;HXOT;HXOX;HXUOP;HXUOT;HXUOX;IE;IEP;IET;IEX",
     "IP;IT;IX;JI;JIE;JIEP;JIET;JIEX;JIP;JIT;JIX;JJI;JJIEP;JJIET;JJIEX;JJIP;JJIT;JJIX;JJO;JJOP",
     "JJOT;JJOX;JJU;JJUO;JJUOP;JJUOX;JJUP;JJUR;JJURX;JJUX;JJYP;JJYT;JJYX;JOP;JOT;JOX;JU;JUO",
     "JUOP;JUOT;JUOX;JUP;JUR;JURX;JUT;JUX;JY;JYP;JYR;JYRX;JYT;JYX;KAP;KAT;KAX;KEP;KET;KEX;KIE",
     "KIEP;KIEX;KIP;KIX;KOP;KOT;KOX;KUO;KUOP;KUOX;KUP;KUR;KURX;KUT;KUX;LA;LAP;LAT;LAX;LE;LEP",
     "LEX;LIEP;LIET;LIEX;LIP;LIT;LIX;LO;LOP;LOT;LOX;LU;LUO;LUOP;LUOT;LUOX;LUP;LUR;LURX;LUT;LUX",
     "LY;LYP;LYRX;LYT;LYX;MAP;MAT;MAX;MEX;MGA;MGAP;MGAT;MGAX;MGE;MGEP;MGEX;MGIE;MGIEX;MGO;MGOP",
     "MGOT;MGOX;MGU;MGUO;MGUOP;MGUOX;MGUP;MGUR;MGURX;MGUT;MGUX;MIE;MIEP;MIEX;MIP;MIT;MIX;MOT",
     "MOX;MUO;MUOP;MUOT;MUOX;MUP;MUR;MURX;MUT;MUX;MY;MYP;MYT;MYX;NAP;NAX;NBA;NBAP;NBAT;NBAX",
     "NBI;NBIEP;NBIEX;NBIP;NBIT;NBIX;NBO;NBOP;NBOT;NBOX;NBU;NBUP;NBUR;NBURX;NBUT;NBUX;NBY;NBYP",
     "NBYR;NBYRX;NBYT;NBYX;NDA;NDAP;NDAT;NDAX;NDE;NDEP;NDEX;NDI;NDIE;NDIEX;NDIP;NDIT;NDIX;NDO",
     "NDOP;NDOT;NDOX;NDU;NDUP;NDUR;NDURX;NDUT;NDUX;NEP;NEX;NGA;NGAP;NGAT;NGAX;NGE;NGEP;NGEX",
     "NGIE;NGIEP;NGIEX;NGO;NGOP;NGOT;NGOX;NGUO;NGUOT;NGUOX;NIE;NIEP;NIEX;NIP;NIT;NIX;NJI;NJIE",
     "NJIEP;NJIET;NJIEX;NJIP;NJIT;NJIX;NJO;NJOP;NJOT;NJOX;NJU;NJUO;NJUOX;NJUP;NJUR;NJURX;NJUX",
     "NJY;NJYP;NJYR;NJYRX;NJYT;NJYX;NOP;NOT;NOX;NRA;NRAP;NRAT;NRAX;NRE;NREP;NRET;NREX;NRO;NROP",
     "NROX;NRU;NRUP;NRUR;NRURX;NRUT;NRUX;NRY;NRYP;NRYR;NRYRX;NRYT;NRYX;NUO;NUOP;NUOX;NUP;NUR",
     "NURX;NUT;NUX;NYI;NYIE;NYIEP;NYIET;NYIEX;NYIT;NYIX;NYO;NYOT;NYOX;NYU;NYUO;NYUOP;NYUOX",
     "NYUP;NYUT;NYUX;NZA;NZAP;NZAT;NZAX;NZE;NZEX;NZI;NZIE;NZIEP;NZIEX;NZIP;NZIT;NZIX;NZOP;NZOX",
     "NZU;NZUO;NZUOX;NZUR;NZURX;NZUX;NZY;NZYP;NZYR;NZYRX;NZYT;NZYX;OT;OX;PAP;PAT;PAX;PIE;PIEP",
     "PIEX;PIP;PIT;PIX;POP;POT;POX;PUO;PUOP;PUOX;PUP;PUR;PURX;PUX;PY;PYP;PYR;PYRX;PYX;QI;QIE",
     "QIEP;QIET;QIEX;QIP;QIT;QIX;QO;QOP;QOX;QU;QUO;QUOP;QUOT;QUOX;QUP;QUR;QURX;QUT;QUX;QY;QYP",
     "QYR;QYRX;QYT;QYX;RAP;RAT;RAX;REP;REX;ROP;ROT;ROX;RRA;RRAX;RRE;RREP;RRET;RREX;RRO;RROP",
     "RROT;RROX;RRU;RRUO;RRUOX;RRUP;RRUR;RRURX;RRUT;RRUX;RRY;RRYP;RRYR;RRYRX;RRYT;RRYX;RUO",
     "RUOP;RUOX;RUP;RUR;RURX;RUT;RUX;RY;RYP;RYR;RYRX;RYT;RYX;SAP;SAT;SAX;SEP;SEX;SHA;SHAP;SHAX",
     "SHE;SHEP;SHET;SHEX;SHO;SHOT;SHOX;SHU;SHUO;SHUOP;SHUOX;SHUP;SHURX;SHUT;SHUX;SHYP;SHYR",
     "SHYRX;SHYT;SHYX;SIE;SIEP;SIEX;SIP;SIT;SIX;SOP;SOT;SOX;SSA;SSAP;SSAT;SSAX;SSE;SSEP;SSEX",
     "SSIE;SSIEP;SSIEX;SSIP;SSIT;SSIX;SSO;SSOP;SSOT;SSOX;SSU;SSUP;SSUT;SSUX;SSY;SSYP;SSYR",
     "SSYRX;SSYT;SSYX;SUO;SUOP;SUOX;SUP;SUR;SURX;SUT;SUX;SY;SYP;SYR;SYRX;SYT;SYX;TAP;TAX;TEP",
     "TEX;TIE;TIEP;TIEX;TIP;TIT;TIX;TOP;TOT;TOX;TUO;TUOP;TUOT;TUOX;TUP;TUR;TURX;TUT;TUX;UO;UOP",
     "UOX;VA;VAP;VAT;VAX;VEX;VI;VIE;VIEP;VIET;VIEX;VIP;VIT;VIX;VO;VOP;VOT;VOX;VUP;VURX;VUT;VUX",
     "VY;VYP;VYR;VYRX;VYT;VYX;WAP;WAT;WAX;WEP;WEX;WOP;WOX;WU;WUO;WUOP;WUOX;XI;XIE;XIEP;XIET",
     "XIEX;XIP;XIT;XIX;XO;XOP;XOT;XOX;XUO;XUOX;XY;XYP;XYR;XYRX;XYT;XYX;YI;YIE;YIEP;YIET;YIEX",
     "YIP;YIX;YOP;YOT;YOX;YUO;YUOP;YUOT;YUOX;YUP;YUR;YURX;YUT;YUX;YY;YYP;YYR;YYRX;YYT;YYX;ZAP",
     "ZAT;ZAX;ZEP;ZEX;ZHA;ZHAP;ZHAT;ZHAX;ZHE;ZHEP;ZHET;ZHEX;ZHO;ZHOP;ZHOT;ZHOX;ZHU;ZHUO;ZHUOP",
     "ZHUOX;ZHUP;ZHUR;ZHURX;ZHUT;ZHUX;ZHY;ZHYP;ZHYR;ZHYRX;ZHYT;ZHYX;ZIE;ZIEP;ZIEX;ZIP;ZIT;ZIX",
     "ZOP;ZOX;ZUO;ZUOP;ZUOX;ZURX;ZUT;ZUX;ZY;ZYP;ZYR;ZYRX;ZYT;ZYX;ZZA;ZZAP;ZZAT;ZZAX;ZZE;ZZEP",
     "ZZEX;ZZI;ZZIE;ZZIEP;ZZIEX;ZZIP;ZZIT;ZZIX;ZZO;ZZOP;ZZOX;ZZU;ZZUP;ZZUR;ZZURX;ZZUX;ZZY;ZZYP",
     "ZZYR;ZZYRX;ZZYT;ZZYX"]⟩]

def eastAsianSeries : List Series := [
  ⟨"CJK COMPATIBILITY IDEOGRAPH-", 16, 4, 0xF900, 0xFA6D⟩,
  ⟨"CJK COMPATIBILITY IDEOGRAPH-", 16, 4, 0xFA70, 0xFAD9⟩,
  ⟨"CJK COMPATIBILITY IDEOGRAPH-", 16, 4, 0x2F800, 0x2FA1D⟩,
  ⟨"HENTAIGANA LETTER HA-", 10, 1, 1, 11⟩,
  ⟨"HENTAIGANA LETTER HE-", 10, 1, 1, 7⟩,
  ⟨"HENTAIGANA LETTER HI-", 10, 1, 1, 7⟩,
  ⟨"HENTAIGANA LETTER HO-", 10, 1, 1, 8⟩,
  ⟨"HENTAIGANA LETTER KA-", 10, 1, 1, 11⟩,
  ⟨"HENTAIGANA LETTER KE-", 10, 1, 1, 6⟩,
  ⟨"HENTAIGANA LETTER KI-", 10, 1, 1, 8⟩,
  ⟨"HENTAIGANA LETTER KU-", 10, 1, 1, 7⟩,
  ⟨"HENTAIGANA LETTER MA-", 10, 1, 1, 7⟩,
  ⟨"HENTAIGANA LETTER MI-", 10, 1, 1, 7⟩,
  ⟨"HENTAIGANA LETTER MO-", 10, 1, 1, 6⟩,
  ⟨"HENTAIGANA LETTER NA-", 10, 1, 1, 9⟩,
  ⟨"HENTAIGANA LETTER NE-", 10, 1, 1, 6⟩,
  ⟨"HENTAIGANA LETTER NI-", 10, 1, 1, 7⟩,
  ⟨"HENTAIGANA LETTER RI-", 10, 1, 1, 7⟩,
  ⟨"HENTAIGANA LETTER RO-", 10, 1, 1, 6⟩,
  ⟨"HENTAIGANA LETTER RU-", 10, 1, 1, 6⟩,
  ⟨"HENTAIGANA LETTER SA-", 10, 1, 1, 8⟩,
  ⟨"HENTAIGANA LETTER SI-", 10, 1, 1, 6⟩,
  ⟨"HENTAIGANA LETTER SO-", 10, 1, 1, 7⟩,
  ⟨"HENTAIGANA LETTER SU-", 10, 1, 1, 8⟩,
  ⟨"HENTAIGANA LETTER TE-", 10, 1, 1, 9⟩,
  ⟨"HENTAIGANA LETTER TI-", 10, 1, 1, 7⟩,
  ⟨"HENTAIGANA LETTER TO-", 10, 1, 1, 6⟩,
  ⟨"HENTAIGANA LETTER WO-", 10, 1, 1, 7⟩,
  ⟨"HENTAIGANA LETTER YO-", 10, 1, 1, 6⟩,
  ⟨"KHITAN SMALL SCRIPT CHARACTER-", 16, 4, 0x18B00, 0x18CD5⟩,
  ⟨"MIAO LETTER TONE-", 10, 1, 2, 8⟩,
  ⟨"NUSHU CHARACTER-", 16, 4, 0x1B170, 0x1B2FB⟩,
  ⟨"TANGUT COMPONENT-", 10, 3, 1, 768⟩]

end WireModel.Text.CharacterName
