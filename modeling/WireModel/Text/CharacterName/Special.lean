import WireModel.Text.CharacterName.Family

/-!
# Names of special signs

The names of signs for music, shorthand, sign writing, formulas, games and alchemy.
-/

namespace WireModel.Text.CharacterName

def special : List Family := [
  ⟨[""], ["DOMINO TILE HORIZONTAL BACK;DOMINO TILE VERTICAL BACK;GREEK MUSICAL LEIMMA"]⟩,
  ⟨["ALCHEMICAL SYMBOL FOR "],
    ["AIR;ALEMBIC;ALKALI;ALKALI-2;ALUM;AMALGAM;ANTIMONY ORE;AQUA REGIA;AQUA REGIA-2;AQUA VITAE",
     "AQUA VITAE-2;AQUAFORTIS;ARSENIC;ASHES;AURIPIGMENT;BATH OF MARY;BATH OF VAPOURS",
     "BISMUTH ORE;BLACK SULFUR;BORAX;BORAX-2;BORAX-3;BRICK;CADUCEUS;CALX;CAPUT MORTUUM",
     "CINNABAR;COPPER ANTIMONIATE;COPPER ORE;CROCUS OF COPPER;CROCUS OF COPPER-2",
     "CROCUS OF IRON;CRUCIBLE;CRUCIBLE-2;CRUCIBLE-3;CRUCIBLE-4;CRUCIBLE-5;DAY-NIGHT;DISSOLVE",
     "DISSOLVE-2;DISTILL;EARTH;FIRE;GOLD;GUM;HALF DRAM;HALF OUNCE;HORSE DUNG;HOUR;IRON ORE",
     "IRON ORE-2;IRON-COPPER ORE;LEAD ORE;LODESTONE;MARCASITE;MERCURY SUBLIMATE",
     "MERCURY SUBLIMATE-2;MERCURY SUBLIMATE-3;MONTH;NIGHT;NITRE;OIL;PHILOSOPHERS SULFUR",
     "POT ASHES;POWDER;POWDERED BRICK;PRECIPITATE;PURIFY;PUTREFACTION;QUICK LIME;QUINTESSENCE",
     "REALGAR;REALGAR-2;REGULUS;REGULUS OF ANTIMONY;REGULUS OF ANTIMONY-2;REGULUS OF IRON",
     "REGULUS-2;REGULUS-3;REGULUS-4;RETORT;ROCK SALT;ROCK SALT-2;SAL-AMMONIAC;SALT",
     "SALT OF ANTIMONY;SALT OF COPPER ANTIMONIATE;SCEPTER OF JOVE;SILVER;SOAP;SPIRIT",
     "STARRED TRIDENT;STRATUM SUPER STRATUM;STRATUM SUPER STRATUM-2;SUBLIMATE OF ANTIMONY",
     "SUBLIMATE OF COPPER;SUBLIMATE OF SALT OF ANTIMONY;SUBLIMATE OF SALT OF COPPER",
     "SUBLIMATION;SULFUR;TARTAR;TARTAR-2;TIN ORE;TINCTURE;TRIDENT;TUTTY;URINE;VERDIGRIS",
     "VINEGAR;VINEGAR OF ANTIMONY;VINEGAR-2;VINEGAR-3;VITRIOL;VITRIOL-2;WATER;WAX"]⟩,
  ⟨["BYZANTINE MUSICAL SYMBOL "],
    ["ANATRICHISMA;ANTIKENOKYLISMA;ANTIKENOMA;APESO EKFONITIKON;APESO EXO NEO;APLI",
     "APODERMA ARCHAION;APODERMA NEO;APOSTROFOI SYNDESMOS NEO;APOSTROFOI TELOUS ICHIMATOS",
     "APOSTROFOS;APOSTROFOS DIPLI;APOSTROFOS NEO;APOTHEMA;ARGON;ARGOSYNTHETON;CHAMILI;CHAMILON",
     "CHOREVMA ARCHAION;CHOREVMA NEO;CHROA KLITON;CHROA SPATHI;CHROA ZYGOS;DASEIA;DIARGON",
     "DIASTOLI APLI MEGALI;DIASTOLI APLI MIKRI;DIASTOLI DIPLI;DIASTOLI THESEOS",
     "DIESIS APLI DYO DODEKATA;DIESIS DIGRAMMOS EX DODEKATA",
     "DIESIS MONOGRAMMOS TESSERA DODEKATA;DIESIS TETARTIMORION;DIESIS TRIGRAMMOS OKTO DODEKATA",
     "DIESIS TRITIMORION;DIFTOGGOS OU;DIGORGON;DIGORGON PARESTIGMENON ARISTERA ANO",
     "DIGORGON PARESTIGMENON ARISTERA KATO;DIGORGON PARESTIGMENON DEXIA;DIGRAMMA GG;DIPLI",
     "DIPLI ARCHAION;DYO;EKSTREPTON;ELAFRON;ENARXIS KAI FTHORA VOU;ENDOFONON;EPEGERMA",
     "ETERON ARGOSYNTHETON;ETERON PARAKALESMA;EXO EKFONITIKON;FANEROSIS DIFONIAS",
     "FANEROSIS MONOFONIAS;FANEROSIS TETRAFONIAS;FHTORA SKLIRON CHROMA VASIS;GENIKI DIESIS",
     "GENIKI YFESIS;GORGON ARCHAION;GORGON NEO ANO;GORGON NEO KATO",
     "GORGON PARESTIGMENON ARISTERA;GORGON PARESTIGMENON DEXIA;GORGOSYNTHETON",
     "GORTHMIKON N APLOUN;GORTHMIKON N DIPLOUN;GRONTHISMATA;ICHADIN;IMIDIARGON;IMIFONON",
     "IMIFTHORA;IMIFTHORON;ISAKIA TELOUS ICHIMATOS;ISON ARCHAION;ISON NEO;KATAVA TROMIKON",
     "KATAVASMA;KATHISTI;KENTIMA ARCHAION;KENTIMA NEO ANO;KENTIMA NEO KATO;KENTIMA NEO MESO",
     "KENTIMATA;KENTIMATA ARCHAION;KENTIMATA NEO ANO;KENTIMATA NEO KATO;KENTIMATA NEO MESO",
     "KLASMA;KLASMA ANO;KLASMA KATO;KONTEVMA;KONTEVMA ALLO;KORONIS;KOUFISMA;KRATIMA ALLO",
     "KRATIMA ARCHAION;KRATIMA NEO;KRATIMATA;KRATIMOKOUFISMA;KRATIMOYPORROON;KREMASTI;KYLISMA",
     "LEIMMA DYO CHRONON;LEIMMA ENOS CHRONOU;LEIMMA IMISEOS CHRONOU;LEIMMA TESSARON CHRONON",
     "LEIMMA TRION CHRONON;LEMOI;LYGISMA;MIKRON ISON;NANA;OLIGON ARCHAION;OLIGON NEO;OMALON",
     "OXEIA DIPLI;OXEIA EKFONITIKON;OXEIA NEO;OXEIAI ARCHAION;OYRANISMA ARCHAION;OYRANISMA NEO",
     "PARAKALESMA ARCHAION;PARAKALESMA NEO;PARAKLITIKI;PARAKLITIKI ARCHAION;PARAKLITIKI NEO",
     "PARICHON;PELASTON;PELASTON NEO;PERISPOMENI;PETASMA;PETASTI;PETASTOKOUFISMA",
     "PIASMA ARCHAION;PIASMA NEO;PSIFISTOLYGISMA;PSIFISTON;PSIFISTON NEO;PSIFISTOPARAKALESMA",
     "PSIFISTOSYNAGMA;PSILI;PSILON;RAPISMA;REVMA;SAXIMATA;SEISMA;SEISMA NEO;STAVROS",
     "STAVROS APODEXIA;STIGMA;STRAGGISMATA;SYNAGMA ARCHAION;SYNAGMA META STAVROU;SYNAGMA NEO",
     "SYNEVMA;SYRMA;SYRMATIKI;TELEIA;TESSERA;TETRAPLI;THEMA;THEMA APLOUN;THEMATISMOS ESO",
     "THEMATISMOS EXO;THES KAI APOTHES;THITA;TINAGMA;TRIA;TRIGORGON;TRIPLI;TROMIKOLYGISMA",
     "TROMIKON ALLO;TROMIKON ARCHAION;TROMIKON NEO;TROMIKOPARAKALESMA;TROMIKOPSIFISTON",
     "TROMIKOSYNAGMA;VAREIA DIPLI;VAREIA EKFONITIKON;VAREIA NEO;VAREIAI ARCHAION;VATHY",
     "XIRON KLASMA;YFEN ANO;YFEN KATO;YFESIS APLI DYO DODEKATA;YFESIS DIGRAMMOS EX DODEKATA",
     "YFESIS MONOGRAMMOS TESSERA DODEKATA;YFESIS TRIGRAMMOS OKTO DODEKATA;YFESIS TRITIMORION",
     "YPOKRISIS;YPOKRISIS DIPLI;YPORROI;YPSILI"]⟩,
  ⟨["BYZANTINE MUSICAL SYMBOL AGOGI "],
    ["ARGI;ARGOTERI;GORGI;GORGOTERI;MESI;METRIA;POLI ARGI;POLI GORGI"]⟩,
  ⟨["BYZANTINE MUSICAL SYMBOL ARKTIKO "], ["DI;GA;KE;NI;PA;VOU;ZO"]⟩,
  ⟨["BYZANTINE MUSICAL SYMBOL FTHORA "],
    ["ARCHAION;ARCHAION DEYTEROU ICHOU;ENARMONIOS ANTIFONIA;I YFESIS TETARTIMORION",
     "MALAKON CHROMA DIFONIAS;MALAKON CHROMA MONOFONIAS;NAOS ICHOS;NENANO",
     "SKLIRON CHROMA SYNAFI;SKLIRON DIATONON DI"]⟩,
  ⟨["BYZANTINE MUSICAL SYMBOL FTHORA DIATONIKI "], ["DI;KE;NANA;NI ANO;NI KATO;PA;ZO"]⟩,
  ⟨["BYZANTINE MUSICAL SYMBOL MARTYRIA "],
    ["ALLI DEYTEROS ICHOS;ALLI PROTOS ICHOS;DEYTEROS ICHOS;LEGETOS ICHOS;PLAGIOS ICHOS",
     "PLAGIOS TETARTOS ICHOS;PROTOS ICHOS;PROTOVARYS ICHOS;TETARTOS ICHOS",
     "TETARTOS LEGETOS ICHOS;TRIFONIAS;TRITOS ICHOS;VARYS ICHOS"]⟩,
  ⟨["BYZANTINE MUSICAL SYMBOL SIMANSIS "],
    ["ARSEOS;ARSEOS DISIMOU;ARSEOS TETRASIMOU;ARSEOS TRISIMOU;THESEOS;THESEOS DISIMOU",
     "THESEOS TETRASIMOU;THESEOS TRISIMOU"]⟩,
  ⟨["COMBINING "], ["GREEK MUSICAL PENTASEME;GREEK MUSICAL TETRASEME;GREEK MUSICAL TRISEME"]⟩,
  ⟨["DUPLOYAN "],
    ["AFFIX LEFT HORIZONTAL SECANT;AFFIX MID HORIZONTAL SECANT;AFFIX MID VERTICAL SECANT",
     "AFFIX RIGHT HORIZONTAL SECANT;DOUBLE MARK;PUNCTUATION CHINOOK FULL STOP",
     "SIGN O WITH CROSS;THICK LETTER SELECTOR"]⟩,
  ⟨["DUPLOYAN AFFIX ATTACHED "],
    ["E HOOK;I HOOK;LEFT-TO-RIGHT SECANT;SECANT;TAIL;TANGENT;TANGENT HOOK"]⟩,
  ⟨["DUPLOYAN AFFIX HIGH ;DUPLOYAN AFFIX LOW "],
    ["ACUTE;CIRCLE;DOT;GRAVE;LINE;LONG GRAVE;TIGHT ACUTE;VERTICAL;VERTICAL SECANT;WAVE"]⟩,
  ⟨["DUPLOYAN AFFIX LOW "], ["ARROW"]⟩,
  ⟨["DUPLOYAN LETTER "],
    ["A;AOU;B;D;D S;DH;E;EE;EU;F;F N;G;G R S;H;HL;I;IE;J;J M;J M S;J N;J N S;J S;J S WITH DOT",
     "J WITH DOT;J WITH DOTS INSIDE AND ABOVE;K;K M;K R S;KK;L;LH;LONG I;LONG U;M;M N;M N S",
     "M S;M WITH DOT;N;N M;N M S;N S;N WITH DOT;NASAL A;NASAL I;NASAL O;NASAL U;O;OA;OOH;OU;OW",
     "P;P N;PERNIN AM;PERNIN AN;R;R S;RH;ROMANIAN I;ROMANIAN U;S;S J;S J S;S K;S K R;S M;S N",
     "S P;S P R;S S;S T;S T R;S WITH DOT;S WITH DOT BELOW;SHORT I;T;T R S;T S;TH;U;U N;UH;UI;V",
     "VOCALIC M;W;W R;WA;WEI;WH;WI;WO;WOW;X;XW;YE"]⟩,
  ⟨["DUPLOYAN LETTER SLOAN "], ["AN;DH;EE;EH;EN;J;ON;OW;U"]⟩,
  ⟨["GREEK INSTRUMENTAL NOTATION SYMBOL-"],
    ["1;2;4;5;7;8;11;12;13;14;17;18;19;23;24;25;26;27;29;30;32;36;37;38;39;40;42;43;45"]⟩,
  ⟨["GREEK VOCAL NOTATION "], ["SYMBOL-50;SYMBOL-51;SYMBOL-52;SYMBOL-53;SYMBOL-54"]⟩,
  ⟨["MAHJONG TILE "],
    ["AUTUMN;BACK;BAMBOO;CHRYSANTHEMUM;EAST WIND;EIGHT OF BAMBOOS;EIGHT OF CHARACTERS",
     "EIGHT OF CIRCLES;FIVE OF BAMBOOS;FIVE OF CHARACTERS;FIVE OF CIRCLES;FOUR OF BAMBOOS",
     "FOUR OF CHARACTERS;FOUR OF CIRCLES;GREEN DRAGON;JOKER;NINE OF BAMBOOS;NINE OF CHARACTERS",
     "NINE OF CIRCLES;NORTH WIND;ONE OF BAMBOOS;ONE OF CHARACTERS;ONE OF CIRCLES;ORCHID;PLUM",
     "RED DRAGON;SEVEN OF BAMBOOS;SEVEN OF CHARACTERS;SEVEN OF CIRCLES;SIX OF BAMBOOS",
     "SIX OF CHARACTERS;SIX OF CIRCLES;SOUTH WIND;SPRING;SUMMER;THREE OF BAMBOOS",
     "THREE OF CHARACTERS;THREE OF CIRCLES;TWO OF BAMBOOS;TWO OF CHARACTERS;TWO OF CIRCLES",
     "WEST WIND;WHITE DRAGON;WINTER"]⟩,
  ⟨["MATHEMATICAL BOLD ;MATHEMATICAL BOLD ITALIC ;MATHEMATICAL ITALIC ",
    "MATHEMATICAL SANS-SERIF BOLD ;MATHEMATICAL SANS-SERIF BOLD ITALIC "],
    ["EPSILON SYMBOL;KAPPA SYMBOL;NABLA;PARTIAL DIFFERENTIAL;PHI SYMBOL;PI SYMBOL;RHO SYMBOL",
     "THETA SYMBOL"]⟩,
  ⟨["MATHEMATICAL BOLD CAPITAL ;MATHEMATICAL BOLD ITALIC CAPITAL ;MATHEMATICAL ITALIC CAPITAL ",
    "MATHEMATICAL SANS-SERIF BOLD CAPITAL ;MATHEMATICAL SANS-SERIF BOLD ITALIC CAPITAL "],
    ["A;ALPHA;B;BETA;C;CHI;D;DELTA;E;EPSILON;ETA;F;G;GAMMA;H;I;IOTA;J;K;KAPPA;L;LAMDA;M;MU;N",
     "NU;O;OMEGA;OMICRON;P;PHI;PI;PSI;Q;R;RHO;S;SIGMA;T;TAU;THETA;THETA SYMBOL;U;UPSILON;V;W;X",
     "XI;Y;Z;ZETA"]⟩,
  ⟨["MATHEMATICAL BOLD CAPITAL "], ["DIGAMMA"]⟩,
  ⟨["MATHEMATICAL BOLD DIGIT ;MATHEMATICAL DOUBLE-STRUCK DIGIT ;MATHEMATICAL MONOSPACE DIGIT ",
    "MATHEMATICAL SANS-SERIF BOLD DIGIT ;MATHEMATICAL SANS-SERIF DIGIT ;MAYAN NUMERAL "],
    ["EIGHT;FIVE;FOUR;NINE;ONE;SEVEN;SIX;THREE;TWO;ZERO"]⟩,
  ⟨["MATHEMATICAL BOLD FRAKTUR CAPITAL ;MATHEMATICAL BOLD FRAKTUR SMALL ",
    "MATHEMATICAL BOLD SCRIPT CAPITAL ;MATHEMATICAL BOLD SCRIPT SMALL ",
    "MATHEMATICAL DOUBLE-STRUCK SMALL ;MATHEMATICAL FRAKTUR SMALL ",
    "MATHEMATICAL MONOSPACE CAPITAL ;MATHEMATICAL MONOSPACE SMALL ",
    "MATHEMATICAL SANS-SERIF CAPITAL ;MATHEMATICAL SANS-SERIF ITALIC CAPITAL ",
    "MATHEMATICAL SANS-SERIF ITALIC SMALL ;MATHEMATICAL SANS-SERIF SMALL "],
    ["A;B;C;D;E;F;G;H;I;J;K;L;M;N;O;P;Q;R;S;T;U;V;W;X;Y;Z"]⟩,
  ⟨["MATHEMATICAL BOLD ITALIC SMALL ;MATHEMATICAL BOLD SMALL ",
    "MATHEMATICAL SANS-SERIF BOLD ITALIC SMALL ;MATHEMATICAL SANS-SERIF BOLD SMALL "],
    ["A;ALPHA;B;BETA;C;CHI;D;DELTA;E;EPSILON;ETA;F;FINAL SIGMA;G;GAMMA;H;I;IOTA;J;K;KAPPA;L",
     "LAMDA;M;MU;N;NU;O;OMEGA;OMICRON;P;PHI;PI;PSI;Q;R;RHO;S;SIGMA;T;TAU;THETA;U;UPSILON;V;W;X",
     "XI;Y;Z;ZETA"]⟩,
  ⟨["MATHEMATICAL BOLD SMALL "], ["DIGAMMA"]⟩,
  ⟨["MATHEMATICAL DOUBLE-STRUCK CAPITAL "], ["A;B;D;E;F;G;I;J;K;L;M;O;S;T;U;V;W;X;Y"]⟩,
  ⟨["MATHEMATICAL FRAKTUR CAPITAL ;MATHEMATICAL ITALIC SMALL "],
    ["A;B;D;E;F;G;J;K;L;M;N;O;P;Q;S;T;U;V;W;X;Y"]⟩,
  ⟨["MATHEMATICAL ITALIC SMALL "],
    ["ALPHA;BETA;C;CHI;DELTA;DOTLESS I;DOTLESS J;EPSILON;ETA;FINAL SIGMA;GAMMA;I;IOTA;KAPPA",
     "LAMDA;MU;NU;OMEGA;OMICRON;PHI;PI;PSI;R;RHO;SIGMA;TAU;THETA;UPSILON;XI;Z;ZETA"]⟩,
  ⟨["MATHEMATICAL SCRIPT CAPITAL "], ["A;C;D;G;J;K;N;O;P;Q;S;T;U;V;W;X;Y;Z"]⟩,
  ⟨["MATHEMATICAL SCRIPT SMALL "], ["A;B;C;D;F;H;I;J;K;L;M;N;P;Q;R;S;T;U;V;W;X;Y;Z"]⟩,
  ⟨["MAYAN NUMERAL "],
    ["EIGHTEEN;ELEVEN;FIFTEEN;FOURTEEN;NINETEEN;SEVENTEEN;SIXTEEN;TEN;THIRTEEN;TWELVE"]⟩,
  ⟨["MUSICAL SYMBOL "],
    ["ARPEGGIATO DOWN;ARPEGGIATO UP;BEGIN BEAM;BEGIN PHRASE;BEGIN SLUR;BEGIN TIE;BRACE;BRACKET",
     "BREATH MARK;BREVE;BREVIS;BREVIS REST;C CLEF;CAESURA;CIRCLE X NOTEHEAD;CLIMACUS;CLIVIS",
     "CLUSTER NOTEHEAD BLACK;CLUSTER NOTEHEAD WHITE;CODA;COMMON TIME;CRESCENDO;CROIX;CUT TIME",
     "DA CAPO;DAL SEGNO;DAMP;DAMP ALL;DASHED BARLINE;DECRESCENDO;DEGREE SLASH;DOUBLE BARLINE",
     "DOUBLE FLAT;DOUBLE SHARP;DRUM CLEF-1;DRUM CLEF-2;EIGHTH NOTE;EIGHTH REST;END BEAM",
     "END OF STIMME;END PHRASE;END SLUR;END TIE;F CLEF;F CLEF OTTAVA ALTA;F CLEF OTTAVA BASSA",
     "FERMATA;FERMATA BELOW;FINAL BARLINE;FINGERED TREMOLO-1;FINGERED TREMOLO-2",
     "FINGERED TREMOLO-3;FIVE-LINE STAFF;FLAT DOWN;FLAT UP;FORTE;FOUR-LINE STAFF",
     "FOUR-STRING FRETBOARD;FUSA BLACK;FUSA WHITE;G CLEF;G CLEF OTTAVA ALTA",
     "G CLEF OTTAVA BASSA;GLISSANDO DOWN;GLISSANDO UP;GRACE NOTE NO SLASH;GRACE NOTE SLASH",
     "GREGORIAN C CLEF;GREGORIAN F CLEF;HALF NOTE;HALF PEDAL MARK;HALF REST;HAUPTSTIMME",
     "INVERTED TURN;KORON;LEFT REPEAT SIGN;LONGA;LONGA IMPERFECTA REST;LONGA PERFECTA REST",
     "MAXIMA;MEZZO;MINIMA;MINIMA BLACK;MINIMA REST;MOON NOTEHEAD BLACK;MOON NOTEHEAD WHITE",
     "MULTI REST;MULTIPLE MEASURE REST;NATURAL DOWN;NATURAL UP;NEBENSTIMME;NOTEHEAD BLACK",
     "NULL NOTEHEAD;ONE HUNDRED TWENTY-EIGHTH NOTE;ONE HUNDRED TWENTY-EIGHTH REST",
     "ONE-LINE STAFF;OTTAVA ALTA;OTTAVA BASSA;PARENTHESIS NOTEHEAD;PEDAL MARK;PEDAL UP MARK",
     "PES SUBPUNCTIS;PIANO;PLUS NOTEHEAD;PODATUS;PORRECTUS;PORRECTUS FLEXUS;QUARTER NOTE",
     "QUARTER REST;QUARTER TONE FLAT;QUARTER TONE SHARP;QUINDICESIMA ALTA;QUINDICESIMA BASSA",
     "REPEAT DOTS;REPEATED FIGURE-1;REPEATED FIGURE-2;REPEATED FIGURE-3;REVERSE FINAL BARLINE",
     "RIGHT REPEAT SIGN;RINFORZANDO;SCANDICUS;SCANDICUS FLEXUS;SEGNO;SEMIBREVIS BLACK",
     "SEMIBREVIS REST;SEMIBREVIS WHITE;SEMIMINIMA BLACK;SEMIMINIMA REST;SEMIMINIMA WHITE",
     "SHARP DOWN;SHARP UP;SHORT BARLINE;SINGLE BARLINE;SIX-LINE STAFF;SIX-STRING FRETBOARD",
     "SIXTEENTH NOTE;SIXTEENTH REST;SIXTY-FOURTH NOTE;SIXTY-FOURTH REST;SORI;SQUARE B",
     "SQUARE NOTEHEAD BLACK;SQUARE NOTEHEAD WHITE;SUBITO",
     "TEMPUS PERFECTUM CUM PROLATIONE IMPERFECTA;TEMPUS PERFECTUM CUM PROLATIONE PERFECTA",
     "TEMPUS PERFECTUM CUM PROLATIONE PERFECTA DIMINUTION-1;THIRTY-SECOND NOTE",
     "THIRTY-SECOND REST;THREE-LINE STAFF;TORCULUS;TORCULUS RESUPINUS;TR",
     "TRIANGLE-ROUND NOTEHEAD DOWN BLACK;TRIANGLE-ROUND NOTEHEAD DOWN WHITE;TURN;TURN SLASH",
     "TURN UP;TWO-LINE STAFF;VIRGA;VOID NOTEHEAD;WHOLE NOTE;WHOLE REST;WITH FINGERNAILS",
     "X NOTEHEAD;Z"]⟩,
  ⟨["MUSICAL SYMBOL COMBINING "],
    ["ACCENT;ACCENT-STACCATO;AUGMENTATION DOT;BEND;DOIT;DOUBLE TONGUE;DOWN BOW;FLAG-1;FLAG-2",
     "FLAG-3;FLAG-4;FLAG-5;FLIP;HARMONIC;LOURE;MARCATO;MARCATO-STACCATO;RIP;SMEAR",
     "SNAP PIZZICATO;SPRECHGESANG STEM;STACCATISSIMO;STACCATO;STEM;TENUTO;TREMOLO-1;TREMOLO-2",
     "TREMOLO-3;TRIPLE TONGUE;UP BOW"]⟩,
  ⟨["MUSICAL SYMBOL KIEVAN "],
    ["C CLEF;EIGHTH NOTE STEM DOWN;EIGHTH NOTE STEM UP;END OF PIECE;FINAL NOTE;FLAT SIGN",
     "HALF NOTE;QUARTER NOTE STEM DOWN;QUARTER NOTE STEM UP;RECITATIVE MARK;WHOLE NOTE"]⟩,
  ⟨["MUSICAL SYMBOL TEMPUS IMPERFECTUM "],
    ["CUM PROLATIONE IMPERFECTA;CUM PROLATIONE IMPERFECTA DIMINUTION-1",
     "CUM PROLATIONE IMPERFECTA DIMINUTION-2;CUM PROLATIONE IMPERFECTA DIMINUTION-3",
     "CUM PROLATIONE PERFECTA"]⟩,
  ⟨["MUSICAL SYMBOL TRIANGLE NOTEHEAD "],
    ["DOWN BLACK;DOWN WHITE;LEFT BLACK;LEFT WHITE;RIGHT BLACK;RIGHT WHITE;UP BLACK",
     "UP RIGHT BLACK;UP RIGHT WHITE;UP WHITE"]⟩,
  ⟨["PLAYING CARD "],
    ["ACE OF CLUBS;ACE OF DIAMONDS;ACE OF HEARTS;ACE OF SPADES;BACK;BLACK JOKER;EIGHT OF CLUBS",
     "EIGHT OF DIAMONDS;EIGHT OF HEARTS;EIGHT OF SPADES;FIVE OF CLUBS;FIVE OF DIAMONDS",
     "FIVE OF HEARTS;FIVE OF SPADES;FOOL;FOUR OF CLUBS;FOUR OF DIAMONDS;FOUR OF HEARTS",
     "FOUR OF SPADES;JACK OF CLUBS;JACK OF DIAMONDS;JACK OF HEARTS;JACK OF SPADES",
     "KING OF CLUBS;KING OF DIAMONDS;KING OF HEARTS;KING OF SPADES;KNIGHT OF CLUBS",
     "KNIGHT OF DIAMONDS;KNIGHT OF HEARTS;KNIGHT OF SPADES;NINE OF CLUBS;NINE OF DIAMONDS",
     "NINE OF HEARTS;NINE OF SPADES;QUEEN OF CLUBS;QUEEN OF DIAMONDS;QUEEN OF HEARTS",
     "QUEEN OF SPADES;RED JOKER;SEVEN OF CLUBS;SEVEN OF DIAMONDS;SEVEN OF HEARTS",
     "SEVEN OF SPADES;SIX OF CLUBS;SIX OF DIAMONDS;SIX OF HEARTS;SIX OF SPADES;TEN OF CLUBS",
     "TEN OF DIAMONDS;TEN OF HEARTS;TEN OF SPADES;THREE OF CLUBS;THREE OF DIAMONDS",
     "THREE OF HEARTS;THREE OF SPADES;TWO OF CLUBS;TWO OF DIAMONDS;TWO OF HEARTS;TWO OF SPADES",
     "WHITE JOKER"]⟩,
  ⟨["SHORTHAND FORMAT "], ["CONTINUING OVERLAP;DOWN STEP;LETTER OVERLAP;UP STEP"]⟩,
  ⟨["SIGNWRITING "],
    ["AIR BLOW SMALL ROTATIONS;AIR BLOWING OUT;AIR SUCK SMALL ROTATIONS;AIR SUCKING IN",
     "BREATH EXHALE;BREATH INHALE;BRUSH BETWEEN;BRUSH MULTIPLE;BRUSH SINGLE;CHEEKS NEUTRAL",
     "CHEEKS PUFFED;CHEEKS SUCKED;COLON;COMMA;DREAMY EYEBROWS DOWN NEUTRAL",
     "DREAMY EYEBROWS NEUTRAL DOWN;DREAMY EYEBROWS NEUTRAL UP;DREAMY EYEBROWS UP NEUTRAL;EARS",
     "EXCITEMENT;EYE BLINK MULTIPLE;EYE BLINK SINGLE;EYE WINK;EYEBROWS STRAIGHT DOWN",
     "EYEBROWS STRAIGHT NEUTRAL;EYEBROWS STRAIGHT UP;EYELASHES DOWN;EYELASHES FLUTTERING",
     "EYELASHES UP;FACE DIRECTION POSITION NOSE FORWARD TILTING",
     "FACE DIRECTION POSITION NOSE UP OR DOWN;FACE DIRECTION POSITION NOSE UP OR DOWN TILTING",
     "FINGER;FLOORPLANE SHOULDER HIP MOVE;FOREHEAD CONTACT;FOREHEAD NEUTRAL;FOREHEAD WRINKLED",
     "FULL STOP;GRASP BETWEEN;GRASP MULTIPLE;GRASP SINGLE;HAIR;HEAD;HEAD MOVEMENT CIRCLE",
     "HEAD RIM;LIMB COMBINATION;LIP LOWER OVER UPPER;LIP UPPER OVER LOWER",
     "LIPS PRESSED TOGETHER;LOCATION-FLOORPLANE SPACE;LOCATION-WALLPLANE SPACE;NECK",
     "NOSE CONTACT;NOSE NEUTRAL;NOSE WIGGLES;NOSE WRINKLES;PARENTHESIS;RUB BETWEEN",
     "RUB MULTIPLE;RUB SINGLE;SEMICOLON;SHOULDER HIP POSITIONS;SHOULDER HIP SPINE",
     "SHOULDER TILTING FROM WAIST;STRIKE BETWEEN;STRIKE MULTIPLE;STRIKE SINGLE;SURFACE BETWEEN",
     "SURFACE SYMBOLS;TEETH;TENSE CHEEKS HIGH;TENSE CHEEKS LOW;TENSE CHEEKS MIDDLE",
     "TORSO-FLOORPLANE TWISTING;TORSO-WALLPLANE CURVED BEND;TORSO-WALLPLANE STRAIGHT STRETCH",
     "TOUCH BETWEEN;TOUCH MULTIPLE;TOUCH SINGLE;TRAVEL-FLOORPLANE SHAKING",
     "UPPER BODY TILTING FROM HIP JOINTS;WALLPLANE SHOULDER HIP MOVE"]⟩,
  ⟨["SIGNWRITING DYNAMIC "],
    ["ARROWHEAD LARGE;ARROWHEAD SMALL;EVERY OTHER TIME;FAST;GRADUAL;RELAXED;SIMULTANEOUS",
     "SIMULTANEOUS ALTERNATING;SLOW;TENSE"]⟩,
  ⟨["SIGNWRITING EYEGAZE-FLOORPLANE ;SIGNWRITING EYEGAZE-WALLPLANE "],
    ["CURVED;STRAIGHT;STRAIGHT ALTERNATING;STRAIGHT DOUBLE"]⟩,
  ⟨["SIGNWRITING EYEGAZE-WALLPLANE "], ["CIRCLING"]⟩,
  ⟨["SIGNWRITING EYES "],
    ["CLOSED;HALF CLOSED;HALF OPEN;OPEN;SQUEEZED;WIDE OPEN;WIDENING MOVEMENT"]⟩,
  ⟨["SIGNWRITING FILL MODIFIER-"], ["2;3;4;5;6"]⟩,
  ⟨["SIGNWRITING FLICK ;SIGNWRITING SQUEEZE "],
    ["LARGE MULTIPLE;LARGE SINGLE;SEQUENTIAL;SMALL MULTIPLE;SMALL SINGLE"]⟩,
  ⟨["SIGNWRITING HAND-"],
    ["ANGLE;CIRCLE;CLAW;CUP;CURLICUE;CURLICUE INDEX RING LITTLE ON",
     "CURLICUE MIDDLE RING LITTLE ON;CURLICUE OPEN;FIST;FIST FOUR FINGERS CONJOINED BENT",
     "FIST HEEL;FIST INDEX;FIST THUMB;FLAT;HINGE;HOOK;OVAL"]⟩,
  ⟨["SIGNWRITING HAND-ANGLE ;SIGNWRITING HAND-CIRCLE "],
    ["INDEX;LITTLE INDEX;LITTLE UP;MIDDLE RING LITTLE;RING LITTLE"]⟩,
  ⟨["SIGNWRITING HAND-ANGLE "],
    ["LITTLE INDEX THUMB INDEX THUMB;LITTLE INDEX THUMB INDEX THUMB OUT;MIDDLE RING LITTLE IN",
     "MIDDLE RING LITTLE OUT;RING DOWN MIDDLE THUMB INDEX CROSS"]⟩,
  ⟨["SIGNWRITING HAND-ANGLE INDEX "],
    ["MIDDLE LITTLE;MIDDLE RING;RING LITTLE;RING LITTLE OUT;THUMB;THUMB IN;THUMB OUT"]⟩,
  ⟨["SIGNWRITING HAND-CIRCLE "], ["MIDDLE RING LITTLE BENT;MIDDLE UP"]⟩,
  ⟨["SIGNWRITING HAND-CIRCLE INDEX "],
    ["BENT;HINGE;MIDDLE;MIDDLE CROSS LITTLE;MIDDLE CROSSED;MIDDLE LITTLE;MIDDLE RING",
     "MIDDLE THUMB;RING LITTLE"]⟩,
  ⟨["SIGNWRITING HAND-CLAW "],
    ["FOUR FINGERS CONJOINED;INDEX THUMB CURVE THUMB INSIDE;MIDDLE RING LITTLE CONJOINED",
     "MIDDLE RING LITTLE CONJOINED SIDE;NO THUMB;THUMB FORWARD;THUMB SIDE"]⟩,
  ⟨["SIGNWRITING HAND-CUP "],
    ["FIVE FINGERS SPREAD;INDEX RING LITTLE;INDEX THUMB;INDEX THUMB OPEN;THUMB FORWARD"]⟩,
  ⟨["SIGNWRITING HAND-CUP ;SIGNWRITING HAND-HINGE "],
    ["FIVE FINGERS SPREAD OPEN;INDEX;MIDDLE RING LITTLE;NO THUMB;OPEN;OPEN NO THUMB",
     "OPEN THUMB FORWARD;OPEN THUMB SIDE;THUMB SIDE"]⟩,
  ⟨["SIGNWRITING HAND-FIST INDEX "],
    ["BENT;BENT OVER MIDDLE;CUPPED;HINGED;HINGED LOW;HINGED MIDDLE UP",
     "HINGED MIDDLE UP THUMB SIDE;MIDDLE;RAISED KNUCKLE;RING LITTLE;UP MIDDLE HINGED",
     "UP MIDDLE HINGED THUMB CONJOINED;UP MIDDLE HINGED THUMB SIDE"]⟩,
  ⟨["SIGNWRITING HAND-FIST INDEX MIDDLE "],
    ["BENT;BENT THUMB STRAIGHT;CONJOINED;CROSS LITTLE;CROSSED;CROSSED THUMB SIDE;HINGED",
     "HINGED SPREAD THUMB SIDE;LITTLE;RAISED KNUCKLES;RING;RING BENT;RING CONJOINED",
     "STRAIGHT THUMB BENT;THUMB;THUMB ANGLED;THUMB ANGLED OUT;THUMB BENT;THUMB CIRCLED",
     "THUMB CONJOINED HINGED;THUMB CUPPED;THUMB HINGED;THUMB HOOKED;UP SPREAD THUMB FORWARD"]⟩,
  ⟨["SIGNWRITING HAND-FIST INDEX MIDDLE CONJOINED "],
    ["CUPPED;CUPPED THUMB FORWARD;HINGED;HINGED THUMB SIDE;INDEX BENT;MIDDLE BENT",
     "THUMB FORWARD;THUMB SIDE;THUMB SIDE BENT;THUMB SIDE CONJOINED"]⟩,
  ⟨["SIGNWRITING HAND-FIST INDEX THUMB "],
    ["ANGLED IN MIDDLE UP;ANGLED OUT MIDDLE UP;CIRCLE;CIRCLED MIDDLE UP;CUPPED MIDDLE UP",
     "CURLICUE;CURVE THUMB INSIDE;CURVE THUMB UNDER;FORWARD INDEX BENT;FORWARD INDEX STRAIGHT",
     "HOOK;HOOKED MIDDLE HINGED;HOOKED MIDDLE UP;SIDE;SIDE BOTH BENT;SIDE INDEX BENT",
     "SIDE INDEX HINGE;SIDE THUMB BENT;SIDE THUMB CONJOINED;SIDE THUMB DIAGONAL"]⟩,
  ⟨["SIGNWRITING HAND-FIST LITTLE "],
    ["BENT;DOWN;DOWN OTHERS CIRCLED;DOWN RIPPLE CURVED;DOWN RIPPLE STRAIGHT;INDEX;INDEX THUMB",
     "RAISED KNUCKLE;THUMB;TOUCHES THUMB;UP"]⟩,
  ⟨["SIGNWRITING HAND-FIST MIDDLE "],
    ["BENT OVER INDEX;DOWN;LITTLE;RAISED KNUCKLE;RING LITTLE;UP;UP THUMB SIDE"]⟩,
  ⟨["SIGNWRITING HAND-FIST MIDDLE THUMB "],
    ["ANGLED INDEX UP;ANGLED OUT INDEX CROSSED;ANGLED OUT INDEX UP;CIRCLED INDEX HINGED",
     "CIRCLED INDEX UP;CUPPED INDEX UP;HOOKED INDEX UP;LITTLE"]⟩,
  ⟨["SIGNWRITING HAND-FIST RING "],
    ["DOWN;INDEX;LITTLE;MIDDLE;MIDDLE CONJOINED;MIDDLE RAISED KNUCKLES;RAISED KNUCKLE;THUMB;UP"]⟩,
  ⟨["SIGNWRITING HAND-FIST THUMB "],
    ["BETWEEN INDEX MIDDLE;BETWEEN INDEX MIDDLE STRAIGHT;BETWEEN MIDDLE RING",
     "BETWEEN RING LITTLE;FORWARD;HEEL;OVER FOUR RAISED KNUCKLES;OVER TWO FINGERS;SIDE BENT",
     "SIDE CONJOINED;SIDE DIAGONAL;UNDER FOUR FINGERS;UNDER INDEX BENT;UNDER LITTLE UP",
     "UNDER THREE FINGERS;UNDER TWO FINGERS"]⟩,
  ⟨["SIGNWRITING HAND-FLAT "],
    ["BETWEEN PALM FACINGS;FOUR FINGERS;FOUR FINGERS BENT;FOUR FINGERS CONJOINED",
     "FOUR FINGERS CONJOINED SPLIT;FOUR FINGERS HINGED;HEEL;HEEL FIVE FINGERS SPREAD",
     "HEEL FIVE FINGERS SPREAD BENT;HEEL FIVE FINGERS SPREAD FOUR BENT;HEEL THUMB SIDE",
     "SPLIT CENTRE;SPLIT CENTRE THUMB SIDE;SPLIT CENTRE THUMB SIDE BENT;SPLIT INDEX THUMB SIDE",
     "SPLIT LITTLE;THUMB BENT;THUMB FORWARD;THUMB SIDE"]⟩,
  ⟨["SIGNWRITING HAND-FLAT FIVE FINGERS "],
    ["SPREAD;SPREAD BENT;SPREAD FOUR BENT;SPREAD HINGED;SPREAD HINGED NO THUMB",
     "SPREAD HINGED THUMB SIDE;SPREAD THUMB FORWARD"]⟩,
  ⟨["SIGNWRITING HAND-HINGE "],
    ["FOUR FINGERS CONJOINED;LITTLE;LITTLE INDEX;LITTLE INDEX THUMB;LITTLE THUMB;MIDDLE;RING",
     "RING DOWN INDEX THUMB HOOK MIDDLE;SMALL;THUMB BETWEEN MIDDLE RING",
     "THUMB SIDE TOUCHING INDEX"]⟩,
  ⟨["SIGNWRITING HAND-HINGE INDEX "],
    ["HINGED;MIDDLE LITTLE;MIDDLE RING;MIDDLE RING CONJOINED;RING LITTLE;THUMB;THUMB LARGE",
     "THUMB OPEN;THUMB SIDE;THUMB SMALL"]⟩,
  ⟨["SIGNWRITING HAND-HOOK "],
    ["CURLICUE;INDEX RING LITTLE IN;INDEX RING LITTLE OUT;INDEX RING LITTLE UNDER",
     "MIDDLE RING LITTLE CONJOINED;MIDDLE RING LITTLE CONJOINED IN",
     "MIDDLE RING LITTLE CONJOINED OUT;MIDDLE THUMB;RING THUMB"]⟩,
  ⟨["SIGNWRITING HAND-OVAL "],
    ["FIVE FINGERS SPREAD;INDEX;LITTLE UP;NO THUMB;RING LITTLE;THUMB FORWARD;THUMB SIDE"]⟩,
  ⟨["SIGNWRITING HEAD MOVEMENT-"],
    ["FLOORPLANE CURVE;FLOORPLANE STRAIGHT;WALLPLANE CURVE;WALLPLANE STRAIGHT;WALLPLANE TILT"]⟩,
  ⟨["SIGNWRITING LOCATION "], ["DEPTH;HEAD NECK;HEIGHT;LIMBS DIGITS;TORSO;WIDTH"]⟩,
  ⟨["SIGNWRITING MOUTH "],
    ["CLOSED CONTACT;CLOSED FORWARD;CLOSED NEUTRAL;CORNERS;FROWN;FROWN OPEN;FROWN WRINKLED",
     "KISS;KISS FORWARD;KISS WRINKLED;SMILE;SMILE OPEN;SMILE WRINKLED;TENSE;TENSE FORWARD",
     "TENSE SUCKED;WRINKLES DOUBLE;WRINKLES SINGLE"]⟩,
  ⟨["SIGNWRITING MOUTH OPEN "],
    ["CIRCLE;FORWARD;OVAL;OVAL WRINKLED;OVAL YAWN;RECTANGLE;RECTANGLE WRINKLED;RECTANGLE YAWN",
     "WRINKLED"]⟩,
  ⟨["SIGNWRITING MOVEMENT-DIAGONAL ;SIGNWRITING MOVEMENT-DIAGONAL BETWEEN "],
    ["AWAY LARGE;AWAY LARGEST;AWAY MEDIUM;AWAY SMALL;TOWARDS LARGE;TOWARDS LARGEST",
     "TOWARDS MEDIUM;TOWARDS SMALL"]⟩,
  ⟨["SIGNWRITING MOVEMENT-FLOORPLANE "],
    ["ARM CIRCLE HITTING WALL LARGE DOUBLE;ARM CIRCLE HITTING WALL LARGE SINGLE",
     "ARM CIRCLE HITTING WALL MEDIUM DOUBLE;ARM CIRCLE HITTING WALL MEDIUM SINGLE",
     "ARM CIRCLE HITTING WALL SMALL DOUBLE;ARM CIRCLE HITTING WALL SMALL SINGLE;BEND;CHECK",
     "FINGER CIRCLES HITTING WALL DOUBLE;FINGER CIRCLES HITTING WALL SINGLE;SHAKING PARALLEL",
     "TRIPLE ALTERNATING MOVEMENT;WAVE HITTING CEILING LARGE;WAVE HITTING CEILING SMALL",
     "WAVE HITTING FLOOR LARGE;WAVE HITTING FLOOR SMALL;WAVE LARGE;WAVE SMALL;WAVE SNAKE",
     "WRIST CIRCLE HITTING WALL DOUBLE;WRIST CIRCLE HITTING WALL SINGLE"]⟩,
  ⟨["SIGNWRITING MOVEMENT-FLOORPLANE ;SIGNWRITING MOVEMENT-WALLPLANE "],
    ["BOX LARGE;BOX MEDIUM;BOX SMALL;CORNER LARGE;CORNER MEDIUM;CORNER SMALL;CROSS",
     "DOUBLE ALTERNATING;DOUBLE ALTERNATING WRIST FLEX;DOUBLE STRAIGHT;DOUBLE WRIST FLEX",
     "FINGER CONTACT;HUMP SMALL;JAW;LOOP SMALL;PEAKS LARGE;PEAKS MEDIUM;PEAKS SMALL",
     "SINGLE STRAIGHT LARGE;SINGLE STRAIGHT LARGEST;SINGLE STRAIGHT MEDIUM",
     "SINGLE STRAIGHT SMALL;SINGLE WRIST FLEX;TRIPLE ALTERNATING WRIST FLEX",
     "TRIPLE STRAIGHT MOVEMENT;TRIPLE WRIST FLEX;ZIGZAG LARGE;ZIGZAG MEDIUM;ZIGZAG SMALL"]⟩,
  ⟨["SIGNWRITING MOVEMENT-FLOORPLANE CURVE "],
    ["COMBINED;HITTING CEILING LARGE;HITTING CEILING SMALL;HITTING FLOOR LARGE",
     "HITTING FLOOR SMALL;LARGE;LARGEST;MEDIUM;SMALL"]⟩,
  ⟨["SIGNWRITING MOVEMENT-FLOORPLANE HUMP HITTING "],
    ["CEILING LARGE DOUBLE;CEILING LARGE TRIPLE;CEILING SMALL DOUBLE;CEILING SMALL TRIPLE",
     "FLOOR LARGE DOUBLE;FLOOR SMALL DOUBLE;FLOOR TRIPLE LARGE TRIPLE",
     "FLOOR TRIPLE SMALL TRIPLE"]⟩,
  ⟨["SIGNWRITING MOVEMENT-FLOORPLANE LOOP HITTING "],
    ["CEILING LARGE DOUBLE;CEILING LARGE SINGLE;CEILING SMALL DOUBLE;CEILING SMALL SINGLE",
     "FLOOR LARGE DOUBLE;FLOOR LARGE SINGLE;FLOOR SMALL DOUBLE;FLOOR SMALL SINGLE"]⟩,
  ⟨["SIGNWRITING MOVEMENT-HINGE "],
    ["DOWN SEQUENTIAL;SIDE TO SIDE SCISSORS;UP DOWN ALTERNATING LARGE",
     "UP DOWN ALTERNATING SMALL;UP DOWN LARGE;UP DOWN SMALL;UP SEQUENTIAL"]⟩,
  ⟨["SIGNWRITING MOVEMENT-WALLPLANE "],
    ["ARM CIRCLE MEDIUM DOUBLE;ARM CIRCLE MEDIUM SINGLE;ARM CIRCLE SMALL DOUBLE",
     "ARM CIRCLE SMALL SINGLE;BEND LARGE;BEND MEDIUM;BEND SMALL;CHECK LARGE;CHECK MEDIUM",
     "CHECK SMALL;CORNER ROTATION;CURVED CROSS MEDIUM;CURVED CROSS SMALL;FINGER CIRCLES DOUBLE",
     "FINGER CIRCLES SINGLE;HUMP HITTING CHEST;HUMP HITTING FRONT WALL;HUMP LARGE;HUMP MEDIUM",
     "LOOP HITTING CHEST;LOOP HITTING FRONT WALL;LOOP LARGE;LOOP MEDIUM;LOOP SMALL DOUBLE",
     "SHAKING;TRIPLE ALTERNATING;WRIST CIRCLE FRONT DOUBLE;WRIST CIRCLE FRONT SINGLE"]⟩,
  ⟨["SIGNWRITING MOVEMENT-WALLPLANE CURVE "],
    ["HALF-CIRCLE LARGE;HALF-CIRCLE LARGEST;HALF-CIRCLE MEDIUM;HALF-CIRCLE SMALL;HITTING CHEST",
     "HITTING FRONT WALL;QUARTER LARGE;QUARTER LARGEST;QUARTER MEDIUM;QUARTER SMALL",
     "THEN STRAIGHT;THREE-QUARTER CIRCLE MEDIUM;THREE-QUARTER CIRCLE SMALL"]⟩,
  ⟨["SIGNWRITING MOVEMENT-WALLPLANE WAVE "],
    ["CURVE DOUBLE LARGE;CURVE DOUBLE MEDIUM;CURVE DOUBLE SMALL;CURVE TRIPLE LARGE",
     "CURVE TRIPLE MEDIUM;CURVE TRIPLE SMALL;DIAGONAL PATH LARGE;DIAGONAL PATH MEDIUM",
     "DIAGONAL PATH SMALL;HITTING CHEST;HITTING FRONT WALL"]⟩,
  ⟨["SIGNWRITING ROTATION-FLOORPLANE "],
    ["ALTERNATING;ALTERNATING HITTING CEILING;ALTERNATING HITTING FLOOR;DOUBLE",
     "DOUBLE HITTING CEILING;DOUBLE HITTING FLOOR;SINGLE;SINGLE HITTING CEILING",
     "SINGLE HITTING FLOOR"]⟩,
  ⟨["SIGNWRITING ROTATION-WALLPLANE "],
    ["ALTERNATE;ALTERNATING HITTING CHEST;ALTERNATING HITTING FRONT WALL;DOUBLE",
     "DOUBLE HITTING CHEST;DOUBLE HITTING FRONT WALL;SINGLE;SINGLE HITTING CHEST",
     "SINGLE HITTING FRONT WALL"]⟩,
  ⟨["SIGNWRITING SQUEEZE "], ["FLICK ALTERNATING"]⟩,
  ⟨["SIGNWRITING TEETH "],
    ["BITE LIPS;MOVEMENT;ON LIPS;ON LIPS MOVEMENT;ON TONGUE;ON TONGUE MOVEMENT"]⟩,
  ⟨["SIGNWRITING TONGUE "],
    ["CENTRE INSIDE MOUTH;CENTRE STICKING OUT;INSIDE MOUTH RELAXED;LICKING LIPS",
     "MOVES AGAINST CHEEK;STICKING OUT FAR;TIP BETWEEN LIPS;TIP TOUCHING INSIDE MOUTH"]⟩,
  ⟨["SIGNWRITING TRAVEL-FLOORPLANE ROTATION-;SIGNWRITING TRAVEL-WALLPLANE ROTATION-"],
    ["FLOORPLANE ALTERNATING;FLOORPLANE DOUBLE;FLOORPLANE SINGLE;WALLPLANE ALTERNATING",
     "WALLPLANE DOUBLE;WALLPLANE SINGLE"]⟩,
  ⟨["SIGNWRITING TRAVEL-WALLPLANE "],
    ["ARM SPIRAL DOUBLE;ARM SPIRAL SINGLE;ARM SPIRAL TRIPLE;SHAKING"]⟩,
  ⟨["ZNAMENNY COMBINING "],
    ["ATTACHING VERTICAL OMET;LOWER TONAL RANGE INDICATOR;TONAL RANGE MARK MRACHNO",
     "TONAL RANGE MARK SVETLO;TONAL RANGE MARK TRESVETLO"]⟩,
  ⟨["ZNAMENNY COMBINING MARK "],
    ["BORZAYA;CHASHKA;CHASHKA POLNAYA;CURVED OMET;DEMESTVENNY ZADERZHKA;DVOETOCHIE",
     "GORAZDO NIZKO ON LEFT;GORAZDO NIZKO ON RIGHT;GORAZDO NIZKO S KRYZHEM ON LEFT",
     "GORAZDO NIZKO S KRYZHEM ON RIGHT;GORAZDO VYSOKO;KACHKA;KRYZH;KRYZH ON LEFT;KUPNAYA;LOMKA",
     "NIZKO ON LEFT;NIZKO ON RIGHT;NIZKO S KRYZHEM ON LEFT;NIZKO S KRYZHEM ON RIGHT;OBLACHKO",
     "ON;OTSECHKA;PODCHASHIE;PODCHASHIE WITH VERTICAL STROKE;PODVERTKA;RAVNO;RAZSEKA;SKOBA",
     "SOROCHYA NOZHKA;SREDNE ON LEFT;SREDNE ON RIGHT;STRANNO MALO POVYSHE;TIKHAYA;TOCHKA",
     "TSATA ON LEFT;TSATA ON RIGHT;TSATA S KRYZHEM;UDARKA;VYSOKO ON LEFT;VYSOKO ON RIGHT",
     "VYSOKO S KHOKHLOM ON LEFT;VYSOKO S KHOKHLOM ON RIGHT;VYSOKO S KRYZHEM;ZADERZHKA;ZELO",
     "ZEVOK"]⟩,
  ⟨["ZNAMENNY COMBINING MARK MALO POVYSHE ;ZNAMENNY COMBINING MARK POVYSHE "],
    ["ON LEFT;ON RIGHT;S KHOKHLOM ON LEFT;S KHOKHLOM ON RIGHT;S KRYZHEM;STRANNO"]⟩,
  ⟨["ZNAMENNY NEUME "],
    ["CHASHKA;CHELYUSTKA;DEMESTVENNY KLYUCH;DERBITSA;DOUBLE ZAPYATAYA;DUDA;DVA V CHELNU;FITA",
     "KHAMILO;KLYUCH;KOBYLA;KRYUK;KRYUK TIKHY;KRYZH;KUFISMA;MECHIK;MECHIK KLYUCHENEPOSTOYANNY",
     "MECHIK KLYUCHEPOVODNY;MECHIK KLYUCHEVOY;MECHIK POVODNY;NEMKA;OBLAKO;OSOKA",
     "OSOKA KLYUCHEVAYA NEPOSTOYANNAYA;OSOKA KLYUCHEVAYA SVETLAYA;OSOKA KRYUKOVAYA SVETLAYA",
     "OSOKA SVETLAYA;OSOKA TRESVETLAYA;PALKA;PARAKLIT;PAUK;PEREVODKA;PEREVODKA NEPOSTOYANNAYA",
     "PODCHASHIE;POLKULIZMY;REVERSED CHELYUSTKA;ROG;SLOZHITIE;SLOZHITIE S KRYZHEM",
     "SLOZHITIE S ZAPYATOY;SLOZHITIE ZAKRYTOE;STATYA;STOPITSA;STOPITSA S OCHKOM",
     "STOPITSA WITH SOROCHYA NOZHKA;ZANOZHEK;ZAPYATAYA;ZMEYTSA"]⟩,
  ⟨["ZNAMENNY NEUME GOLUBCHIK "], ["BORZY;MRACHNY;SVETLY;TIKHY;TRESVETLY"]⟩,
  ⟨["ZNAMENNY NEUME SKAMEYTSA "],
    ["KLYUCHENEPOSTOYANNAYA;KLYUCHEVAYA SVETLAYA;KLYUCHEVAYA TIKHAYA;MRACHNAYA;SVETLAYA",
     "TIKHAYA;TRESVETLAYA"]⟩,
  ⟨["ZNAMENNY NEUME SKAMEYTSA DVOECHELNAYA "], ["KLYUCHEVAYA;NEPOSTOYANNAYA;PROSTAYA;SVETLAYA"]⟩,
  ⟨["ZNAMENNY NEUME STATYA "],
    ["NEPOSTOYANNAYA;S DVUMYA ZAPYATYMI;S KRYZHEM;S KRYZHEM I ZAPYATOY;S ROGOM;S ZAPYATOY",
     "S ZAPYATOY I KRYZHEM;S ZAPYATOY I PODCHASHIEM;ZAKRYTAYA;ZAKRYTAYA S ZAPYATOY"]⟩,
  ⟨["ZNAMENNY NEUME STRELA "],
    ["DVOECHELNAYA;DVOECHELNAYA KLYUCHEVAYA;DVOECHELNOKRYZHEVAYA;DVOECHELNOPOVODNAYA",
     "DVOECHELNOPOVODNAYA KLYUCHEVAYA;KLYUCHENEPOSTOYANNAYA;KLYUCHEPOVODNAYA;KRYUKOVAYA",
     "KRYZHEVAYA;MRACHNOTIKHAYA;NEPOSTOYANNAYA;POLUPOVODNAYA;PROSTAYA;TIKHAYA PUTNAYA",
     "TRYASOGLASNAYA;TRYASOPOVODNAYA;TRYASOSTRELNAYA"]⟩,
  ⟨["ZNAMENNY NEUME STRELA ;ZNAMENNY NEUME STRELA KRYUKOVAYA "],
    ["GROMNAYA;GROMNAYA WITH SINGLE ZAPYATAYA;GROMOKRYZHEVAYA;GROMOKRYZHEVAYA POVODNAYA",
     "GROMOPOVODNAYA;GROMOPOVODNAYA WITH DOUBLE ZAPYATAYA;GROMOPOVODNAYA WITH SINGLE ZAPYATAYA",
     "POVODNAYA"]⟩,
  ⟨["ZNAMENNY NEUME STRELA KRYUKOVAYA "], ["TRYASKA"]⟩,
  ⟨["ZNAMENNY NEUME VRAKHIYA ;ZNAMENNY NEUME VRAKHIYA KLYUCHEVAYA "],
    ["MRACHNAYA;PROSTAYA;SVETLAYA;TRESVETLAYA"]⟩,
  ⟨["ZNAMENNY PRIZNAK MODIFIER "], ["DIRECTION FLIP;KRYZH;LEVEL-2;LEVEL-3;ROG"]⟩]

def specialSeries : List Series := [
  ⟨"DOMINO TILE HORIZONTAL-00-", 10, 2, 0, 6⟩,
  ⟨"DOMINO TILE HORIZONTAL-01-", 10, 2, 0, 6⟩,
  ⟨"DOMINO TILE HORIZONTAL-02-", 10, 2, 0, 6⟩,
  ⟨"DOMINO TILE HORIZONTAL-03-", 10, 2, 0, 6⟩,
  ⟨"DOMINO TILE HORIZONTAL-04-", 10, 2, 0, 6⟩,
  ⟨"DOMINO TILE HORIZONTAL-05-", 10, 2, 0, 6⟩,
  ⟨"DOMINO TILE HORIZONTAL-06-", 10, 2, 0, 6⟩,
  ⟨"DOMINO TILE VERTICAL-00-", 10, 2, 0, 6⟩,
  ⟨"DOMINO TILE VERTICAL-01-", 10, 2, 0, 6⟩,
  ⟨"DOMINO TILE VERTICAL-02-", 10, 2, 0, 6⟩,
  ⟨"DOMINO TILE VERTICAL-03-", 10, 2, 0, 6⟩,
  ⟨"DOMINO TILE VERTICAL-04-", 10, 2, 0, 6⟩,
  ⟨"DOMINO TILE VERTICAL-05-", 10, 2, 0, 6⟩,
  ⟨"DOMINO TILE VERTICAL-06-", 10, 2, 0, 6⟩,
  ⟨"GREEK INSTRUMENTAL NOTATION SYMBOL-", 10, 1, 47, 54⟩,
  ⟨"GREEK VOCAL NOTATION SYMBOL-", 10, 1, 1, 24⟩,
  ⟨"MUSICAL SYMBOL ORNAMENT STROKE-", 10, 1, 1, 11⟩,
  ⟨"PLAYING CARD TRUMP-", 10, 1, 1, 21⟩,
  ⟨"SIGNWRITING LIMB LENGTH-", 10, 1, 1, 7⟩,
  ⟨"SIGNWRITING ROTATION MODIFIER-", 10, 1, 2, 16⟩]

end WireModel.Text.CharacterName
