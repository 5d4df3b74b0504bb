import WireModel.Text.CharacterName.Family

/-!
# Names of European scripts

The names of the Greek, Cyrillic and other scripts of Europe and the Caucasus.
-/

namespace WireModel.Text.CharacterName

def european : List Family := [
  ⟨[""],
    ["CAUCASIAN ALBANIAN CITATION MARK;GEORGIAN PARAGRAPH SEPARATOR",
     "LEFT-FACING ARMENIAN ETERNITY SIGN;NOMISMA SIGN;RIGHT-FACING ARMENIAN ETERNITY SIGN",
     "SLAVONIC ASTERISK"]⟩,
  ⟨["ARMENIAN "],
    ["ABBREVIATION MARK;APOSTROPHE;COMMA;DRAM SIGN;EMPHASIS MARK;EXCLAMATION MARK;FULL STOP",
     "HYPHEN;MODIFIER LETTER LEFT HALF RING;QUESTION MARK"]⟩,
  ⟨["ARMENIAN CAPITAL LETTER ;ARMENIAN SMALL LETTER "],
    ["AYB;BEN;CA;CHA;CHEH;CO;DA;ECH;EH;ET;FEH;GHAD;GIM;HO;INI;JA;JHEH;KEH;KEN;LIWN;MEN;NOW;OH",
     "PEH;PIWR;RA;REH;SEH;SHA;TIWN;TO;VEW;VO;XEH;YI;YIWN;ZA;ZHE"]⟩,
  ⟨["ARMENIAN SMALL LETTER "], ["TURNED AYB;YI WITH STROKE"]⟩,
  ⟨["ARMENIAN SMALL LIGATURE "], ["ECH YIWN;MEN ECH;MEN INI;MEN NOW;MEN XEH;VEW NOW"]⟩,
  ⟨["CAUCASIAN ALBANIAN LETTER "],
    ["ALT;AOR;BET;CAR;CAYN;CHA;CHAT;CHI;CHOY;CYAW;CYAY;DAT;DYAN;DZAY;DZYAY;EB;EYN;FAM;GHEYS",
     "GIM;HEYT;INYA;IRB;IWN;JAYN;JHOX;KAR;KIW;LAN;LYIT;MAQ;NOWC;ON;PEN;PIWR;QAR;QAY;RAT;SEYK",
     "SHA;SHAK;SHOY;TAS;TIWR;TYAY;VEYZ;XEYN;YAYD;YOWD;ZARL;ZHA;ZHIL"]⟩,
  ⟨["COMBINING CYRILLIC "],
    ["DASIA PNEUMATA;HUNDRED MILLIONS SIGN;HUNDRED THOUSANDS SIGN;KAVYKA;MILLIONS SIGN",
     "PALATALIZATION;PAYEROK;POKRYTIE;PSILI PNEUMATA;TEN MILLIONS SIGN;THOUSAND MILLIONS SIGN",
     "TITLO;VZMET"]⟩,
  ⟨["COMBINING CYRILLIC LETTER ;CYRILLIC CAPITAL LETTER ;CYRILLIC SMALL LETTER "],
    ["A;BE;BIG YUS;CHE;DE;DJERV;EF;EL;EM;EN;ER;ES;FITA;GHE;HA;HARD SIGN;I;IE;KA;LITTLE YUS",
     "MONOGRAPH UK;O;OMEGA;PE;SHA;SHCHA;SOFT SIGN;TE;TSE;U;UKRAINIAN IE;VE;YAT;YERU;YI;YU;ZE",
     "ZHE"]⟩,
  ⟨["COMBINING CYRILLIC LETTER "], ["ES-TE;IOTIFIED A;IOTIFIED BIG YUS;IOTIFIED E"]⟩,
  ⟨["COMBINING GLAGOLITIC LETTER ;GLAGOLITIC CAPITAL LETTER ;GLAGOLITIC SMALL LETTER "],
    ["AZU;BIG YUS;BUKY;CHRIVI;DJERVI;DOBRO;FITA;FRITU;GLAGOLI;HERU;I;INITIAL IZHE",
     "IOTATED BIG YUS;IOTATED SMALL YUS;IZHE;KAKO;LJUDIJE;MYSLITE;NASHI;ONU;POKOJI;RITSI;SHA",
     "SHTA;SLOVO;SMALL YUS;TSI;TVRIDO;UKU;VEDE;YATI;YERI;YERU;YESTU;YO;YU;ZEMLJA;ZHIVETE"]⟩,
  ⟨["COMBINING OLD PERMIC "], ["LETTER AN;LETTER DOI;LETTER NENOE;LETTER SII;LETTER ZATA"]⟩,
  ⟨["COPTIC "],
    ["EPACT THOUSANDS MARK;FRACTION ONE HALF;FULL STOP;MORPHOLOGICAL DIVIDER",
     "OLD NUBIAN DIRECT QUESTION MARK;OLD NUBIAN FULL STOP;OLD NUBIAN INDIRECT QUESTION MARK",
     "OLD NUBIAN VERSE DIVIDER"]⟩,
  ⟨["COPTIC CAPITAL LETTER ;COPTIC SMALL LETTER "],
    ["AKHMIMIC KHEI;ALFA;BOHAIRIC KHEI;CROSSED SHEI;DALDA;DEI;DIALECT-P ALEF;DIALECT-P HORI",
     "DIALECT-P KAPA;DIALECT-P NI;EIE;FEI;FI;GAMMA;GANGIA;HATE;HORI;IAUDA;KAPA;KHEI;KHI;KSI",
     "L-SHAPED HA;LAULA;MI;NI;O;OLD NUBIAN NGI;OLD NUBIAN NYI;OLD NUBIAN SHIMA;OLD NUBIAN WAU",
     "OOU;PI;PSI;RO;SAMPI;SHEI;SHIMA;SIMA;SOU;TAU;THETHE;UA;VIDA;ZATA"]⟩,
  ⟨["COPTIC CAPITAL LETTER CRYPTOGRAMMIC ;COPTIC SMALL LETTER CRYPTOGRAMMIC "],
    ["EIE;GANGIA;NI;SHEI"]⟩,
  ⟨["COPTIC CAPITAL LETTER OLD COPTIC ;COPTIC SMALL LETTER OLD COPTIC "],
    ["AIN;DJA;ESH;GANGIA;HA;HAT;HEI;HORI;OOU;SHEI;SHIMA"]⟩,
  ⟨["COPTIC COMBINING "], ["NI ABOVE;SPIRITUS ASPER;SPIRITUS LENIS"]⟩,
  ⟨["COPTIC EPACT DIGIT "], ["EIGHT;FIVE;FOUR;NINE;ONE;SEVEN;SIX;THREE;TWO"]⟩,
  ⟨["COPTIC EPACT NUMBER "],
    ["EIGHT HUNDRED;EIGHTY;FIFTY;FIVE HUNDRED;FORTY;FOUR HUNDRED;NINE HUNDRED;NINETY",
     "ONE HUNDRED;SEVEN HUNDRED;SEVENTY;SIX HUNDRED;SIXTY;TEN;THIRTY;THREE HUNDRED;TWENTY",
     "TWO HUNDRED"]⟩,
  ⟨["COPTIC SYMBOL "], ["KAI;KHI RO;MI RO;PI RO;SHIMA SIMA;STAUROS;TAU RO"]⟩,
  ⟨["CYRILLIC "],
    ["CAPITAL LIGATURE A IE;CAPITAL LIGATURE EN GHE;CAPITAL LIGATURE TE TSE;KAVYKA",
     "LETTER MULTIOCULAR O;LETTER PALOCHKA;PAYEROK;SMALL LIGATURE A IE;SMALL LIGATURE EN GHE",
     "SMALL LIGATURE TE TSE;THOUSANDS SIGN"]⟩,
  ⟨["CYRILLIC CAPITAL LETTER ;CYRILLIC SMALL LETTER "],
    ["A WITH BREVE;A WITH DIAERESIS;ABKHASIAN CHE;ABKHASIAN CHE WITH DESCENDER;ABKHASIAN DZE",
     "ABKHASIAN HA;ALEUT KA;BARRED O;BARRED O WITH DIAERESIS;BASHKIR KA;BINOCULAR O",
     "BLENDED YUS;BROAD OMEGA;BYELORUSSIAN-UKRAINIAN I;CCHE;CHE WITH DESCENDER",
     "CHE WITH DIAERESIS;CHE WITH VERTICAL STROKE;CLOSED LITTLE YUS;CROSSED O;DCHE;DJE",
     "DOUBLE MONOCULAR O;DOUBLE O;DWE;DZE;DZELO;DZHE;DZWE;DZZE;DZZHE;E;E WITH DIAERESIS",
     "EL WITH DESCENDER;EL WITH HOOK;EL WITH MIDDLE HOOK;EL WITH TAIL;EM WITH TAIL",
     "EN WITH DESCENDER;EN WITH HOOK;EN WITH LEFT HOOK;EN WITH MIDDLE HOOK;EN WITH TAIL",
     "ER WITH TICK;ES WITH DESCENDER;GHE WITH DESCENDER;GHE WITH MIDDLE HOOK;GHE WITH STROKE",
     "GHE WITH STROKE AND HOOK;GHE WITH UPTURN;GJE;HA WITH DESCENDER;HA WITH HOOK",
     "HA WITH STROKE;HWE;I WITH DIAERESIS;I WITH GRAVE;I WITH MACRON;IE WITH BREVE",
     "IE WITH GRAVE;IO;IOTA;IZHITSA;IZHITSA WITH DOUBLE GRAVE ACCENT;JE;KA WITH DESCENDER",
     "KA WITH HOOK;KA WITH STROKE;KA WITH VERTICAL STROKE;KHAKASSIAN CHE;KJE;KOPPA;KSI;LHA;LJE",
     "MONOCULAR O;NEUTRAL YER;NJE;O WITH DIAERESIS;OMEGA WITH TITLO;OT;PE WITH DESCENDER",
     "PE WITH MIDDLE HOOK;PSI;QA;REVERSED DZE;REVERSED TSE;REVERSED YU;REVERSED ZE;RHA",
     "ROUND OMEGA;SCHWA;SCHWA WITH DIAERESIS;SEMISOFT SIGN;SHHA;SHHA WITH DESCENDER;SHORT I",
     "SHORT I WITH TAIL;SHORT U;SHWE;SOFT DE;SOFT EL;SOFT EM;STRAIGHT U;STRAIGHT U WITH STROKE",
     "TCHE;TE WITH DESCENDER;TE WITH MIDDLE HOOK;TSHE;TSSE;TSWE;TWE;U WITH DIAERESIS",
     "U WITH DOUBLE ACUTE;U WITH MACRON;UK;WE;YA;YAE;YERU WITH BACK YER;YERU WITH DIAERESIS;YN",
     "ZE WITH DESCENDER;ZE WITH DIAERESIS;ZEMLYA;ZHE WITH BREVE;ZHE WITH DESCENDER",
     "ZHE WITH DIAERESIS;ZHWE"]⟩,
  ⟨["CYRILLIC CAPITAL LETTER IOTIFIED ;CYRILLIC SMALL LETTER IOTIFIED "],
    ["A;BIG YUS;CLOSED LITTLE YUS;E;LITTLE YUS;YAT"]⟩,
  ⟨["CYRILLIC CAPITAL LETTER KOMI ;CYRILLIC SMALL LETTER KOMI "],
    ["DE;DJE;DZJE;LJE;NJE;SJE;TJE;ZJE"]⟩,
  ⟨["CYRILLIC SMALL LETTER "],
    ["LONG-LEGGED DE;NARROW O;PALOCHKA;ROUNDED VE;TALL HARD SIGN;TALL TE;TALL YAT",
     "THREE-LEGGED TE;UNBLENDED UK;WIDE ES"]⟩,
  ⟨["ELBASAN LETTER ;OLD ITALIC LETTER "], ["A;BE;CHE;DE;E;HE;I;KE;KHE;O;PE;SHE;TE;THE;U;VE;ZE"]⟩,
  ⟨["ELBASAN LETTER "],
    ["CE;DHE;EI;FE;GE;GHAMMA;GHE;GJE;JE;LE;LLE;ME;NA;NDE;NE;NJE;QE;RE;RRE;SE;XE;Y;ZHE"]⟩,
  ⟨["GEORGIAN CAPITAL LETTER ;GEORGIAN LETTER ;GEORGIAN MTAVRULI CAPITAL LETTER ",
    "GEORGIAN SMALL LETTER "],
    ["AEN;AN;BAN;CAN;CHAR;CHIN;CIL;DON;EN;GAN;GHAN;HAE;HAR;HE;HIE;HOE;IN;JHAN;JIL;KAN;KHAR;LAS",
     "MAN;NAR;ON;PAR;PHAR;QAR;RAE;SAN;SHIN;TAN;TAR;UN;VIN;WE;XAN;YN;ZEN;ZHAR"]⟩,
  ⟨["GEORGIAN LETTER ;GEORGIAN MTAVRULI CAPITAL LETTER "],
    ["AIN;ELIFI;FI;HARD SIGN;LABIAL SIGN;TURNED GAN"]⟩,
  ⟨["GLAGOLITIC CAPITAL LETTER ;GLAGOLITIC SMALL LETTER "],
    ["CAUDATE CHRIVI;DZELO;IZHITSA;LATINATE MYSLITE;OTU;PE;SHTAPIC;SMALL YUS WITH TAIL",
     "SPIDERY HA;TROKUTASTI A"]⟩,
  ⟨["GOTHIC LETTER "],
    ["AHSA;AIHVUS;BAIRKAN;DAGS;EIS;FAIHU;GIBA;HAGL;HWAIR;IGGWS;IUJA;JER;KUSMA;LAGUS;MANNA",
     "NAUTHS;NINE HUNDRED;NINETY;OTHAL;PAIRTHRA;QAIRTHRA;RAIDA;SAUIL;TEIWS;THIUTH;URUS;WINJA"]⟩,
  ⟨["GREEK "],
    ["ANO TELEIA;AROURA SIGN;ARTABE SIGN;BETA SYMBOL;DASIA AND PERISPOMENI;DRACHMA SIGN",
     "FIVE OBOLS SIGN;FOUR OBOLS SIGN;GRAMMA SIGN;INDICTION SIGN;KAPPA SYMBOL;KORONIS",
     "KYATHOS BASE SIGN;LITRA SIGN;LOWER NUMERAL SIGN;LUNATE EPSILON SYMBOL;METRETES SIGN",
     "NUMERAL SIGN;OBOL SIGN;ONE HALF SIGN;ONE HALF SIGN ALTERNATE FORM;ONE QUARTER SIGN",
     "OUNKIA SIGN;PERISPOMENI;PHI SYMBOL;PI SYMBOL;PROSGEGRAMMENI;PSILI AND PERISPOMENI",
     "QUESTION MARK;REVERSED LUNATE EPSILON SYMBOL;RHO SYMBOL;RHO WITH STROKE SYMBOL",
     "SINUSOID SIGN;SMALL DOTTED LUNATE SIGMA SYMBOL;SMALL REVERSED DOTTED LUNATE SIGMA SYMBOL",
     "SMALL REVERSED LUNATE SIGMA SYMBOL;TALENT SIGN;THREE OBOLS SIGN;THREE QUARTERS SIGN",
     "TRYBLION BASE SIGN;TWO OBOLS SIGN;TWO THIRDS SIGN;UPSILON WITH ACUTE AND HOOK SYMBOL",
     "UPSILON WITH DIAERESIS AND HOOK SYMBOL;UPSILON WITH HOOK SYMBOL;XESTES SIGN;YEAR SIGN",
     "YPOGEGRAMMENI;ZERO SIGN"]⟩,
  ⟨["GREEK ;GREEK CAPITAL LETTER EPSILON WITH ;GREEK CAPITAL LETTER OMICRON WITH ",
    "GREEK SMALL LETTER EPSILON WITH ;GREEK SMALL LETTER OMICRON WITH "],
    ["DASIA;DASIA AND OXIA;DASIA AND VARIA;OXIA;PSILI;PSILI AND OXIA;PSILI AND VARIA;TONOS",
     "VARIA"]⟩,
  ⟨["GREEK ;GREEK CAPITAL "], ["KAI SYMBOL;LUNATE SIGMA SYMBOL;THETA SYMBOL"]⟩,
  ⟨["GREEK ACROPHONIC "],
    ["CARYSTIAN FIVE HUNDRED;CYRENAIC TWO DRACHMAS;DELPHIC FIVE MNAS;EPIDAUREAN FIVE HUNDRED",
     "EPIDAUREAN TWO;EPIDAUREAN TWO DRACHMAS;HERAEUM ONE PLETHRON;HERMIONIAN FIFTY",
     "HERMIONIAN ONE;HERMIONIAN TEN;MESSENIAN TEN;NAXIAN FIVE HUNDRED;STRATIAN FIFTY MNAS"]⟩,
  ⟨["GREEK ACROPHONIC ATTIC "],
    ["FIFTY;FIFTY STATERS;FIFTY TALENTS;FIFTY THOUSAND;FIFTY THOUSAND STATERS;FIVE",
     "FIVE HUNDRED;FIVE HUNDRED STATERS;FIVE HUNDRED TALENTS;FIVE STATERS;FIVE TALENTS",
     "FIVE THOUSAND;FIVE THOUSAND TALENTS;ONE DRACHMA;ONE HALF;ONE HUNDRED STATERS",
     "ONE HUNDRED TALENTS;ONE QUARTER;ONE THOUSAND STATERS;ONE THOUSAND TALENTS;TEN MNAS",
     "TEN STATERS;TEN TALENTS;TEN THOUSAND STATERS"]⟩,
  ⟨["GREEK ACROPHONIC THESPIAN "],
    ["FIFTY;FIVE HUNDRED;FIVE THOUSAND;ONE;ONE HUNDRED;ONE THOUSAND;TEN;THIRTY;THREE HUNDRED",
     "TWO"]⟩,
  ⟨["GREEK ACROPHONIC TROEZENIAN "],
    ["FIFTY;FIFTY ALTERNATE FORM;FIVE;FIVE HUNDRED;TEN;TEN ALTERNATE FORM"]⟩,
  ⟨["GREEK CAPITAL "],
    ["DOTTED LUNATE SIGMA SYMBOL;REVERSED DOTTED LUNATE SIGMA SYMBOL",
     "REVERSED LUNATE SIGMA SYMBOL"]⟩,
  ⟨["GREEK CAPITAL LETTER ;GREEK SMALL LETTER "],
    ["ALPHA;ARCHAIC SAMPI;BETA;CHI;DELTA;EPSILON;ETA;GAMMA;HETA;IOTA;KAPPA;LAMDA;MU;NU;OMEGA",
     "OMICRON;PAMPHYLIAN DIGAMMA;PHI;PI;PSI;RHO;RHO WITH DASIA;SAN;SHO;SIGMA;TAU;THETA;UPSILON",
     "XI;ZETA"]⟩,
  ⟨["GREEK CAPITAL LETTER "], ["YOT"]⟩,
  ⟨["GREEK CAPITAL LETTER ALPHA WITH ;GREEK CAPITAL LETTER ETA WITH ",
    "GREEK CAPITAL LETTER OMEGA WITH "],
    ["DASIA;DASIA AND OXIA;DASIA AND OXIA AND PROSGEGRAMMENI;DASIA AND PERISPOMENI",
     "DASIA AND PERISPOMENI AND PROSGEGRAMMENI;DASIA AND PROSGEGRAMMENI;DASIA AND VARIA",
     "DASIA AND VARIA AND PROSGEGRAMMENI;OXIA;PROSGEGRAMMENI;PSILI;PSILI AND OXIA",
     "PSILI AND OXIA AND PROSGEGRAMMENI;PSILI AND PERISPOMENI",
     "PSILI AND PERISPOMENI AND PROSGEGRAMMENI;PSILI AND PROSGEGRAMMENI;PSILI AND VARIA",
     "PSILI AND VARIA AND PROSGEGRAMMENI;TONOS;VARIA"]⟩,
  ⟨["GREEK CAPITAL LETTER ALPHA WITH ;GREEK SMALL LETTER ALPHA WITH "], ["MACRON;VRACHY"]⟩,
  ⟨["GREEK CAPITAL LETTER IOTA WITH ;GREEK CAPITAL LETTER UPSILON WITH ",
    "GREEK SMALL LETTER IOTA WITH ;GREEK SMALL LETTER UPSILON WITH "],
    ["DASIA;DASIA AND OXIA;DASIA AND PERISPOMENI;DASIA AND VARIA;DIALYTIKA;MACRON;OXIA;TONOS",
     "VARIA;VRACHY"]⟩,
  ⟨["GREEK CAPITAL LETTER IOTA WITH ;GREEK SMALL LETTER IOTA WITH ",
    "GREEK SMALL LETTER UPSILON WITH "],
    ["PSILI;PSILI AND OXIA;PSILI AND PERISPOMENI;PSILI AND VARIA"]⟩,
  ⟨["GREEK DIALYTIKA "], ["AND OXIA;AND PERISPOMENI;AND VARIA;TONOS"]⟩,
  ⟨["GREEK LETTER "], ["ARCHAIC KOPPA;DIGAMMA;KOPPA;SAMPI;STIGMA;YOT"]⟩,
  ⟨["GREEK SMALL LETTER "],
    ["ARCHAIC KOPPA;DIGAMMA;FINAL SIGMA;KOPPA;RHO WITH PSILI;SAMPI;STIGMA"]⟩,
  ⟨["GREEK SMALL LETTER ALPHA WITH ;GREEK SMALL LETTER ETA WITH ",
    "GREEK SMALL LETTER OMEGA WITH "],
    ["DASIA;DASIA AND OXIA;DASIA AND OXIA AND YPOGEGRAMMENI;DASIA AND PERISPOMENI",
     "DASIA AND PERISPOMENI AND YPOGEGRAMMENI;DASIA AND VARIA",
     "DASIA AND VARIA AND YPOGEGRAMMENI;DASIA AND YPOGEGRAMMENI;OXIA;OXIA AND YPOGEGRAMMENI",
     "PERISPOMENI;PERISPOMENI AND YPOGEGRAMMENI;PSILI;PSILI AND OXIA",
     "PSILI AND OXIA AND YPOGEGRAMMENI;PSILI AND PERISPOMENI",
     "PSILI AND PERISPOMENI AND YPOGEGRAMMENI;PSILI AND VARIA",
     "PSILI AND VARIA AND YPOGEGRAMMENI;PSILI AND YPOGEGRAMMENI;TONOS;VARIA",
     "VARIA AND YPOGEGRAMMENI;YPOGEGRAMMENI"]⟩,
  ⟨["GREEK SMALL LETTER IOTA WITH ;GREEK SMALL LETTER UPSILON WITH "],
    ["DIALYTIKA AND OXIA;DIALYTIKA AND PERISPOMENI;DIALYTIKA AND TONOS;DIALYTIKA AND VARIA",
     "PERISPOMENI"]⟩,
  ⟨["MODIFIER "], ["LETTER CYRILLIC HARD SIGN;LETTER CYRILLIC SOFT SIGN;LETTER GEORGIAN NAR"]⟩,
  ⟨["OGHAM "], ["FEATHER MARK;REVERSED FEATHER MARK;SPACE MARK"]⟩,
  ⟨["OGHAM LETTER "],
    ["AILM;BEITH;CEIRT;COLL;DAIR;EABHADH;EADHADH;EAMHANCHOLL;FEARN;GORT;IFIN;IODHADH;LUIS;MUIN",
     "NGEADAL;NION;ONN;OR;PEITH;RUIS;SAIL;STRAIF;TINNE;UATH;UILLEANN;UR"]⟩,
  ⟨["OLD HUNGARIAN CAPITAL LETTER ;OLD HUNGARIAN SMALL LETTER "],
    ["A;AA;AK;AMB;AND;CLOSE E;E;EB;EC;ECH;ECS;ED;EE;EF;EG;EGY;EH;EJ;EK;EL;ELY;EM;EMP;EN;ENC",
     "ENT;ENT-SHAPED SIGN;ENY;EP;ER;ES;ESZ;ET;ETY;EV;EZ;EZS;I;II;NIKOLSBURG OE;NIKOLSBURG UE;O",
     "OEE;OO;RUDIMENTA OE;RUDIMENTA UE;SHORT ER;U;UNK;US;UU"]⟩,
  ⟨["OLD HUNGARIAN NUMBER "], ["FIFTY;FIVE;ONE;ONE HUNDRED;ONE THOUSAND;TEN"]⟩,
  ⟨["OLD ITALIC LETTER "],
    ["EF;EKS;EL;EM;EN;ER;ERS;ES;ESH;ESS;II;KA;KU;NORTHERN TSE;PHE;SOUTHERN TSE;UU;YE"]⟩,
  ⟨["OLD ITALIC NUMERAL "], ["FIFTY;FIVE;ONE;TEN"]⟩,
  ⟨["OLD PERMIC LETTER "],
    ["AN;BUR;CHERY;DOI;DZHOI;DZITA;E;EF;GAI;HA;I;IA;IE;KOKE;LEI;MENOE;NENOE;O;OO;PEEI;REI",
     "SHCHOOI;SHOOI;SII;TAI;TSIU;U;VER;VOOI;YA;YAT;YER;YERI;YERU;YRY;YU;ZATA;ZHOI"]⟩,
  ⟨["RUNIC "],
    ["ARLAUG SYMBOL;BELGTHOR SYMBOL;CROSS PUNCTUATION;MULTIPLE PUNCTUATION;SINGLE PUNCTUATION",
     "TVIMADUR SYMBOL"]⟩,
  ⟨["RUNIC LETTER "],
    ["AC A;AESC;ALGIZ EOLHX;ANSUZ A;BERKANAN BEORC BJARKAN B;C;CALC;CEALC;CEN;CWEORTH;D",
     "DAGAZ DAEG D;DOTTED-L;DOTTED-N;DOTTED-P;E;EAR;EHWAZ EH E;ENG;ETH;FEHU FEOH FE F;G;GAR",
     "GEBO GYFU G;GER;HAEGL H;HAGLAZ H;ICELANDIC-YR;ING;INGWAZ;IOR;ISAZ IS ISS I;IWAZ EOH",
     "JERAN J;K;KAUN K;KAUNA;LAUKAZ LAGU LOGR L;LONG-BRANCH-AR AE;LONG-BRANCH-HAGALL H",
     "LONG-BRANCH-MADR M;LONG-BRANCH-OSS O;LONG-BRANCH-YR;MANNAZ MAN M;NAUDIZ NYD NAUD N;O;OE",
     "ON;OO;OPEN-P;OS O;OTHALAN ETHEL O;PERTHO PEORTH P;Q;RAIDO RAD REID R;SH",
     "SIGEL LONG-BRANCH-SOL S;SOWILO S;STAN;THURISAZ THURS THORN;TIWAZ TIR TYR T;URUZ UR U;V;W",
     "WUNJO WYNN W;X;Y;YR;Z"]⟩,
  ⟨["RUNIC LETTER FRANKS "], ["CASKET AC;CASKET AESC;CASKET EH;CASKET IS;CASKET OS"]⟩,
  ⟨["RUNIC LETTER SHORT-TWIG-"], ["AR A;BJARKAN B;HAGALL H;MADR M;NAUD N;OSS O;SOL S;TYR T;YR"]⟩,
  ⟨["SHAVIAN LETTER "],
    ["ADO;AGE;AH;AIR;ARE;ARRAY;ASH;AWE;BIB;CHURCH;DEAD;EAR;EAT;EGG;ERR;FEE;GAG;HA-HA;HUNG;IAN",
     "ICE;IF;JUDGE;KICK;LOLL;MEASURE;MIME;NUN;OAK;OIL;ON;OOZE;OR;OUT;PEEP;ROAR;SO;SURE;THEY",
     "THIGH;TOT;UP;VOW;WOE;WOOL;YEA;YEW;ZOO"]⟩,
  ⟨["VITHKUQI CAPITAL LETTER ;VITHKUQI SMALL LETTER "],
    ["A;BBE;BE;CE;CHE;DE;DHE;E;EI;FE;GA;HA;HHA;I;IJE;JE;KA;LA;LLA;ME;NE;NJE;O;PE;QA;RE;SE;SHE",
     "TE;THE;U;VE;XE;Y;ZE"]⟩]

end WireModel.Text.CharacterName
