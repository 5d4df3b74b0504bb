import WireModel.Text.CharacterName.Family

/-!
# Names of African scripts

The names of the scripts of Africa, Arabic and those of old Egypt apart.
-/

namespace WireModel.Text.CharacterName

def african : List Family := [
  ⟨[""], ["BASSA VAH FULL STOP;VAI COMMA;VAI FULL STOP;VAI QUESTION MARK"]⟩,
  ⟨["ADLAM "],
    ["ALIF LENGTHENER;CONSONANT MODIFIER;GEMINATE CONSONANT MODIFIER;GEMINATION MARK;HAMZA",
     "INITIAL EXCLAMATION MARK;INITIAL QUESTION MARK;NASALIZATION MARK;NUKTA;VOWEL LENGTHENER"]⟩,
  ⟨["ADLAM CAPITAL LETTER ;ADLAM SMALL LETTER "],
    ["ALIF;BA;BHE;CHI;DAALI;DHA;E;FA;GA;GBE;HA;I;JIIM;KAF;KHA;KPO;LAAM;MIIM;NHA;NUN;NYA;O;PE",
     "QAAF;RA;SHA;SINNYIIYHE;TU;U;VA;WAW;YA;YHE;ZAL"]⟩,
  ⟨["ADLAM DIGIT ;MEDEFAIDRIN DIGIT ;NKO DIGIT ;OSMANYA DIGIT ;VAI DIGIT "],
    ["EIGHT;FIVE;FOUR;NINE;ONE;SEVEN;SIX;THREE;TWO;ZERO"]⟩,
  ⟨["BAMUM ;ETHIOPIC "], ["COLON;COMMA;FULL STOP;QUESTION MARK;SEMICOLON"]⟩,
  ⟨["BAMUM "], ["COMBINING MARK KOQNDON;COMBINING MARK TUKWENTIS;NJAEMLI"]⟩,
  ⟨["BAMUM LETTER ;BAMUM LETTER PHASE-E "],
    ["A;FEE;I;KEUX;KI;LU;MEN;MI;NA;NGA;NJEE;O;PI;PUE;RAE;TEN;YUQ"]⟩,
  ⟨["BAMUM LETTER ;BAMUM LETTER PHASE-F "],
    ["EE;FOM;KA;KEN;KO;KPA;LA;LI;MA;MBEN;MO;NDAA;NGGA;NGKWAEN;NJAEM;NJUAE;NSHA;NUAE;PEUX;PUAE",
     "REE;REN;REUX;RIEE;RU;SAMBA;SEUX;SHO;SI;TAA;TET;U;WA;WUE;YA;YOQ"]⟩,
  ⟨["BAMUM LETTER "], ["FAAMAE;FU;KOGHOM;KOVUU;LEEEE;MU;NTUU;PA;SHEUX;TI"]⟩,
  ⟨["BAMUM LETTER ;BAMUM LETTER PHASE-D ;BAMUM LETTER PHASE-F "],
    ["KET;KU;KYEE;LOQ;M;MBAA;MEEEE;NI;NTEE;NU;NYI;PEE;RII;SHII;SHU;SUU;TAE"]⟩,
  ⟨["BAMUM LETTER PHASE-A "],
    ["FIRI;GBIEE FON;GHEUAEGHEUAE;GHEUAERAE;KAFA;KAQ;KET;KEUKEUTNDA;KPOQ;KUOQ;LAPAQ;LET KUT",
     "LOMMAE;LU;LUAEP;MAEKEUP;MAEM;MAEMBGBIEE;MAEMKPEN;MAEMVEUX;MAENYI;MAESI;MANSUAE;MAP PIEET",
     "MBANYI;MBAQ;MEUNJOMNDEUQ;MGBASA;MON NGGEUAET;MOOMEUT;MOOMPUQ;MVEUAENGAM;NAA MFON;NAQ",
     "NDA LEERAEWA;NDAANGGEUAET;NEN;NGANGU;NGGEN;NGKUE MFON;NGKUENZEUM;NIKA;NJAM;NKAARAE",
     "NKINDI;NSHA;NSHIEE;NTAP;NTAP MFAA;NTAP NTAA;NTOQPEN;NYET;NYI;NYIT MONGKEUAEQ;NZA MFON",
     "NZUN MEUT;PA LEERAEWA;PAAM;PAARAE;PAMSHAE;PASHAE;PET;PON MFON PIPAEMBA",
     "PON MFON PIPAEMGBIEE;PON PA NJI PIPAEMBA;PON PA NJI PIPAEMGBIEE;PUP;ROM;SEUNYAM",
     "SHINDA PA NJI;SHIRAE;SHOQ NSHUT YUM;SHUENSHUET;SHUM;SISA;SONJAM;SOQ;SOT;SUU;TEUAEN",
     "TEUTEUWEN;TITA MFON;TU MAEMBA;TUAEP;U YUQ NAE;UNKNOWN;VEE"]⟩,
  ⟨["BAMUM LETTER PHASE-B "],
    ["FEE;FEUX;GHEUGHEN;GHEUGHEUAEM;KAM;KEUAEM;KEUPUQ;KEUYEUX;KIEEM;KIQ;LAANAE;LAM NSHUT NYAM",
     "LET;LOM NTEUM;MA;MA NJEUAENA;MA NJUQA;MBA MAELEE;MBAARAE;MBEURI;MBIT MBAAKET;MBUOQ;MEUQ",
     "MEUT NGGEET;MFIYAQ;MFON TEUAEQ;MONTIEEN;NDU NJAA;NGGAAM;NGGEU MBU;NGGUOQ;NGGUOQ LARGE",
     "NGKINDI MVOP;NGOM;NSEN;NSHUET;NTIEE SHEUOQ;NYAEMAE;NYI NTEUM;PARUM;PEESHI;PIT;PUNGAAM",
     "SAKEUAE;SET TU;SHET NJAQ;SHEUAEQTU;SIEE;SUE;TAAM;TU MAEMGBIEE;TU NSIEE;VEUM;WUAET",
     "YAFU LEERAEWA;YEURAE"]⟩,
  ⟨["BAMUM LETTER PHASE-C "],
    ["BUNG;FUE;GBAYI;GHAP;GHARAE;KAA;KEN FATIGUE;KEN LAW;KET;KEUKAQ;KEUM;KEUSEUX;KEUSHEUAEP",
     "KPARAQ;KUOP NKAARAE;KUT;LAM;LAP;LIQ;LU;MA KEUAERI;MA NSIEE;MAEMBA;MAESI",
     "MBAA CABBAGE-TREE;MBAA PICKET;MBANYI;MBEEKEET;MBERAE;MBEUM;MBEUX;MBI;MBIRIEEN;MBIT",
     "MBUAEM;MBUE;MGBASAQ;MIEE;MUAE;NANSANAQ;NAQ;NDAM;NDAP;NDEUAEREE;NDEUT;NDIDA;NDOMBU;NGAQ",
     "NGGEN;NGGU;NGGUAEN NYAM;NGGUEET;NGGUM;NGGUON;NGKAQ;NGKUE MAEMBA;NGOM;NJAEM;NJAM;NJEEEE",
     "NJEUX;NJUEQ;NSA;NSEUAEN;NSHAQ;NSOM;NSUN;NSUOT NGOM;NTAA;NTEN;NTEUNGBA;NTU MBIT",
     "NYIR MKPARAQ MEUN;NZA;NZEUM;PEN;PIN;PIRIEEN;RU;SETFON;SEUX;SHIQ;SHUEQ;SUAET;TAASHAE;TET",
     "TEUTEUX;TITA YUE;TITUAEP;VEUAEPEN;VEUX;WANGKUOQ;WUP;YAA;YEUQ;YU MUOMAE;YUM;YUWOQ"]⟩,
  ⟨["BAMUM LETTER PHASE-D "],
    ["FAA;FEUFEUAET;GHAA;GHEUAE;KEUAETMEUN;KEUM;KEUOT MBUAE;KEUP;KUN;KUOM;KUQ;KWAET;LEEEE;LET",
     "LEUAEP;LEUM;LIEE;LUM;MAENJET;MALEERI;MBAA SEVEN;MBUO;MEUN;MEUT;MFEUAE;MFEUT;MFIEE;MFO",
     "MFON;MGBEUN;MGBIEE;MGBOFUM;MONI;MU;MVOP;NDAM;NDEE;NDEUX;NDON;NGGAAM;NGGAAMAE;NGGAP",
     "NGGEUX;NGGUOM;NGGWAEN;NGKAP;NGKEUAEQ;NGKEURI;NGKIEE;NGKUN;NGKYEE;NJAP;NJEUAEM;NJEUT;NJI",
     "NJIEE;NJUEQ;NSHEE;NSHUT;NSIEEP;NSIEET;NSUM;NTEUM;NTUU;NYAM;NYET;NYUE;PAP;PEUTAE;PIP;PUQ",
     "PUUT;RAEM;REN MUCH;REN OLD;SAP;SAQ;SEUAEQ;SHEE;SHEUAE;SHEUX;SHOQ;SOT;SUAE;SUE;TEEEE",
     "TEUAEN;TEUN;TEUT;TI;TOQ;TU;TUOT;WAP;WUAEN;YAEMMAE;YEN;YUOM;YUOP;YUWOQ"]⟩,
  ⟨["BAMUM LETTER PHASE-E "],
    ["FA;FAQ;FOM;FU CALL;FU I;FU REMEDY;FUE;FUET;GBET;GBEUX;GHAAMAE;GHET;GHEUAE;GHEUN;GHEUX",
     "GHOM;KET;KEUAE;KO;KPEUX;KUET;KUOP;KUT;LAAM;LAP;LAQ;LEUAEM;LOM;LOON;LOOT;LOQ;MA;MAE;MAEM",
     "MAP;MAQ;MBEE;MBEUM;MFEUQ;MGBA;MGBEN;MIEE;MON;MUAE;MVI;NAE;NDAA MY HOUSE;NDAA SOFTNESS",
     "NDAP;NDIAQ;NDIQ;NDUN;NGEUREUT;NGGEEEE;NGGEUAE;NGGEUAET;NGGUAESHAE NYAM;NGGUP;NGGURAE",
     "NGKA;NGKAAMI;NGKEUAEM;NGKEUX;NGKUM;NGKUP;NGOP;NGOQ;NGUAE;NGUAET;NJAEMLI;NJEE EPOCH;NJEUX",
     "NKOM;NSHIEE;NSHUE;NSHUOP;NTAP;NTUM;NYI BETWEEN;NYI CLEAVER;NZAQ;NZUQ;PA PEOPLE;PA PLURAL",
     "PAA;PAAM;PEEM;PEUT;PEUX;PIEEQ;PIET;PO;POON;PU;PUAE;PUAQ;PUM;RAQ;REUX;RIMGBA;SAA;SEE;SET",
     "SHEUAEQ;SHIQ;SHO;SHOQ;SOM;SUAEN;TAA;TAAQ;TAEN NTEUM;TAM;TAQ;TEU;TEUAEQ;TOO;TOON;TOQ;TUAE",
     "TUM;TUMAE;VEE;VEUAE;VOM;WEUX;WUE;WUO;YAP;YEUAE;YEUAET;YEUM;YEUX;YIEE;YIT;YOQ COVER",
     "YOQ SWIMMING;YUAEN;YUEQ;YUN"]⟩,
  ⟨["BAMUM LETTER PHASE-F "], ["VUEQ"]⟩,
  ⟨["BASSA VAH COMBINING "], ["HIGH TONE;HIGH-LOW TONE;LOW TONE;LOW-MID TONE;MID TONE"]⟩,
  ⟨["BASSA VAH LETTER "],
    ["A;BA;CE;DHII;DO;E;EE;ENNI;FA;GAH;GBU;HWAH;I;JO;KA;KPAH;MBE;O;OO;PA;SE;TO;U;UWU;VU;WA",
     "WADDA;YEIN;YIE;ZO"]⟩,
  ⟨["ETHIOPIC "], ["PARAGRAPH SEPARATOR;PREFACE COLON;SECTION MARK;WORDSPACE"]⟩,
  ⟨["ETHIOPIC COMBINING "],
    ["GEMINATION AND VOWEL LENGTH MARK;GEMINATION MARK;VOWEL LENGTH MARK"]⟩,
  ⟨["ETHIOPIC DIGIT ;MENDE KIKAKUI DIGIT "], ["EIGHT;FIVE;FOUR;NINE;ONE;SEVEN;SIX;THREE;TWO"]⟩,
  ⟨["ETHIOPIC NUMBER "],
    ["EIGHTY;FIFTY;FORTY;HUNDRED;NINETY;SEVENTY;SIXTY;TEN;TEN THOUSAND;THIRTY;TWENTY"]⟩,
  ⟨["ETHIOPIC SYLLABLE ;VAI SYLLABLE "],
    ["BA;BE;BEE;BI;BO;BU;CA;CE;CEE;CI;CO;CU;DA;DE;DEE;DI;DO;DU;FA;FE;FEE;FI;FO;FU;GA;GE;GEE;GI",
     "GO;GU;HA;HE;HEE;HI;HO;HU;JA;JE;JEE;JI;JO;JU;KA;KE;KEE;KI;KO;KU;LA;LE;LEE;LI;LO;LU;MA;ME",
     "MEE;MI;MO;MU;NA;NE;NEE;NI;NO;NU;NYA;NYE;NYEE;NYI;NYO;NYU;PA;PE;PEE;PI;PO;PU;RA;RE;REE;RI",
     "RO;RU;SA;SE;SEE;SHA;SHE;SHEE;SHI;SHO;SHU;SI;SO;SU;TA;TE;TEE;THA;THE;THEE;THI;THO;THU;TI",
     "TO;TU;VA;VE;VEE;VI;VO;VU;WA;WE;WEE;WI;WO;WU;YA;YE;YEE;YI;YO;YU;ZA;ZE;ZEE;ZHA;ZHE;ZHEE",
     "ZHI;ZHO;ZHU;ZI;ZO;ZU"]⟩,
  ⟨["ETHIOPIC SYLLABLE "],
    ["BAA;BBA;BBAA;BBE;BBEE;BBI;BBO;BBU;BOA;BWA;BWE;CAA;CCA;CCAA;CCE;CCEE;CCHA;CCHAA;CCHE",
     "CCHEE;CCHHA;CCHHAA;CCHHE;CCHHEE;CCHHI;CCHHO;CCHHU;CCHI;CCHO;CCHU;CCI;CCO;CCU;CHA;CHAA",
     "CHE;CHEE;CHI;CHO;CHOA;CHU;CHWA;COA;CWA;DAA;DDA;DDAA;DDE;DDEE;DDHAA;DDHE;DDHEE;DDHI;DDHO",
     "DDHU;DDI;DDO;DDOA;DDU;DDWA;DOA;DWA;DZAA;DZE;DZEE;DZI;DZO;DZU;FAA;FWA;FWE;FYA;GAA;GGA",
     "GGAA;GGE;GGEE;GGI;GGO;GGU;GGWA;GGWAA;GGWE;GGWEE;GGWI;GOA;GWA;GWAA;GYA;GYAA;GYE;GYEE;GYI",
     "GYO;GYU;HAA;HHA;HHAA;HHE;HHEE;HHI;HHO;HHU;HHWE;HHWEE;HHWI;HHYA;HHYAA;HHYE;HHYEE;HHYI",
     "HHYO;HHYU;HOA;JAA;JOA;JWA;KAA;KOA;KWA;KWAA;KXA;KXAA;KXE;KXEE;KXI;KXO;KXU;KXWA;KXWAA;KXWE",
     "KXWEE;KXWI;KYA;KYAA;KYE;KYEE;KYI;KYO;KYU;LAA;LOA;LWA;MAA;MOA;MWA;MWE;MYA;NAA;NOA;NWA",
     "NYAA;NYOA;NYWA;PAA;PHA;PHAA;PHE;PHEE;PHI;PHO;PHOA;PHU;PHWA;POA;PWA;PWE;QA;QAA;QE;QEE;QHA",
     "QHAA;QHE;QHEE;QHI;QHO;QHU;QHWA;QHWAA;QHWE;QHWEE;QHWI;QI;QO;QOA;QU;QWA;QWAA;QYA;QYAA;QYE",
     "QYEE;QYI;QYO;QYU;RAA;ROA;RWA;RYA;SAA;SHAA;SHOA;SHWA;SOA;SSA;SSAA;SSE;SSEE;SSI;SSO;SSU",
     "SWA;SZA;SZAA;SZE;SZEE;SZI;SZO;SZU;SZWA;TAA;THAA;THOA;THWA;TOA;TSA;TSAA;TSE;TSEE;TSI;TSO",
     "TSU;TSWA;TTHAA;TTHE;TTHEE;TTHI;TTHO;TTHU;TWA;TZA;TZAA;TZE;TZEE;TZI;TZO;TZOA;TZU;VAA;VWA",
     "WAA;WOA;XA;XAA;XE;XEE;XI;XO;XOA;XU;XWA;XWAA;XWE;XWEE;XWI;XYA;XYAA;XYE;XYEE;XYI;XYO;XYU",
     "YAA;YOA;ZAA;ZHAA;ZHWA;ZOA;ZWA;ZZA;ZZAA;ZZE;ZZEE;ZZI;ZZO;ZZU"]⟩,
  ⟨["ETHIOPIC SYLLABLE ;ETHIOPIC SYLLABLE GURAGE "],
    ["BWEE;BWI;FWEE;FWI;GWE;GWEE;GWI;HHWA;KWE;KWEE;KWI;MWEE;MWI;PWEE;PWI;QWE;QWEE;QWI"]⟩,
  ⟨["ETHIOPIC SYLLABLE GLOTTAL "], ["A;AA;E;EE;I;O;OA;U;WA"]⟩,
  ⟨["ETHIOPIC SYLLABLE PHARYNGEAL "], ["A;AA;E;EE;I;O;U"]⟩,
  ⟨["ETHIOPIC SYLLABLE SEBATBEIT "], ["BWA;FWA;MWA;PWA"]⟩,
  ⟨["ETHIOPIC TONAL MARK "],
    ["CHIRET;DERET;DERET-HIDET;DIFAT;HIDET;KENAT;KURT;RIKRIK;SHORT RIKRIK;YIZET"]⟩,
  ⟨["MEDEFAIDRIN "], ["COMMA;EXCLAMATION OH;FULL STOP;SYMBOL AIVA"]⟩,
  ⟨["MEDEFAIDRIN CAPITAL LETTER ;MEDEFAIDRIN SMALL LETTER "],
    ["A;AI;ATIU;B;C;D;E;F;G;HP;I;J;K;KP;L;M;N;NY;O;OE;P;Q;R;S;T;U;V;W;X;Y;YU;Z"]⟩,
  ⟨["MEDEFAIDRIN DIGIT "], ["ONE ALTERNATE FORM;THREE ALTERNATE FORM;TWO ALTERNATE FORM"]⟩,
  ⟨["MEDEFAIDRIN NUMBER "],
    ["EIGHTEEN;ELEVEN;FIFTEEN;FOURTEEN;NINETEEN;SEVENTEEN;SIXTEEN;TEN;THIRTEEN;TWELVE"]⟩,
  ⟨["MENDE KIKAKUI COMBINING NUMBER "],
    ["HUNDRED THOUSANDS;HUNDREDS;MILLIONS;TEENS;TEN THOUSANDS;TENS;THOUSANDS"]⟩,
  ⟨["MENDE KIKAKUI SYLLABLE "],
    ["M001 KI;M002 KA;M003 KU;M004 WI;M005 WA;M006 WU;M007 MIN;M008 MAN;M009 MUN;M010 BI",
     "M011 BA;M012 BU;M013 I;M014 A;M015 U;M016 DI;M017 DA;M018 DU;M019 SI;M020 SA;M021 SU",
     "M022 TI;M023 TA;M024 TU;M025 LI;M026 LA;M027 LU;M028 JI;M029 JA;M030 JU;M031 YI;M032 YA",
     "M033 YU;M034 FI;M035 FA;M036 FU;M037 NIN;M038 NAN;M039 NUN;M040 HEE;M041 HA;M042 HOO",
     "M043 NGGA;M044 KPEE;M045 WO;M046 HUAN;M047 MBEE;M048 KO;M049 WVA;M050 PU;M051 PE",
     "M052 HEN;M053 HIN;M054 LOO;M055 TE;M056 GBA;M057 NGON;M058 NYAN;M059 MEN;M060 NYON",
     "M061 WVI;M062 MBA;M063 JO;M064 NDO;M065 KEE;M066 PO;M067 NDOO;M068 PI;M069 TO;M070 GBO",
     "M071 GBOO;M072 MBE;M073 LE;M074 KPU;M075 FE;M076 KOO;M077 VO;M078 FEE;M079 SO;M080 YE",
     "M081 PEE;M082 NGGU;M083 HEEI;M084 LEE;M085 VE;M086 LONG NGGE;M087 HUN;M088 FO;M089 DEE",
     "M090 NGGI;M091 TEE;M092 KPA;M093 GBEE;M094 MON;M095 KE;M096 HE;M097 BE;M098 NYEN;M099 PA",
     "M100 E;M101 FAN;M102 POO;M103 BOO;M104 TOO;M105 LONG MBOO;M106 LONG NGGOO;M107 GBE",
     "M108 KPE;M109 YEE;M110 LONG LE;M111 GA;M112 KPOO;M113 JE;M114 WOO;M115 NGGEE;M116 SE",
     "M117 NEN;M118 WE;M119 NDE;M120 NGGO;M121 YO;M122 MBU;M123 NDI;M124 GBI;M125 NDU;M126 WEE",
     "M127 NGGUA;M128 HOOU;M129 NDA;M130 HAN;M131 IN;M132 KPI;M133 FOO;M134 NJOO;M135 IN",
     "M136 SOO;M137 EI;M138 BO;M139 WVE;M140 HO;M141 YOO;M142 LONG MBO;M143 WEI;M144 VOO",
     "M145 MBI;M146 NGGE;M147 O;M148 GBU;M149 NJEE;M150 BEE;M151 VU;M152 NJA;M153 LO;M154 MUAN",
     "M155 GI;M156 NGGOO;M157 JEE;M158 KPO;M159 NGGAA;M160 JOO;M161 LONG MBE;M162 SEE;M163 EE",
     "M164 NYIN;M165 OO;M166 GUEI;M167 GUAN;M168 GU;M169 NON;M170 NYUN;M171 RA;M172 MBOO",
     "M173 VEE;M174 MBO;M175 LONG JO;M176 HI;M177 NGUAN;M178 EN;M179 KUA;M180 DOO;M181 DO",
     "M182 VI;M183 LONG NGGO;M184 NGEN;M185 VA;M186 HU;M187 MBUU;M188 MBEE;M189 MUEN;M190 GEE",
     "M191 NDEE;M192 NJU;M193 HON;M194 WUI;M195 AN;M196 SIA;M197 FUA"]⟩,
  ⟨["NKO "],
    ["COMMA;DANTAYALAN;DOROME SIGN;EXCLAMATION MARK;HIGH TONE APOSTROPHE;LAJANYALAN",
     "LOW TONE APOSTROPHE;SYMBOL GBAKURUNEN;SYMBOL OO DENNEN;TAMAN SIGN"]⟩,
  ⟨["NKO COMBINING "],
    ["DOUBLE DOT ABOVE;LONG DESCENDING TONE;LONG HIGH TONE;LONG LOW TONE;LONG RISING TONE",
     "NASALIZATION MARK;SHORT HIGH TONE;SHORT LOW TONE;SHORT RISING TONE"]⟩,
  ⟨["NKO LETTER ;OSMANYA LETTER "], ["A;BA;E;EE;FA;HA;I;JA;O;OO;RA;SA;TA;U;YA"]⟩,
  ⟨["NKO LETTER "],
    ["CHA;DA;DAGBASINNA;GBA;JONA CHA;JONA JA;JONA RA;KA;LA;MA;N;NA;NA WOLOSO;NYA;NYA WOLOSO;PA",
     "RRA;WA"]⟩,
  ⟨["OSMANYA LETTER "], ["AA;ALEF;CAYN;DEEL;DHA;GA;KAAF;KHA;LAAN;MIIN;NUUN;QAAF;SHIIN;WAW;XA"]⟩,
  ⟨["TIFINAGH "], ["CONSONANT JOINER;MODIFIER LETTER LABIALIZATION MARK;SEPARATOR MARK"]⟩,
  ⟨["TIFINAGH LETTER "],
    ["AHAGGAR YAZH;AYER YAGH;BERBER ACADEMY YAH;BERBER ACADEMY YAJ;TAWELLEMET YAZ;YA;YAA;YAB",
     "YABH;YACH;YAD;YADD;YADDH;YADH;YAF;YAG;YAGH;YAGHH;YAH;YAHH;YAJ;YAK;YAKH;YAKHH;YAL;YAM;YAN",
     "YAP;YAQ;YAR;YARR;YAS;YASH;YASS;YAT;YATH;YATT;YAV;YAW;YAY;YAZ;YAZH;YAZZ;YE;YEY;YI;YO;YU"]⟩,
  ⟨["TIFINAGH LETTER TUAREG "], ["YAGH;YAGN;YAH;YAK;YAKH;YANG;YAQ;YAZH"]⟩,
  ⟨["VAI SYLLABLE "],
    ["A;AN;BHA;BHE;BHEE;BHI;BHO;BHOO;BHU;BOO;COO;DHA;DHE;DHEE;DHHA;DHHE;DHHEE;DHHI;DHHO;DHHOO",
     "DHHU;DHI;DHO;DHOO;DHU;DOO;E;EE;EEN;EN;FOO;GBA;GBE;GBEE;GBEN;GBI;GBO;GBON;GBOO;GBU;GEN",
     "GOO;HAN;HEN;HIN;HON;HOO;HUN;I;IN;JOO;KAN;KOO;KPA;KPAN;KPE;KPEE;KPEN;KPI;KPO;KPOO;KPU",
     "LENGTHENER;LOO;MBA;MBE;MBEE;MBI;MBO;MBOO;MBU;MGBA;MGBE;MGBEE;MGBI;MGBO;MGBOO;MGBU;MOO",
     "NDA;NDE;NDEE;NDI;NDO;NDOO;NDU;NG;NGAN;NGEN;NGGA;NGGE;NGGEE;NGGEN;NGGI;NGGO;NGGOO;NGGU",
     "NGON;NJA;NJE;NJEE;NJI;NJO;NJOO;NJU;NOO;NYOO;O;ON;OO;OON;POO;ROO;SHOO;SOO;THOO;TOO;U;UN",
     "VOO;WAN;WEEN;WEN;WIN;WON;WOO;WOON;WUN;YOO;ZHOO;ZOO"]⟩,
  ⟨["VAI SYLLABLE NDOLE "], ["DO;FA;KA;MA;SOO"]⟩,
  ⟨["VAI SYMBOL "], ["BANG;DANG;DO-O;DOONG;FAA;FEENG;JONG;KEENG;KUNG;NII;TAA;TING;TONG"]⟩]

end WireModel.Text.CharacterName
