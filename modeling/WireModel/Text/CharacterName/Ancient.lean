import WireModel.Text.CharacterName.Family

/-!
# Names of ancient scripts

The names of cuneiform, hieroglyphs and other old scripts.
-/

namespace WireModel.Text.CharacterName

def ancient : List Family := [
  ⟨[""], ["ASCIA SYMBOL;GREEK SYMBOL TAU RHO;OLD PERSIAN WORD DIVIDER;UGARITIC WORD DIVIDER"]⟩,
  ⟨["AEGEAN "],
    ["CHECK MARK;DRY MEASURE FIRST SUBUNIT;LIQUID MEASURE FIRST SUBUNIT;MEASURE SECOND SUBUNIT",
     "MEASURE THIRD SUBUNIT;WORD SEPARATOR DOT;WORD SEPARATOR LINE"]⟩,
  ⟨["AEGEAN NUMBER "],
    ["EIGHT;EIGHT HUNDRED;EIGHT THOUSAND;EIGHTY;EIGHTY THOUSAND;FIFTY;FIFTY THOUSAND;FIVE",
     "FIVE HUNDRED;FIVE THOUSAND;FORTY;FORTY THOUSAND;FOUR;FOUR HUNDRED;FOUR THOUSAND;NINE",
     "NINE HUNDRED;NINE THOUSAND;NINETY;NINETY THOUSAND;ONE;ONE HUNDRED;ONE THOUSAND;SEVEN",
     "SEVEN HUNDRED;SEVEN THOUSAND;SEVENTY;SEVENTY THOUSAND;SIX;SIX HUNDRED;SIX THOUSAND;SIXTY",
     "SIXTY THOUSAND;TEN;TEN THOUSAND;THIRTY;THIRTY THOUSAND;THREE;THREE HUNDRED",
     "THREE THOUSAND;TWENTY;TWENTY THOUSAND;TWO;TWO HUNDRED;TWO THOUSAND"]⟩,
  ⟨["AEGEAN WEIGHT "], ["BASE UNIT;FIRST SUBUNIT;FOURTH SUBUNIT;SECOND SUBUNIT;THIRD SUBUNIT"]⟩,
  ⟨["ANATOLIAN HIEROGLYPH "],
    ["A010A;A026A;A039A;A041A;A045A;A046A;A046B;A066A;A066B;A066C;A097A;A098A;A100A;A101A",
     "A102A;A104A;A104B;A104C;A105A;A105B;A107A;A107B;A107C;A110A;A110B;A115A;A125A;A135A",
     "A202A;A202B;A207A;A209A;A215A;A216A;A227A;A267A;A289A;A294A;A299A;A309A;A329A;A332A",
     "A332B;A332C;A336A;A336B;A336C;A359A;A364A;A368A;A371A;A381A;A383 RA OR RI;A383A;A386A",
     "A393 EIGHT;A410 BEGIN LOGOGRAM MARK;A410A END LOGOGRAM MARK;A450A;A457A"]⟩,
  ⟨["CARIAN LETTER "],
    ["A;A2;B;C-18;C-39;D;D2;E;E2;G;G2;I;II;K;K2;L;LD;LD2;M;MB;MB2;MB3;MB4;N;ND;NG;NN;O;P;P2;Q",
     "R;RR;S;SH;SH2;SS;ST;ST2;T;TT;TT2;U;UU;UUU;UUU2;UUU3;UUUU;X"]⟩,
  ⟨["CUNEIFORM NUMERIC SIGN "],
    ["ELAMITE FIFTY;ELAMITE FORTY;ELAMITE ONE THIRD;ELAMITE TWO THIRDS;NIGIDAESH;NIGIDAMIN",
     "OLD ASSYRIAN ONE QUARTER;OLD ASSYRIAN ONE SIXTH;SHAR2 TIMES GAL PLUS DISH",
     "SHAR2 TIMES GAL PLUS MIN;SIX ASH;SIX ASH TENU;SIX DISH;SIX GESH2;SIX SHAR2;SIX U",
     "SIX U VARIANT FORM;SIX VARIANT FORM ASH9"]⟩,
  ⟨["CUNEIFORM NUMERIC SIGN EIGHT "],
    ["ASH;DISH;GESH2;SHAR2;U;U VARIANT FORM;VARIANT FORM USSU;VARIANT FORM USSU3"]⟩,
  ⟨["CUNEIFORM NUMERIC SIGN FIVE ;CUNEIFORM NUMERIC SIGN FOUR "],
    ["ASH;ASH TENU;BAN2;BAN2 VARIANT FORM;BURU;DISH;GESH2;GESHU;SHAR2;SHARU;U;U VARIANT FORM"]⟩,
  ⟨["CUNEIFORM NUMERIC SIGN FIVE "], ["SIXTHS DISH"]⟩,
  ⟨["CUNEIFORM NUMERIC SIGN FOUR "],
    ["VARIANT FORM LIMMU;VARIANT FORM LIMMU4;VARIANT FORM LIMMU A;VARIANT FORM LIMMU B"]⟩,
  ⟨["CUNEIFORM NUMERIC SIGN NINE "],
    ["ASH;DISH;GESH2;SHAR2;U;U VARIANT FORM;VARIANT FORM ILIMMU;VARIANT FORM ILIMMU3",
     "VARIANT FORM ILIMMU4;VARIANT FORM ILIMMU A"]⟩,
  ⟨["CUNEIFORM NUMERIC SIGN ONE "],
    ["BAN2;BURU;EIGHTH ASH;ESHE3;GESH2;GESHU;HALF GUR;QUARTER ASH;QUARTER GUR;SHARU;THIRD DISH",
     "THIRD VARIANT FORM A"]⟩,
  ⟨["CUNEIFORM NUMERIC SIGN SEVEN "],
    ["ASH;DISH;GESH2;SHAR2;U;U VARIANT FORM;VARIANT FORM IMIN3;VARIANT FORM IMIN A",
     "VARIANT FORM IMIN B"]⟩,
  ⟨["CUNEIFORM NUMERIC SIGN THREE "],
    ["ASH;ASH TENU;BAN2;BURU;BURU VARIANT FORM;DISH;GESH2;GESHU;SHAR2;SHAR2 VARIANT FORM;SHARU",
     "SHARU VARIANT FORM;VARIANT FORM ESH16;VARIANT FORM ESH21"]⟩,
  ⟨["CUNEIFORM NUMERIC SIGN TWO "],
    ["ASH;ASH TENU;BAN2;BURU;ESHE3;GESH2;GESHU;SHAR2;SHARU;THIRDS DISH;THIRDS VARIANT FORM A"]⟩,
  ⟨["CUNEIFORM PUNCTUATION "],
    ["SIGN DIAGONAL COLON;SIGN DIAGONAL QUADCOLON;SIGN DIAGONAL TRICOLON",
     "SIGN OLD ASSYRIAN WORD DIVIDER;SIGN VERTICAL COLON"]⟩,
  ⟨["CUNEIFORM SIGN ;CUNEIFORM SIGN KA TIMES "],
    ["A;AD;ANSHE;ASH2;BAD;BALAG;BAR;BI;BU;ERIN2;ESH2;GA;GAL;GAN2 TENU;GAR;GI;GIR2;GISH",
     "GISH CROSSING GISH;GU;GUD;GUR7;IGI;IM;KA;KAK;KI;KID;LI;LU;LUM;ME;MI;NE;NUN;PA;PI;RU;SA",
     "SAR;SHA;SHE;SHID;SHU;SIG;SUHUR;TAR;TU;U;U2;U U U;UD;UMUM TIMES PA;UR;UR2;USH;ZI"]⟩,
  ⟨["CUNEIFORM SIGN "],
    ["A2;AB;AB2;AB GUNU;AD TIMES ESH2;AK;AK TIMES ERIN2;AK TIMES SHITA PLUS GISH;ALAN;ALEPH",
     "AMAR;AMAR TIMES KUG;AMAR TIMES SHE;AN OVER AN;AN PLUS NAGA OPPOSING AN PLUS NAGA",
     "AN PLUS NAGA SQUARED;AN THREE TIMES;APIN;ARAD;ARAD TIMES KUR;ARKAB;ASAL2;ASH KABA TENU",
     "ASH OVER ASH OVER ASH;ASH OVER ASH OVER ASH CROSSING ASH OVER ASH OVER ASH",
     "ASH OVER ASH TUG2 OVER TUG2 TUG2 OVER TUG2 PAP;ASHGAB;BA;BAD TIMES DISH TENU;BAG3",
     "BAHAR2 TIMES AB2;BAHAR2 TIMES NI;BAHAR2 TIMES ZA;BAL;BAL OVER BAL;BARA2;BI TIMES A",
     "BI TIMES GAR;BI TIMES IGI GUNU;BU CROSSING BU;BU OVER BU AB;BU OVER BU TIMES NA2",
     "BU OVER BU UN;BULUG;BULUG OVER BULUG;BUR2;DA TIMES TAK4;DAG;DAG3;DAG TIMES KUR;DAM;DARA3",
     "DARA4;DIB;DIM;DIM2;DIM2 TIMES UD;DIM TIMES IGI;DIM TIMES U U U;DIN",
     "DIN KASKAL U GUNU DISH;DISH;DISH PLUS SHU;DU;DU GUNU;DU OVER DU;DU SHESHIG;DUB2",
     "DUB TIMES ESH2;DUB TIMES SHE;DUG;DUGUD;DUH;DUN;DUN3;DUN3 GUNU;DUN3 GUNU GUNU;DUN4;DUR2;E",
     "E2;E OVER E NUN OVER NUN;E TIMES PAP;EDIN;EGIR;EN CROSSING EN;EN OPPOSING EN;EN SQUARED",
     "EN TIMES GAN2;EN TIMES ME;ERIN2 X;ESH2 CROSSING ESH2;EZEN;GA2;GA2 OVER GA2;GA GUNU;GABA",
     "GABA CROSSING GABA;GABA ROTATED NINETY DEGREES;GAD;GAD OVER GAD GAR OVER GAR",
     "GAL GAD OVER GAD GAR OVER GAR;GALAM;GAM;GAN;GAN2;GAN2 CROSSING GAN2;GAN2 OVER GAN2;GAR3",
     "GASHAN;GE22;GESHTIN;GESHTIN TIMES KUR;GESHTIN TIMES U;GI4 CROSSING GI4;GI4 OVER GI4",
     "GI CROSSING GI;GI TIMES E;GI TIMES U;GIDIM;GIG;GIR2 GUNU;GIR3;GIR3 TIMES A PLUS IGI",
     "GIR3 TIMES GAN2 TENU;GIR3 TIMES IGI;GIR3 TIMES LU PLUS IGI;GIR3 TIMES PA;GISAL;GISH TENU",
     "GISH TIMES BAD;GISH TIMES GISH CROSSING GISH;GISH TIMES TAK4;GU2;GU2 GUNU",
     "GU2 TIMES IGI GUNU;GU2 TIMES KAK;GU2 TIMES KAK TIMES IGI GUNU;GU2 TIMES NUN",
     "GU2 TIMES SAL PLUS TUG2;GU CROSSING GU;GUD OVER GUD LUGAL;GUD PLUS GISH TIMES TAK4",
     "GUD TIMES A PLUS KUR;GUD TIMES KUR;GUL;GUM;GUM TIMES SHE;GUR;GURUN;GURUSH;HA GUNU",
     "HA TENU;HA TENU GUNU;HI;HU;HUB2 TIMES AN;HUB2 TIMES HAL;HUB2 TIMES KASKAL",
     "HUB2 TIMES LISH;HUB2 TIMES UD;HUL2;HUSH;I;I A;IB;IDIM;IDIM OVER IDIM BUR",
     "IDIM OVER IDIM SQUARED;IG;IGI DIB;IGI OVER IGI SHIR OVER SHIR UD OVER UD;IGI RI;IL;IL2",
     "IL TIMES GAN2 TENU;IM CROSSING IM;IM OPPOSING IM;IM SQUARED;IM TIMES TAK4;IMIN;IN;IR;ISH",
     "KA2;KA2 CROSSING KA2;KAB;KAD2;KAD3;KAD4;KAD5;KAD5 OVER KAD5;KAK TIMES IGI GUNU;KAL",
     "KAL CROSSING KAL;KAL TIMES BAD;KAM2;KAM4;KAP ELAMITE",
     "KASKAL LAGAB TIMES U OVER LAGAB TIMES U",
     "KASKAL OVER KASKAL LAGAB TIMES U OVER LAGAB TIMES U;KESH2;KI TIMES BAD;KI TIMES U",
     "KI TIMES UD;KISAL;KISH;KISIM5;KISIM5 OVER KISIM5;KU;KU4;KU4 VARIANT FORM;KU7",
     "KU OVER HI TIMES ASH2 KU OVER HI TIMES ASH2;KUL GUNU;KUN;KUR;KUR OPPOSING KUR;KUSHU2",
     "KWU318;LAGAB SQUARED;LAGAR;LAGAR GUNU;LAGAR GUNU OVER LAGAR GUNU SHE;LAGAR TIMES SHE",
     "LAGAR TIMES SHE PLUS SUM;LAHSHU;LAL;LAL TIMES LAL;LAM TIMES KUR PLUS RU;LIL;LIMMU2;LU2",
     "LU2 CROSSING LU2;LU2 GUNU TIMES ASH;LU2 OPPOSING LU2;LU2 SHESHIG;LU2 SHESHIG TIMES BAD",
     "LU2 SQUARED;LU2 TENU;LU3;LU TIMES BAD;LUGAL;LUGAL OPPOSING LUGAL;LUGAL OVER LUGAL",
     "LUGAL SHESHIG;LUM OVER LUM;LUM OVER LUM GAR OVER GAR;MA;MA2;MA GUNU;MA TIMES TAK4;MAH",
     "MAR;MASH;MASH2;MES;MESH;MI PLUS ZA7;MIN;MU;MU OVER MU;MUG;MUG GUNU;MUNSUB;MURGU2;MUSH3",
     "MUSH3 GUNU;MUSH3 TIMES A;MUSH3 TIMES A PLUS DI;MUSH3 TIMES DI;MUSH3 TIMES ZA;NA;NA2;NA4",
     "NAGA;NAGA INVERTED;NAGA OPPOSING NAGA;NAGA TIMES SHU TENU;NAGAR;NAM;NAM2;NAM NUTILLU",
     "NE SHESHIG;NE TIMES A;NE TIMES UD;NI;NI2;NI TIMES E;NIM;NIM TIMES GAN2 TENU",
     "NIM TIMES GAR PLUS GAN2 TENU;NIN;NIN9;NINDA2;NISAG;NU;NU11;NU11 ROTATED NINETY DEGREES",
     "NUNUZ;NUNUZ KISIM5 TIMES BI;NUNUZ KISIM5 TIMES BI U;PAD;PAN;PAP;PESH2;PESH2 ASTERISK",
     "PI CROSSING PI;PIR2;PIRIG;PIRIG OPPOSING PIRIG;PIRIG TIMES KAL;PIRIG TIMES UD",
     "PIRIG TIMES ZA;RA;RAB;RI;SAG;SAG GUNU;SAG GUNU TIMES HA;SAG NUTILLU;SAG OVER SAG",
     "SAL LAGAB TIMES ASH2;SANGA2;SHA3;SHA6;SHA6 TENU;SHAB6;SHAR2;SHE HU;SHE OVER SHE",
     "SHE OVER SHE GAD OVER GAD GAR OVER GAR;SHE OVER SHE TAB OVER TAB GAR OVER GAR",
     "SHE PLUS HUB2;SHE PLUS NAM2;SHE PLUS SAR;SHEG9;SHEN;SHESH;SHESH2;SHESHLAM;SHID TIMES A",
     "SHID TIMES IM;SHINIG;SHIR;SHIR OVER SHIR BUR OVER BUR;SHIR TENU;SHITA",
     "SHU2 PLUS DUG TIMES NI;SHU2 PLUS E2 TIMES AN;SHU OVER INVERTED SHU;SHUBUR;SI;SI GUNU",
     "SI TIMES TAK4;SIG4;SIG4 OVER SIG4 SHU2;SIK2;SILA3;SU;SU OVER SU;SUD;SUD2;SUMASH;SUR;SUR9",
     "TA;TA ASTERISK;TA GUNU;TA TIMES HI;TA TIMES MI;TAB",
     "TAB OVER TAB NI OVER NI DISH OVER DISH;TAB SQUARED;TAK4 PLUS SAG;TE;TE GUNU;TI;TI2",
     "TI TENU;TIL;TIR;TIR OVER TIR;TIR OVER TIR GAD OVER GAD GAR OVER GAR;TIR TIMES TAK4;TUG2",
     "TUK;TUM;TUM TIMES GAN2 TENU;TUM TIMES THREE DISH;TUR;TUR OVER TUR ZA OVER ZA;U GUD",
     "U OVER U PA OVER PA GAR OVER GAR;U OVER U SUR OVER SUR",
     "U OVER U U REVERSED OVER U REVERSED;U U;UB;UD GUNU;UD KUSHU2;UD SHESHIG",
     "UD SHESHIG TIMES BAD;UD TIMES BAD;UD TIMES MI;UD TIMES U PLUS U PLUS U",
     "UD TIMES U PLUS U PLUS U GUNU;UDUG;UM;UM TIMES LAGAB;UM TIMES ME;UM TIMES ME PLUS DA",
     "UM TIMES SHA3;UM TIMES U;UMBIN;UMUM;UMUM TIMES KASKAL;UN;UN GUNU;UR2 INVERTED;UR4",
     "UR CROSSING UR;UR SHESHIG;URI;URI3;URU;URUDA;URUDA TIMES U;USH2;USH TIMES A;USH TIMES KU",
     "USH TIMES KUR;USH TIMES TAK4;USHUMX;USHX;UTUKI;UZ3;UZ3 TIMES KASKAL;UZU;ZA;ZA7",
     "ZA SQUARED TIMES KUR;ZA TENU;ZAG;ZAMX;ZE2;ZI3;ZI OVER ZI;ZIB;ZIB KABA TENU;ZIG;ZU;ZU5",
     "ZU5 TIMES A;ZU5 TIMES THREE DISH TENU;ZU OVER ZU PLUS SAR;ZUBUR;ZUM"]⟩,
  ⟨["CUNEIFORM SIGN ;CUNEIFORM SIGN LAGAB TIMES "],
    ["AL;ASH ZIDA TENU;DAR;HA;KIN;KU3;KUL;LAGAB;LISH;LUL;SHU2;TAG"]⟩,
  ⟨["CUNEIFORM SIGN ;CUNEIFORM SIGN GA2 TIMES "],
    ["AN;ASH;BAHAR2;BUR;DA;DI;DIM TIMES SHE;DUB;EL;EN;EN TIMES GAN2 TENU;EREN;GI4;HAL;HUB2",
     "IGI GUNU;KASKAL;LA;LAM;LAM TIMES KUR;LUH;MUSH;SAL;SHIM;SUM;TAK4;ZIZ2"]⟩,
  ⟨["CUNEIFORM SIGN A TIMES "], ["A;BAD;GAN2 TENU;HA;IGI;LAGAR GUNU;MUSH;SAG"]⟩,
  ⟨["CUNEIFORM SIGN AB TIMES "],
    ["ASH2;DUN3 GUNU;GAL;GAN2 TENU;HA;IGI GUNU;IMIN;LAGAB;NUN;NUN TENU;SHESH;SHU2",
     "U PLUS U PLUS U"]⟩,
  ⟨["CUNEIFORM SIGN AB2 TIMES "], ["A;BALAG;GAN2 TENU;ME PLUS EN;SHA3;TAK4"]⟩,
  ⟨["CUNEIFORM SIGN AL TIMES "], ["AL;DIM2;GISH;HA;KAD3;KI;SHE;USH"]⟩,
  ⟨["CUNEIFORM SIGN DAG KISIM5 TIMES "],
    ["A PLUS MASH;AMAR;BALAG;BI;GA;GA PLUS MASH;GI;GIR2;GUD;HA;IR;IR PLUS LU;KAK;LA;LU",
     "LU PLUS MASH2;LUM;NE;PAP PLUS PAP;SI;TAK4;U2 PLUS GIR2;U2 PLUS MASH;USH"]⟩,
  ⟨["CUNEIFORM SIGN DUG TIMES "],
    ["ANSHE;ASH;ASH AT LEFT;DIN;DUN;ERIN2;GA;GI;GIR2 GUNU;GISH;HA;HI;IGI GUNU;KASKAL;KUR",
     "KUSHU2;KUSHU2 PLUS KASKAL;LAK-020;LAM;LAM TIMES KUR;LUH PLUS GISH;MASH;MES;MI;NI;PI;SHE",
     "SI GUNU"]⟩,
  ⟨["CUNEIFORM SIGN E2 TIMES "], ["A PLUS HA PLUS DA;GAR;KUR;MI;PAP;SAL;SHE;U"]⟩,
  ⟨["CUNEIFORM SIGN EZEN SHESHIG TIMES "], ["ASH;HI;IGI GUNU;LA;LAL;ME;MES;SU"]⟩,
  ⟨["CUNEIFORM SIGN EZEN TIMES "],
    ["A;A PLUS LAL;A PLUS LAL TIMES LAL;AN;BAD;DUN3 GUNU;DUN3 GUNU GUNU;GUD;HA;HA GUNU",
     "IGI GUNU;KASKAL;KASKAL SQUARED;KU3;LA;LAL TIMES LAL;LI;LU;SHE;SU;U2;UD"]⟩,
  ⟨["CUNEIFORM SIGN GA2 TIMES "],
    ["A PLUS DA PLUS HA;A PLUS HA;A PLUS IGI;AB2 TENU PLUS TAB;AN PLUS KAK PLUS A;ASH2",
     "ASH2 PLUS GAL;BAD;BAR PLUS RA;BUR PLUS RA;DIM GUNU;DUG TIMES IGI GUNU;DUG TIMES KASKAL",
     "EL PLUS LA;GA;GAN2 TENU;GAR;GAR PLUS DI;GAR PLUS NE;GI;GI4 PLUS A;GIR2 PLUS SU;HA PLUS A",
     "HA PLUS LU PLUS ESH2;HAL PLUS LA;HI PLUS LI;ISH PLUS HU PLUS ASH;KAK;KID;KID PLUS LAL",
     "KU3 PLUS AN;KUSHU2 PLUS KASKAL;ME PLUS EN;MI;NE;NE PLUS E2;NE PLUS GI;NUN;NUN OVER NUN",
     "PA;SAR;SHE;SHE PLUS TUR;SHID;U;UD;UD PLUS DU"]⟩,
  ⟨["CUNEIFORM SIGN HI TIMES "], ["ASH;ASH2;ASH OVER HI TIMES ASH;BAD;DISH;GAD;KIN;NUN;SHE;U"]⟩,
  ⟨["CUNEIFORM SIGN KA TIMES "],
    ["AD PLUS KU3;ASH3;GAR PLUS SHA3 PLUS A;GISH PLUS SAR;HI TIMES ASH2;ME PLUS DU;ME PLUS GI",
     "ME PLUS TE;MI PLUS NUNUZ;SHUL"]⟩,
  ⟨["CUNEIFORM SIGN LAGAB TIMES "],
    ["A;A PLUS DA PLUS HA;A PLUS GAR;A PLUS LAL;AN;BAD;BI;EN;GA;GAR;GI;GUD;GUD PLUS GUD;HAL",
     "HI TIMES NUN;IGI GUNU;IM;IM PLUS HA;IM PLUS LU;KI;KUL PLUS HI PLUS A;LU;ME;ME PLUS EN",
     "MUSH;NE;SHE PLUS SUM;SHITA PLUS GISH PLUS ERIN2;SHITA PLUS GISH TENU;SHU2 PLUS SHU2;SUM",
     "TAK4;TE PLUS A PLUS SU PLUS NA;U;U2 PLUS ASH;U PLUS A;U PLUS U PLUS U;UD;USH;ZU OVER ZU"]⟩,
  ⟨["CUNEIFORM SIGN LAK-"],
    ["003;021;025;030;050;051;062;079 OVER LAK-079 GUNU;080;081 OVER LAK-081;092;130;142;210",
     "219;220;225;228;238;265;266;343;347;348;383;384;390;441;449;449 TIMES GU;449 TIMES IGI",
     "449 TIMES PAP PLUS LU3;449 TIMES PAP PLUS PAP PLUS LU3;449 TIMES U2 PLUS BA;450;457;470",
     "483;490;492;493;495;550;608;617;636;648;724;749"]⟩,
  ⟨["CUNEIFORM SIGN LAK-617 TIMES "], ["ASH;BAD;DUN3 GUNU GUNU;KU3;LA;TAR;TE;U2;UD;URUDA"]⟩,
  ⟨["CUNEIFORM SIGN LAK-648 TIMES "],
    ["DUB;GA;IGI;IGI GUNU;NI;PAP PLUS PAP PLUS LU3;SHESH PLUS KI;UD;URUDA"]⟩,
  ⟨["CUNEIFORM SIGN LU2 TIMES "],
    ["AL;BAD;DISH;ESH2;ESH2 PLUS LAL;ESH2 TENU;GAN2 TENU;HAL;HI TIMES BAD;IM;KAD2;KAD3",
     "KAD3 PLUS ASH;KI;LA PLUS ASH;LAGAB;ME PLUS EN;NE;NU;PAP;PAP PLUS PAP PLUS LU3;SHU",
     "SI PLUS ASH;SIK2 PLUS BU;TAK4;TUG2"]⟩,
  ⟨["CUNEIFORM SIGN MUSH "],
    ["CROSSING MUSH;OVER MUSH;OVER MUSH TIMES A PLUS NA;OVER MUSH TIMES GA;OVER MUSH TIMES KAK",
     "TIMES A;TIMES KUR;TIMES ZA"]⟩,
  ⟨["CUNEIFORM SIGN NINDA2 TIMES "],
    ["AN;ASH;ASH PLUS ASH;BAL;DIM GUNU;GI;GISH;GUD;GUL;HI;KESH2;LAK-050;MASH;ME PLUS GAN2 TENU",
     "NE;NUN;PAP PLUS PAP;SHE;SHE PLUS A AN;SHE PLUS ASH;SHE PLUS ASH PLUS ASH;U;U2 PLUS ASH",
     "U PLUS U;URUDA;USH"]⟩,
  ⟨["CUNEIFORM SIGN NUN "],
    ["CROSSING NUN;CROSSING NUN LAGAR OVER LAGAR;LAGAR TIMES GAR;LAGAR TIMES MASH",
     "LAGAR TIMES SAL;LAGAR TIMES SAL OVER NUN LAGAR TIMES SAL;LAGAR TIMES USH;OVER NUN;TENU"]⟩,
  ⟨["CUNEIFORM SIGN NUNUZ AB2 TIMES "], ["ASHGAB;BI;DUG;GUD;IGI GUNU;KAD3;LA;NE;SILA3;U2"]⟩,
  ⟨["CUNEIFORM SIGN PI TIMES "], ["A;AB;BI;BU;E;I;IB;U;U2"]⟩,
  ⟨["CUNEIFORM SIGN SAG TIMES "],
    ["A;DU;DUB;EN;HA;IGI GUNU;KAK;KUR;LUM;MI;NUN;SAL;SHE AT LEFT;SHID;TAB;TAK4;U2;UB;UM;UR;USH"]⟩,
  ⟨["CUNEIFORM SIGN SHA3 TIMES "], ["A;BAD;GISH;NE;SHU2;TUR;U;U PLUS A"]⟩,
  ⟨["CUNEIFORM SIGN SHIM TIMES "], ["A;BAL;BULUG;DIN;GAR;IGI;IGI GUNU;KUSHU2;LUL;MUG;SAL"]⟩,
  ⟨["CUNEIFORM SIGN TAG TIMES "], ["BI;GUD;SHE;SHU;TUG2;UD"]⟩,
  ⟨["CUNEIFORM SIGN UR2 TIMES "], ["A PLUS HA;A PLUS NA;AL;HA;NUN;U2;U2 PLUS ASH;U2 PLUS BI;UD"]⟩,
  ⟨["CUNEIFORM SIGN URU TIMES "],
    ["A;ASHGAB;BAR;DARA3;DUN;GA;GAL;GAN2 TENU;GAR;GU;HA;IGI;IM;ISH;KI;LAK-668;LU3;LUM;MIN;PA",
     "SHE;SIG4;TU;U PLUS GUD;UD;URUDA"]⟩,
  ⟨["CYPRO-MINOAN SIGN "],
    ["CM001;CM002;CM012B;CM015;CM017;CM019;CM021;CM044;CM046;CM047;CM075B;CM107;CM108;CM109",
     "CM110;CM112;CM114;CM301;CM302"]⟩,
  ⟨["EGYPTIAN HIEROGLYPH "],
    ["A005A;A006A;A006B;A014A;A017A;A032A;A040A;A042A;A043A;A045A;AA007A;AA007B;B005A",
     "BEGIN SEGMENT;C002A;C002B;C002C;C010A;D008A;D027A;D031A;D034A;D046A;D048A;D050A;D050B",
     "D050C;D050D;D050E;D050F;D050G;D050H;D050I;D052A;D054A;D067A;D067B;D067C;D067D;D067E",
     "D067F;D067G;D067H;E008A;E009A;E016A;E017A;E020A;E028A;E034A;E036;E037;E038;END SEGMENT",
     "F001A;F013A;F021A;F031A;F037A;F038A;F045A;F046A;F047A;F051A;F051B;F051C;G006A;G007A",
     "G007B;G011A;G020A;G026A;G036A;G037A;G043A;G045A;H006A;HORIZONTAL JOINER;I005A;I009A",
     "I010A;I011A;INSERT AT BOTTOM END;INSERT AT BOTTOM START;INSERT AT TOP END",
     "INSERT AT TOP START;L002A;L006A;M001A;M001B;M003A;M010A;M012A;M012B;M012C;M012D;M012E",
     "M012F;M012G;M012H;M015A;M016A;M017A;M022A;M024A;M028A;M031A;M033A;M033B;M040A;N018A",
     "N018B;N025A;N033A;N034A;N035A;N037A;NL005A;NL017A;NU010A;NU011A;NU018A;NU022A;O001A",
     "O005A;O006A;O006B;O006C;O006D;O006E;O006F;O010A;O010B;O010C;O019A;O020A;O024A;O025A",
     "O029A;O030A;O033A;O036A;O036B;O036C;O036D;O050A;O050B;OVERLAY MIDDLE;P001A;P003A;R002A",
     "R003A;R003B;R010A;R016A;S002A;S006A;S014A;S014B;S017A;S026A;S026B;S035A;T003A;T007A",
     "T008A;T009A;T011A;T016A;T032A;T033A;U006A;U006B;U023A;U029A;U032A;V001A;V001B;V001C",
     "V001D;V001E;V001F;V001G;V001H;V001I;V002A;V007A;V007B;V011A;V011B;V011C;V012A;V012B",
     "V020A;V020B;V020C;V020D;V020E;V020F;V020G;V020H;V020I;V020J;V020K;V020L;V023A;V028A",
     "V029A;V030A;V031A;V033A;V037A;V040A;VERTICAL JOINER;W003A;W009A;W010A;W014A;W017A;W018A",
     "W024A;X004A;X004B;X006A;X008A;Y001A;Z002A;Z002B;Z002C;Z002D;Z003A;Z003B;Z004A;Z005A",
     "Z015A;Z015B;Z015C;Z015D;Z015E;Z015F;Z015G;Z015H;Z015I;Z016A;Z016B;Z016C;Z016D;Z016E",
     "Z016F;Z016G;Z016H"]⟩,
  ⟨["LINEAR A SIGN "],
    ["A028B;A100-102;A120B;A131C;A309A;A309B;A309C;A310;A311;A312;A313A;A313B;A313C;A400-VAS",
     "A401-VAS;A402-VAS;A403-VAS;A404-VAS;A405-VAS;A406-VAS;A407-VAS;A408-VAS;A409-VAS",
     "A410-VAS;A411-VAS;A412-VAS;A413-VAS;A414-VAS;A415-VAS;A416-VAS;A417-VAS;A418-VAS;A515",
     "A516;A520;A521;A545;A559;A563;A564;A565;A566;A591;A592;A594;A595;A596;A598;A600;A601",
     "A602;A603;A604;A606;A626;A627;A628;A629;A634;A637;A638;A640;A642;A643;A644;A645;A646",
     "A648;A649;A701 A;A702 B;A703 D;A704 E;A705 F;A706 H;A707 J;A708 K;A709 L;A709-2 L2",
     "A709-3 L3;A709-4 L4;A709-6 L6;A710 W;A711 X;A712 Y;A713 OMEGA;A714 ABB;A715 BB;A717 DD",
     "A726 EYYY;A732 JE;AB013;AB016;AB017;AB020;AB021;AB021F;AB021M;AB022;AB022F;AB022M;AB023",
     "AB023M;AB024;AB034;AB037;AB038;AB039;AB040;AB041;AB065;AB066;AB067;AB069;AB070;AB073",
     "AB074;AB085;AB086;AB087;AB118;AB120;AB122;AB123;AB131A;AB131B;AB164;AB171;AB180;AB188",
     "AB191"]⟩,
  ⟨["LINEAR B IDEOGRAM "],
    ["B100 MAN;B102 WOMAN;B104 DEER;B105 EQUID;B105F MARE;B105M STALLION;B106F EWE;B106M RAM",
     "B107F SHE-GOAT;B107M HE-GOAT;B108F SOW;B108M BOAR;B109F COW;B109M BULL;B120 WHEAT",
     "B121 BARLEY;B122 OLIVE;B123 SPICE;B125 CYPERUS;B130 OIL;B131 WINE;B132;B140 BRONZE",
     "B141 GOLD;B142;B145 WOOL;B146;B150;B151 HORN;B152;B153;B154;B157;B158;B159 CLOTH;B160",
     "B161;B162 GARMENT;B163 ARMOUR;B173 MONTH;B174;B176 TREE;B189;B190;B191 HELMET",
     "B220 FOOTSTOOL;B225 BATHTUB;B230 SPEAR;B231 ARROW;B232;B233 SWORD;B234;B236",
     "B240 WHEELED CHARIOT;B241 CHARIOT;B242 CHARIOT FRAME;B243 WHEEL;B245;B246;B248;B249;B251",
     "B252;B253;B254 DART;B255;B256;B257;B258;B259"]⟩,
  ⟨["LINEAR B IDEOGRAM VESSEL "], ["B155;B221;B222;B226;B227;B228;B229;B250;B305"]⟩,
  ⟨["LINEAR B MONOGRAM "], ["B127 KAPO;B128 KANAKO;B133 AREPA;B135 MERI;B156 TURO2;B247 DIPTE"]⟩,
  ⟨["LINEAR B SYLLABLE "],
    ["B001 DA;B002 RO;B003 PA;B004 TE;B005 TO;B006 NA;B007 DI;B008 A;B009 SE;B010 U;B011 PO",
     "B012 SO;B013 ME;B014 DO;B015 MO;B016 QA;B017 ZA;B020 ZO;B021 QI;B023 MU;B024 NE;B025 A2",
     "B026 RU;B027 RE;B028 I;B029 PU2;B030 NI;B031 SA;B032 QO;B033 RA3;B036 JO;B037 TI;B038 E",
     "B039 PI;B040 WI;B041 SI;B042 WO;B043 A3;B044 KE;B045 DE;B046 JE;B048 NWA;B050 PU;B051 DU",
     "B052 NO;B053 RI;B054 WA;B055 NU;B057 JA;B058 SU;B059 TA;B060 RA;B061 O;B062 PTE;B065 JU",
     "B066 TA2;B067 KI;B068 RO2;B069 TU;B070 KO;B071 DWE;B072 PE;B073 MI;B074 ZE;B075 WE",
     "B076 RA2;B077 KA;B078 QE;B080 MA;B081 KU;B085 AU;B087 TWE;B090 DWO;B091 TWO"]⟩,
  ⟨["LINEAR B SYMBOL "],
    ["B018;B019;B022;B034;B047;B049;B056;B063;B064;B079;B082;B083;B086;B089"]⟩,
  ⟨["LYCIAN LETTER "], ["A;AN;B;BH;D;E;EN;G;H;I;J;K;KK;L;M;MM;N;NN;P;Q;R;S;T;TH;TT;U;W;X;Z"]⟩,
  ⟨["OLD PERSIAN NUMBER "], ["HUNDRED;ONE;TEN;TWENTY;TWO"]⟩,
  ⟨["OLD PERSIAN SIGN "],
    ["A;AURAMAZDAA;AURAMAZDAA-2;AURAMAZDAAHA;BA;BAGA;BUUMISH;CA;DA;DAHYAAUSH;DAHYAAUSH-2;DI;DU",
     "FA;GA;GU;HA;I;JA;JI;KA;KU;LA;MA;MI;MU;NA;NU;PA;RA;RU;SA;SHA;SSA;TA;THA;TU;U;VA;VI;XA",
     "XSHAAYATHIYA;YA;ZA"]⟩,
  ⟨["PHAISTOS DISC SIGN "],
    ["ARROW;BEE;BEEHIVE;BOOMERANG;BOW;BULLS LEG;CAPTIVE;CARPENTRY PLANE;CAT;CHILD;CLUB;COLUMN",
     "COMB;COMBINING OBLIQUE STROKE;DOLIUM;DOVE;EAGLE;FLUTE;GAUNTLET;GRATER;HELMET;HIDE;HORN",
     "LID;LILY;MANACLES;MATTOCK;OX BACK;PAPYRUS;PEDESTRIAN;PLANE TREE;PLUMED HEAD;RAM;ROSETTE",
     "SAW;SHIELD;SHIP;SLING;SMALL AXE;STRAINER;TATTOOED HEAD;TIARA;TUNNY;VINE;WAVY BAND;WOMAN"]⟩,
  ⟨["ROMAN "],
    ["AS SIGN;CENTURIAL SIGN;DENARIUS SIGN;DIMIDIA SEXTULA SIGN;DUPONDIUS SIGN;QUINARIUS SIGN",
     "SEMUNCIA SIGN;SESTERTIUS SIGN;SEXTANS SIGN;SEXTULA SIGN;SILIQUA SIGN;UNCIA SIGN"]⟩,
  ⟨["UGARITIC LETTER "],
    ["AIN;ALPA;BETA;DELTA;DHAL;GAMLA;GHAIN;HO;HOTA;I;KAF;KHA;LAMDA;MEM;NUN;PU;QOPA;RASHA;SADE",
     "SAMKA;SHIN;SSU;TET;THANNA;TO;U;WO;YOD;ZETA;ZU"]⟩]

def ancientSeries : List Series := [
  ⟨"ANATOLIAN HIEROGLYPH A", 10, 3, 1, 331⟩,
  ⟨"ANATOLIAN HIEROGLYPH A", 10, 3, 333, 382⟩,
  ⟨"ANATOLIAN HIEROGLYPH A", 10, 3, 384, 392⟩,
  ⟨"ANATOLIAN HIEROGLYPH A", 10, 3, 394, 409⟩,
  ⟨"ANATOLIAN HIEROGLYPH A", 10, 3, 411, 497⟩,
  ⟨"ANATOLIAN HIEROGLYPH A", 10, 3, 501, 530⟩,
  ⟨"CYPRO-MINOAN SIGN CM", 10, 3, 4, 13⟩,
  ⟨"CYPRO-MINOAN SIGN CM", 10, 3, 23, 30⟩,
  ⟨"CYPRO-MINOAN SIGN CM", 10, 3, 33, 41⟩,
  ⟨"CYPRO-MINOAN SIGN CM", 10, 3, 49, 56⟩,
  ⟨"CYPRO-MINOAN SIGN CM", 10, 3, 58, 64⟩,
  ⟨"CYPRO-MINOAN SIGN CM", 10, 3, 66, 76⟩,
  ⟨"CYPRO-MINOAN SIGN CM", 10, 3, 78, 92⟩,
  ⟨"CYPRO-MINOAN SIGN CM", 10, 3, 94, 105⟩,
  ⟨"EGYPTIAN HIEROGLYPH A", 10, 3, 1, 70⟩,
  ⟨"EGYPTIAN HIEROGLYPH AA", 10, 3, 1, 32⟩,
  ⟨"EGYPTIAN HIEROGLYPH B", 10, 3, 1, 9⟩,
  ⟨"EGYPTIAN HIEROGLYPH C", 10, 3, 1, 24⟩,
  ⟨"EGYPTIAN HIEROGLYPH D", 10, 3, 1, 67⟩,
  ⟨"EGYPTIAN HIEROGLYPH E", 10, 3, 1, 34⟩,
  ⟨"EGYPTIAN HIEROGLYPH F", 10, 3, 1, 53⟩,
  ⟨"EGYPTIAN HIEROGLYPH G", 10, 3, 1, 54⟩,
  ⟨"EGYPTIAN HIEROGLYPH H", 10, 3, 1, 8⟩,
  ⟨"EGYPTIAN HIEROGLYPH I", 10, 3, 1, 15⟩,
  ⟨"EGYPTIAN HIEROGLYPH K", 10, 3, 1, 8⟩,
  ⟨"EGYPTIAN HIEROGLYPH L", 10, 3, 1, 8⟩,
  ⟨"EGYPTIAN HIEROGLYPH M", 10, 3, 1, 44⟩,
  ⟨"EGYPTIAN HIEROGLYPH N", 10, 3, 1, 42⟩,
  ⟨"EGYPTIAN HIEROGLYPH NL", 10, 3, 1, 20⟩,
  ⟨"EGYPTIAN HIEROGLYPH NU", 10, 3, 1, 22⟩,
  ⟨"EGYPTIAN HIEROGLYPH O", 10, 3, 1, 51⟩,
  ⟨"EGYPTIAN HIEROGLYPH P", 10, 3, 1, 11⟩,
  ⟨"EGYPTIAN HIEROGLYPH Q", 10, 3, 1, 7⟩,
  ⟨"EGYPTIAN HIEROGLYPH R", 10, 3, 1, 29⟩,
  ⟨"EGYPTIAN HIEROGLYPH S", 10, 3, 1, 46⟩,
  ⟨"EGYPTIAN HIEROGLYPH T", 10, 3, 1, 36⟩,
  ⟨"EGYPTIAN HIEROGLYPH U", 10, 3, 1, 42⟩,
  ⟨"EGYPTIAN HIEROGLYPH V", 10, 3, 1, 40⟩,
  ⟨"EGYPTIAN HIEROGLYPH W", 10, 3, 1, 25⟩,
  ⟨"EGYPTIAN HIEROGLYPH X", 10, 3, 1, 8⟩,
  ⟨"EGYPTIAN HIEROGLYPH Y", 10, 3, 1, 8⟩,
  ⟨"EGYPTIAN HIEROGLYPH Z", 10, 3, 1, 16⟩,
  ⟨"LINEAR A SIGN A", 10, 1, 301, 308⟩,
  ⟨"LINEAR A SIGN A", 10, 1, 314, 371⟩,
  ⟨"LINEAR A SIGN A", 10, 1, 501, 506⟩,
  ⟨"LINEAR A SIGN A", 10, 1, 508, 513⟩,
  ⟨"LINEAR A SIGN A", 10, 1, 523, 532⟩,
  ⟨"LINEAR A SIGN A", 10, 1, 534, 542⟩,
  ⟨"LINEAR A SIGN A", 10, 1, 547, 557⟩,
  ⟨"LINEAR A SIGN A", 10, 1, 568, 589⟩,
  ⟨"LINEAR A SIGN A", 10, 1, 608, 624⟩,
  ⟨"LINEAR A SIGN A", 10, 1, 651, 664⟩,
  ⟨"LINEAR A SIGN A", 10, 1, 800, 807⟩,
  ⟨"LINEAR A SIGN AB", 10, 3, 1, 11⟩,
  ⟨"LINEAR A SIGN AB", 10, 3, 26, 31⟩,
  ⟨"LINEAR A SIGN AB", 10, 3, 44, 51⟩,
  ⟨"LINEAR A SIGN AB", 10, 3, 53, 61⟩,
  ⟨"LINEAR A SIGN AB", 10, 3, 76, 82⟩,
  ⟨"LINEAR B IDEOGRAM B", 10, 1, 164, 172⟩,
  ⟨"LINEAR B IDEOGRAM B", 10, 1, 177, 185⟩,
  ⟨"LINEAR B IDEOGRAM VESSEL B", 10, 1, 200, 219⟩]

end WireModel.Text.CharacterName
