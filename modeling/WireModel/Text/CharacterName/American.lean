import WireModel.Text.CharacterName.Family

/-!
# Names of American scripts

The names of the scripts of North America.
-/

namespace WireModel.Text.CharacterName

def american : List Family := [
  ⟨["CANADIAN SYLLABICS "],
    ["A;AA;AAI;AAY;AI;AIVILIK B;AN;ATHAPASCAN M;ATHAPASCAN S;AY;BEAVER DENE L;BEAVER DENE R",
     "BIBLE-CREE Y;C;CA;CAA;CAAI;CE;CHI SIGN;CI;CII;CO;COO;E;EASTERN W;EN;F;FA;FAA;FAAI;FE;FI",
     "FII;FO;FOO;FULL STOP;GLOTTAL STOP;HK;HYPHEN;II;IN;K;KA;KAA;KAAI;KAY;KE;KI;KII;KO;KOO;KW",
     "KWAY;LAAI;LAY;LH;LHAA;LHII;LHOO;LII;MAA;MAAI;MAY;MEDIAL L;MEDIAL R;MH;MII;MOO",
     "MOOSE-CREE SK;N;N-CREE THE;N-CREE THI;N-CREE THII;NAA;NAAI;NAY;NGA;NGAA;NGAAI;NGAI;NGI",
     "NGII;NGO;NGOO;NH;NII;NNG;NNGA;NNGAA;NNGI;NNGII;NNGO;NNGOO;NOO;NOY;NUNAVUT H;NWI;NWII;NWO",
     "NWOO;O;ON;OO;OY;PAA;PAAI;PAY;PII;POO;POY;PWOY;Q;QA;QAA;QAAI;QAI;QI;QII;QO;QOO;R-CREE RE",
     "R-CREE RWE;RAA;RAAI;RAY;RII;ROO;RWA;RWEE;RWI;RWII;RWO;RWOO;S;SAA;SAAI;SAY;SHAA;SHAY;SHII",
     "SHOO;SHOY;SHWOY;SII;SOO;SOUTH-SLAVEY KAH;SOUTH-SLAVEY KEH;SOUTH-SLAVEY KIH",
     "SOUTH-SLAVEY KOH;SOY;SW;T;TA;TAA;TAAI;TAY;TE;TH;THAA;THII;THOO;THWA;THWE;TI;TII;TLHOO",
     "TLHWE;TO;TOO;TTH;TTHA;TTHAA;TTHE;TTHI;TTHO;TTHOO;TTHWE;TYA;TYE;TYI;TYO;WAY;WESTERN W;YAA",
     "YAAI;YAY;YII;YOO;YOY"]⟩,
  ⟨["CANADIAN SYLLABICS ;CANADIAN SYLLABICS WEST-CREE "],
    ["CWA;CWAA;CWE;CWI;CWII;CWO;CWOO;FWAA;KWA;KWAA;KWE;KWI;KWII;KWO;KWOO;L;LA;LAA;LE;LO;LOO",
     "LWA;LWAA;LWE;LWI;LWII;LWO;LWOO;M;MWA;MWAA;MWE;MWI;MWII;MWO;MWOO;NWA;NWAA;NWE;P;PWA;PWAA",
     "PWE;PWI;PWII;PWO;PWOO;R;RA;RE;RI;RO;RWAA;SHWA;SHWAA;SHWE;SHWI;SHWII;SHWO;SHWOO;SWA;SWAA",
     "SWE;SWI;SWII;SWO;SWOO;THWAA;TWA;TWAA;TWE;TWI;TWII;TWO;TWOO;WA;WAA;WE;WI;WII;WO;WOO;Y;YWA",
     "YWAA;YWE;YWI;YWII;YWO;YWOO"]⟩,
  ⟨["CANADIAN SYLLABICS ;CANADIAN SYLLABICS CARRIER "],
    ["I;LHA;LHI;LHO;LI;MA;ME;MI;MO;NA;NE;NG;NI;NO;PA;PE;PI;PO;SA;SE;SH;SHA;SHE;SHI;SHO;SI;SO",
     "THA;THE;THI;THO;TLHA;TLHE;TLHI;TLHO;TTA;TTE;TTI;TTO;YA;YE;YI;YO"]⟩,
  ⟨["CANADIAN SYLLABICS BLACKFOOT "], ["A;E;I;KA;KE;KI;KO;NA;NE;NI;NO;O;S;W;WA;WE;WI;WO"]⟩,
  ⟨["CANADIAN SYLLABICS CARRIER "],
    ["CHA;CHE;CHEE;CHI;CHO;CHU;DEE;DENE GEE;DENTAL S;DLE;DLEE;DLI;DLO;DLU;DZA;DZE;DZEE;DZI;DZO",
     "DZU;EE;GAA;GEE;GHA;GHE;GHEE;GHI;GHO;GHU;GWA;GWU;H;HEE;HWA;HWE;HWEE;HWI;HWO;HWU;INITIAL Z",
     "JA;JE;JEE;JI;JJA;JJE;JJEE;JJI;JJO;JJU;JO;JU;JWA;KHA;KHE;KHEE;KHI;KHO;KHU;KK;KKA;KKE;KKEE",
     "KKI;KKO;KKU;LEE;LHE;LHEE;LHU;MEE;NEE;P;PEE;PU;RA;RE;REE;RI;RO;RU;SEE;SHEE;SHU;THEE;THU",
     "TLEE;TLHEE;TLHU;TSEE;TTEE;TTSA;TTSE;TTSEE;TTSI;TTSO;TTSU;TTU;WEE;YEE;Z;ZA;ZE;ZEE;ZI;ZO",
     "ZU"]⟩,
  ⟨["CANADIAN SYLLABICS CARRIER ;CHEROKEE LETTER ;CHEROKEE SMALL LETTER "],
    ["DI;DLA;GA;GE;GI;GO;GU;HI;LA;LE;LO;LU;MU;NU;SU;TLA;TLE;TLI;TLO;TLU;TSA;TSE;TSI;TSO;TSU;WA",
     "WE;WI;WO;WU;YU"]⟩,
  ⟨["CANADIAN SYLLABICS FINAL "],
    ["ACUTE;BOTTOM HALF RING;DOUBLE ACUTE;DOUBLE SHORT VERTICAL STROKES;DOWN TACK;GRAVE",
     "MIDDLE DOT;PLUS;RAISED DOT;RIGHT HALF RING;RING;SHORT HORIZONTAL STROKE;SMALL RING",
     "TOP HALF RING"]⟩,
  ⟨["CANADIAN SYLLABICS NASKAPI "],
    ["CWAA;KWAA;MWAA;NWAA;S-W;SCWA;SKW;SKWA;SPWA;STWA;SWAA;TWAA;WAA;WOO;YWAA"]⟩,
  ⟨["CANADIAN SYLLABICS NUNAVIK "], ["H;HA;HAA;HE;HI;HII;HO;HOO"]⟩,
  ⟨["CANADIAN SYLLABICS OJIBWAY "], ["C;K;M;N;NWI;NWII;NWO;NWOO;P;S;SH;T"]⟩,
  ⟨["CANADIAN SYLLABICS SAYISI "],
    ["HA;HE;HI;HO;HOO;JI;JU;JUU;M;SHA;SHE;SHI;SHO;SHOO;SHWE;TH;YI"]⟩,
  ⟨["CANADIAN SYLLABICS TH-CREE "], ["TH;THA;THAA;THE;THI;THII;THO;THOO"]⟩,
  ⟨["CANADIAN SYLLABICS WOODS-CREE "],
    ["FINAL TH;TH;THA;THE;THI;THO;THWA;THWAA;THWEE;THWI;THWII;THWO;THWOO"]⟩,
  ⟨["CANADIAN SYLLABICS Y-CREE "], ["COO;KOO;LOO;MOO;NOO;OO;POO;PWAA;SOO;TOO;W;YOO"]⟩,
  ⟨["CHEROKEE LETTER ;CHEROKEE SMALL LETTER "],
    ["A;DA;DE;DO;DU;DV;E;GV;HA;HE;HNA;HO;HU;HV;I;KA;LI;LV;MA;ME;MI;MO;MV;NA;NAH;NE;NI;NO;NV;O",
     "QUA;QUE;QUI;QUO;QUU;QUV;S;SA;SE;SI;SO;SV;TA;TE;TI;TLV;TSV;U;V;WV;YA;YE;YI;YO;YV"]⟩,
  ⟨["DESERET CAPITAL LETTER ;DESERET SMALL LETTER "],
    ["AY;BEE;CHEE;DEE;EF;EL;EM;EN;ENG;ER;ES;ESH;ETH;EW;GAY;H;JEE;KAY;LONG A;LONG AH;LONG E",
     "LONG I;LONG O;LONG OO;OI;OW;PEE;SHORT A;SHORT AH;SHORT E;SHORT I;SHORT O;SHORT OO;TEE",
     "THEE;VEE;WU;YEE;ZEE;ZHEE"]⟩,
  ⟨["OSAGE CAPITAL LETTER ;OSAGE SMALL LETTER "],
    ["A;AH;AI;AIN;BRA;CHA;DHA;E;EHCHA;EHKA;EHPA;EHTA;EHTSA;EIN;GHA;HA;HYA;I;KA;KHA;KYA;LA;MA",
     "NA;O;OIN;PA;SA;SHA;TA;TSA;TSHA;U;WA;ZA;ZHA"]⟩]

end WireModel.Text.CharacterName
