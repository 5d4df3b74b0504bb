import WireModel.Text.CharacterName.Family

/-!
# Names of Indic scripts

The names of the scripts of southern and south-eastern Asia.
-/

namespace WireModel.Text.CharacterName

def indic : List Family := [
  ⟨[""],
    ["BUGINESE END OF SECTION;BUGINESE PALLAWA;BUHID VOWEL SIGN I;BUHID VOWEL SIGN U",
     "COMBINING BINDU BELOW;COMBINING DEVANAGARI SIGN AVAGRAHA;GRANTHA AU LENGTH MARK",
     "GRANTHA OM;KANNADA AI LENGTH MARK;KANNADA LENGTH MARK;LEFT-FACING SVASTI SIGN",
     "LEFT-FACING SVASTI SIGN WITH DOTS;LISU LETTER YHA;MODI ABBREVIATION SIGN;MODI DANDA",
     "MODI DOUBLE DANDA;MRO DANDA;MRO DOUBLE DANDA;MULTANI SECTION MARK",
     "PHILIPPINE DOUBLE PUNCTUATION;PHILIPPINE SINGLE PUNCTUATION;REJANG SECTION MARK",
     "REJANG VIRAMA;RIGHT-FACING SVASTI SIGN;RIGHT-FACING SVASTI SIGN WITH DOTS",
     "TAGBANWA VOWEL SIGN I;TAGBANWA VOWEL SIGN U;TAI THAM COMBINING CRYPTOGRAMMIC DOT",
     "TELUGU AI LENGTH MARK;TELUGU LENGTH MARK;THAI CURRENCY SYMBOL BAHT;TOTO SIGN RISING TONE",
     "WARANG CITI OM"]⟩,
  ⟨["AHOM "],
    ["NUMBER TEN;NUMBER TWENTY;SIGN KILLER;SIGN RULAI;SIGN SECTION;SIGN SMALL SECTION",
     "SYMBOL VI"]⟩,
  ⟨["AHOM CONSONANT "], ["SIGN MEDIAL LA;SIGN MEDIAL LIGATING RA;SIGN MEDIAL RA"]⟩,
  ⟨["AHOM DIGIT ;BALINESE DIGIT ;BENGALI DIGIT ;BHAIKSUKI DIGIT ;BRAHMI DIGIT ;CHAKMA DIGIT ",
    "CHAM DIGIT ;COMBINING DEVANAGARI DIGIT ;DEVANAGARI DIGIT ;DIVES AKURU DIGIT ",
    "GUJARATI DIGIT ;GUNJALA GONDI DIGIT ;GURMUKHI DIGIT ;JAVANESE DIGIT ;KANNADA DIGIT ",
    "KAYAH LI DIGIT ;KHMER DIGIT ;KHUDAWADI DIGIT ;LAO DIGIT ;LEPCHA DIGIT ;LIMBU DIGIT ",
    "MALAYALAM DIGIT ;MASARAM GONDI DIGIT ;MEETEI MAYEK DIGIT ;MODI DIGIT ;MONGOLIAN DIGIT ",
    "MRO DIGIT ;MYANMAR DIGIT ;MYANMAR SHAN DIGIT ;MYANMAR TAI LAING DIGIT ;NEW TAI LUE DIGIT ",
    "NEWA DIGIT ;NYIAKENG PUACHUE HMONG DIGIT ;OL CHIKI DIGIT ;ORIYA DIGIT ",
    "PAHAWH HMONG DIGIT ;SAURASHTRA DIGIT ;SHARADA DIGIT ;SINHALA LITH DIGIT ",
    "SORA SOMPENG DIGIT ;SUNDANESE DIGIT ;TAI THAM HORA DIGIT ;TAI THAM THAM DIGIT ",
    "TAKRI DIGIT ;TAMIL DIGIT ;TANGSA DIGIT ;TELUGU DIGIT ;THAI DIGIT ;TIBETAN DIGIT ",
    "TIBETAN DIGIT HALF ;TIRHUTA DIGIT ;WANCHO DIGIT ;WARANG CITI DIGIT "],
    ["EIGHT;FIVE;FOUR;NINE;ONE;SEVEN;SIX;THREE;TWO;ZERO"]⟩,
  ⟨["AHOM LETTER ;GUNJALA GONDI LETTER ;GURMUKHI LETTER "],
    ["A;BA;BHA;CA;CHA;DA;DDA;DDHA;DHA;GA;GHA;HA;JA;JHA;KA;KHA;LA;LLA;MA;NA;NGA;PA;PHA;RA;SA;TA",
     "THA;TTA;TTHA"]⟩,
  ⟨["AHOM LETTER "], ["ALTERNATE BA;ALTERNATE GA;ALTERNATE TA;NNA;NYA"]⟩,
  ⟨["AHOM VOWEL SIGN "], ["A;AM;AW"]⟩,
  ⟨["AHOM VOWEL SIGN ;DIVES AKURU VOWEL SIGN ;LAO VOWEL SIGN "], ["AA;AI;E;I;II;O;U;UU"]⟩,
  ⟨["BALINESE "],
    ["ADEG ADEG;CARIK PAMUNGKAH;CARIK PAREREN;CARIK SIKI;PAMADA;PAMADA LANTANG;PAMENENG;PANTI",
     "PANTI LANTANG;WINDU"]⟩,
  ⟨["BALINESE LETTER "],
    ["AIKARA;AKARA;AKARA TEDUNG;ARCHAIC JNYA;ASYURA SASAK;BA;BA KEMBANG;CA;CA LACA;DA;DA MADU",
     "DA MURDA ALPAPRANA;DA MURDA MAHAPRANA;EF SASAK;EKARA;GA;GA GORA;HA;IKARA;IKARA TEDUNG;JA",
     "JA JERA;KA;KA MAHAPRANA;KAF SASAK;KHOT SASAK;LA;LA LENGA;LA LENGA TEDUNG;MA;NA;NA RAMBAT",
     "NGA;NYA;OKARA;OKARA TEDUNG;PA;PA KAPAL;RA;RA REPA;RA REPA TEDUNG;SA;SA SAGA;SA SAPA;TA",
     "TA LATIK;TA MURDA MAHAPRANA;TA TAWA;TZIR SASAK;UKARA;UKARA TEDUNG;VE SASAK;WA;YA",
     "ZAL SASAK"]⟩,
  ⟨["BALINESE MUSICAL SYMBOL "],
    ["DAENG;DAING;DANG;DANG GEDE;DANG SURANG;DENG;DEUNG;DING;DONG;DUNG;LEFT-HAND CLOSED PLAK",
     "LEFT-HAND CLOSED PLUK;LEFT-HAND OPEN PANG;LEFT-HAND OPEN PING;LEFT-HAND OPEN PUNG",
     "RIGHT-HAND CLOSED TAK;RIGHT-HAND CLOSED TUK;RIGHT-HAND OPEN DAG;RIGHT-HAND OPEN DUG"]⟩,
  ⟨["BALINESE MUSICAL SYMBOL COMBINING "],
    ["BENDE;ENDEP;GONG;JEGOGAN;KEMPLI;KEMPLI WITH JEGOGAN;KEMPUL;KEMPUL WITH JEGOGAN;TEGEH"]⟩,
  ⟨["BALINESE SIGN "], ["BISAH;CECEK;REREKAN;SURANG;ULU CANDRA;ULU RICEM"]⟩,
  ⟨["BALINESE VOWEL SIGN "],
    ["LA LENGA;LA LENGA TEDUNG;PEPET;PEPET TEDUNG;RA REPA;RA REPA TEDUNG;SUKU;SUKU ILUT;TALING",
     "TALING REPA;TALING REPA TEDUNG;TALING TEDUNG;TEDUNG;ULU;ULU SARI"]⟩,
  ⟨["BATAK "], ["CONSONANT SIGN H;CONSONANT SIGN NG;PANGOLAT;PANONGONAN;SIGN TOMPI"]⟩,
  ⟨["BATAK LETTER ;REJANG LETTER "],
    ["A;BA;CA;DA;GA;HA;JA;LA;MA;MBA;NA;NDA;NGA;NYA;PA;RA;SA;WA;YA"]⟩,
  ⟨["BATAK LETTER "],
    ["I;KARO BA;MANDAILING HA;MANDAILING NA;MANDAILING SA;NORTHERN TA;PAKPAK WA;SOUTHERN TA;U"]⟩,
  ⟨["BATAK LETTER SIMALUNGUN "], ["A;GA;HA;LA;MA;PA;RA;SA;WA;YA"]⟩,
  ⟨["BATAK SYMBOL "], ["BINDU JUDUL;BINDU NA METEK;BINDU PANGOLAT;BINDU PINARBORAS"]⟩,
  ⟨["BATAK VOWEL SIGN "], ["E;EE;I;KARO I;KARO O;O;PAKPAK E;U;U FOR SIMALUNGUN SA"]⟩,
  ⟨["BENGALI "],
    ["ABBREVIATION SIGN;ANJI;AU LENGTH MARK;CURRENCY DENOMINATOR SIXTEEN;GANDA MARK;ISSHAR",
     "RUPEE MARK;RUPEE SIGN"]⟩,
  ⟨["BENGALI ;NEWA ;SHARADA "], ["SANDHI MARK"]⟩,
  ⟨["BENGALI CURRENCY NUMERATOR "], ["FOUR;ONE;ONE LESS THAN THE DENOMINATOR;THREE;TWO"]⟩,
  ⟨["BENGALI LETTER ;BHAIKSUKI LETTER ;GRANTHA LETTER ;MYANMAR LETTER "],
    ["A;AU;CA;DDA;DDHA;I;II;NNA;NYA;SHA;TTA;TTHA;U;UU;VOCALIC L;VOCALIC R;VOCALIC RR"]⟩,
  ⟨["BENGALI LETTER ;GRANTHA LETTER "], ["AA;AI;VEDIC ANUSVARA;VOCALIC LL"]⟩,
  ⟨["BENGALI LETTER ;BHAIKSUKI LETTER ;CHAM LETTER ;GRANTHA LETTER ;LIMBU LETTER ",
    "MYANMAR LETTER "],
    ["BA;BHA;CHA;DA;DHA;GA;GHA;HA;JA;JHA;KA;KHA;LA;MA;NA;NGA;PA;PHA;RA;SA;SSA;TA;THA;YA"]⟩,
  ⟨["BENGALI LETTER "],
    ["E;KHANDA TA;O;RA WITH LOWER DIAGONAL;RA WITH MIDDLE DIAGONAL;RHA;RRA;YYA"]⟩,
  ⟨["BENGALI SIGN ;DEVANAGARI SIGN ;GRANTHA SIGN ;GUJARATI SIGN ;KANNADA SIGN ;NEWA SIGN ",
    "ORIYA SIGN ;SHARADA SIGN ;TELUGU SIGN ;TIRHUTA SIGN "],
    ["ANUSVARA;AVAGRAHA;CANDRABINDU;NUKTA;VIRAMA;VISARGA"]⟩,
  ⟨["BENGALI VOWEL SIGN ;BRAHMI VOWEL SIGN ;DEVANAGARI VOWEL SIGN ;GUJARATI VOWEL SIGN ",
    "MODI VOWEL SIGN ;NEWA VOWEL SIGN ;ORIYA VOWEL SIGN ;SHARADA VOWEL SIGN ",
    "TIRHUTA VOWEL SIGN "],
    ["AA;AI;AU;E;I;II;O;U;UU;VOCALIC L;VOCALIC LL;VOCALIC R;VOCALIC RR"]⟩,
  ⟨["BHAIKSUKI ;CHAKMA ;SAURASHTRA "],
    ["DANDA;DOUBLE DANDA;SIGN ANUSVARA;SIGN CANDRABINDU;SIGN VISARGA"]⟩,
  ⟨["BHAIKSUKI "], ["GAP FILLER-1;GAP FILLER-2;HUNDREDS UNIT MARK;SIGN AVAGRAHA"]⟩,
  ⟨["BHAIKSUKI ;SAURASHTRA ;SUNDANESE ;TAGALOG "], ["SIGN VIRAMA"]⟩,
  ⟨["BHAIKSUKI ;KHOJKI "], ["WORD SEPARATOR"]⟩,
  ⟨["BHAIKSUKI LETTER "], ["AA;AI;VA"]⟩,
  ⟨["BHAIKSUKI LETTER ;MYANMAR LETTER "], ["E;O"]⟩,
  ⟨["BHAIKSUKI NUMBER ;BRAHMI NUMBER ;SINHALA ARCHAIC DIGIT "],
    ["EIGHT;FIVE;FOUR;NINE;ONE;SEVEN;SIX;THREE;TWO"]⟩,
  ⟨["BHAIKSUKI NUMBER ;BRAHMI NUMBER ;SINHALA ARCHAIC NUMBER ;WARANG CITI NUMBER "],
    ["EIGHTY;FIFTY;FORTY;NINETY;SEVENTY;SIXTY;TEN;THIRTY;TWENTY"]⟩,
  ⟨["BHAIKSUKI VOWEL SIGN ;DOGRA VOWEL SIGN ;NANDINAGARI VOWEL SIGN ;SIDDHAM VOWEL SIGN "],
    ["AA;AI;AU;E;I;II;O;U;UU;VOCALIC R;VOCALIC RR"]⟩,
  ⟨["BHAIKSUKI VOWEL SIGN "], ["VOCALIC L"]⟩,
  ⟨["BRAHMI "], ["DANDA;DOUBLE DANDA;VIRAMA"]⟩,
  ⟨["BRAHMI LETTER ;DEVANAGARI LETTER ;GUJARATI LETTER ;KANNADA LETTER ;MALAYALAM LETTER ",
    "SAURASHTRA LETTER ;SHARADA LETTER ;SIDDHAM LETTER ;TELUGU LETTER ;TIRHUTA LETTER "],
    ["A;AA;AI;AU;BA;BHA;CA;CHA;DA;DDA;DDHA;DHA;E;GA;GHA;HA;I;II;JA;JHA;KA;KHA;LA;MA;NA;NGA;NNA",
     "NYA;O;PA;PHA;RA;SA;SHA;SSA;TA;THA;TTA;TTHA;U;UU;VA;VOCALIC L;VOCALIC LL;VOCALIC R",
     "VOCALIC RR;YA"]⟩,
  ⟨["BRAHMI LETTER ;SHARADA LETTER "], ["LLA"]⟩,
  ⟨["BRAHMI LETTER OLD TAMIL "], ["LLA;LLLA;NNNA;RRA;SHORT E;SHORT O"]⟩,
  ⟨["BRAHMI NUMBER "], ["JOINER"]⟩,
  ⟨["BRAHMI NUMBER ;SINHALA ARCHAIC NUMBER ;TAMIL NUMBER "], ["ONE HUNDRED;ONE THOUSAND"]⟩,
  ⟨["BRAHMI PUNCTUATION "], ["CRESCENT BAR;DOT;DOUBLE DOT;LINE;LOTUS"]⟩,
  ⟨["BRAHMI SIGN "], ["ANUSVARA;CANDRABINDU;JIHVAMULIYA;OLD TAMIL VIRAMA;UPADHMANIYA;VISARGA"]⟩,
  ⟨["BRAHMI VOWEL SIGN "], ["BHATTIPROLU AA;OLD TAMIL SHORT E;OLD TAMIL SHORT O"]⟩,
  ⟨["BUGINESE LETTER ;LEPCHA LETTER ;MAKASAR LETTER ;SOYOMBO LETTER ;SUNDANESE LETTER ",
    "WANCHO LETTER ;ZANABAZAR SQUARE LETTER "],
    ["A;BA;CA;DA;GA;JA;KA;LA;MA;NA;NGA;NYA;PA;RA;SA;TA;VA;YA"]⟩,
  ⟨["BUGINESE LETTER "], ["HA;MPA;NGKA;NRA;NYCA"]⟩,
  ⟨["BUGINESE VOWEL "], ["SIGN AE;SIGN E;SIGN I;SIGN O;SIGN U"]⟩,
  ⟨["BUHID LETTER ;HANUNOO LETTER ;JAVANESE LETTER ;TAGALOG LETTER ;TOTO LETTER "],
    ["A;BA;DA;GA;HA;I;KA;LA;MA;NA;NGA;PA;RA;SA;TA;U;WA;YA"]⟩,
  ⟨["CANADIAN SYLLABICS "], ["SPA;SPE;SPI;SPO"]⟩,
  ⟨["CANADIAN SYLLABICS NATTILIK "], ["HA;HAA;HI;HII;HO;HOO;SHRA;SHRAA;SHRI;SHRII;SHRO;SHROO"]⟩,
  ⟨["CHAKMA "], ["AU MARK;MAAYYAA;O MARK;QUESTION MARK;SECTION MARK;VIRAMA"]⟩,
  ⟨["CHAKMA LETTER "],
    ["AA;BAA;BHAA;CAA;CHAA;DAA;DDAA;DDHAA;DHAA;E;GAA;GHAA;HAA;I;JAA;JHAA;KAA;KHAA;LAA;LHAA;MAA",
     "NAA;NGAA;NNAA;NYAA;PAA;PHAA;RAA;SAA;TAA;THAA;TTAA;TTHAA;U;VAA;WAA;YAA;YYAA"]⟩,
  ⟨["CHAKMA VOWEL SIGN "], ["A;EI;OI"]⟩,
  ⟨["CHAKMA VOWEL SIGN ;KHUDAWADI VOWEL SIGN ;TAKRI VOWEL SIGN "], ["AA;AI;AU;E;I;II;O;U;UU"]⟩,
  ⟨["CHAM CONSONANT SIGN "], ["FINAL H;FINAL M;FINAL NG;LA;RA;WA;YA"]⟩,
  ⟨["CHAM LETTER "], ["A;AI;BBA;CHHA;DDA;E;I;MUE;NGUE;NHA;NHJA;NHUE;NUE;O;PPA;U;VA"]⟩,
  ⟨["CHAM LETTER FINAL "], ["CH;G;K;L;N;NG;P;R;SS;T;Y"]⟩,
  ⟨["CHAM PUNCTUATION "], ["DANDA;DOUBLE DANDA;SPIRAL;TRIPLE DANDA"]⟩,
  ⟨["CHAM VOWEL SIGN "], ["AA;AI;AU;EI;I;II;O;OE;U;UE"]⟩,
  ⟨["COMBINING DEVANAGARI LETTER "], ["A;KA;NA;PA;RA;U;VI"]⟩,
  ⟨["COMBINING GRANTHA "], ["LETTER A;LETTER KA;LETTER NA;LETTER PA;LETTER VI"]⟩,
  ⟨["COMBINING GRANTHA DIGIT "], ["FIVE;FOUR;ONE;SIX;THREE;TWO;ZERO"]⟩,
  ⟨["DEVANAGARI ;NEWA ;SHARADA "], ["ABBREVIATION SIGN;DANDA;DOUBLE DANDA;OM"]⟩,
  ⟨["DEVANAGARI "],
    ["ACUTE ACCENT;CARET;GAP FILLER;GRAVE ACCENT;HEADSTROKE;JAIN OM;STRESS SIGN ANUDATTA",
     "STRESS SIGN UDATTA"]⟩,
  ⟨["DEVANAGARI LETTER "],
    ["AW;AY;BBA;CANDRA A;CANDRA E;CANDRA O;DDDA;DDDHA;FA;GGA;GHHA;GLOTTAL STOP;HEAVY YA;JJA",
     "KHHA;LLLA;MARWARI DDA;NNNA;OE;OOE;QA;RHA;RRA;SHORT A;SHORT E;SHORT O;UE;UUE;YYA;ZA"]⟩,
  ⟨["DEVANAGARI LETTER ;GUJARATI LETTER "], ["LLA;ZHA"]⟩,
  ⟨["DEVANAGARI SIGN "], ["DOUBLE CANDRABINDU VIRAMA;HIGH SPACING DOT;PUSHPIKA;SIDDHAM"]⟩,
  ⟨["DEVANAGARI SIGN ;SHARADA SIGN "], ["INVERTED CANDRABINDU"]⟩,
  ⟨["DEVANAGARI SIGN ;KANNADA SIGN "], ["SPACING CANDRABINDU"]⟩,
  ⟨["DEVANAGARI SIGN CANDRABINDU "], ["AVAGRAHA;THREE;TWO;VIRAMA"]⟩,
  ⟨["DEVANAGARI VOWEL SIGN "],
    ["AW;AY;CANDRA LONG E;OE;OOE;PRISHTHAMATRA E;SHORT E;SHORT O;UE;UUE"]⟩,
  ⟨["DEVANAGARI VOWEL SIGN ;GUJARATI VOWEL SIGN "], ["CANDRA E;CANDRA O"]⟩,
  ⟨["DIVES AKURU "],
    ["DOUBLE DANDA;END OF TEXT MARK;GAP FILLER;INITIAL RA;MEDIAL RA;MEDIAL YA",
     "PREFIXED NASAL SIGN;SIGN CANDRABINDU"]⟩,
  ⟨["DIVES AKURU ;MASARAM GONDI "], ["SIGN ANUSVARA;SIGN HALANTA;SIGN NUKTA;VIRAMA"]⟩,
  ⟨["DIVES AKURU LETTER ;KAITHI LETTER ;MASARAM GONDI LETTER ;MODI LETTER ;NEWA LETTER ",
    "ORIYA LETTER "],
    ["A;AA;BA;BHA;CA;CHA;DA;DDA;DDHA;DHA;E;GA;GHA;HA;I;II;JA;KA;KHA;LA;MA;NA;NGA;NNA;NYA;O;PA",
     "PHA;RA;SA;SHA;SSA;TA;THA;TTA;U;UU;YA"]⟩,
  ⟨["DIVES AKURU LETTER "], ["LLA;VA;YYA;ZA"]⟩,
  ⟨["DOGRA ;TAKRI "], ["ABBREVIATION SIGN;SIGN VISARGA"]⟩,
  ⟨["DOGRA ;KHUDAWADI ;TAKRI "], ["SIGN ANUSVARA;SIGN NUKTA;SIGN VIRAMA"]⟩,
  ⟨["DOGRA LETTER ;MAHAJANI LETTER ;NANDINAGARI LETTER ;TAKRI LETTER "],
    ["A;BA;BHA;CA;CHA;DA;DDA;DDHA;DHA;E;GA;GHA;HA;I;JA;JHA;KA;KHA;LA;MA;NA;NNA;NYA;O;PA;PHA;RA",
     "RRA;SA;TA;THA;TTA;TTHA;U;VA"]⟩,
  ⟨["DOGRA LETTER ;NANDINAGARI LETTER "], ["AA;AI;AU;II;NGA;SHA;SSA;UU;YA"]⟩,
  ⟨["GRANTHA LETTER "], ["EE;LLA;OO;VA;VEDIC DOUBLE ANUSVARA"]⟩,
  ⟨["GRANTHA SIGN ;MALAYALAM SIGN ;TELUGU SIGN "], ["COMBINING ANUSVARA ABOVE"]⟩,
  ⟨["GRANTHA SIGN "], ["PLUTA"]⟩,
  ⟨["GRANTHA VOWEL SIGN ;TIBETAN VOWEL SIGN "],
    ["AA;EE;I;II;OO;U;UU;VOCALIC L;VOCALIC LL;VOCALIC R;VOCALIC RR"]⟩,
  ⟨["GRANTHA VOWEL SIGN "], ["AI;AU"]⟩,
  ⟨["GUJARATI "], ["ABBREVIATION SIGN;OM;RUPEE SIGN;VOWEL CANDRA E;VOWEL CANDRA O"]⟩,
  ⟨["GUJARATI SIGN "],
    ["CIRCLE NUKTA ABOVE;MADDAH;SHADDA;SUKUN;THREE-DOT NUKTA ABOVE;TWO-CIRCLE NUKTA ABOVE"]⟩,
  ⟨["GUNJALA "], ["GONDI OM;GONDI SIGN ANUSVARA;GONDI SIGN VISARGA;GONDI VIRAMA"]⟩,
  ⟨["GUNJALA GONDI LETTER ;GURMUKHI LETTER ;TAMIL LETTER "], ["AA;AI;AU;EE;I;II;OO;U;UU;VA;YA"]⟩,
  ⟨["GUNJALA GONDI VOWEL SIGN ;GURMUKHI VOWEL SIGN ;TAMIL VOWEL SIGN "],
    ["AA;AI;AU;EE;I;II;OO;U;UU"]⟩,
  ⟨["GURMUKHI "], ["ABBREVIATION SIGN;ADDAK;EK ONKAR;IRI;TIPPI;URA"]⟩,
  ⟨["GURMUKHI LETTER "], ["FA;GHHA;KHHA;NNA;NYA;RRA;SHA;ZA"]⟩,
  ⟨["GURMUKHI SIGN "], ["ADAK BINDI;BINDI;NUKTA;UDAAT;VIRAMA;VISARGA;YAKASH"]⟩,
  ⟨["HANGUL CHOSEONG "],
    ["HIEUH-SIOS;IEUNG-HIEUH;IEUNG-RIEUL;MIEUM-KIYEOK;MIEUM-SIOS;MIEUM-TIKEUT;PHIEUPH-HIEUH",
     "PIEUP-HIEUH;PIEUP-KHIEUKH;PIEUP-SIOS-THIEUTH;SSANGCIEUC-HIEUH;SSANGSIOS-PIEUP",
     "SSANGTHIEUTH;SSANGYEORINHIEUH;TIKEUT-CIEUC;TIKEUT-MIEUM;TIKEUT-PIEUP;TIKEUT-SIOS"]⟩,
  ⟨["HANGUL CHOSEONG RIEUL-"],
    ["CIEUC;KAPYEOUNPIEUP;KHIEUKH;KIYEOK;MIEUM;PIEUP;SIOS;SSANGKIYEOK;SSANGPIEUP;SSANGTIKEUT",
     "TIKEUT"]⟩,
  ⟨["HANUNOO ;TAGALOG "], ["SIGN PAMUDPOD;VOWEL SIGN I;VOWEL SIGN U"]⟩,
  ⟨["JAVANESE "], ["LEFT RERENGGAN;PANGKON;PANGRANGKEP;RIGHT RERENGGAN;TURNED PADA PISELEH"]⟩,
  ⟨["JAVANESE CONSONANT "], ["SIGN CAKRA;SIGN KERET;SIGN PENGKAL"]⟩,
  ⟨["JAVANESE LETTER "],
    ["AI;BA MURDA;CA;CA MURDA;DA MAHAPRANA;DDA;DDA MAHAPRANA;E;GA MURDA;I KAWI;II;JA",
     "JA MAHAPRANA;KA MURDA;KA SASAK;NA MURDA;NGA LELET;NGA LELET RASWADI;NYA;NYA MURDA;O",
     "PA CEREK;PA MURDA;RA AGUNG;SA MAHAPRANA;SA MURDA;TA MURDA;TTA;TTA MAHAPRANA"]⟩,
  ⟨["JAVANESE PADA "],
    ["ADEG;ADEG ADEG;ANDAP;ISEN-ISEN;LINGSA;LUHUR;LUNGSI;MADYA;PANGKAT;PISELEH;TIRTA TUMETES",
     "WINDU"]⟩,
  ⟨["JAVANESE SIGN "], ["CECAK;CECAK TELU;LAYAR;PANYANGGA;WIGNYAN"]⟩,
  ⟨["JAVANESE VOWEL SIGN "],
    ["DIRGA MURE;PEPET;SUKU;SUKU MENDUT;TALING;TARUNG;TOLONG;WULU;WULU MELIK"]⟩,
  ⟨["KAITHI ;KHOJKI "], ["ABBREVIATION SIGN;DANDA;DOUBLE DANDA;DOUBLE SECTION MARK;SECTION MARK"]⟩,
  ⟨["KAITHI "], ["ENUMERATION SIGN;NUMBER SIGN;NUMBER SIGN ABOVE"]⟩,
  ⟨["KAITHI LETTER ;NEWA LETTER "], ["AI;AU;JHA;RHA;TTHA"]⟩,
  ⟨["KAITHI LETTER "], ["DDDHA;VA"]⟩,
  ⟨["KAITHI SIGN ;SIDDHAM SIGN "], ["ANUSVARA;CANDRABINDU;NUKTA;VIRAMA;VISARGA"]⟩,
  ⟨["KAITHI VOWEL SIGN ;MASARAM GONDI VOWEL SIGN "], ["AA;AI;AU;E;I;II;O;U;UU;VOCALIC R"]⟩,
  ⟨["KANNADA LETTER ;MALAYALAM LETTER ;SAURASHTRA LETTER ;TELUGU LETTER "], ["EE;LLA;OO"]⟩,
  ⟨["KANNADA LETTER "], ["FA;NAKAARA POLLU;RRA"]⟩,
  ⟨["KANNADA SIGN ;SHARADA SIGN "], ["JIHVAMULIYA;SIDDHAM;UPADHMANIYA"]⟩,
  ⟨["KANNADA VOWEL SIGN ;MALAYALAM VOWEL SIGN ;SAURASHTRA VOWEL SIGN ;TELUGU VOWEL SIGN "],
    ["AA;AI;AU;E;EE;I;II;O;OO;U;UU;VOCALIC L;VOCALIC LL;VOCALIC R;VOCALIC RR"]⟩,
  ⟨["KAYAH "], ["LI SIGN CWI;LI SIGN SHYA;LI TONE CALYA;LI TONE CALYA PLOPHU;LI TONE PLOPHU"]⟩,
  ⟨["KAYAH LI LETTER "], ["A;I;OE;OO;VA"]⟩,
  ⟨["KAYAH LI LETTER ;TANGSA LETTER "],
    ["BA;CA;DA;GA;HA;HTA;KA;KHA;LA;MA;NA;NGA;NYA;PA;PHA;RA;SA;SHA;TA;THA;WA;YA;ZA"]⟩,
  ⟨["KAYAH LI VOWEL "], ["E;EE;O;U;UE"]⟩,
  ⟨["KHMER "], ["CURRENCY SYMBOL RIEL;VOWEL INHERENT AA;VOWEL INHERENT AQ"]⟩,
  ⟨["KHMER INDEPENDENT VOWEL "],
    ["LY;LYY;QAA;QAI;QAQ;QAU;QE;QI;QII;QOO TYPE ONE;QOO TYPE TWO;QU;QUK;QUU;QUUV;RY;RYY"]⟩,
  ⟨["KHMER LETTER "],
    ["BA;CA;CHA;DA;HA;KA;KHA;LA;NGO;NNO;NYO;PHA;QA;SA;SHA;SSO;TA;THA;TTHA;VO;YO"]⟩,
  ⟨["KHMER LETTER ;SYLOTI NAGRI LETTER "], ["CHO;CO;DO;KHO;KO;LO;MO;NO;PHO;PO;RO;THO;TO;TTHO"]⟩,
  ⟨["KHMER SIGN "],
    ["AHSDA;ATTHACAN;AVAKRAHASANYA;BANTOC;BARIYOOSAN;BATHAMASAT;BEYYAL;CAMNUC PII KUUH;COENG",
     "KAKABAT;KHAN;KOOMUUT;LEK TOO;MUUSIKATOAN;NIKAHIT;PHNAEK MUAN;REAHMUK;ROBAT;SAMYOK SANNYA",
     "TOANDAKHIAT;TRIISAP;VIRIAM;YUUKALEAPINTU"]⟩,
  ⟨["KHMER SYMBOL ;KHMER SYMBOL DAP-;KHMER SYMBOL PRAM-"],
    ["BEI KOET;BEI ROC;BUON KOET;BUON ROC;MUOY KOET;MUOY ROC;PII KOET;PII ROC"]⟩,
  ⟨["KHMER SYMBOL "], ["DAP KOET;DAP ROC;PATHAMASAT;TUTEYASAT"]⟩,
  ⟨["KHMER SYMBOL ;KHMER SYMBOL DAP-"], ["PRAM KOET;PRAM ROC"]⟩,
  ⟨["KHMER SYMBOL LEK ATTAK "],
    ["BEI;BUON;MUOY;PII;PRAM;PRAM-BEI;PRAM-BUON;PRAM-MUOY;PRAM-PII;SON"]⟩,
  ⟨["KHMER VOWEL SIGN "], ["AA;AE;AI;AU;E;I;IE;II;OE;OO;U;UA;UU;Y;YA;YY"]⟩,
  ⟨["KHOJKI LETTER ;KHUDAWADI LETTER ;MULTANI LETTER "],
    ["A;BA;BHA;CA;CHA;DA;DDA;DDDA;DDHA;DHA;E;GA;GHA;HA;I;JA;JJA;KA;KHA;LA;MA;NA;NNA;NYA;PA;PHA",
     "RA;SA;TA;THA;TTA;TTHA;U;VA;YA"]⟩,
  ⟨["KHOJKI LETTER ;KHUDAWADI LETTER "], ["AA;AI;AU;BBA;GGA;NGA;O"]⟩,
  ⟨["KHOJKI LETTER "], ["LLA"]⟩,
  ⟨["KHOJKI SIGN "], ["ANUSVARA;NUKTA;SHADDA;SUKUN;VIRAMA"]⟩,
  ⟨["KHOJKI VOWEL SIGN "], ["AA;AI;AU;E;I;II;O;U"]⟩,
  ⟨["KHUDAWADI LETTER "], ["II;JHA;RRA;SHA;UU"]⟩,
  ⟨["LAO "],
    ["CANCELLATION MARK;ELLIPSIS;HO MO;HO NO;KO LA;NIGGAHITA;SEMIVOWEL SIGN LO",
     "SEMIVOWEL SIGN NYO;SIGN PALI VIRAMA"]⟩,
  ⟨["LAO LETTER "],
    ["BO;CO;DO;FO SUNG;FO TAM;HO SUNG;HO TAM;KHMU GO;KHMU NYO;KHO SUNG;KHO TAM;KO;LO LING",
     "LO LOOT;MO;NGO;NO;NYO;O;PHO SUNG;PHO TAM;PO;SANSKRIT SHA;SANSKRIT SSA;SO SUNG;SO TAM",
     "THO SUNG;THO TAM;TO;WO;YO"]⟩,
  ⟨["LAO LETTER PALI "], ["BHA;CHA;DDA;DDHA;DHA;GHA;JHA;LLA;NNA;NYA;TTA;TTHA"]⟩,
  ⟨["LAO TONE "], ["MAI CATAWA;MAI EK;MAI THO;MAI TI"]⟩,
  ⟨["LAO VOWEL SIGN "], ["A;AM;AY;EI;MAI KAN;MAI KON;Y;YY"]⟩,
  ⟨["LEPCHA "], ["SIGN NUKTA;SIGN RAN;SUBJOINED LETTER RA;SUBJOINED LETTER YA"]⟩,
  ⟨["LEPCHA CONSONANT SIGN "], ["K;KANG;L;M;N;NYIN-DO;P;R;T"]⟩,
  ⟨["LEPCHA LETTER "], ["BLA;CHA;DDA;DZA;FLA;GLA;HLA;KLA;MLA;PLA;TSHA;TTA;TTHA"]⟩,
  ⟨["LEPCHA LETTER ;WANCHO LETTER "], ["FA;HA;KHA;PHA;SHA;THA;TSA;WA"]⟩,
  ⟨["LEPCHA PUNCTUATION "], ["CER-WA;NYET THYOOM TA-ROL;TA-ROL;TSHOOK;TSHOOK CER-WA"]⟩,
  ⟨["LEPCHA VOWEL SIGN "], ["AA;E;I;O;OO;U;UU"]⟩,
  ⟨["LIMBU "],
    ["EXCLAMATION MARK;QUESTION MARK;SIGN KEMPHRENG;SIGN LOO;SIGN MUKPHRENG;SIGN SA-I",
     "VOWEL-CARRIER LETTER"]⟩,
  ⟨["LIMBU LETTER "], ["CA;GYAN;SHA;TRA;WA;YAN"]⟩,
  ⟨["LIMBU SMALL LETTER "], ["ANUSVARA;KA;LA;MA;NA;NGA;PA;RA;TA"]⟩,
  ⟨["LIMBU SUBJOINED ;PHAGS-PA SUBJOINED "], ["LETTER RA;LETTER WA;LETTER YA"]⟩,
  ⟨["LIMBU VOWEL SIGN "], ["A;AI;AU;E;EE;I;O;OO;U"]⟩,
  ⟨["MAHAJANI "], ["ABBREVIATION SIGN;LIGATURE SHRI;SECTION MARK;SIGN NUKTA"]⟩,
  ⟨["MAKASAR "],
    ["ANGKA;END OF SECTION;PASSIMBANG;VOWEL SIGN E;VOWEL SIGN I;VOWEL SIGN O;VOWEL SIGN U"]⟩,
  ⟨["MALAYALAM "], ["AU LENGTH MARK;DATE MARK;NUMBER ONE HUNDRED;NUMBER ONE THOUSAND;NUMBER TEN"]⟩,
  ⟨["MALAYALAM FRACTION ;TAMIL FRACTION "],
    ["THREE EIGHTIETHS;THREE QUARTERS;THREE SIXTEENTHS;THREE TWENTIETHS"]⟩,
  ⟨["MALAYALAM FRACTION ONE ;TAMIL FRACTION ONE "],
    ["EIGHTH;FIFTH;FORTIETH;ONE-HUNDRED-AND-SIXTIETH;QUARTER;TENTH;TWENTIETH"]⟩,
  ⟨["MALAYALAM FRACTION ONE "], ["HALF;SIXTEENTH"]⟩,
  ⟨["MALAYALAM LETTER "], ["ARCHAIC II;DOT REPH;LLLA;NNNA;RRA;TTTA;VEDIC ANUSVARA"]⟩,
  ⟨["MALAYALAM LETTER CHILLU "], ["K;L;LL;LLL;M;N;NN;RR;Y"]⟩,
  ⟨["MALAYALAM SIGN "],
    ["ANUSVARA;AVAGRAHA;CANDRABINDU;CIRCULAR VIRAMA;PARA;VERTICAL BAR VIRAMA;VIRAMA;VISARGA"]⟩,
  ⟨["MARCHEN "], ["HEAD MARK;MARK SHAD;SIGN ANUSVARA;SIGN CANDRABINDU"]⟩,
  ⟨["MARCHEN LETTER "], ["-A"]⟩,
  ⟨["MARCHEN LETTER ;MARCHEN SUBJOINED LETTER ;PHAGS-PA LETTER ;TIBETAN LETTER ",
    "TIBETAN SUBJOINED LETTER "],
    ["A;BA;CA;CHA;DA;DZA;GA;HA;JA;KA;KHA;LA;MA;NA;NGA;NYA;PA;PHA;RA;SA;SHA;TA;THA;TSA;TSHA;WA",
     "YA;ZA;ZHA"]⟩,
  ⟨["MARCHEN VOWEL "], ["SIGN AA;SIGN E;SIGN I;SIGN O;SIGN U"]⟩,
  ⟨["MASARAM GONDI "], ["RA-KARA;REPHA;SIGN CANDRA;SIGN VISARGA"]⟩,
  ⟨["MASARAM GONDI LETTER ;MODI LETTER ;ORIYA LETTER "], ["AI;AU;JHA;LLA;TTHA;VA"]⟩,
  ⟨["MASARAM GONDI LETTER "], ["JNYA;KSSA;TRA"]⟩,
  ⟨["MEETEI MAYEK "],
    ["AHANG KHUDAM;ANJI;APUN IYEK;CHEIKHAN;CHEIKHEI;LUM IYEK;SYLLABLE REPETITION MARK;VIRAMA",
     "WORD REPETITION MARK"]⟩,
  ⟨["MEETEI MAYEK LETTER "],
    ["ATIYA;BA;BHAM;CHA;CHIL;DDA;DDHA;DHOU;DIL;E;GHOU;GOK;HUK;I;I LONSUM;JHAM;JIL;KHOU;KOK",
     "KOK LONSUM;LAI;LAI LONSUM;MIT;MIT LONSUM;NA;NA LONSUM;NGOU;NGOU LONSUM;NNA;NYA;O;PA",
     "PA LONSUM;PHAM;RAI;SAM;SHA;SSA;THOU;TIL;TIL LONSUM;TTA;TTHA;UN;WAI;YANG"]⟩,
  ⟨["MEETEI MAYEK VOWEL SIGN "],
    ["AAI;AAU;ANAP;AU;CHEINAP;II;INAP;NUNG;ONAP;SOUNAP;UNAP;UU;VISARGA;YENAP"]⟩,
  ⟨["MODI LETTER VOCALIC "], ["L;LL;R;RR"]⟩,
  ⟨["MODI SIGN "], ["ANUSVARA;ARDHACANDRA;HUVA;VIRAMA;VISARGA"]⟩,
  ⟨["MONGOLIAN "],
    ["BIRGA;BIRGA WITH DOUBLE ORNAMENT;BIRGA WITH ORNAMENT;COLON;COMMA",
     "DOUBLE BIRGA WITH ORNAMENT;ELLIPSIS;FOUR DOTS;FULL STOP;INVERTED BIRGA",
     "INVERTED BIRGA WITH DOUBLE ORNAMENT;MANCHU COMMA;MANCHU FULL STOP;NIRUGU;ROTATED BIRGA",
     "ROTATED BIRGA WITH DOUBLE ORNAMENT;ROTATED BIRGA WITH ORNAMENT",
     "SIBE SYLLABLE BOUNDARY MARKER;SWIRL BIRGA;SWIRL BIRGA WITH DOUBLE ORNAMENT",
     "SWIRL BIRGA WITH ORNAMENT;TODO SOFT HYPHEN;TRIPLE BIRGA WITH ORNAMENT",
     "TURNED SWIRL BIRGA WITH DOUBLE ORNAMENT;VOWEL SEPARATOR"]⟩,
  ⟨["MONGOLIAN FREE VARIATION "], ["SELECTOR FOUR;SELECTOR ONE;SELECTOR THREE;SELECTOR TWO"]⟩,
  ⟨["MONGOLIAN LETTER "], ["A;CHA WITH TWO DOTS;CHI;EE;FA;KHA;LA;LHA;NA;RA;SA;SHA;ZA;ZHI;ZRA"]⟩,
  ⟨["MONGOLIAN LETTER ;MONGOLIAN LETTER TODO "],
    ["ANG;BA;CHA;DA;E;GA;HAA;I;JA;KA;MA;O;OE;PA;QA;TA;TSA;U;UE;WA;YA"]⟩,
  ⟨["MONGOLIAN LETTER ALI GALI "],
    ["A;AH;ANUSVARA ONE;BALUDA;CA;DA;DAGALGA;DAMARU;DDA;HALF U;HALF YA;I;INVERTED UBADAMA;KA",
     "NGA;NNA;PA;PHA;SSA;TA;THREE BALUDA;TTA;TTHA;UBADAMA;VISARGA ONE;ZA;ZHA"]⟩,
  ⟨["MONGOLIAN LETTER MANCHU "], ["FA;I;KA;RA;ZHA"]⟩,
  ⟨["MONGOLIAN LETTER MANCHU ALI GALI "],
    ["BHA;CA;CYA;DDHA;DHA;GHA;JHA;LHA;NGA;SSA;TA;TTA;ZA;ZHA"]⟩,
  ⟨["MONGOLIAN LETTER SIBE "],
    ["ANG;CHA;DA;E;FA;GA;GAA;HA;HAA;I;IY;JA;KA;PA;RAA;SHA;TA;TSA;U;UE;ZA;ZHA"]⟩,
  ⟨["MONGOLIAN LETTER TODO "], ["ALI GALI TA;ALI GALI ZHA;DZA;GAA;JIA;LONG VOWEL SIGN;NIA"]⟩,
  ⟨["MRO LETTER "],
    ["A;BA;CHU;DA;DAI;E;EA;HAI;HAO;KEAAE;KHAI;KO;LA;LAN;MAEM;MIM;NGI;NIN;O;OL;OO;PA;PHI;RI;RO",
     "SHI;TA;TEK;THEA;WA;YO"]⟩,
  ⟨["MULTANI LETTER "], ["RHA;RRA"]⟩,
  ⟨["MYANMAR "],
    ["LOGOGRAM KHAMTI HM;LOGOGRAM KHAMTI OAY;LOGOGRAM KHAMTI QN",
     "MODIFIER LETTER KHAMTI REDUPLICATION;MODIFIER LETTER SHAN REDUPLICATION",
     "TONE MARK SGAW KAREN HATHI;TONE MARK SGAW KAREN KE PHO"]⟩,
  ⟨["MYANMAR CONSONANT SIGN "],
    ["MEDIAL HA;MEDIAL RA;MEDIAL WA;MEDIAL YA;MON MEDIAL LA;MON MEDIAL MA;MON MEDIAL NA",
     "SHAN MEDIAL WA"]⟩,
  ⟨["MYANMAR LETTER "],
    ["AITON RA;EASTERN PWO KAREN GHWA;EASTERN PWO KAREN NNA;EASTERN PWO KAREN YWA;GREAT SA;LLA",
     "MON BBA;MON BBE;MON E;MON JHA;MON NGA;NNYA;RUMAI PALAUNG FA;SGAW KAREN SHA",
     "SHWE PALAUNG CHA;SHWE PALAUNG SHA;VOCALIC LL;WA;WESTERN PWO KAREN PWA",
     "WESTERN PWO KAREN THA"]⟩,
  ⟨["MYANMAR LETTER KHAMTI "],
    ["CA;CHA;DDA;DDHA;DHA;FA;GA;HA;HHA;JA;JHA;NA;NYA;RA;SA;TTA;TTHA;XA;ZA"]⟩,
  ⟨["MYANMAR LETTER SHAN "], ["A;BA;BHA;CA;CHA;DA;FA;GA;GHA;HA;JHA;KA;KHA;NA;NNA;NYA;PHA;THA;ZA"]⟩,
  ⟨["MYANMAR LETTER TAI LAING "], ["BA;BHA;DA;DDA;DDHA;DHA;FA;GA;GHA;JA;JHA;LLA;NNA;NYA"]⟩,
  ⟨["MYANMAR SIGN "],
    ["ANUSVARA;ASAT;DOT BELOW;KHAMTI TONE-1;KHAMTI TONE-3;LITTLE SECTION;PAO KAREN TONE",
     "RUMAI PALAUNG TONE-5;SECTION;TAI LAING TONE-2;TAI LAING TONE-5;VIRAMA;VISARGA"]⟩,
  ⟨["MYANMAR SIGN SHAN "],
    ["COUNCIL EMPHATIC TONE;COUNCIL TONE-2;COUNCIL TONE-3;SAW;TONE-2;TONE-3;TONE-5;TONE-6"]⟩,
  ⟨["MYANMAR SIGN WESTERN "],
    ["PWO KAREN TONE-1;PWO KAREN TONE-2;PWO KAREN TONE-3;PWO KAREN TONE-4;PWO KAREN TONE-5"]⟩,
  ⟨["MYANMAR SYMBOL "],
    ["AFOREMENTIONED;AITON EXCLAMATION;AITON ONE;AITON TWO;COMPLETED;GENITIVE;LOCATIVE",
     "SHAN EXCLAMATION;SHAN ONE"]⟩,
  ⟨["MYANMAR VOWEL SIGN "],
    ["AA;AI;AITON A;AITON AI;E;E ABOVE;GEBA KAREN I;I;II;KAYAH EE;KAYAH OE;KAYAH U;MON II",
     "MON O;SGAW KAREN EU;SHAN AA;SHAN E;SHAN E ABOVE;SHAN FINAL Y;TALL AA;U;UU;VOCALIC L",
     "VOCALIC LL;VOCALIC R;VOCALIC RR;WESTERN PWO KAREN EU;WESTERN PWO KAREN UE"]⟩,
  ⟨["NANDINAGARI "],
    ["HEADSTROKE;SIGN ANUSVARA;SIGN AVAGRAHA;SIGN SIDDHAM;SIGN VIRAMA;SIGN VISARGA"]⟩,
  ⟨["NANDINAGARI LETTER "], ["LLA;VOCALIC R;VOCALIC RR"]⟩,
  ⟨["NANDINAGARI VOWEL SIGN ;SHARADA VOWEL SIGN "], ["PRISHTHAMATRA E"]⟩,
  ⟨["NEW TAI "],
    ["LUE SIGN LAE;LUE SIGN LAEV;LUE THAM DIGIT ONE;LUE TONE MARK-1;LUE TONE MARK-2"]⟩,
  ⟨["NEW TAI LUE LETTER FINAL "], ["B;D;K;M;N;NG;V"]⟩,
  ⟨["NEW TAI LUE LETTER HIGH ;NEW TAI LUE LETTER LOW "],
    ["BA;DA;FA;HA;KA;KVA;LA;MA;NA;NGA;PA;PHA;QA;SA;SUA;TA;THA;TSA;VA;XA;XVA;YA"]⟩,
  ⟨["NEW TAI LUE VOWEL SIGN "],
    ["AA;AAY;AE;AY;E;II;IY;O;OA;OAY;OY;U;UE;UEY;UU;UY;VOWEL SHORTENER"]⟩,
  ⟨["NEWA "], ["COMMA;DOUBLE COMMA;GAP FILLER;INSERTION SIGN;PLACEHOLDER MARK;SIDDHI"]⟩,
  ⟨["NEWA LETTER "], ["LHA;MHA;NGHA;NHA;NYHA;VEDIC ANUSVARA;WA"]⟩,
  ⟨["NEWA LETTER VOCALIC "], ["L;LL;R;RR"]⟩,
  ⟨["NEWA SIGN "], ["FINAL ANUSVARA;JIHVAMULIYA;UPADHMANIYA"]⟩,
  ⟨["NORTH INDIC "], ["PLACEHOLDER MARK;QUANTITY MARK;QUARTER MARK;RUPEE MARK"]⟩,
  ⟨["NORTH INDIC FRACTION ;ORIYA FRACTION "],
    ["ONE EIGHTH;ONE HALF;ONE QUARTER;ONE SIXTEENTH;THREE QUARTERS;THREE SIXTEENTHS"]⟩,
  ⟨["NYIAKENG PUACHUE HMONG "],
    ["CIRCLED CA;LOGOGRAM NYAJ;SIGN FOR ANIMAL;SIGN FOR INVERTEBRATE;SIGN FOR LOCATION",
     "SIGN FOR PERSON;SIGN FOR THING;SIGN XW XW;SYLLABLE LENGTHENER;TONE-B;TONE-D;TONE-G",
     "TONE-J;TONE-M;TONE-S;TONE-V"]⟩,
  ⟨["NYIAKENG PUACHUE HMONG LETTER "],
    ["A;AA;CA;DA;DLA;E;EE;FA;GA;HA;HAH;I;KA;LA;MA;MLA;NA;NCA;NKA;NPA;NPLA;NQA;NRA;NTA;NTSA",
     "NTXA;NYA;O;OO;PA;PLA;QA;RA;RRA;SA;TA;TSA;TXA;U;VA;W;XA;XYA;YA;ZA"]⟩,
  ⟨["OL CHIKI "],
    ["AHAD;GAAHLAA TTUDDAAG;MU TTUDDAG;MU-GAAHLAA TTUDDAAG;PHAARKAA;PUNCTUATION DOUBLE MUCAAD",
     "PUNCTUATION MUCAAD;RELAA"]⟩,
  ⟨["OL CHIKI LETTER "],
    ["AAJ;AAK;AAM;AAW;AG;AL;ANG;AT;EDD;EN;EP;ERR;IH;INY;IR;IS;LA;LAA;LE;LI;LO;LU;OB;OH;OTT;OV",
     "UC;UD;UNN;UY"]⟩,
  ⟨["ORIYA "], ["AI LENGTH MARK;AU LENGTH MARK;ISSHAR"]⟩,
  ⟨["ORIYA LETTER "], ["RHA;RRA;WA;YYA"]⟩,
  ⟨["ORIYA LETTER VOCALIC "], ["L;LL;R;RR"]⟩,
  ⟨["ORIYA SIGN "], ["OVERLINE"]⟩,
  ⟨["PAHAWH HMONG CLAN SIGN "],
    ["FAJ;HAM;HAWJ;KHAB;KOO;KWM;LAUJ;LIS;MUAS;PHAB;THOJ;TSAB;TSHEEJ;TSWB;VAJ;VWJ;XYOOJ;YAJ",
     "YEEG"]⟩,
  ⟨["PAHAWH HMONG CONSONANT "],
    ["AU;CAU;CHAU;HAU;HLAU;HNAU;LAU;MAU;NAU;NCHAU;NKAU;NLAU;NTHAU;NTSAU;PLHAU;QHAU;RAU;VAU;XAU",
     "YAU"]⟩,
  ⟨["PAHAWH HMONG MARK "], ["CIM HOM;CIM KES;CIM KHAV;CIM SO;CIM SUAM;CIM TAUM;CIM TUB"]⟩,
  ⟨["PAHAWH HMONG NUMBER "],
    ["HUNDRED MILLIONS;HUNDREDS;MILLIONS;TEN BILLIONS;TEN THOUSANDS;TENS;TRILLIONS"]⟩,
  ⟨["PAHAWH HMONG SIGN "],
    ["AV;CIM CHEEM;CIM CUAM TSHOOJ;CIM HAIS LUS NTOG NTOG;CIM NRES TOS;CIM PUB DAWB",
     "CIM TSOV ROG;CIM TXWV;CIM TXWV CHWV;HLI;HNUB;IB YAM;LOS;MEEJ SUAB;MEEJ TSEEB;MUS;NQIG",
     "NTUJ;TAU;THIRD-STAGE HLI;TXHEEJ CEEV;VOS FEEM;VOS LUB;VOS NRUA;VOS SEEV;VOS THIAB",
     "VOS THOM;VOS TSHAB CEEB;XAUS;XIAB;XYEEM FAIB;XYEEM NTXIV;XYEEM RHO;XYEEM TOV;XYOO",
     "ZWJ THAJ"]⟩,
  ⟨["PAHAWH HMONG VOWEL "],
    ["KAAB;KAAV;KAB;KAIB;KAIV;KAUB;KAUV;KAV;KAWB;KAWV;KEB;KEEB;KEEV;KEV;KIAB;KIAV;KIB;KIV;KOB",
     "KOOB;KOOV;KOV;KUAB;KUAV;KUB;KUV;KWB;KWV"]⟩,
  ⟨["PAU CIN HAU "],
    ["GLOTTAL STOP;GLOTTAL STOP FINAL;GLOTTAL STOP VARIANT;LOW-FALLING TONE",
     "LOW-FALLING TONE FINAL;LOW-FALLING TONE LONG;LOW-FALLING TONE LONG FINAL;MID-LEVEL TONE",
     "MID-LEVEL TONE FINAL;MID-LEVEL TONE LONG FINAL;RISING TONE;RISING TONE FINAL",
     "RISING TONE LONG;RISING TONE LONG FINAL"]⟩,
  ⟨["PAU CIN HAU LETTER ;TAI LE LETTER "],
    ["A;E;FA;HA;I;KA;KHA;LA;MA;NA;NGA;O;PA;PHA;SA;TA;THA;U;VA"]⟩,
  ⟨["PAU CIN HAU LETTER "], ["BA;CA;CHA;DA;GA;IA;RA;UA;ZA"]⟩,
  ⟨["PAU CIN HAU LETTER FINAL "], ["K;L;M;N;NG;P;T;W;Y"]⟩,
  ⟨["PAU CIN HAU SANDHI "],
    ["GLOTTAL STOP;GLOTTAL STOP FINAL;TONE;TONE FINAL;TONE LONG;TONE LONG FINAL"]⟩,
  ⟨["PHAGS-"],
    ["PA DOUBLE HEAD MARK;PA MARK DOUBLE SHAD;PA MARK SHAD;PA SINGLE HEAD MARK",
     "PA SUPERFIXED LETTER RA"]⟩,
  ⟨["PHAGS-PA LETTER "],
    ["ALTERNATE YA;ASPIRATED FA;CANDRABINDU;DDA;E;EE;FA;GGA;I;NNA;O;QA;SMALL A;TTA;TTHA;U",
     "VOICED HA;VOICELESS SHA;XA"]⟩,
  ⟨["REJANG CONSONANT "], ["SIGN H;SIGN N;SIGN NG;SIGN R"]⟩,
  ⟨["REJANG LETTER "], ["KA;NGGA;NYJA;TA"]⟩,
  ⟨["REJANG VOWEL SIGN "], ["AI;AU;E;EA;EU;I;O;U"]⟩,
  ⟨["SAURASHTRA "], ["CONSONANT SIGN HAARU"]⟩,
  ⟨["SHARADA "],
    ["CONTINUATION SIGN;EKAM;EXTRA SHORT VOWEL MARK;HEADSTROKE;SECTION MARK-1;SECTION MARK-2",
     "SEPARATOR;SUTRA MARK;VOWEL MODIFIER MARK"]⟩,
  ⟨["SIDDHAM "],
    ["DANDA;DOUBLE DANDA;END OF TEXT MARK;SECTION MARK DOUBLE RING",
     "SECTION MARK DOUBLE RING WITH RAYS;SEPARATOR BAR;SEPARATOR DOT"]⟩,
  ⟨["SIDDHAM LETTER "],
    ["ALTERNATE U;THREE-CIRCLE ALTERNATE I;TWO-CIRCLE ALTERNATE I;TWO-CIRCLE ALTERNATE II"]⟩,
  ⟨["SIDDHAM REPETITION "], ["MARK-1;MARK-2;MARK-3"]⟩,
  ⟨["SIDDHAM SECTION MARK WITH "],
    ["CIRCLES AND FOUR ENCLOSURES;CIRCLES AND RAYS;CIRCLES AND TWO ENCLOSURES;DOUBLE CRESCENTS",
     "QUADRUPLE CRESCENTS;RAYS AND DOTTED CRESCENTS;RAYS AND DOTTED DOUBLE CRESCENTS",
     "RAYS AND DOTTED TRIPLE CRESCENTS;SEPTUPLE CRESCENTS;TRIDENT AND DOTTED CRESCENTS",
     "TRIDENT AND U-SHAPED ORNAMENTS;TRIPLE CRESCENTS"]⟩,
  ⟨["SIDDHAM SIGN "], ["SIDDHAM"]⟩,
  ⟨["SIDDHAM VOWEL SIGN "], ["ALTERNATE U;ALTERNATE UU"]⟩,
  ⟨["SINHALA "],
    ["PUNCTUATION KUNDDALIYA;SIGN AL-LAKUNA;SIGN ANUSVARAYA;SIGN CANDRABINDU;SIGN VISARGAYA"]⟩,
  ⟨["SINHALA LETTER "],
    ["AAYANNA;AEEYANNA;AEYANNA;AIYANNA;AMBA BAYANNA;AUYANNA;AYANNA;DANTAJA LAYANNA",
     "DANTAJA NAYANNA;DANTAJA SAYANNA;EEYANNA;EYANNA;FAYANNA;HAYANNA;IIYANNA;ILUUYANNA",
     "ILUYANNA;IRUUYANNA;IRUYANNA;IYANNA;KANTAJA NAASIKYAYA;MAYANNA;MUURDHAJA LAYANNA",
     "MUURDHAJA NAYANNA;MUURDHAJA SAYANNA;OOYANNA;OYANNA;RAYANNA;SANYAKA DAYANNA",
     "SANYAKA DDAYANNA;SANYAKA GAYANNA;SANYAKA JAYANNA;TAALUJA NAASIKYAYA",
     "TAALUJA SANYOOGA NAAKSIKYAYA;TAALUJA SAYANNA;UUYANNA;UYANNA;VAYANNA;YAYANNA"]⟩,
  ⟨["SINHALA LETTER ALPAPRAANA ;SINHALA LETTER MAHAAPRAANA "],
    ["BAYANNA;CAYANNA;DAYANNA;DDAYANNA;GAYANNA;JAYANNA;KAYANNA;PAYANNA;TAYANNA;TTAYANNA"]⟩,
  ⟨["SINHALA VOWEL SIGN "],
    ["AELA-PILLA;DIGA AEDA-PILLA;DIGA GAETTA-PILLA;DIGA GAYANUKITTA;DIGA IS-PILLA;DIGA KOMBUVA",
     "DIGA PAA-PILLA;GAETTA-PILLA;GAYANUKITTA;KETTI AEDA-PILLA;KETTI IS-PILLA;KETTI PAA-PILLA",
     "KOMBU DEKA;KOMBUVA;KOMBUVA HAA AELA-PILLA;KOMBUVA HAA DIGA AELA-PILLA",
     "KOMBUVA HAA GAYANUKITTA"]⟩,
  ⟨["SORA SOMPENG LETTER "],
    ["AH;BAH;CAH;DAH;EEH;EH;GAH;HAH;IH;JAH;KAH;LAH;MAE;MAH;NAH;NGAH;NYAH;OH;PAH;RAH;SAH;TAH;UH",
     "VAH;YAH"]⟩,
  ⟨["SOYOMBO "],
    ["GEMINATION MARK;HEAD MARK WITH MOON AND SUN;HEAD MARK WITH MOON AND SUN AND FLAME",
     "HEAD MARK WITH MOON AND SUN AND TRIPLE FLAME;MARK PLUTA;SIGN JIHVAMULIYA",
     "SIGN UPADHMANIYA;TERMINAL MARK-1;TERMINAL MARK-2"]⟩,
  ⟨["SOYOMBO ;ZANABAZAR SQUARE "],
    ["MARK DOUBLE SHAD;MARK SHAD;MARK TSHEG;SIGN ANUSVARA;SIGN VISARGA;SUBJOINER",
     "VOWEL LENGTH MARK"]⟩,
  ⟨["SOYOMBO CLUSTER-"],
    ["INITIAL LETTER LA;INITIAL LETTER RA;INITIAL LETTER SA;INITIAL LETTER SHA"]⟩,
  ⟨["SOYOMBO FINAL CONSONANT SIGN "], ["-A;B;D;G;K;L;M;N;NG;R;S;SH"]⟩,
  ⟨["SOYOMBO LETTER ;ZANABAZAR SQUARE LETTER "],
    ["-A;BHA;CHA;DDA;DDHA;DHA;DZA;GHA;HA;KHA;KSSA;NNA;PHA;SHA;SSA;THA;TSA;TSHA;TTA;TTHA;ZA;ZHA"]⟩,
  ⟨["SOYOMBO LETTER "], ["JHA"]⟩,
  ⟨["SOYOMBO VOWEL SIGN "], ["AI;AU;E;I;O;OE;U;UE;VOCALIC L;VOCALIC R"]⟩,
  ⟨["SUNDANESE "], ["AVAGRAHA;SIGN PAMAAEH;SIGN PANGLAYAR;SIGN PANGWISAD;SIGN PANYECEK"]⟩,
  ⟨["SUNDANESE CONSONANT "],
    ["SIGN PAMINGKAL;SIGN PANYAKRA;SIGN PANYIKU;SIGN PASANGAN MA;SIGN PASANGAN WA"]⟩,
  ⟨["SUNDANESE LETTER "], ["AE;BHA;E;EU;FA;FINAL K;FINAL M;HA;I;KHA;LEU;O;QA;REU;SYA;U;WA;XA;ZA"]⟩,
  ⟨["SUNDANESE PUNCTUATION BINDU "],
    ["BA SATANGA;CAKRA;DA SATANGA;KA SATANGA;LEU SATANGA;PANGLONG;PURNAMA;SURYA"]⟩,
  ⟨["SUNDANESE VOWEL "],
    ["SIGN PAMEPET;SIGN PANAELAENG;SIGN PANEULEUNG;SIGN PANGHULU;SIGN PANOLONG;SIGN PANYUKU"]⟩,
  ⟨["SYLOTI NAGRI "],
    ["POETRY MARK-1;POETRY MARK-2;POETRY MARK-3;POETRY MARK-4;SIGN ALTERNATE HASANTA",
     "SIGN ANUSVARA;SIGN DVISVARA;SIGN HASANTA"]⟩,
  ⟨["SYLOTI NAGRI LETTER "], ["A;BHO;BO;DDHO;DDO;DHO;E;GHO;GO;HO;I;JHO;JO;O;RRO;SO;TTO;U"]⟩,
  ⟨["SYLOTI NAGRI VOWEL "], ["SIGN A;SIGN E;SIGN I;SIGN OO;SIGN U"]⟩,
  ⟨["TAGALOG LETTER "], ["ARCHAIC RA"]⟩,
  ⟨["TAGBANWA LETTER "], ["A;BA;DA;GA;I;KA;LA;MA;NA;NGA;PA;SA;TA;U;WA;YA"]⟩,
  ⟨["TAI LE LETTER "],
    ["AI;AUE;EE;EH;OO;QA;TONE-2;TONE-3;TONE-4;TONE-5;TONE-6;TSA;TSHA;UE;XA;YA"]⟩,
  ⟨["TAI THAM CONSONANT SIGN "],
    ["BA;FINAL NGA;HIGH RATHA OR LOW PA;LA TANG LAI;LOW PA;MA;MEDIAL LA;MEDIAL RA;SA"]⟩,
  ⟨["TAI THAM LETTER "],
    ["A;BA;DA;EE;GREAT SA;I;II;LA;LAE;LLA;LUE;MA;NA;NGA;NYA;OO;RA;RANA;RATA;RUE;U;UU;WA"]⟩,
  ⟨["TAI THAM LETTER HIGH ;TAI THAM LETTER LOW "],
    ["CA;CHA;FA;HA;KA;KHA;KXA;PA;PHA;RATHA;SA;TA;THA;YA"]⟩,
  ⟨["TAI THAM LETTER HIGH "], ["SHA;SSA"]⟩,
  ⟨["TAI THAM SIGN "],
    ["CAANG;DOKMAI;HANG;HOY;KAAN;KAANKUU;KEOW;KHUEN TONE-3;KHUEN TONE-4;KHUEN TONE-5",
     "KHUEN-LUE KARAN;MAI KANG;MAI KANG LAI;MAI SAM;MAI YAMOK;RA HAAM;REVERSED ROTATED RANA",
     "SAKOT;SATKAAN;SATKAANKUU;SAWAN;TONE-1;TONE-2;WIANG;WIANGWAAK"]⟩,
  ⟨["TAI THAM VOWEL SIGN "],
    ["A;AA;AE;AI;E;I;II;MAI SAT;O;OA ABOVE;OA BELOW;OO;OY;TALL AA;THAM AI;U;UE;UU;UUE"]⟩,
  ⟨["TAI VIET "], ["MAI KANG;MAI KHIT;TONE MAI EK;TONE MAI NUENG;TONE MAI SONG;TONE MAI THO"]⟩,
  ⟨["TAI VIET LETTER HIGH ;TAI VIET LETTER LOW "],
    ["BO;CHO;CO;DO;FO;GO;HO;KHHO;KHO;KO;LO;MO;NGO;NO;NYO;O;PHO;PO;RO;SO;THO;TO;VO;YO"]⟩,
  ⟨["TAI VIET SYMBOL "], ["HO HOI;KOI KOI;KON;NUENG;SAM"]⟩,
  ⟨["TAI VIET VOWEL "], ["AA;AM;AN;AUE;AY;E;I;IA;O;U;UA;UE;UEA"]⟩,
  ⟨["TAKRI LETTER "], ["AA;AI;ARCHAIC KHA;AU;II;NGA;SHA;UU;YA"]⟩,
  ⟨["TAMIL "],
    ["AND ODD SIGN;AS ABOVE SIGN;AU LENGTH MARK;CREDIT SIGN;CURRENT SIGN;DAY SIGN;DEBIT SIGN",
     "DRY CULTIVATION SIGN;IN POSSESSION SIGN;LAND SIGN;MONTH SIGN;OM;PUNCTUATION END OF TEXT",
     "RUPEE SIGN;SALT PAN SIGN;SPENT SIGN;STARTING FROM SIGN;TOTAL SIGN",
     "TRADITIONAL CREDIT SIGN;TRADITIONAL NUMBER SIGN;WET CULTIVATION SIGN;YEAR SIGN"]⟩,
  ⟨["TAMIL FRACTION "], ["DOWNSCALING FACTOR KIIZH;THREE SIXTY-FOURTHS"]⟩,
  ⟨["TAMIL FRACTION ONE "],
    ["EIGHTIETH;HALF-1;HALF-2;SIXTEENTH-1;SIXTEENTH-2;SIXTY-FOURTH;THIRTY-SECOND",
     "THREE-HUNDRED-AND-TWENTIETH"]⟩,
  ⟨["TAMIL LETTER "],
    ["A;CA;E;HA;JA;KA;LA;LLA;LLLA;MA;NA;NGA;NNA;NNNA;NYA;O;PA;RA;RRA;SA;SHA;SSA;TA;TTA"]⟩,
  ⟨["TAMIL NUMBER "], ["SIGN;TEN"]⟩,
  ⟨["TAMIL SIGN "],
    ["AAZHAAKKU;ANUSVARA;CEVITU;KAACU;KURUNI;KUZHI;MUKKURUNI;MUTHALIYA;MUUVUZHAKKU;NEL;PAARAM",
     "PANAM;PATHAKKU;PON;UZHAKKU;VAKAIYARAA;VARAAKAN;VELI;VIRAMA;VISARGA"]⟩,
  ⟨["TAMIL VOWEL SIGN "], ["E;O"]⟩,
  ⟨["TANGSA LETTER "],
    ["AC;AQ;AWC;AWQ;AWX;AWZ;AX;AZ;CHA;DHA;EC;EQ;EX;EZ;FA;FINAL NG;GHA;HTTA;IC;IQ;IX;IZ",
     "LONG UEX;MC;MQ;MX;MZ;NHA;OC;OQ;OX;OZ;SHORT AWX;SHORT UEZ;TSA;UC;UEC;UEQ;UEX;UEZ;UIC;UIQ",
     "UIUC;UIUQ;UIUX;UIUZ;UIX;UIZ;UQ;UX;UZ;VC;VQ;VX;VZ;XA"]⟩,
  ⟨["TELUGU FRACTION DIGIT "],
    ["ONE FOR EVEN POWERS OF FOUR;ONE FOR ODD POWERS OF FOUR;THREE FOR EVEN POWERS OF FOUR",
     "THREE FOR ODD POWERS OF FOUR;TWO FOR EVEN POWERS OF FOUR;TWO FOR ODD POWERS OF FOUR",
     "ZERO FOR ODD POWERS OF FOUR"]⟩,
  ⟨["TELUGU LETTER "], ["DZA;LLLA;NAKAARA POLLU;RRA;RRRA;TSA"]⟩,
  ⟨["TELUGU SIGN "], ["COMBINING CANDRABINDU ABOVE;SIDDHAM;TUUMU"]⟩,
  ⟨["THAI CHARACTER "],
    ["ANGKHANKHU;BO BAIMAI;CHO CHAN;CHO CHANG;CHO CHING;CHO CHOE;DO CHADA;DO DEK;FO FA;FO FAN",
     "FONGMAN;HO HIP;HO NOKHUK;KHO KHAI;KHO KHON;KHO KHUAT;KHO KHWAI;KHO RAKHANG;KHOMUT;KO KAI",
     "LAKKHANGYAO;LO CHULA;LO LING;LU;MAI CHATTAWA;MAI EK;MAI HAN-AKAT;MAI THO;MAI TRI",
     "MAITAIKHU;MAIYAMOK;MO MA;NGO NGU;NIKHAHIT;NO NEN;NO NU;O ANG;PAIYANNOI;PHINTHU;PHO PHAN",
     "PHO PHUNG;PHO SAMPHAO;PO PLA;RO RUA;RU;SO RUSI;SO SALA;SO SO;SO SUA;THANTHAKHAT",
     "THO NANGMONTHO;THO PHUTHAO;THO THAHAN;THO THAN;THO THONG;THO THUNG;TO PATAK;TO TAO",
     "WO WAEN;YAMAKKAN;YO YAK;YO YING"]⟩,
  ⟨["THAI CHARACTER SARA "], ["A;AA;AE;AI MAIMALAI;AI MAIMUAN;AM;E;I;II;O;U;UE;UEE;UU"]⟩,
  ⟨["TIBETAN "],
    ["KU RU KHA;KU RU KHA BZHI MIG CAN;LOGOTYPE SIGN CHAD RTAGS;LOGOTYPE SIGN LHAG RTAGS",
     "SYLLABLE OM"]⟩,
  ⟨["TIBETAN ASTROLOGICAL "], ["SIGN -KHYUD PA;SIGN SDONG TSHUGS;SIGN SGRA GCAN -CHAR RTAGS"]⟩,
  ⟨["TIBETAN CANTILLATION "], ["SIGN CANG TE-U;SIGN HEAVY BEAT;SIGN LIGHT BEAT;SIGN SBUB -CHAL"]⟩,
  ⟨["TIBETAN LETTER ;TIBETAN SUBJOINED LETTER "],
    ["-A;BHA;DDA;DDHA;DHA;DZHA;FIXED-FORM RA;GHA;KSSA;NNA;SSA;TTA;TTHA"]⟩,
  ⟨["TIBETAN LETTER "], ["KKA;RRA"]⟩,
  ⟨["TIBETAN MARK "],
    ["ANG KHANG GYAS;ANG KHANG GYON;BKA- SHOG YIG MGO;BSDUS RTAGS;BSKA- SHOG GI MGO RGYAN",
     "BSKUR YIG MGO;CARET -DZUD RTAGS BZHI MIG CAN;CARET -DZUD RTAGS ME LONG CAN",
     "CARET YIG MGO PHUR SHAD MA;CHE MGO;CLOSING BRDA RNYING YIG MGO SGAB MA",
     "CLOSING YIG MGO SGAB MA;DELIMITER TSHEG BSTAR;GTER TSHEG;GTER YIG MGO -UM GTER TSHEG MA",
     "GTER YIG MGO -UM RNAM BCAD MA;GTER YIG MGO TRUNCATED A;GUG RTAGS GYAS;GUG RTAGS GYON",
     "HALANTA;INITIAL BRDA RNYING YIG MGO MDUN MA;INITIAL YIG MGO MDUN MA;INTERSYLLABIC TSHEG",
     "LEADING MCHAN RTAGS;MNYAM YIG GI MGO RGYAN;NGAS BZUNG NYI ZLA;NGAS BZUNG SGOR RTAGS",
     "NYIS SHAD;NYIS TSHEG;NYIS TSHEG SHAD;PALUTA;RGYA GRAM SHAD;RIN CHEN SPUNGS SHAD",
     "SBRUL SHAD;SHAD;TRAILING MCHAN RTAGS;TSA -PHRU;TSHEG SHAD;YIG MGO TSHEG SHAD MA"]⟩,
  ⟨["TIBETAN SIGN "],
    ["GRU CAN RGYINGS;GRU MED RGYINGS;INVERTED MCHU CAN;LCE TSA CAN;LCI RTAGS;MAR TSHES",
     "MCHU CAN;NYI ZLA NAA DA;RJES SU NGA RO;RNAM BCAD;SNA LDAN;YANG RTAGS;YAR TSHES"]⟩,
  ⟨["TIBETAN SIGN RDEL "],
    ["DKAR GCIG;DKAR GNYIS;DKAR GSUM;DKAR RDEL NAG;NAG GCIG;NAG GNYIS;NAG GSUM;NAG RDEL DKAR"]⟩,
  ⟨["TIBETAN SUBJOINED "], ["SIGN INVERTED MCHU CAN;SIGN LCE TSA CAN;SIGN MCHU CAN"]⟩,
  ⟨["TIBETAN SUBJOINED LETTER "], ["FIXED-FORM WA;FIXED-FORM YA"]⟩,
  ⟨["TIBETAN SYMBOL "],
    ["DRIL BU;NOR BU;NOR BU BZHI -KHYIL;NOR BU GSUM -KHYIL;NOR BU NYIS -KHYIL;PADMA GDAN",
     "PHUR PA;RDO RJE;RDO RJE RGYA GRAM"]⟩,
  ⟨["TIBETAN VOWEL SIGN "], ["E;O;REVERSED I;REVERSED II"]⟩,
  ⟨["TIRHUTA "], ["ABBREVIATION SIGN;ANJI;GVANG;OM"]⟩,
  ⟨["TIRHUTA VOWEL SIGN "], ["SHORT E;SHORT O"]⟩,
  ⟨["TOTO LETTER "], ["AE;CHA;E;EO;IU;JA;O"]⟩,
  ⟨["TOTO LETTER BREATHY "], ["AE;E;EO;I;IU"]⟩,
  ⟨["VEDIC SIGN "],
    ["ARDHAVISARGA;ATIKRAMA;DOUBLE ANUSVARA ANTARGOMUKHA;HEXIFORM LONG ANUSVARA;JIHVAMULIYA",
     "LONG ANUSVARA;NIHSHVASA;REVERSED VISARGA ANUDATTA;REVERSED VISARGA UDATTA",
     "ROTATED ARDHAVISARGA;RTHANG LONG ANUSVARA;TIRYAK;UPADHMANIYA;YAJURVEDIC MIDLINE SVARITA"]⟩,
  ⟨["VEDIC SIGN ANUSVARA "],
    ["ANTARGOMUKHA;BAHIRGOMUKHA;UBHAYATO MUKHA;VAMAGOMUKHA;VAMAGOMUKHA WITH TAIL"]⟩,
  ⟨["VEDIC SIGN VISARGA "], ["ANUDATTA;ANUDATTA WITH TAIL;SVARITA;UDATTA;UDATTA WITH TAIL"]⟩,
  ⟨["VEDIC TONE "],
    ["ATHARVAVEDIC INDEPENDENT SVARITA;CANDRA ABOVE;CANDRA BELOW;DOT BELOW;DOUBLE RING ABOVE",
     "DOUBLE SVARITA;KARSHANA;KATHAKA ANUDATTA;PRENKHA;RIGVEDIC KASHMIRI INDEPENDENT SVARITA",
     "RING ABOVE;SHARA;THREE DOTS BELOW;TRIPLE SVARITA;TWO DOTS BELOW"]⟩,
  ⟨["VEDIC TONE YAJURVEDIC "],
    ["AGGRAVATED INDEPENDENT SVARITA;INDEPENDENT SVARITA;KATHAKA INDEPENDENT SVARITA",
     "KATHAKA INDEPENDENT SVARITA SCHROEDER"]⟩,
  ⟨["WANCHO "], ["NGUN SIGN;TONE KOI;TONE KOINI;TONE TUP;TONE TUPNI"]⟩,
  ⟨["WANCHO LETTER "], ["AA;AAN;AANG;ANG;AU;E;EN;I;ING;LLHA;O;ON;ONG;TRA;U;UEN;YIH;ZA"]⟩,
  ⟨["WARANG CITI CAPITAL LETTER ;WARANG CITI SMALL LETTER "],
    ["A;AM;ANG;AT;BU;DA;E;ENN;ENY;GA;HAR;HIYO;HOLO;HORR;II;KO;NGAA;NUNG;O;ODD;PU;SII;SSUU;TTE",
     "UC;UU;VIYO;WI;YA;YO;YU;YUJ"]⟩,
  ⟨["ZANABAZAR SQUARE "],
    ["CLOSING DOUBLE-LINED HEAD MARK;CLOSING HEAD MARK;FINAL CONSONANT MARK",
     "INITIAL DOUBLE-LINED HEAD MARK;INITIAL HEAD MARK;MARK LONG TSHEG",
     "SIGN CANDRA WITH ORNAMENT;SIGN CANDRABINDU;SIGN CANDRABINDU WITH ORNAMENT;SIGN VIRAMA"]⟩,
  ⟨["ZANABAZAR SQUARE CLUSTER-"],
    ["FINAL LETTER LA;FINAL LETTER RA;FINAL LETTER VA;FINAL LETTER YA;INITIAL LETTER RA"]⟩,
  ⟨["ZANABAZAR SQUARE LETTER "], ["DZHA"]⟩,
  ⟨["ZANABAZAR SQUARE VOWEL SIGN "], ["AI;AU;E;I;O;OE;REVERSED I;U;UE"]⟩]

end WireModel.Text.CharacterName
