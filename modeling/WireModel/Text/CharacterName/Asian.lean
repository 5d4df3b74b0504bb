import WireModel.Text.CharacterName.Family

/-!
# Names of scripts of western and central Asia

The names of the Arabic, Hebrew and related scripts.
-/

namespace WireModel.Text.CharacterName

def asian : List Family := [
  ⟨[""],
    ["AFGHANI SIGN;AVESTAN ABBREVIATION MARK;ELYMAIC LIGATURE ZAYIN-YODH",
     "IMPERIAL ARAMAIC SECTION SIGN;LYDIAN TRIANGULAR MARK;NABATAEAN CRUCIFORM NUMBER FOUR",
     "ORNATE LEFT PARENTHESIS;ORNATE RIGHT PARENTHESIS;PALMYRENE LEFT-POINTING FLEURON",
     "PALMYRENE RIGHT-POINTING FLEURON;PHOENICIAN WORD SEPARATOR;RIAL SIGN",
     "SMALL TWO DOTS OVER ONE DOT PUNCTUATION;SOGDIAN INDEPENDENT SHIN",
     "TINY TWO DOTS OVER ONE DOT PUNCTUATION"]⟩,
  ⟨["ARABIC "],
    ["BASELINE ROUND DOT;COMMA;DAMMA WITH DOT;DATE SEPARATOR;DECIMAL SEPARATOR",
     "DISPUTED END OF AYAH;DOUBLE RIGHT ARROWHEAD ABOVE;DOUBLE RIGHT ARROWHEAD ABOVE WITH DOT",
     "DOUBLED MADDA;EMPTY CENTRE HIGH STOP;EMPTY CENTRE LOW STOP;END OF AYAH;END OF TEXT MARK",
     "FATHATAN ISOLATED FORM;FIVE POINTED STAR;FOOTNOTE MARKER;FULL STOP;HALF MADDA OVER MADDA",
     "HAMZA ABOVE;HAMZA BELOW;INVERTED DAMMA;KASRA WITH DOT BELOW;LEFT ARROWHEAD ABOVE",
     "LEFT ARROWHEAD BELOW;MADDA WAAJIB;MADDAH ABOVE;MARK NOON GHUNNA",
     "MARK SIDEWAYS NOON GHUNNA;NUMBER MARK ABOVE;NUMBER SIGN;OPEN DAMMATAN;OPEN FATHATAN",
     "OPEN KASRATAN;PERCENT SIGN;PIASTRE MARK ABOVE;PLACE OF SAJDAH;POETIC VERSE SIGN",
     "POUND MARK ABOVE;QUESTION MARK;RAISED ROUND DOT;RAY;REVERSED DAMMA;RIGHT ARROWHEAD ABOVE",
     "RIGHT ARROWHEAD ABOVE WITH DOT;RIGHT ARROWHEAD BELOW",
     "ROUNDED HIGH STOP WITH FILLED CENTRE;SEMICOLON;SHADDA;SHADDA ISOLATED FORM",
     "SHADDA MEDIAL FORM;START OF RUB EL HIZB;SUBSCRIPT ALEF;SUKUN;SUKUN BELOW",
     "SUKUN ISOLATED FORM;SUKUN MEDIAL FORM;SUPERSCRIPT ALEF MOKHASSAS;TAIL FRAGMENT;TATWEEL",
     "THOUSANDS SEPARATOR;TRIPLE DOT PUNCTUATION MARK;TURNED DAMMA BELOW;VERTICAL TAIL",
     "VOWEL SIGN DOT BELOW;VOWEL SIGN INVERTED SMALL V ABOVE;VOWEL SIGN SMALL V ABOVE",
     "WAVY HAMZA BELOW;ZWARAKAY"]⟩,
  ⟨["ARABIC ;ARABIC CURLY "], ["DAMMA;DAMMATAN;FATHA;FATHATAN;KASRA;KASRATAN"]⟩,
  ⟨["ARABIC ;ARABIC LIGATURE SHADDA WITH "],
    ["DAMMA ISOLATED FORM;DAMMA MEDIAL FORM;DAMMATAN ISOLATED FORM;KASRA ISOLATED FORM",
     "KASRA MEDIAL FORM;KASRATAN ISOLATED FORM"]⟩,
  ⟨["ARABIC FATHA "], ["ISOLATED FORM;MEDIAL FORM;WITH RING;WITH TWO DOTS"]⟩,
  ⟨["ARABIC FATHA ;ARABIC LETTER MEEM ;ARABIC LETTER QAF "], ["WITH DOT ABOVE"]⟩,
  ⟨["ARABIC LARGE "],
    ["CIRCLE BELOW;ROUND DOT ABOVE;ROUND DOT BELOW;ROUND DOT INSIDE CIRCLE BELOW"]⟩,
  ⟨["ARABIC LETTER "],
    ["AE;AFRICAN FEH;AFRICAN NOON;AFRICAN QAF;AFRICAN QAF WITH THREE DOTS ABOVE;BEEH",
     "BEEH FINAL FORM;BEEH INITIAL FORM;BEEH ISOLATED FORM;BEEH MEDIAL FORM;BEH FINAL FORM",
     "BEH INITIAL FORM;BEH ISOLATED FORM;BEH MEDIAL FORM;BEHEH;BEHEH FINAL FORM",
     "BEHEH INITIAL FORM;BEHEH ISOLATED FORM;BEHEH MEDIAL FORM;DAD FINAL FORM;DAD INITIAL FORM",
     "DAD ISOLATED FORM;DAD MEDIAL FORM;DAD WITH DOT BELOW;DAHAL;DAHAL FINAL FORM",
     "DAHAL ISOLATED FORM;DAL FINAL FORM;DAL ISOLATED FORM;DDAHAL;DDAHAL FINAL FORM",
     "DDAHAL ISOLATED FORM;DDAL;DDAL FINAL FORM;DDAL ISOLATED FORM;DUL;DUL FINAL FORM",
     "DUL ISOLATED FORM;DYEH;DYEH FINAL FORM;DYEH INITIAL FORM;DYEH ISOLATED FORM",
     "DYEH MEDIAL FORM;E;E MEDIAL FORM;FARSI YEH;GAF;GRAF;GUEH;GUEH FINAL FORM",
     "GUEH INITIAL FORM;GUEH ISOLATED FORM;GUEH MEDIAL FORM;HAH FINAL FORM;HAH MEDIAL FORM",
     "HAMZA;HAMZA ISOLATED FORM;HEH;HIGH HAMZA;HIGH HAMZA ALEF;HIGH HAMZA WAW;HIGH HAMZA YEH",
     "JEH;JEH FINAL FORM;JEH ISOLATED FORM;KASHMIRI YEH;KEHEH;KHAH FINAL FORM",
     "KHAH ISOLATED FORM;KHAH MEDIAL FORM;LOW ALEF;MARK;NG;NG FINAL FORM;NG INITIAL FORM",
     "NG ISOLATED FORM;NG MEDIAL FORM;NGOEH;NGOEH FINAL FORM;NGOEH INITIAL FORM",
     "NGOEH ISOLATED FORM;NGOEH MEDIAL FORM;NYEH;NYEH FINAL FORM;NYEH INITIAL FORM",
     "NYEH ISOLATED FORM;NYEH MEDIAL FORM;OE;PEH;PEH FINAL FORM;PEH INITIAL FORM",
     "PEH ISOLATED FORM;PEH MEDIAL FORM;PEH WITH SMALL MEEM ABOVE;PEH WITH SMALL V;PEHEH",
     "PEHEH FINAL FORM;PEHEH INITIAL FORM;PEHEH ISOLATED FORM;PEHEH MEDIAL FORM",
     "REH ISOLATED FORM;RNOON;RNOON FINAL FORM;RNOON INITIAL FORM;RNOON ISOLATED FORM",
     "RNOON MEDIAL FORM;ROHINGYA YEH;RREH;RREH FINAL FORM;RREH ISOLATED FORM;SAD FINAL FORM",
     "SAD INITIAL FORM;SAD ISOLATED FORM;SAD MEDIAL FORM;SAD WITH THREE DOTS ABOVE",
     "SAD WITH THREE DOTS BELOW;SAD WITH TWO DOTS BELOW;SEEN FINAL FORM;SEEN INITIAL FORM",
     "SEEN ISOLATED FORM;SEEN MEDIAL FORM;SHEEN FINAL FORM;SHEEN INITIAL FORM",
     "SHEEN ISOLATED FORM;SHEEN MEDIAL FORM;SHEEN WITH DOT BELOW;STRAIGHT WAW;SUPERSCRIPT ALEF",
     "SWASH KAF;TCHEH;TCHEHEH;TCHEHEH FINAL FORM;TCHEHEH INITIAL FORM;TCHEHEH ISOLATED FORM",
     "TCHEHEH MEDIAL FORM;TEHEH;TEHEH FINAL FORM;TEHEH INITIAL FORM;TEHEH ISOLATED FORM",
     "TEHEH MEDIAL FORM;THAL FINAL FORM;THAL ISOLATED FORM;THEH FINAL FORM;THEH INITIAL FORM",
     "THEH ISOLATED FORM;THEH MEDIAL FORM;THIN YEH;TTEH;TTEH FINAL FORM;TTEH INITIAL FORM",
     "TTEH ISOLATED FORM;TTEH MEDIAL FORM;TTEH WITH SMALL V;TTEHEH;TTEHEH FINAL FORM",
     "TTEHEH INITIAL FORM;TTEHEH ISOLATED FORM;TTEHEH MEDIAL FORM;U;U WITH HAMZA ABOVE",
     "U WITH HAMZA ABOVE ISOLATED FORM;UIGHUR KAZAKH KIRGHIZ ALEF MAKSURA INITIAL FORM",
     "UIGHUR KAZAKH KIRGHIZ ALEF MAKSURA MEDIAL FORM;VE;VE FINAL FORM;VE ISOLATED FORM;VEH",
     "VEH FINAL FORM;VEH INITIAL FORM;VEH ISOLATED FORM;VEH MEDIAL FORM;YEH BARREE",
     "YEH INITIAL FORM;YEH MEDIAL FORM;YU;ZAH FINAL FORM;ZAH INITIAL FORM;ZAH ISOLATED FORM",
     "ZAH MEDIAL FORM;ZAIN ISOLATED FORM;ZAIN WITH INVERTED V ABOVE"]⟩,
  ⟨["ARABIC LETTER ;ARABIC MATHEMATICAL ;ARABIC MATHEMATICAL DOUBLE-STRUCK ",
    "ARABIC MATHEMATICAL LOOPED "],
    ["AIN;BEH;DAD;DAL;FEH;GHAIN;HAH;JEEM;KHAH;LAM;MEEM;NOON;QAF;REH;SAD;SEEN;SHEEN;TAH;TEH",
     "THAL;THEH;WAW;YEH;ZAH;ZAIN"]⟩,
  ⟨["ARABIC LETTER ;ARABIC MATHEMATICAL "], ["ALEF;DOTLESS BEH;DOTLESS FEH;DOTLESS QAF;KAF"]⟩,
  ⟨["ARABIC LETTER ;ARABIC LIGATURE YEH WITH HAMZA ABOVE WITH "],
    ["E FINAL FORM;E INITIAL FORM;E ISOLATED FORM;HAH INITIAL FORM;HAH ISOLATED FORM",
     "KHAH INITIAL FORM;OE FINAL FORM;OE ISOLATED FORM;U FINAL FORM;U ISOLATED FORM",
     "WAW FINAL FORM;WAW ISOLATED FORM;YU FINAL FORM;YU ISOLATED FORM"]⟩,
  ⟨["ARABIC LETTER ;ARABIC LIGATURE KAF WITH "],
    ["LAM FINAL FORM;LAM INITIAL FORM;LAM ISOLATED FORM;LAM MEDIAL FORM"]⟩,
  ⟨["ARABIC LETTER ;ARABIC LIGATURE THEH WITH ;ARABIC LIGATURE YEH WITH HAMZA ABOVE WITH "],
    ["REH FINAL FORM;YEH FINAL FORM;YEH ISOLATED FORM;ZAIN FINAL FORM"]⟩,
  ⟨["ARABIC LETTER AIN ;ARABIC LETTER JEEM ;ARABIC LETTER KEHEH ;ARABIC LETTER TAH "],
    ["FINAL FORM;INITIAL FORM;ISOLATED FORM;MEDIAL FORM;WITH THREE DOTS ABOVE",
     "WITH THREE DOTS BELOW;WITH TWO DOTS ABOVE"]⟩,
  ⟨["ARABIC LETTER AIN "],
    ["WITH THREE DOTS POINTING DOWNWARDS ABOVE;WITH TWO DOTS VERTICALLY ABOVE"]⟩,
  ⟨["ARABIC LETTER ALEF ;ARABIC LIGATURE LAM WITH ALEF "],
    ["FINAL FORM;ISOLATED FORM;MAKSURA FINAL FORM;MAKSURA ISOLATED FORM"]⟩,
  ⟨["ARABIC LETTER ALEF "], ["MAKSURA;WASLA;WASLA FINAL FORM;WASLA ISOLATED FORM"]⟩,
  ⟨["ARABIC LETTER ALEF WITH ;ARABIC LETTER WAW WITH "],
    ["DOT ABOVE;EXTENDED ARABIC-INDIC DIGIT THREE ABOVE;EXTENDED ARABIC-INDIC DIGIT TWO ABOVE",
     "HAMZA ABOVE;HAMZA ABOVE FINAL FORM;HAMZA ABOVE ISOLATED FORM"]⟩,
  ⟨["ARABIC LETTER ALEF WITH "],
    ["HAMZA BELOW;HAMZA BELOW FINAL FORM;HAMZA BELOW ISOLATED FORM;LEFT MIDDLE STROKE",
     "MADDA ABOVE;MADDA ABOVE FINAL FORM;MADDA ABOVE ISOLATED FORM;RIGHT MIDDLE STROKE",
     "RIGHT MIDDLE STROKE AND DOT ABOVE;RIGHT MIDDLE STROKE AND LEFT RING;WAVY HAMZA ABOVE",
     "WAVY HAMZA BELOW"]⟩,
  ⟨["ARABIC LETTER ALEF WITH ATTACHED "],
    ["BOTTOM RIGHT KASRA;BOTTOM RIGHT KASRA AND DOT ABOVE;BOTTOM RIGHT KASRA AND LEFT RING",
     "FATHA;KASRA;LEFT HAMZA;LEFT ROUND DOT;RIGHT HAMZA;RIGHT ROUND DOT;ROUND DOT ABOVE",
     "ROUND DOT BELOW;TOP RIGHT FATHA;TOP RIGHT FATHA AND DOT ABOVE",
     "TOP RIGHT FATHA AND LEFT RING"]⟩,
  ⟨["ARABIC LETTER BEH WITH "],
    ["DOT BELOW AND THREE DOTS ABOVE;SMALL MEEM ABOVE;SMALL V;SMALL V BELOW",
     "THREE DOTS HORIZONTALLY BELOW;THREE DOTS POINTING UPWARDS BELOW AND TWO DOTS ABOVE",
     "TWO DOTS BELOW AND DOT ABOVE"]⟩,
  ⟨["ARABIC LETTER BEH WITH ;ARABIC LETTER HAH WITH "],
    ["HAMZA ABOVE;INVERTED SMALL V BELOW;THREE DOTS POINTING UPWARDS BELOW"]⟩,
  ⟨["ARABIC LETTER DAL WITH "],
    ["DOT BELOW;DOT BELOW AND SMALL TAH;FOUR DOTS ABOVE;INVERTED SMALL V BELOW;INVERTED V;RING",
     "THREE DOTS ABOVE DOWNWARDS;THREE DOTS BELOW;TWO DOTS VERTICALLY BELOW AND SMALL TAH"]⟩,
  ⟨["ARABIC LETTER FARSI YEH ;ARABIC LETTER YEH BARREE "],
    ["FINAL FORM;ISOLATED FORM;WITH EXTENDED ARABIC-INDIC DIGIT THREE ABOVE",
     "WITH EXTENDED ARABIC-INDIC DIGIT TWO ABOVE"]⟩,
  ⟨["ARABIC LETTER FARSI YEH "],
    ["INITIAL FORM;MEDIAL FORM;WITH EXTENDED ARABIC-INDIC DIGIT FOUR BELOW;WITH INVERTED V",
     "WITH THREE DOTS ABOVE;WITH TWO DOTS ABOVE"]⟩,
  ⟨["ARABIC LETTER FEH ;ARABIC LETTER GAF ;ARABIC LETTER HEH ;ARABIC LETTER HEH DOACHASHMEE ",
    "ARABIC LETTER KAF ;ARABIC LETTER NOON ;ARABIC LETTER TCHEH ;ARABIC LETTER TEH ",
    "ARABIC LIGATURE TEH WITH MEEM "],
    ["FINAL FORM;INITIAL FORM;ISOLATED FORM;MEDIAL FORM"]⟩,
  ⟨["ARABIC LETTER FEH ;ARABIC LETTER KAF "], ["WITH DOT BELOW;WITH THREE DOTS BELOW"]⟩,
  ⟨["ARABIC LETTER FEH "],
    ["WITH DOT BELOW AND THREE DOTS ABOVE;WITH DOT MOVED BELOW",
     "WITH THREE DOTS POINTING UPWARDS BELOW;WITH TWO DOTS BELOW"]⟩,
  ⟨["ARABIC LETTER GAF "],
    ["WITH INVERTED STROKE;WITH RING;WITH THREE DOTS ABOVE;WITH TWO DOTS BELOW"]⟩,
  ⟨["ARABIC LETTER GHAIN ;ARABIC LETTER MEEM ;ARABIC LETTER QAF "],
    ["FINAL FORM;INITIAL FORM;ISOLATED FORM;MEDIAL FORM;WITH DOT BELOW;WITH THREE DOTS ABOVE"]⟩,
  ⟨["ARABIC LETTER HAH WITH "],
    ["EXTENDED ARABIC-INDIC DIGIT FOUR BELOW;SMALL ARABIC LETTER TAH ABOVE",
     "SMALL ARABIC LETTER TAH AND TWO DOTS;SMALL ARABIC LETTER TAH BELOW;THREE DOTS ABOVE",
     "TWO DOTS ABOVE;TWO DOTS VERTICAL ABOVE"]⟩,
  ⟨["ARABIC LETTER HEH "],
    ["DOACHASHMEE;GOAL;GOAL FINAL FORM;GOAL INITIAL FORM;GOAL ISOLATED FORM;GOAL MEDIAL FORM",
     "GOAL WITH HAMZA ABOVE;WITH INVERTED V;WITH YEH ABOVE;WITH YEH ABOVE FINAL FORM",
     "WITH YEH ABOVE ISOLATED FORM"]⟩,
  ⟨["ARABIC LETTER KAF "], ["WITH DOT ABOVE;WITH RING;WITH TWO DOTS ABOVE"]⟩,
  ⟨["ARABIC LETTER KEHEH ;ARABIC LETTER TCHEH "], ["WITH DOT ABOVE;WITH SMALL V"]⟩,
  ⟨["ARABIC LETTER KEHEH "],
    ["WITH THREE DOTS POINTING UPWARDS BELOW;WITH TWO DOTS VERTICALLY BELOW"]⟩,
  ⟨["ARABIC LETTER KIRGHIZ "],
    ["OE;OE FINAL FORM;OE ISOLATED FORM;YU;YU FINAL FORM;YU ISOLATED FORM"]⟩,
  ⟨["ARABIC LETTER LAM WITH "],
    ["BAR;DOT ABOVE;DOUBLE BAR;SMALL ARABIC LETTER TAH ABOVE;SMALL V"]⟩,
  ⟨["ARABIC LETTER LAM WITH ;ARABIC SYMBOL ;SYRIAC "], ["THREE DOTS ABOVE;THREE DOTS BELOW"]⟩,
  ⟨["ARABIC LETTER NOON "], ["GHUNNA;GHUNNA FINAL FORM;GHUNNA ISOLATED FORM"]⟩,
  ⟨["ARABIC LETTER NOON WITH "],
    ["DOT BELOW;INVERTED SMALL V;RING;SMALL TAH;SMALL V;THREE DOTS ABOVE;TWO DOTS BELOW"]⟩,
  ⟨["ARABIC LETTER QAF "], ["WITH DOT BELOW AND NO DOTS ABOVE"]⟩,
  ⟨["ARABIC LETTER REH WITH "],
    ["DOT BELOW;HAMZA ABOVE;LOOP;RING;SMALL NOON ABOVE;SMALL V;SMALL V BELOW;STROKE",
     "TWO DOTS ABOVE"]⟩,
  ⟨["ARABIC LETTER REH WITH ;ARABIC LETTER SEEN WITH "],
    ["DOT BELOW AND DOT ABOVE;FOUR DOTS ABOVE;INVERTED V;SMALL ARABIC LETTER TAH AND TWO DOTS",
     "TWO DOTS VERTICALLY ABOVE"]⟩,
  ⟨["ARABIC LETTER SEEN WITH "],
    ["EXTENDED ARABIC-INDIC DIGIT FOUR ABOVE;THREE DOTS BELOW",
     "THREE DOTS BELOW AND THREE DOTS ABOVE"]⟩,
  ⟨["ARABIC LETTER TAH "], ["WITH DOT BELOW"]⟩,
  ⟨["ARABIC LETTER TEH "],
    ["MARBUTA;MARBUTA FINAL FORM;MARBUTA GOAL;MARBUTA ISOLATED FORM;WITH RING",
     "WITH SMALL TEH ABOVE;WITH SMALL V;WITH THREE DOTS ABOVE DOWNWARDS"]⟩,
  ⟨["ARABIC LETTER WAW WITH "], ["DOT WITHIN;RING;TWO DOTS ABOVE"]⟩,
  ⟨["ARABIC LETTER YEH BARREE "],
    ["WITH HAMZA ABOVE;WITH HAMZA ABOVE FINAL FORM;WITH HAMZA ABOVE ISOLATED FORM"]⟩,
  ⟨["ARABIC LETTER YEH WITH "],
    ["HAMZA ABOVE;HAMZA ABOVE FINAL FORM;HAMZA ABOVE INITIAL FORM;HAMZA ABOVE ISOLATED FORM",
     "HAMZA ABOVE MEDIAL FORM;SMALL V;TAIL;THREE DOTS BELOW;TWO DOTS BELOW AND DOT ABOVE",
     "TWO DOTS BELOW AND HAMZA ABOVE;TWO DOTS BELOW AND SMALL NOON ABOVE"]⟩,
  ⟨["ARABIC LIGATURE "],
    ["AKBAR ISOLATED FORM;ALAYHAA AS-SALAAM;ALAYHE ISOLATED FORM;ALAYHI AS-SALAAM",
     "ALAYHI AS-SALAATU WAS-SALAAM;ALAYHIM AS-SALAAM;ALAYHIMAA AS-SALAAM",
     "ALEF MAKSURA WITH SUPERSCRIPT ALEF FINAL FORM",
     "ALEF MAKSURA WITH SUPERSCRIPT ALEF ISOLATED FORM;ALEF WITH FATHATAN FINAL FORM",
     "ALEF WITH FATHATAN ISOLATED FORM;ALLAH ISOLATED FORM;AZZA WA JALL",
     "BISMILLAH AR-RAHMAN AR-RAHEEM;JALLAJALALOUHOU;MOHAMMAD ISOLATED FORM",
     "QALA USED AS KORANIC STOP SIGN ISOLATED FORM;QUDDISA SIRRAH;RAHIMAHU ALLAAH",
     "RAHIMAHUM ALLAAH;RASOUL ISOLATED FORM;REH WITH SUPERSCRIPT ALEF ISOLATED FORM",
     "SALAAMUHU ALAYNAA;SALAM ISOLATED FORM;SALLA ISOLATED FORM",
     "SALLA USED AS KORANIC STOP SIGN ISOLATED FORM;SALLALLAAHU ALAYHI WA-AALIH",
     "SALLALLAHOU ALAYHE WASALLAM;SALLALLAHU ALAYHI WAAALIHEE WA-SALLAM;SUBHAANAHU WA TAAALAA",
     "TABAARAKA WA-TAAALAA;THAL WITH SUPERSCRIPT ALEF ISOLATED FORM",
     "UIGHUR KIRGHIZ YEH WITH HAMZA ABOVE WITH ALEF MAKSURA FINAL FORM",
     "UIGHUR KIRGHIZ YEH WITH HAMZA ABOVE WITH ALEF MAKSURA INITIAL FORM",
     "UIGHUR KIRGHIZ YEH WITH HAMZA ABOVE WITH ALEF MAKSURA ISOLATED FORM",
     "WASALLAM ISOLATED FORM;ZAH WITH MEEM INITIAL FORM;ZAH WITH MEEM ISOLATED FORM",
     "ZAH WITH MEEM MEDIAL FORM"]⟩,
  ⟨["ARABIC LIGATURE AIN WITH ;ARABIC LIGATURE GHAIN WITH ;ARABIC LIGATURE HAH WITH "],
    ["ALEF MAKSURA FINAL FORM;MEEM WITH ALEF MAKSURA FINAL FORM;MEEM WITH YEH FINAL FORM",
     "YEH FINAL FORM"]⟩,
  ⟨["ARABIC LIGATURE AIN WITH ;ARABIC LIGATURE DAD WITH ;ARABIC LIGATURE FEH WITH ",
    "ARABIC LIGATURE GHAIN WITH ;ARABIC LIGATURE HAH WITH ;ARABIC LIGATURE HEH WITH ",
    "ARABIC LIGATURE KHAH WITH "],
    ["ALEF MAKSURA ISOLATED FORM;JEEM INITIAL FORM;JEEM ISOLATED FORM;MEEM INITIAL FORM",
     "MEEM ISOLATED FORM;YEH ISOLATED FORM"]⟩,
  ⟨["ARABIC LIGATURE AIN WITH "],
    ["JEEM WITH MEEM FINAL FORM;JEEM WITH MEEM INITIAL FORM;MEEM WITH MEEM INITIAL FORM"]⟩,
  ⟨["ARABIC LIGATURE AIN WITH ;ARABIC LIGATURE GHAIN WITH ;ARABIC LIGATURE QAF WITH "],
    ["MEEM WITH MEEM FINAL FORM"]⟩,
  ⟨["ARABIC LIGATURE BEH WITH ;ARABIC LIGATURE NOON WITH ;ARABIC LIGATURE TEH WITH ",
    "ARABIC LIGATURE YEH WITH "],
    ["ALEF MAKSURA FINAL FORM;ALEF MAKSURA ISOLATED FORM;HAH INITIAL FORM;HAH ISOLATED FORM",
     "HEH INITIAL FORM;HEH MEDIAL FORM;JEEM INITIAL FORM;JEEM ISOLATED FORM;KHAH INITIAL FORM",
     "KHAH ISOLATED FORM;NOON FINAL FORM;REH FINAL FORM;YEH FINAL FORM;YEH ISOLATED FORM",
     "ZAIN FINAL FORM"]⟩,
  ⟨["ARABIC LIGATURE BEH WITH ;ARABIC LIGATURE NOON WITH ;ARABIC LIGATURE YEH WITH "],
    ["HAH WITH YEH FINAL FORM;MEEM FINAL FORM;MEEM INITIAL FORM;MEEM ISOLATED FORM",
     "MEEM MEDIAL FORM"]⟩,
  ⟨["ARABIC LIGATURE BEH WITH "], ["KHAH WITH YEH FINAL FORM"]⟩,
  ⟨["ARABIC LIGATURE DAD WITH ;ARABIC LIGATURE FEH WITH ;ARABIC LIGATURE KHAH WITH "],
    ["ALEF MAKSURA FINAL FORM;HAH ISOLATED FORM;YEH FINAL FORM"]⟩,
  ⟨["ARABIC LIGATURE DAD WITH ;ARABIC LIGATURE FEH WITH "],
    ["HAH INITIAL FORM;KHAH INITIAL FORM;KHAH ISOLATED FORM;KHAH WITH MEEM FINAL FORM",
     "KHAH WITH MEEM INITIAL FORM"]⟩,
  ⟨["ARABIC LIGATURE DAD WITH "],
    ["HAH WITH ALEF MAKSURA FINAL FORM;HAH WITH YEH FINAL FORM;REH FINAL FORM",
     "REH ISOLATED FORM"]⟩,
  ⟨["ARABIC LIGATURE FEH WITH "], ["MEEM WITH YEH FINAL FORM"]⟩,
  ⟨["ARABIC LIGATURE HAH WITH "], ["JEEM WITH YEH FINAL FORM"]⟩,
  ⟨["ARABIC LIGATURE HEH WITH "],
    ["MEEM WITH JEEM INITIAL FORM;MEEM WITH MEEM INITIAL FORM;SUPERSCRIPT ALEF INITIAL FORM"]⟩,
  ⟨["ARABIC LIGATURE JEEM WITH ;ARABIC LIGATURE QAF WITH ;ARABIC LIGATURE TAH WITH "],
    ["ALEF MAKSURA FINAL FORM;ALEF MAKSURA ISOLATED FORM;HAH INITIAL FORM;HAH ISOLATED FORM",
     "MEEM INITIAL FORM;MEEM ISOLATED FORM;MEEM WITH HAH FINAL FORM;MEEM WITH HAH INITIAL FORM",
     "MEEM WITH YEH FINAL FORM;YEH FINAL FORM;YEH ISOLATED FORM"]⟩,
  ⟨["ARABIC LIGATURE JEEM WITH ;ARABIC LIGATURE NOON WITH "],
    ["HAH WITH ALEF MAKSURA FINAL FORM;MEEM WITH ALEF MAKSURA FINAL FORM"]⟩,
  ⟨["ARABIC LIGATURE JEEM WITH "], ["HAH WITH YEH FINAL FORM"]⟩,
  ⟨["ARABIC LIGATURE KAF WITH "],
    ["ALEF FINAL FORM;ALEF ISOLATED FORM;MEEM FINAL FORM;MEEM WITH YEH FINAL FORM"]⟩,
  ⟨["ARABIC LIGATURE KAF WITH ;ARABIC LIGATURE SAD WITH ;ARABIC LIGATURE SEEN WITH ",
    "ARABIC LIGATURE SHEEN WITH "],
    ["ALEF MAKSURA FINAL FORM;ALEF MAKSURA ISOLATED FORM;HAH INITIAL FORM;HAH ISOLATED FORM",
     "KHAH INITIAL FORM;MEEM INITIAL FORM;MEEM ISOLATED FORM;MEEM WITH MEEM FINAL FORM",
     "MEEM WITH MEEM INITIAL FORM;YEH FINAL FORM;YEH ISOLATED FORM"]⟩,
  ⟨["ARABIC LIGATURE KAF WITH ;ARABIC LIGATURE SEEN WITH ;ARABIC LIGATURE SHEEN WITH "],
    ["JEEM INITIAL FORM;JEEM ISOLATED FORM;KHAH ISOLATED FORM;MEEM MEDIAL FORM"]⟩,
  ⟨["ARABIC LIGATURE LAM WITH ;ARABIC LIGATURE MEEM WITH "],
    ["HAH INITIAL FORM;HAH ISOLATED FORM;HAH WITH YEH FINAL FORM;JEEM INITIAL FORM",
     "JEEM ISOLATED FORM;KHAH INITIAL FORM;KHAH ISOLATED FORM;MEEM FINAL FORM",
     "MEEM INITIAL FORM;MEEM ISOLATED FORM;MEEM WITH YEH FINAL FORM;YEH ISOLATED FORM"]⟩,
  ⟨["ARABIC LIGATURE LAM WITH "],
    ["HAH WITH ALEF MAKSURA FINAL FORM;HAH WITH MEEM FINAL FORM;HEH INITIAL FORM",
     "JEEM WITH JEEM FINAL FORM;JEEM WITH JEEM INITIAL FORM;JEEM WITH MEEM FINAL FORM",
     "KHAH WITH MEEM FINAL FORM;MEEM MEDIAL FORM;MEEM WITH HAH FINAL FORM",
     "MEEM WITH HAH INITIAL FORM;YEH FINAL FORM"]⟩,
  ⟨["ARABIC LIGATURE LAM WITH ;ARABIC LIGATURE MEEM WITH ;ARABIC LIGATURE TEH WITH "],
    ["HAH WITH MEEM INITIAL FORM;JEEM WITH MEEM INITIAL FORM;JEEM WITH YEH FINAL FORM",
     "KHAH WITH MEEM INITIAL FORM"]⟩,
  ⟨["ARABIC LIGATURE LAM WITH ALEF "],
    ["WITH HAMZA ABOVE FINAL FORM;WITH HAMZA ABOVE ISOLATED FORM;WITH HAMZA BELOW FINAL FORM",
     "WITH HAMZA BELOW ISOLATED FORM;WITH MADDA ABOVE FINAL FORM",
     "WITH MADDA ABOVE ISOLATED FORM"]⟩,
  ⟨["ARABIC LIGATURE MEEM WITH "],
    ["ALEF FINAL FORM;ALEF MAKSURA ISOLATED FORM;HAH WITH JEEM INITIAL FORM",
     "JEEM WITH HAH INITIAL FORM;JEEM WITH KHAH INITIAL FORM;KHAH WITH JEEM INITIAL FORM",
     "KHAH WITH YEH FINAL FORM"]⟩,
  ⟨["ARABIC LIGATURE NOON WITH "],
    ["HAH WITH MEEM INITIAL FORM;JEEM WITH ALEF MAKSURA FINAL FORM;JEEM WITH HAH FINAL FORM",
     "JEEM WITH HAH INITIAL FORM;JEEM WITH MEEM FINAL FORM;JEEM WITH MEEM INITIAL FORM"]⟩,
  ⟨["ARABIC LIGATURE NOON WITH ;ARABIC LIGATURE YEH WITH "],
    ["JEEM WITH YEH FINAL FORM;MEEM WITH YEH FINAL FORM"]⟩,
  ⟨["ARABIC LIGATURE RADI ALLAAHU "], ["ANH;ANHAA;ANHUM;ANHUMAA;ANHUNNA"]⟩,
  ⟨["ARABIC LIGATURE SAD WITH "],
    ["HAH WITH HAH FINAL FORM;HAH WITH HAH INITIAL FORM;HAH WITH YEH FINAL FORM;REH FINAL FORM",
     "REH ISOLATED FORM"]⟩,
  ⟨["ARABIC LIGATURE SEEN WITH ;ARABIC LIGATURE SHEEN WITH "],
    ["HAH MEDIAL FORM;HEH INITIAL FORM;HEH MEDIAL FORM;JEEM MEDIAL FORM;KHAH MEDIAL FORM",
     "REH FINAL FORM;REH ISOLATED FORM"]⟩,
  ⟨["ARABIC LIGATURE SEEN WITH ;ARABIC LIGATURE TEH WITH "],
    ["HAH WITH JEEM INITIAL FORM;JEEM WITH ALEF MAKSURA FINAL FORM",
     "KHAH WITH ALEF MAKSURA FINAL FORM;KHAH WITH YEH FINAL FORM"]⟩,
  ⟨["ARABIC LIGATURE SEEN WITH "],
    ["JEEM WITH HAH INITIAL FORM;MEEM WITH HAH FINAL FORM;MEEM WITH HAH INITIAL FORM",
     "MEEM WITH JEEM INITIAL FORM"]⟩,
  ⟨["ARABIC LIGATURE SHADDA WITH "],
    ["FATHA ISOLATED FORM;FATHA MEDIAL FORM;SUPERSCRIPT ALEF ISOLATED FORM"]⟩,
  ⟨["ARABIC LIGATURE SHEEN WITH "],
    ["HAH FINAL FORM;HAH WITH MEEM FINAL FORM;HAH WITH MEEM INITIAL FORM",
     "HAH WITH YEH FINAL FORM;JEEM FINAL FORM;JEEM WITH YEH FINAL FORM;KHAH FINAL FORM",
     "MEEM FINAL FORM;MEEM WITH KHAH FINAL FORM;MEEM WITH KHAH INITIAL FORM"]⟩,
  ⟨["ARABIC LIGATURE TAH WITH "], ["MEEM MEDIAL FORM;MEEM WITH MEEM INITIAL FORM"]⟩,
  ⟨["ARABIC LIGATURE TEH WITH "], ["HAH WITH JEEM FINAL FORM"]⟩,
  ⟨["ARABIC LIGATURE TEH WITH MEEM "],
    ["WITH ALEF MAKSURA FINAL FORM;WITH HAH INITIAL FORM;WITH JEEM INITIAL FORM",
     "WITH KHAH INITIAL FORM;WITH YEH FINAL FORM"]⟩,
  ⟨["ARABIC LIGATURE THEH WITH ;ARABIC LIGATURE YEH WITH HAMZA ABOVE WITH "],
    ["ALEF MAKSURA FINAL FORM;ALEF MAKSURA ISOLATED FORM;HEH MEDIAL FORM;JEEM ISOLATED FORM",
     "MEEM FINAL FORM;MEEM INITIAL FORM;MEEM ISOLATED FORM;MEEM MEDIAL FORM;NOON FINAL FORM"]⟩,
  ⟨["ARABIC LIGATURE YEH WITH "], ["MEEM WITH MEEM FINAL FORM;MEEM WITH MEEM INITIAL FORM"]⟩,
  ⟨["ARABIC LIGATURE YEH WITH HAMZA ABOVE WITH "],
    ["AE FINAL FORM;AE ISOLATED FORM;ALEF FINAL FORM;ALEF ISOLATED FORM;HEH INITIAL FORM",
     "JEEM INITIAL FORM"]⟩,
  ⟨["ARABIC MATHEMATICAL "],
    ["DOTLESS NOON;OPERATOR HAH WITH DAL;OPERATOR MEEM WITH HAH WITH TATWEEL"]⟩,
  ⟨["ARABIC MATHEMATICAL INITIAL ;ARABIC MATHEMATICAL STRETCHED "],
    ["AIN;BEH;DAD;FEH;GHAIN;HAH;HEH;JEEM;KAF;KHAH;MEEM;NOON;QAF;SAD;SEEN;SHEEN;TEH;THEH;YEH"]⟩,
  ⟨["ARABIC MATHEMATICAL INITIAL "], ["LAM"]⟩,
  ⟨["ARABIC MATHEMATICAL LOOPED "], ["ALEF;HEH"]⟩,
  ⟨["ARABIC MATHEMATICAL STRETCHED "], ["DOTLESS BEH;DOTLESS FEH;TAH;ZAH"]⟩,
  ⟨["ARABIC MATHEMATICAL TAILED "],
    ["AIN;DAD;DOTLESS NOON;DOTLESS QAF;GHAIN;HAH;JEEM;KHAH;LAM;NOON;QAF;SAD;SEEN;SHEEN;YEH"]⟩,
  ⟨["ARABIC SIGN "],
    ["ALAYHE ASSALLAM;MISRA;RADI ALLAHOU ANHU;RAHMATULLAH ALAYHE;SAFHA",
     "SALLALLAHOU ALAYHE WASSALLAM;SAMVAT;SANAH;SINDHI AMPERSAND;SINDHI POSTPOSITION MEN",
     "TAKHALLUS"]⟩,
  ⟨["ARABIC SMALL "], ["DAMMA;FARSI YEH;FATHA;KASRA;WAW;YEH"]⟩,
  ⟨["ARABIC SMALL HIGH "],
    ["AIN;DOTLESS HEAD OF KHAH;FARSI YEH;FOOTNOTE MARKER;JEEM;LAM ALEF",
     "LIGATURE ALEF WITH LAM WITH YEH;LIGATURE QAF WITH LAM WITH ALEF MAKSURA",
     "LIGATURE SAD WITH LAM WITH ALEF MAKSURA;MADDA;MEEM INITIAL FORM;MEEM ISOLATED FORM;NOON",
     "NOON WITH KASRA;QAF;ROUNDED ZERO;SAD;SEEN;SIGN SAFHA;TAH;THREE DOTS",
     "UPRIGHT RECTANGULAR ZERO;WAW;YEH;YEH BARREE WITH TWO DOTS BELOW;ZAH;ZAIN"]⟩,
  ⟨["ARABIC SMALL HIGH WORD "],
    ["AL-JUZ;AN-NISF;AR-RUB;AS-SAJDA;ATH-THALATHA;QIF;SAH;SAKTA;WAQFA"]⟩,
  ⟨["ARABIC SMALL LOW "], ["MEEM;NOON WITH KASRA;SEEN;WAW;WORD IMAALA;WORD ISHMAAM;WORD TASHEEL"]⟩,
  ⟨["ARABIC SYMBOL ;OLD UYGHUR COMBINING ;SOGDIAN COMBINING "],
    ["DOT ABOVE;DOT BELOW;TWO DOTS ABOVE;TWO DOTS BELOW"]⟩,
  ⟨["ARABIC SYMBOL "],
    ["DOUBLE VERTICAL BAR BELOW;FOUR DOTS ABOVE;FOUR DOTS BELOW;RING;SMALL TAH ABOVE",
     "SMALL TAH BELOW;THREE DOTS POINTING DOWNWARDS ABOVE;THREE DOTS POINTING DOWNWARDS BELOW",
     "TWO DOTS VERTICALLY ABOVE;TWO DOTS VERTICALLY BELOW;WASLA ABOVE"]⟩,
  ⟨["ARABIC TATWEEL "],
    ["WITH FATHATAN ABOVE;WITH OVERSTRUCK HAMZA;WITH OVERSTRUCK WAW;WITH TWO DOTS BELOW"]⟩,
  ⟨["ARABIC TONE "],
    ["LOOP ABOVE;LOOP BELOW;ONE DOT ABOVE;ONE DOT BELOW;TWO DOTS ABOVE;TWO DOTS BELOW"]⟩,
  ⟨["ARABIC-INDIC "], ["CUBE ROOT;FOURTH ROOT;PER MILLE SIGN;PER TEN THOUSAND SIGN"]⟩,
  ⟨["ARABIC-INDIC DIGIT ;EXTENDED ARABIC-INDIC DIGIT ;HANIFI ROHINGYA DIGIT "],
    ["EIGHT;FIVE;FOUR;NINE;ONE;SEVEN;SIX;THREE;TWO;ZERO"]⟩,
  ⟨["AVESTAN LETTER "],
    ["A;AA;AAN;AAO;AE;AEE;AN;AO;BE;BHE;CE;DE;DHE;E;EE;FE;GE;GGE;GHE;HE;HME;I;II;JE;KE;LE;ME;NE",
     "NGE;NGVE;NGYE;NNE;NYE;O;OO;PE;RE;SE;SHE;SHYE;SSHE;TE;THE;TTE;U;UU;VE;XE;XVE;XYE;YE;YYE",
     "ZE;ZHE"]⟩,
  ⟨["CHORASMIAN LETTER ;NABATAEAN LETTER FINAL ;OLD SOGDIAN LETTER ;SOGDIAN LETTER "],
    ["ALEPH;BETH;HE;KAPH;LAMEDH;MEM;NUN;SHIN;YODH"]⟩,
  ⟨["CHORASMIAN LETTER "],
    ["AYIN;CURLED WAW;DALETH;GIMEL;HETH;PE;RESH;SAMEKH;SMALL ALEPH;TAW;WAW;ZAYIN"]⟩,
  ⟨["CHORASMIAN NUMBER ;NABATAEAN NUMBER ;OLD SOGDIAN NUMBER ;PSALTER PAHLAVI NUMBER "],
    ["FOUR;ONE;ONE HUNDRED;TEN;THREE;TWENTY;TWO"]⟩,
  ⟨["CYPRIOT SYLLABLE "],
    ["A;E;I;JA;JO;KA;KE;KI;KO;KU;LA;LE;LI;LO;LU;MA;ME;MI;MO;MU;NA;NE;NI;NO;NU;O;PA;PE;PI;PO;PU",
     "RA;RE;RI;RO;RU;SA;SE;SI;SO;SU;TA;TE;TI;TO;TU;U;WA;WE;WI;WO;XA;XE;ZA;ZO"]⟩,
  ⟨["ELYMAIC LETTER ;IMPERIAL ARAMAIC LETTER ;INSCRIPTIONAL PARTHIAN LETTER ",
    "MANICHAEAN LETTER ;NABATAEAN LETTER ;PALMYRENE LETTER "],
    ["ALEPH;AYIN;BETH;DALETH;GIMEL;HE;HETH;KAPH;LAMEDH;MEM;NUN;PE;QOPH;RESH;SADHE;SAMEKH;SHIN",
     "TAW;TETH;WAW;YODH;ZAYIN"]⟩,
  ⟨["HANIFI ROHINGYA "],
    ["MARK NA KHONNA;MARK SAKIN;SIGN HARBAHAY;SIGN TAHALA;SIGN TANA;SIGN TASSI;VOWEL A;VOWEL E",
     "VOWEL I;VOWEL O;VOWEL U"]⟩,
  ⟨["HANIFI ROHINGYA LETTER ;KHAROSHTHI LETTER "],
    ["A;BA;CA;DA;DDA;GA;HA;JA;KA;KHA;LA;MA;NA;NYA;PA;RA;SA;SHA;TA;TTA;VA;YA;ZA"]⟩,
  ⟨["HANIFI ROHINGYA LETTER "], ["FA;KINNA WA;KINNA YA;NGA;RRA;WA"]⟩,
  ⟨["HATRAN LETTER "], ["ALEPH;DALETH-RESH;PE"]⟩,
  ⟨["HATRAN LETTER ;OLD SOUTH ARABIAN LETTER "],
    ["AYN;BETH;GIMEL;HE;HETH;KAPH;LAMEDH;MEM;NUN;QOPH;SADHE;SAMEKH;SHIN;TAW;TETH;WAW;YODH;ZAYN"]⟩,
  ⟨["HATRAN NUMBER ;MANICHAEAN NUMBER "], ["FIVE;ONE;ONE HUNDRED;TEN;TWENTY"]⟩,
  ⟨["HEBREW "], ["MARK LOWER DOT;MARK MASORA CIRCLE;MARK UPPER DOT;YOD TRIANGLE"]⟩,
  ⟨["HEBREW ACCENT "],
    ["ATNAH HAFUKH;DARGA;DEHI;ETNAHTA;GERESH;GERESH MUQDAM;GERSHAYIM;ILUY;MAHAPAKH;MERKHA",
     "MERKHA KEFULA;MUNAH;OLE;PASHTA;PAZER;QADMA;QARNEY PARA;REVIA;SEGOL;SHALSHELET",
     "TELISHA GEDOLA;TELISHA QETANA;TEVIR;TIPEHA;YERAH BEN YOMO;YETIV;ZAQEF GADOL;ZAQEF QATAN",
     "ZARQA;ZINOR"]⟩,
  ⟨["HEBREW LETTER "],
    ["ALEF;ALEF WITH MAPIQ;ALEF WITH PATAH;ALEF WITH QAMATS;ALTERNATIVE AYIN",
     "ALTERNATIVE PLUS SIGN;AYIN;BET;BET WITH DAGESH;BET WITH RAFE;DALET;DALET WITH DAGESH",
     "GIMEL;GIMEL WITH DAGESH;HE;HE WITH MAPIQ;HET;KAF WITH RAFE;LAMED;LAMED WITH DAGESH",
     "MEM WITH DAGESH;NUN WITH DAGESH;PE WITH RAFE;QOF;QOF WITH DAGESH;RESH;RESH WITH DAGESH",
     "SAMEKH;SAMEKH WITH DAGESH;SHIN;SHIN WITH DAGESH;SHIN WITH DAGESH AND SHIN DOT",
     "SHIN WITH DAGESH AND SIN DOT;SHIN WITH SHIN DOT;SHIN WITH SIN DOT;TAV;TAV WITH DAGESH",
     "TET;TET WITH DAGESH;TSADI WITH DAGESH;VAV;VAV WITH DAGESH;VAV WITH HOLAM;YOD",
     "YOD WITH DAGESH;YOD WITH HIRIQ;ZAYIN;ZAYIN WITH DAGESH"]⟩,
  ⟨["HEBREW LETTER ;HEBREW LETTER FINAL "],
    ["KAF;KAF WITH DAGESH;MEM;NUN;PE;PE WITH DAGESH;TSADI"]⟩,
  ⟨["HEBREW LETTER WIDE "], ["ALEF;DALET;FINAL MEM;HE;KAF;LAMED;RESH;TAV"]⟩,
  ⟨["HEBREW LIGATURE "],
    ["ALEF LAMED;YIDDISH DOUBLE VAV;YIDDISH DOUBLE YOD;YIDDISH VAV YOD;YIDDISH YOD YOD PATAH"]⟩,
  ⟨["HEBREW POINT "],
    ["DAGESH OR MAPIQ;HATAF PATAH;HATAF QAMATS;HATAF SEGOL;HIRIQ;HOLAM;HOLAM HASER FOR VAV",
     "JUDEO-SPANISH VARIKA;METEG;PATAH;QAMATS;QAMATS QATAN;QUBUTS;RAFE;SEGOL;SHEVA;SHIN DOT",
     "SIN DOT;TSERE"]⟩,
  ⟨["HEBREW PUNCTUATION "], ["GERESH;GERSHAYIM;MAQAF;NUN HAFUKHA;PASEQ;SOF PASUQ"]⟩,
  ⟨["IMPERIAL ARAMAIC NUMBER ;PHOENICIAN NUMBER "], ["ONE;ONE HUNDRED;TEN;THREE;TWENTY;TWO"]⟩,
  ⟨["IMPERIAL ARAMAIC NUMBER "], ["ONE THOUSAND;TEN THOUSAND"]⟩,
  ⟨["INDIC SIYAQ "],
    ["ALTERNATE LAKH MARK;FRACTION ONE HALF;FRACTION ONE QUARTER;FRACTION THREE QUARTERS",
     "LAKH MARK;PLACEHOLDER;RUPEE MARK"]⟩,
  ⟨["INDIC SIYAQ NUMBER "],
    ["ALTERNATE ONE;ALTERNATE TEN THOUSAND;ALTERNATE TWO;KAROR;KARORAN;LAKH;LAKHAN"]⟩,
  ⟨["INDIC SIYAQ NUMBER ;MEROITIC CURSIVE NUMBER ;OTTOMAN SIYAQ NUMBER "],
    ["EIGHT;EIGHT THOUSAND;EIGHTY THOUSAND;FIFTY THOUSAND;FIVE;FIVE THOUSAND;FORTY THOUSAND",
     "FOUR;FOUR THOUSAND;NINE;NINE THOUSAND;NINETY THOUSAND;ONE;ONE THOUSAND;SEVEN",
     "SEVEN THOUSAND;SEVENTY THOUSAND;SIX;SIX THOUSAND;SIXTY THOUSAND;TEN THOUSAND",
     "THIRTY THOUSAND;THREE;THREE THOUSAND;TWENTY THOUSAND;TWO;TWO THOUSAND"]⟩,
  ⟨["INDIC SIYAQ NUMBER ;MEROITIC CURSIVE NUMBER ;OTTOMAN SIYAQ NUMBER ;RUMI NUMBER "],
    ["EIGHT HUNDRED;FIFTY;FIVE HUNDRED;FORTY;FOUR HUNDRED;NINE HUNDRED;ONE HUNDRED",
     "SEVEN HUNDRED;SEVENTY;SIX HUNDRED;SIXTY;TEN;THIRTY;THREE HUNDRED;TWENTY;TWO HUNDRED"]⟩,
  ⟨["INDIC SIYAQ NUMBER ;OTTOMAN SIYAQ NUMBER ;RUMI NUMBER "], ["EIGHTY;NINETY"]⟩,
  ⟨["INDIC SIYAQ NUMBER PREFIXED ;RUMI DIGIT "], ["EIGHT;FIVE;FOUR;NINE;ONE;SEVEN;SIX;THREE;TWO"]⟩,
  ⟨["INSCRIPTIONAL PAHLAVI LETTER ;PSALTER PAHLAVI LETTER "],
    ["ALEPH;BETH;DALETH;GIMEL;HE;HETH;KAPH;LAMEDH;MEM-QOPH;NUN;PE;SADHE;SAMEKH;SHIN;TAW",
     "WAW-AYIN-RESH;YODH;ZAYIN"]⟩,
  ⟨["INSCRIPTIONAL PAHLAVI LETTER "], ["TETH"]⟩,
  ⟨["INSCRIPTIONAL PAHLAVI NUMBER ;INSCRIPTIONAL PARTHIAN NUMBER "],
    ["FOUR;ONE;ONE HUNDRED;ONE THOUSAND;TEN;THREE;TWENTY;TWO"]⟩,
  ⟨["KHAROSHTHI "],
    ["DIGIT FOUR;DIGIT ONE;DIGIT THREE;DIGIT TWO;FRACTION ONE HALF;NUMBER ONE HUNDRED",
     "NUMBER ONE THOUSAND;NUMBER TEN;NUMBER TWENTY;VIRAMA"]⟩,
  ⟨["KHAROSHTHI LETTER "], ["BHA;CHA;DDHA;DHA;GHA;KKA;NNA;PHA;SSA;THA;TTHA;TTTA;TTTHA;VHA"]⟩,
  ⟨["KHAROSHTHI PUNCTUATION "],
    ["CIRCLE;CRESCENT BAR;DANDA;DOT;DOUBLE DANDA;LINES;LOTUS;MANGALAM;SMALL CIRCLE"]⟩,
  ⟨["KHAROSHTHI SIGN "], ["ANUSVARA;BAR ABOVE;CAUDA;DOT BELOW;DOUBLE RING BELOW;VISARGA"]⟩,
  ⟨["KHAROSHTHI VOWEL "], ["LENGTH MARK;SIGN E;SIGN I;SIGN O;SIGN U;SIGN VOCALIC R"]⟩,
  ⟨["LARGE "],
    ["ONE DOT OVER TWO DOTS PUNCTUATION;ONE RING OVER TWO RINGS PUNCTUATION",
     "TWO DOTS OVER ONE DOT PUNCTUATION;TWO RINGS OVER ONE RING PUNCTUATION"]⟩,
  ⟨["LYDIAN LETTER "], ["A;AN;B;C;D;E;EN;F;G;I;K;L;LY;M;N;NN;O;Q;R;S;SS;T;TT;U;V;Y"]⟩,
  ⟨["MANDAIC "], ["AFFRICATION MARK;GEMINATION MARK;PUNCTUATION;VOCALIZATION MARK"]⟩,
  ⟨["MANDAIC LETTER "],
    ["AB;AD;AG;AH;AIN;AK;AKSA;AL;AM;AN;AP;AQ;AR;AS;ASH;ASZ;AT;ATT;AZ;DUSHENNA;HALQA;IN;IT;KAD",
     "USHENNA"]⟩,
  ⟨["MANICHAEAN "], ["ABBREVIATION MARK ABOVE;ABBREVIATION MARK BELOW;SIGN UD"]⟩,
  ⟨["MANICHAEAN LETTER "],
    ["AAYIN;BHETH;DHAMEDH;FE;GHIMEL;JAYIN;JHAYIN;KHAPH;QHOPH;SSHIN;THAMEDH;XAPH;XOPH;ZHAYIN"]⟩,
  ⟨["MANICHAEAN PUNCTUATION "],
    ["DOT;DOT WITHIN DOT;DOUBLE DOT WITHIN DOT;FLEURON;LINE FILLER;STAR;TWO DOTS"]⟩,
  ⟨["MEROITIC "],
    ["CURSIVE LOGOGRAM IMN;CURSIVE LOGOGRAM RMT;HIEROGLYPHIC SYMBOL VIDJ",
     "HIEROGLYPHIC SYMBOL VIDJ-2"]⟩,
  ⟨["MEROITIC CURSIVE FRACTION "],
    ["EIGHT TWELFTHS;ELEVEN TWELFTHS;FIVE TWELFTHS;FOUR TWELFTHS;NINE TWELFTHS;ONE HALF",
     "ONE TWELFTH;SEVEN TWELFTHS;SIX TWELFTHS;TEN TWELFTHS;THREE TWELFTHS;TWO TWELFTHS"]⟩,
  ⟨["MEROITIC CURSIVE LETTER ;MEROITIC HIEROGLYPHIC LETTER "],
    ["A;BA;DA;E;HHA;I;KA;KHA;LA;MA;NA;NE;O;PA;QA;RA;SA;SE;TA;TE;TO;WA;YA"]⟩,
  ⟨["MEROITIC CURSIVE LETTER "], ["ARCHAIC SA"]⟩,
  ⟨["MEROITIC CURSIVE NUMBER "],
    ["EIGHT HUNDRED THOUSAND;FIVE HUNDRED THOUSAND;FOUR HUNDRED THOUSAND;NINE HUNDRED THOUSAND",
     "ONE HUNDRED THOUSAND;SEVEN HUNDRED THOUSAND;SIX HUNDRED THOUSAND;THREE HUNDRED THOUSAND",
     "TWO HUNDRED THOUSAND"]⟩,
  ⟨["MEROITIC HIEROGLYPHIC LETTER "], ["BA-2;NA-2;NE-2;RA-2;SA-2;TA-2;TE-2"]⟩,
  ⟨["NABATAEAN NUMBER ;OLD SOGDIAN NUMBER "], ["FIVE"]⟩,
  ⟨["OLD "],
    ["NORTH ARABIAN NUMBER ONE;NORTH ARABIAN NUMBER TEN;NORTH ARABIAN NUMBER TWENTY",
     "SOGDIAN FRACTION ONE HALF;SOGDIAN LIGATURE AYIN-DALETH;SOUTH ARABIAN NUMBER FIFTY",
     "SOUTH ARABIAN NUMBER ONE;SOUTH ARABIAN NUMERIC INDICATOR"]⟩,
  ⟨["OLD NORTH ARABIAN LETTER "],
    ["AIN;ALEF;BEH;DAD;DAL;ES-1;ES-2;ES-3;FEH;GEEM;GHAIN;HAH;HEH;KAF;KHAH;LAM;MEEM;NOON;QAF",
     "REH;SAD;TAH;TEH;THAL;THEH;WAW;YEH;ZAH;ZAIN"]⟩,
  ⟨["OLD SOGDIAN LETTER "], ["ALTERNATE AYIN;RESH-AYIN-DALETH"]⟩,
  ⟨["OLD SOGDIAN LETTER ;SOGDIAN LETTER "], ["AYIN;GIMEL;HETH;PE;SADHE;SAMEKH;TAW;WAW;ZAYIN"]⟩,
  ⟨["OLD SOGDIAN LETTER FINAL "],
    ["ALEPH;BETH;HE;NUN;NUN WITH VERTICAL TAIL;SADHE;SADHE WITH VERTICAL TAIL;TAW",
     "TAW WITH VERTICAL TAIL"]⟩,
  ⟨["OLD SOGDIAN NUMBER "], ["THIRTY"]⟩,
  ⟨["OLD SOUTH ARABIAN LETTER "],
    ["ALEF;DALETH;DHADHE;DHALETH;FE;GHAYN;KHETH;RESH;SAT;THAW;THETH"]⟩,
  ⟨["OLD UYGHUR LETTER "],
    ["ALEPH;BETH;FINAL HETH;GIMEL-HETH;KAPH;LAMEDH;LESH;MEM;NUN;PE;RESH;SADHE;SAMEKH;SHIN;TAW",
     "WAW;YODH;ZAYIN"]⟩,
  ⟨["OLD UYGHUR PUNCTUATION "], ["BAR;FOUR DOTS;TWO BARS;TWO DOTS"]⟩,
  ⟨["OTTOMAN "], ["SIYAQ FRACTION ONE HALF;SIYAQ FRACTION ONE SIXTH;SIYAQ MARRATAN"]⟩,
  ⟨["OTTOMAN SIYAQ ALTERNATE NUMBER "],
    ["EIGHT;FIVE;FOUR;FOUR HUNDRED;NINE;SEVEN;SIX;SIX HUNDRED;TEN;TEN THOUSAND;THREE;TWO",
     "TWO THOUSAND"]⟩,
  ⟨["PALMYRENE LETTER "], ["FINAL NUN"]⟩,
  ⟨["PALMYRENE NUMBER "], ["FIVE;FOUR;ONE;TEN;THREE;TWENTY;TWO"]⟩,
  ⟨["PHOENICIAN LETTER "],
    ["AIN;ALF;BET;DELT;GAML;HE;HET;KAF;LAMD;MEM;NUN;PE;QOF;ROSH;SADE;SEMK;SHIN;TAU;TET;WAU;YOD",
     "ZAI"]⟩,
  ⟨["PSALTER PAHLAVI "],
    ["FOUR DOTS WITH CROSS;FOUR DOTS WITH DOT;SECTION MARK;TURNED SECTION MARK"]⟩,
  ⟨["RUMI FRACTION "], ["ONE HALF;ONE QUARTER;ONE THIRD;TWO THIRDS"]⟩,
  ⟨["SAMARITAN "],
    ["ABBREVIATION MARK;MODIFIER LETTER EPENTHETIC YUT;MODIFIER LETTER I",
     "MODIFIER LETTER SHORT A"]⟩,
  ⟨["SAMARITAN LETTER "],
    ["ALAF;BAA;BIT;DALAT;FI;GAMAN;IN;IT;IY;KAAF;LABAT;MIM;NUN;QUF;RISH;SHAN;SINGAAT;TAAF;TIT",
     "TSAADIY;YUT;ZEN"]⟩,
  ⟨["SAMARITAN MARK "], ["DAGESH;EPENTHETIC YUT;IN;IN-ALAF;NEQUDAA;OCCLUSION"]⟩,
  ⟨["SAMARITAN PUNCTUATION "],
    ["AFSAAQ;ANGED;ANNAAU;ARKAANU;ATMAAU;BAU;MELODIC QITSA;NEQUDAA;QITSA;SHIYYAALAA",
     "SOF MASHFAAT;TURU;ZAEF;ZIQAA"]⟩,
  ⟨["SAMARITAN VOWEL SIGN "],
    ["A;AA;E;I;LONG A;LONG AA;LONG E;LONG I;LONG U;O;OVERLONG A;OVERLONG AA;SHORT A;SUKUN;U"]⟩,
  ⟨["SOGDIAN COMBINING "],
    ["CURVE ABOVE;CURVE BELOW;HOOK ABOVE;HOOK BELOW;LONG HOOK BELOW;RESH BELOW;STROKE BELOW"]⟩,
  ⟨["SOGDIAN LETTER "], ["FETH;LESH;RESH-AYIN"]⟩,
  ⟨["SOGDIAN NUMBER "], ["ONE;ONE HUNDRED;TEN;TWENTY"]⟩,
  ⟨["SOGDIAN PUNCTUATION "],
    ["CIRCLE WITH DOT;HALF CIRCLE WITH DOT;TWO CIRCLES WITH DOTS;TWO VERTICAL BARS",
     "TWO VERTICAL BARS WITH DOTS"]⟩,
  ⟨["SYRIAC "],
    ["ABBREVIATION MARK;BARREKH;COLON SKEWED LEFT;COLON SKEWED RIGHT;CONTRACTION",
     "DOTTED ZLAMA ANGULAR;DOTTED ZLAMA HORIZONTAL;END OF PARAGRAPH;ESASA ABOVE;ESASA BELOW",
     "FEMININE DOT;HBASA ABOVE;HBASA BELOW;HBASA-ESASA DOTTED;HORIZONTAL COLON;MUSIC",
     "OBLIQUE LINE ABOVE;OBLIQUE LINE BELOW;PTHAHA ABOVE;PTHAHA BELOW;PTHAHA DOTTED;QUSHSHAYA",
     "RBASA ABOVE;RBASA BELOW;RUKKAKHA;RWAHA;TWO VERTICAL DOTS ABOVE;TWO VERTICAL DOTS BELOW",
     "ZQAPHA ABOVE;ZQAPHA BELOW;ZQAPHA DOTTED"]⟩,
  ⟨["SYRIAC HARKLEAN "], ["ASTERISCUS;METOBELUS;OBELUS"]⟩,
  ⟨["SYRIAC LETTER "],
    ["ALAPH;BETH;DALATH;DOTLESS DALATH RISH;E;FINAL SEMKATH;GAMAL;GAMAL GARSHUNI;HE;HETH;KAPH",
     "LAMADH;MIM;NUN;PE;PERSIAN BHETH;PERSIAN DHALATH;PERSIAN GHAMAL;QAPH;REVERSED PE;RISH",
     "SADHE;SEMKATH;SHIN;SOGDIAN FE;SOGDIAN KHAPH;SOGDIAN ZHAIN;SUPERSCRIPT ALAPH;TAW;TETH",
     "TETH GARSHUNI;WAW;YUDH;YUDH HE;ZAIN"]⟩,
  ⟨["SYRIAC LETTER MALAYALAM "], ["BHA;JA;LLA;LLLA;NGA;NNA;NNNA;NYA;RA;SSA;TTA"]⟩,
  ⟨["SYRIAC SUBLINEAR "], ["COLON;COLON SKEWED RIGHT;FULL STOP"]⟩,
  ⟨["SYRIAC SUPRALINEAR "], ["COLON;COLON SKEWED LEFT;FULL STOP"]⟩,
  ⟨["THAANA "],
    ["AABAAFILI;ABAFILI;EBEFILI;EEBEEFILI;EYBEYFILI;IBIFILI;OABOAFILI;OBOFILI;OOBOOFILI;SUKUN",
     "UBUFILI"]⟩,
  ⟨["THAANA LETTER "],
    ["AINU;ALIFU;BAA;CHAVIYANI;DAADHU;DAVIYANI;DHAALU;FAAFU;GAAFU;GHAINU;GNAVIYANI;HAA;HHAA",
     "JAVIYANI;KAAFU;KHAA;LAAMU;LHAVIYANI;MEEMU;NAA;NOONU;PAVIYANI;QAAFU;RAA;SAADHU;SEENU",
     "SHAVIYANI;SHEENU;TAVIYANI;THAA;THAALU;TO;TTAA;VAAVU;WAAVU;YAA;ZAA;ZAVIYANI;ZO"]⟩,
  ⟨["YEZIDI "], ["COMBINING HAMZA MARK;COMBINING MADDA MARK;HYPHENATION MARK"]⟩,
  ⟨["YEZIDI LETTER "],
    ["BE;CHHIM;CHIM;CIM;DAD;DAL;ELIF;ET;EW;EYN;FA;GAF;HAY;HHA;JA;KAF;KHAF;LAM",
     "LAM WITH DOT ABOVE;MIM;NUN;OW;PE;PHE;QAF;RA;RHA;SAD;SE;SHIN;SIN;TA;THE;UM;VA",
     "VA ALTERNATE FORM;WAW;XA;XHEYN;YOT;YOT WITH CIRCUMFLEX ABOVE;ZA;ZAL;ZE"]⟩]

end WireModel.Text.CharacterName
