import WireModel.Text.CharacterName.African
import WireModel.Text.CharacterName.American
import WireModel.Text.CharacterName.Ancient
import WireModel.Text.CharacterName.Asian
import WireModel.Text.CharacterName.EastAsian
import WireModel.Text.CharacterName.European
import WireModel.Text.CharacterName.Indic
import WireModel.Text.CharacterName.Latin
import WireModel.Text.CharacterName.Pictures
import WireModel.Text.CharacterName.Special
import WireModel.Text.CharacterName.Symbols

/-!
# Names of characters

Which names characters have in Unicode 14. Most of them are listed by script, and case does not
matter in them. The names of unified ideographs, of syllables of Hangul and of patterns of Braille
follow rules, and the first two of these are in upper case only.
-/

namespace WireModel.Text

namespace CharacterName

/-! ## Names that follow rules -/

/-- The unified ideographs. -/
def ideographs : Array (Nat × Nat) := #[
    (0x3400, 0x4DBF), (0x4E00, 0x9FFF), (0x20000, 0x2A6DF), (0x2A700, 0x2B738),
    (0x2B740, 0x2B81D), (0x2B820, 0x2CEA1), (0x2CEB0, 0x2EBE0), (0x30000, 0x3134A)]

/-- What follows a beginning of a name, if it is one. -/
def after? (beginning : String) (name : List Char) : Option (List Char) :=
  let cs := beginning.toList
  if cs.isPrefixOf name then some (name.drop cs.length) else none

/-- Names of ideographs, which end with the number of the character in four or five digits. -/
def isIdeograph (name : List Char) : Bool :=
  (after? "CJK UNIFIED IDEOGRAPH-" name).any fun digits =>
    (digits.length == 4 || digits.length == 5) &&
      (number? 16 digits).any fun n => ideographs.any fun (first, last) => first ≤ n && n ≤ last

/-- The consonants that a syllable starts with. -/
def initials : List String :=
  ["", "G", "GG", "N", "D", "DD", "R", "M", "B", "BB", "S", "SS", "J", "JJ", "C", "K", "T", "P",
    "H"]

/-- The vowels of a syllable. -/
def vowels : List String :=
  ["A", "AE", "YA", "YAE", "EO", "E", "YEO", "YE", "O", "WA", "WAE", "OE", "YO", "U", "WEO", "WE",
    "WI", "YU", "EU", "YI", "I"]

/-- The consonants that a syllable ends with. -/
def finals : List String :=
  ["", "G", "GG", "GS", "N", "NJ", "NH", "D", "L", "LG", "LM", "LB", "LS", "LT", "LP", "LH", "M",
    "B", "BS", "S", "SS", "NG", "J", "C", "K", "T", "P", "H"]

/-- Names of syllables, which end with their sounds. -/
def isSyllable (name : List Char) : Bool :=
  (after? "HANGUL SYLLABLE " name).any fun sounds =>
    initials.any fun initial => (after? initial sounds).any fun rest =>
      vowels.any fun vowel => (after? vowel rest).any fun rest =>
        finals.contains (String.ofList rest)

/-- Whether digits are increasing. -/
def areIncreasing (digits : List Char) : Bool :=
  (digits.zip digits.tail).all fun (c, d) => c < d

/-- Names of patterns, which end with the numbers of their dots. -/
def isDots (name : List Char) : Bool :=
  (after? "BRAILLE PATTERN DOTS-" name).any fun digits =>
    !digits.isEmpty && digits.all (fun c => '1' ≤ c && c ≤ '8') && areIncreasing digits

/-! ## Listed names -/

/-- The names that characters have beside their first one. -/
def aliases : List Family := [
  ⟨[""],
    ["ACK;ACKNOWLEDGE;ALERT;ALM;APC;APPLICATION PROGRAM COMMAND;BACKSPACE;BEL;BOM;BPH",
     "BREAK PERMITTED HERE;BS;BYTE ORDER MARK",
     "BYZANTINE MUSICAL SYMBOL FTHORA SKLIRON CHROMA VASIS;CAN;CANCEL;CANCEL CHARACTER",
     "CARRIAGE RETURN;CCH;CGJ;CONTROL SEQUENCE INTRODUCER;CR;CSI",
     "CUNEIFORM SIGN NU11 OVER NU11 BUR OVER BUR;CUNEIFORM SIGN NU11 TENU;DATA LINK ESCAPE;DC1",
     "DC2;DC3;DC4;DCS;DEL;DELETE;DLE;ENQ;ENQUIRY;EOL;EOM;EOT;EPA;ESA;ESC;ESCAPE;ETB;ETX;FF",
     "FILE SEPARATOR;FORM FEED;FS;FSI;FVS1;FVS2;FVS3;FVS4;GROUP SEPARATOR;GS",
     "HENTAIGANA LETTER E-1;HIGH OCTET PRESET;HOP;HT;HTJ;HTS;IND;INDEX;KANNADA LETTER LLLA",
     "LATIN CAPITAL LETTER GHA;LATIN SMALL LETTER GHA",
     "LEFTWARDS TRIANGLE-HEADED ARROW WITH DOUBLE VERTICAL STROKE;LF;LINE FEED;LINE TABULATION",
     "LINE TABULATION SET;LOCKING-SHIFT ONE;LOCKING-SHIFT ZERO;LRE;LRI;LRM;LRO;MESSAGE WAITING",
     "MICR DASH SYMBOL;MICR ON US SYMBOL;MMSP;MVS;MW;MYANMAR LETTER KHAMTI LLA;NAK;NBH;NBSP",
     "NEGATIVE ACKNOWLEDGE;NEL;NEW LINE;NEXT LINE;NL;NNBSP;NO BREAK HERE;NUL;NULL",
     "OPERATING SYSTEM COMMAND;OSC;PAD;PADDING CHARACTER;PDF;PDI;PLD;PLU;PM",
     "PRESENTATION FORM FOR VERTICAL RIGHT WHITE LENTICULAR BRACKET;PRIVACY MESSAGE;PU1;PU2",
     "RECORD SEPARATOR;REVERSE INDEX;REVERSE LINE FEED;RI",
     "RIGHTWARDS TRIANGLE-HEADED ARROW WITH DOUBLE VERTICAL STROKE;RLE;RLI;RLM;RLO;RS;SCI",
     "SET TRANSMIT STATE;SGC;SHIFT IN;SHIFT OUT;SHY;SI;SINGLE-SHIFT-2;SINGLE-SHIFT-3;SO;SOH",
     "SOS;SP;SPA;SS2;SS3;SSA;ST;STRING TERMINATOR;STS;STX;SUB;SUBSTITUTE;SYN;SYNCHRONOUS IDLE",
     "SYRIAC SUBLINEAR COLON SKEWED LEFT;TAB;TIBETAN MARK BKA- SHOG GI MGO RGYAN",
     "UNIT SEPARATOR;US;VERTICAL TABULATION;VERTICAL TABULATION SET;VT;VTS",
     "WEIERSTRASS ELLIPTIC FUNCTION;WJ;YI SYLLABLE ITERATION MARK;ZWJ;ZWNBSP;ZWNJ;ZWSP"]⟩,
  ⟨["CHARACTER ;HORIZONTAL "], ["TABULATION;TABULATION SET;TABULATION WITH JUSTIFICATION"]⟩,
  ⟨["DEVICE CONTROL ;INFORMATION SEPARATOR "], ["FOUR;ONE;THREE;TWO"]⟩,
  ⟨["DEVICE CONTROL "], ["STRING"]⟩,
  ⟨["END OF "],
    ["GUARDED AREA;LINE;MEDIUM;PROTECTED AREA;SELECTED AREA;TEXT;TRANSMISSION",
     "TRANSMISSION BLOCK"]⟩,
  ⟨["HANGUL JONGSEONG "], ["SSANGYESIEUNG;YESIEUNG-KHIEUKH;YESIEUNG-KIYEOK;YESIEUNG-SSANGKIYEOK"]⟩,
  ⟨["LAO LETTER "], ["FO FAY;FO FON;LO;RO"]⟩,
  ⟨["MEDEFAIDRIN "], ["CAPITAL LETTER H;CAPITAL LETTER NG;SMALL LETTER H;SMALL LETTER NG"]⟩,
  ⟨["PARTIAL "], ["LINE BACKWARD;LINE DOWN;LINE FORWARD;LINE UP"]⟩,
  ⟨["PRIVATE "], ["USE ONE;USE TWO;USE-1;USE-2"]⟩,
  ⟨["SINGLE "], ["CHARACTER INTRODUCER;GRAPHIC CHARACTER INTRODUCER;SHIFT THREE;SHIFT TWO"]⟩,
  ⟨["START "],
    ["OF GUARDED AREA;OF HEADING;OF PROTECTED AREA;OF SELECTED AREA;OF STRING;OF TEXT"]⟩]

def aliasesSeries : List Series := [
  ⟨"VS", 10, 1, 1, 256⟩]

def families : List (List Family) :=
  [latin, symbols, pictures, european, asian, eastAsian, indic, african, american, ancient,
    special, aliases]

def series : List (List Series) :=
  [symbolsSeries, eastAsianSeries, ancientSeries, specialSeries, aliasesSeries]

/-- Names that are listed, in upper case. -/
def isListed (name : String) : Bool :=
  families.any (fun fs => fs.any fun f => f.has name) ||
    series.any fun ss => ss.any fun s => s.has name

end CharacterName

/-- Whether a character has this name. -/
def isCharacterName (name : List Char) : Bool :=
  let upper := name.map Char.toUpper
  CharacterName.isIdeograph name || CharacterName.isSyllable name || CharacterName.isDots upper ||
    CharacterName.isListed (String.ofList upper)

end WireModel.Text
