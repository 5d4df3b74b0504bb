import WireModel.Proofs.Emit.Layout
import WireModel.Proofs.Emit.Pieces

/-!
# What a module binds

A reader of a module that looks at the first characters of its lines finds every name that it
imports, defines or sets. All other lines start with blanks or brackets, also those in docstrings.

* **`boundNames`**: the names that a module binds at its top level, in order.
-/

namespace WireModel.Emit

open Text (continuesIdentifier)

/-! ## Reading -/

/-- The words of a line. -/
def wordsOf (line : List Char) : List String :=
  ((line.splitOnP fun c => !continuesIdentifier c).filter fun word => !word.isEmpty).map
    String.ofList

/-- The names that a line binds: the variable that it annotates or sets, the class or the function
that starts with it, or what it imports. -/
def boundBy (line : List Char) : List String :=
  let first := String.ofList (line.takeWhile continuesIdentifier)
  let behind := line.dropWhile continuesIdentifier
  if first.isEmpty then []
  else if behind.head? == some ':' || " = ".toList.isPrefixOf behind then [first]
  else if first == "class" || first == "def" then (wordsOf behind).take 1
  else if first == "from" then ((wordsOf behind).dropWhile (· != "import")).drop 1
  else []

/-- Whether a line opens a list of imports. -/
def opensImports (line : List Char) : Bool :=
  "from ".toList.isPrefixOf line && line.getLast? == some '('

/-- The names that lines bind; inside of a list of imports these are all words up to the line that
closes it. -/
def bindings : Bool → List (List Char) → List String
  | _, [] => []
  | true, line :: rest =>
    if line.head? == some ')' then bindings false rest else wordsOf line ++ bindings true rest
  | false, line :: rest => boundBy line ++ bindings (opensImports line) rest

/-- The names that a module binds at its top level, told apart as they are written. -/
def boundNames (text : String) : List String := bindings false (text.toList.splitOn '\n')

/-! ## Lines that bind nothing -/

/-- A text in which no line starts with an identifier. -/
def Silent (s : String) : Prop :=
  ∀ line ∈ s.toList.splitOn '\n', ∀ c, line.head? = some c → continuesIdentifier c = false

/-- Lines with the names that they bind, whatever is behind them. -/
def Binds (lines : List String) (names : List String) : Prop :=
  ∀ rest, bindings false ((terminated lines ++ rest).splitOn '\n') =
    names ++ bindings false (rest.splitOn '\n')

/-- A line that starts with no identifier binds nothing. -/
theorem bindings_cons_silent {line : List Char}
    (silent : ∀ c, line.head? = some c → continuesIdentifier c = false)
    (rest : List (List Char)) : bindings false (line :: rest) = bindings false rest := by
  cases line with
  | nil => rfl
  | cons c cs =>
    have stop := silent c rfl
    have first : (c :: cs).takeWhile continuesIdentifier = [] := by
      rw [List.takeWhile_cons, stop, if_neg Bool.false_ne_true]
    have bound : boundBy (c :: cs) = [] := by
      rw [boundBy, first]
      rfl
    have opens : opensImports (c :: cs) = false := by
      rw [opensImports, Bool.and_eq_false_iff]
      refine .inl (Bool.eq_false_iff.mpr fun starts => ?_)
      obtain ⟨behind, same⟩ := List.isPrefixOf_iff_prefix.mp starts
      cases same
      cases stop
    rw [bindings, bound, opens]
    rfl

theorem bindings_append_silent {lines : List (List Char)}
    (silent : ∀ line ∈ lines, ∀ c, line.head? = some c → continuesIdentifier c = false)
    (rest : List (List Char)) : bindings false (lines ++ rest) = bindings false rest := by
  induction lines with
  | nil => rfl
  | cons line lines ih =>
    rw [List.cons_append, bindings_cons_silent (silent line List.mem_cons_self),
      ih fun line mem => silent line (List.mem_cons_of_mem _ mem)]

namespace Binds

variable {first second : List String} {names others : List String}

theorem nil : Binds [] [] := fun _ => rfl

theorem append (h : Binds first names) (h' : Binds second others) :
    Binds (first ++ second) (names ++ others) := by
  intro rest
  rw [terminated_append, List.append_assoc, h, h', List.append_assoc]

theorem silent (h : ∀ s ∈ first, Silent s) : Binds first [] := by
  induction first with
  | nil => exact nil
  | cons s first ih =>
    intro rest
    rw [terminated_cons, List.append_assoc, List.cons_append, List.splitOn_append_cons_self,
      bindings_append_silent (h s List.mem_cons_self)]
    exact ih (fun s mem => h s (List.mem_cons_of_mem _ mem)) rest

/-- A line that opens no list of imports. -/
theorem line {s : String} (alone : OneLine s) (closed : opensImports s.toList = false)
    (bound : boundBy s.toList = names) : Binds [s] names := by
  intro rest
  rw [terminated_cons, List.append_assoc, List.cons_append,
    List.splitOn_append_cons_self_of_not_mem alone, bindings, closed, bound]
  rfl

theorem cons_silent {s : String} (h : Silent s) (h' : Binds second names) :
    Binds (s :: second) names := (silent (List.forall_mem_singleton.mpr h)).append h'

theorem cons {s name : String} (h : Binds [s] [name]) (h' : Binds second names) :
    Binds (s :: second) (name :: names) := h.append h'

theorem flatMap {α : Type} {items : List α} {lines names : α → List String}
    (each : ∀ a ∈ items, Binds (lines a) (names a)) :
    Binds (items.flatMap lines) (items.flatMap names) := by
  induction items with
  | nil => exact nil
  | cons a items ih =>
    rw [List.flatMap_cons, List.flatMap_cons]
    exact (each a List.mem_cons_self).append (ih fun a mem => each a (List.mem_cons_of_mem _ mem))

end Binds

/-- Whether a text starts with a character that no identifier has. -/
def startsAside (s : String) : Bool := s.toList.head?.any (!continuesIdentifier ·)

theorem silent_line {s : String} (starts : startsAside s = true) (alone : OneLine s) :
    Silent s := by
  obtain ⟨d, first, stop⟩ := (Option.any_eq_true _ _).mp starts
  intro line mem c head
  rw [List.splitOn_eq_singleton alone, List.mem_singleton] at mem
  rw [mem, first] at head
  cases head
  simpa using stop

theorem startsAside_append {s : String} (starts : startsAside s = true) (t : String) :
    startsAside (s ++ t) = true := by
  obtain ⟨c, first, stop⟩ := (Option.any_eq_true _ _).mp starts
  rw [startsAside, String.toList_append, List.head?_append, first]
  exact stop

theorem silent_append {s t : String} (starts : startsAside s = true) (h : OneLine s)
    (h' : OneLine t) : Silent (s ++ t) :=
  silent_line (startsAside_append starts t) (oneLine_append.mpr ⟨h, h'⟩)

theorem silent_empty : Silent "" := by
  intro line mem c head
  rw [show line = [] by simpa using mem] at head
  cases head

/-! ## Lines that bind names -/

theorem wordsOf_append_cons {c : Char} (stop : continuesIdentifier c = false)
    (before behind : List Char) :
    wordsOf (before ++ c :: behind) = wordsOf before ++ wordsOf behind := by
  rw [wordsOf, List.splitOnP_append_cons before behind (by rw [stop]; rfl), List.filter_append,
    List.map_append]
  rfl

theorem wordsOf_cons {c : Char} (stop : continuesIdentifier c = false) (behind : List Char) :
    wordsOf (c :: behind) = wordsOf behind := wordsOf_append_cons stop [] behind

theorem wordsOf_isWord {s : String} (word : IsWord s) : wordsOf s.toList = [s] := by
  have whole : s.toList.splitOnP (fun c => !continuesIdentifier c) = [s.toList] :=
    List.splitOnP_eq_singleton fun c mem => by rw [word.continues c mem]; rfl
  have some : s.toList.isEmpty = false := by simpa using word.some
  rw [wordsOf, whole, List.filter_cons_of_pos (by rw [some]; rfl)]
  simp

/-- The start of a line up to the end of its first word. -/
theorem takeWhile_word {s : String} (word : IsWord s) {c : Char}
    (stop : continuesIdentifier c = false) (behind : List Char) :
    (s.toList ++ c :: behind).takeWhile continuesIdentifier = s.toList ∧
      (s.toList ++ c :: behind).dropWhile continuesIdentifier = c :: behind := by
  constructor
  · rw [List.takeWhile_append_of_pos word.continues, List.takeWhile_cons, stop]
    simp
  · rw [List.dropWhile_append_of_pos word.continues, List.dropWhile_cons, stop]
    simp

/-- A line that does not start with the word for imports and a blank opens no imports. -/
theorem not_opensImports {line : List Char}
    (other : line.takeWhile continuesIdentifier ≠ "from".toList ∨
      (line.dropWhile continuesIdentifier).head? ≠ some ' ') : opensImports line = false := by
  rw [opensImports, Bool.and_eq_false_iff]
  refine .inl (Bool.eq_false_iff.mpr fun starts => ?_)
  obtain ⟨behind, rfl⟩ := List.isPrefixOf_iff_prefix.mp starts
  obtain ⟨first, rest⟩ := takeWhile_word (s := "from") (by decide) (c := ' ') (by decide) behind
  have chars : "from ".toList ++ behind = "from".toList ++ ' ' :: behind := rfl
  rw [chars, first, rest] at other
  simp at other

theorem wordsOf_importLine {name : String} (word : IsWord name) :
    wordsOf ("    " ++ name ++ ",").toList = [name] := by
  have chars : ("    " ++ name ++ ",").toList =
      ' ' :: ' ' :: ' ' :: ' ' :: (name.toList ++ [',']) := by
    rw [String.toList_append, String.toList_append]
    rfl
  rw [chars, wordsOf_cons (by decide), wordsOf_cons (by decide), wordsOf_cons (by decide),
    wordsOf_cons (by decide), wordsOf_append_cons (by decide), wordsOf_isWord word]
  rfl

/-- Inside of a list of imports the names are bound one by one, until the list is closed. -/
theorem bindings_importLines {names : List String} (words : ∀ name ∈ names, IsWord name)
    (rest : List Char) :
    bindings true ((terminated ((names.map fun name => "    " ++ name ++ ",") ++ [")"]) ++
      rest).splitOn '\n') = names ++ bindings false (rest.splitOn '\n') := by
  induction names with
  | nil =>
    have close : ([')'] ++ '\n' :: rest).splitOn '\n' = [')'] :: rest.splitOn '\n' :=
      List.splitOn_append_cons_self_of_not_mem (by decide) rest
    change bindings true (([')'] ++ '\n' :: rest).splitOn '\n') = _
    rw [close]
    rfl
  | cons name names ih =>
    have word := words name List.mem_cons_self
    have alone : OneLine ("    " ++ name ++ ",") := by simp +decide [word.oneLine]
    have later := ih fun name mem => words name (List.mem_cons_of_mem _ mem)
    have blank : ("    " ++ name ++ ",").toList.head? = some ' ' := by simp [String.toList_append]
    rw [List.map_cons, List.cons_append, terminated_cons, List.append_assoc, List.cons_append,
      List.splitOn_append_cons_self_of_not_mem alone, bindings, wordsOf_importLine word, later,
      blank]
    rfl

namespace Binds

/-- A variable with an annotation. -/
theorem annotated {s t : String} (word : IsWord s) (alone : OneLine t) :
    Binds [s ++ ": TypeAlias = " ++ t] [s] := by
  have chars : (s ++ ": TypeAlias = " ++ t).toList =
      s.toList ++ ':' :: (" TypeAlias = ".toList ++ t.toList) := by
    simp only [String.toList_append, List.append_assoc]
    rfl
  obtain ⟨first, rest⟩ := takeWhile_word word (c := ':') (by decide)
    (" TypeAlias = ".toList ++ t.toList)
  have bound : boundBy (s ++ ": TypeAlias = " ++ t).toList = [s] := by
    rw [chars, boundBy, first, rest, String.ofList_toList]
    simp [word.some]
  have closed : opensImports (s ++ ": TypeAlias = " ++ t).toList = false := by
    refine not_opensImports (.inr ?_)
    rw [chars, rest]
    simp
  exact line (by simp +decide [word.oneLine, alone]) closed bound

/-- A class or a function. -/
theorem defined (keyword : String) {s t : String} (known : keyword = "class " ∨ keyword = "def ")
    (word : IsWord s) (aside : startsAside t = true) (alone : OneLine t) :
    Binds [keyword ++ s ++ t] [s] := by
  obtain ⟨c, first, stop⟩ := (Option.any_eq_true _ _).mp aside
  obtain ⟨behind, starts⟩ := List.head?_eq_some_iff.mp first
  have stop : continuesIdentifier c = false := by simpa using stop
  obtain ⟨plain, spaced, isWord, kind⟩ : ∃ plain, keyword.toList = plain.toList ++ [' '] ∧
      IsWord plain ∧ (plain = "class" ∨ plain = "def") := by
    rcases known with rfl | rfl
    · exact ⟨"class", by decide, by decide, .inl rfl⟩
    · exact ⟨"def", by decide, by decide, .inr rfl⟩
  have chars : (keyword ++ s ++ t).toList =
      plain.toList ++ ' ' :: (s.toList ++ c :: behind) := by
    simp only [String.toList_append, spaced, starts, List.append_assoc]
    rfl
  obtain ⟨first, rest⟩ := takeWhile_word isWord (c := ' ') (by decide) (s.toList ++ c :: behind)
  -- the blank behind the keyword is not that of an assignment
  have blank : " = ".toList.isPrefixOf (' ' :: (s.toList ++ c :: behind)) = false := by
    obtain ⟨d, ds, same⟩ := List.exists_cons_of_ne_nil (l := s.toList) (by simpa using word.some)
    have sign : '=' ≠ d := by
      rintro rfl
      have continues := word.continues '=' (by rw [same]; exact List.mem_cons_self)
      cases continues
    rw [same]
    simp [List.isPrefixOf, sign]
  have words : wordsOf (' ' :: (s.toList ++ c :: behind)) = s :: wordsOf behind := by
    rw [wordsOf_cons (by decide), wordsOf_append_cons stop, wordsOf_isWord word]
    rfl
  have bound : boundBy (keyword ++ s ++ t).toList = [s] := by
    rw [chars, boundBy, first, rest, String.ofList_toList, words, blank]
    rcases kind with rfl | rfl <;> rfl
  have closed : opensImports (keyword ++ s ++ t).toList = false := by
    refine not_opensImports (.inl ?_)
    rw [chars, first]
    rcases kind with rfl | rfl <;> decide
  have head : OneLine keyword := by rcases known with rfl | rfl <;> decide
  exact line (by simp [head, word.oneLine, alone]) closed bound

/-- A list of imports. -/
theorem imports {names : List String} (words : ∀ name ∈ names, IsWord name) :
    Binds (["from openapi_model_gen.runtime import ("] ++
      (names.map fun name => "    " ++ name ++ ",") ++ [")"]) names := by
  intro rest
  have opening : OneLine "from openapi_model_gen.runtime import (" := by decide
  have bound : boundBy "from openapi_model_gen.runtime import (".toList = [] := by decide +kernel
  have opens : opensImports "from openapi_model_gen.runtime import (".toList = true := by decide
  rw [List.append_assoc, List.singleton_append, terminated_cons, List.append_assoc,
    List.cons_append, List.splitOn_append_cons_self_of_not_mem opening, bindings, bound, opens,
    bindings_importLines words]
  rfl

end Binds

/-! ## Docstrings -/

/-- The lines of a docstring are indented, the first one by what is in front of it: a newline in a
description is followed by blanks. By induction on the description. -/
theorem silent_docstringChars (cs before : List Char) (started : before.head? = some ' ')
    (alone : '\n' ∉ before) {after : List Char} (ended : '\n' ∉ after) :
    ∀ line ∈ (before ++ (cs.flatMap docstringChar ++ after)).splitOn '\n',
      line.head? = some ' ' := by
  induction cs generalizing before with
  | nil =>
    have whole : '\n' ∉ before ++ after := fun mem => (List.mem_append.mp mem).elim alone ended
    rw [List.flatMap_nil, List.nil_append, List.splitOn_eq_singleton whole]
    refine List.forall_mem_singleton.mpr ?_
    rw [List.head?_append, started]
    rfl
  | cons c cs ih =>
    rw [List.flatMap_cons, List.append_assoc]
    by_cases newline : c = '\n'
    · subst newline
      change ∀ line ∈ (before ++ '\n' :: ([' ', ' ', ' ', ' '] ++
        (cs.flatMap docstringChar ++ after))).splitOn '\n', line.head? = some ' '
      rw [List.splitOn_append_cons_self_of_not_mem alone]
      exact List.forall_mem_cons.mpr ⟨started, ih _ rfl (by decide)⟩
    · have plain : '\n' ∉ docstringChar c := by
        unfold docstringChar
        split
        · decide
        split
        · decide
        split
        · rename_i same
          exact absurd (beq_iff_eq.mp same) newline
        · exact fun mem => newline (List.mem_singleton.mp mem).symm
      rw [← List.append_assoc]
      refine ih _ ?_ fun mem => (List.mem_append.mp mem).elim alone plain
      rw [List.head?_append, started]
      rfl

theorem silent_docstring (description : Option String) :
    Silent ("    \"\"\"" ++ docstring description ++ "\"\"\"") := by
  obtain ⟨cs, spelled⟩ : ∃ cs : List Char,
      (docstring description).toList = cs.flatMap docstringChar := by
    cases description with
    | none => exact ⟨[], rfl⟩
    | some s => exact ⟨_, String.toList_ofList⟩
  intro line mem c first
  rw [String.toList_append, String.toList_append, List.append_assoc, spelled] at mem
  rw [silent_docstringChars cs _ rfl (by decide) (by decide) line mem] at first
  cases first
  decide

/-! ## Blocks -/

/-- A block binds what it exports, and imports what is reserved. -/
structure Block.Reads (b : Block) : Prop where
  binds : Binds b.lines b.exports
  full : b.lines ≠ []
  imports : ∀ name ∈ b.imports, name ∈ supportNames

theorem silent_declarationLines {f : FieldText} (tidy : f.Tidy) :
    ∀ s ∈ declarationLines f, Silent s := by
  intro s mem
  rcases List.mem_append.mp mem with comment | declared
  · obtain ⟨text, there, rfl⟩ := List.mem_map.mp comment
    exact silent_append (by decide) (by decide) (tidy.comments text there)
  · rw [List.mem_singleton.mp declared]
    exact silent_append (by decide) (by decide) tidy.declaration

theorem silent_decodeLines {model : String} (quoted : OneLine model) {f : FieldText}
    (tidy : f.Tidy) : Yields (decodeLines model f) (∀ s ∈ ·, Silent s) := by
  refine tidy.decoder.line.bind_pure fun decoder here => ?_
  have flag (b : Bool) : OneLine (flag b) := by cases b <;> decide
  simp +decide [String.append_assoc, silent_append, silent_line, quoted, here, flag,
    tidy.attributeName, tidy.wireName]

theorem silent_encodeLines {model : String} (quoted : OneLine model) {f : FieldText}
    (tidy : f.Tidy) : Yields (encodeLines model f) (∀ s ∈ ·, Silent s) := by
  refine tidy.encoder.line.bind_pure fun encoder here => ?_
  have flag (b : Bool) : OneLine (flag b) := by cases b <;> decide
  simp +decide [String.append_assoc, silent_append, silent_line, quoted, here, flag,
    tidy.attributeName, tidy.wireName]

theorem binds_signature (parameter hint result : String) {function model : String}
    (word : IsWord function) (h : OneLine parameter) (hinted : OneLine hint)
    (quoted : OneLine model) (placed : OneLine result) :
    Binds [signature function parameter hint model result] [function] := by
  have split : signature function parameter hint model result = "def " ++ function ++
      ("(" ++ (parameter ++ ": " ++ hint ++ ", ignore_discriminator: bool = False, path: str = " ++
        model ++ ") -> " ++ result ++ ":")) := by
    -- its equation is slow to make, since literals are looked into
    delta signature
    simp only [String.append_assoc]
  rw [split]
  refine .defined _ (.inr rfl) word (startsAside_append (by decide) _) ?_
  simp +decide only [oneLine_append, h, hinted, quoted, placed, and_true]

/-- The class of a model. -/
theorem binds_class {className : String} (word : IsWord className) :
    Binds ["@dataclass", "class " ++ className ++ ":"] [className] :=
  .cons_silent (silent_line (by decide) (by decide))
    (.defined _ (.inl rfl) word (by decide) (by decide))

theorem binds_docstring (description : Option String) :
    Binds (if (docstring description).isEmpty then []
      else ["    \"\"\"" ++ docstring description ++ "\"\"\"", ""]) [] := by
  split
  · exact .nil
  · exact .silent (by simp [silent_docstring, silent_empty])

theorem binds_declarations {fields : List FieldText} (tidy : ∀ f ∈ fields, f.Tidy) :
    Binds (fields.flatMap declarationLines) [] := by
  refine .silent fun s mem => ?_
  obtain ⟨f, there, mem⟩ := List.mem_flatMap.mp mem
  exact silent_declarationLines (tidy f there) s mem

theorem binds_pass (bare : Bool) : Binds (if bare then ["    pass"] else []) [] := by
  split
  · exact .silent (by simp +decide [silent_line])
  · exact .nil

/-- The check of a model, and the start of its decoder. -/
theorem binds_decoder {base model result : String} (word : IsWord base) (quoted : OneLine model)
    (h : OneLine result) {required : String} (told : OneLine required) :
    Binds ["", "", "def " ++ checkName base ++ "(value: Any) -> bool:",
      "    return has_required(value, " ++ required ++ ")", "", "",
      signature (decoderName base) "data" "Any" model result,
      "    if data is None or data is UNSET:", "        return data",
      "    data = require_mapping(data, " ++ model ++ ", path)"]
      [checkName base, decoderName base] := by
  have functions := Names.isWord_functionNames word
  have check := Binds.defined "def " (.inr rfl) (functions (checkName base) (by
    simp [functionNames])) (t := "(value: Any) -> bool:") (by decide) (by decide)
  have decoder := binds_signature "data" "Any" result
    (functions (decoderName base) (by simp [functionNames])) (by decide) (by decide) quoted h
  refine .cons_silent silent_empty (.cons_silent silent_empty (check.cons (.cons_silent ?_
    (.cons_silent silent_empty (.cons_silent silent_empty (decoder.cons (.silent ?_)))))))
  · simp +decide [String.append_assoc, silent_append, told]
  · simp +decide [String.append_assoc, silent_append, silent_line, quoted]

/-- The end of a decoder, and the start of an encoder. -/
theorem binds_encoder {base model result : String} (word : IsWord base) (quoted : OneLine model)
    (h : OneLine result) :
    Binds ["    )", "", "",
      signature (encoderName base) "value" result model "dict[str, Any] | None",
      "    if value is None or value is UNSET:", "        return value"] [encoderName base] := by
  have functions := Names.isWord_functionNames word
  have encoder := binds_signature "value" result "dict[str, Any] | None"
    (functions (encoderName base) (by simp [functionNames])) (by decide) h quoted (by decide)
  refine .cons_silent (silent_line (by decide) (by decide)) (.cons_silent silent_empty
    (.cons_silent silent_empty (encoder.cons (.silent ?_))))
  simp +decide [silent_line]

theorem binds_decodeChoice (dispatch : Option DispatchText) : (∀ d ∈ dispatch, d.Tidy) →
    Binds (match dispatch with
      | none => []
      | some d =>
        ["    if not ignore_discriminator and " ++ d.property ++ " in data:",
          "        variant = select_variant(data, " ++ d.property ++ ", " ++ d.decodeCases ++
            ", path)",
          "        if variant is not None:",
          "            return variant(data, ignore_discriminator=True, path=path)"]) [] := by
  intro tidy
  cases dispatch with
  | none => exact .nil
  | some d =>
    obtain ⟨property, decodeCases, -⟩ := tidy d rfl
    refine .silent ?_
    simp +decide [String.append_assoc, silent_append, silent_line, property, decodeCases]

theorem binds_encodeChoice (dispatch : Option DispatchText) : (∀ d ∈ dispatch, d.Tidy) →
    Binds (match dispatch with
      | none => []
      | some d =>
        ["    if not ignore_discriminator:",
          "        encoder = " ++ d.encodeCases ++ ".get(type(value))",
          "        if encoder is not None:",
          "            return encoder(value, ignore_discriminator=True, path=path)"]) [] := by
  intro tidy
  cases dispatch with
  | none => exact .nil
  | some d =>
    obtain ⟨-, -, encodeCases⟩ := tidy d rfl
    refine .silent ?_
    simp +decide [String.append_assoc, silent_append, silent_line, encodeCases]

theorem binds_instance {className : String} (word : IsWord className) :
    Binds ["    return " ++ className ++ "("] [] := by
  refine .silent ?_
  simp +decide [String.append_assoc, silent_append, word.oneLine]

theorem binds_instanceCheck {className : String} (word : IsWord className) :
    Binds ["    if not isinstance(value, " ++ className ++ "):",
      "        raise TypeMismatchError(f\"expected an instance of " ++ className ++
        ", got \x7btype(value).__name__\x7d\", path)",
      "    result: dict[str, Any] = \x7b\x7d"] [] := by
  refine .silent ?_
  simp +decide [String.append_assoc, silent_append, silent_line, word.oneLine]

theorem binds_flatten {parts : List (List String)} (silent : ∀ part ∈ parts, ∀ s ∈ part, Silent s) :
    Binds parts.flatten [] := by
  refine .silent fun s mem => ?_
  obtain ⟨part, there, mem⟩ := List.mem_flatten.mp mem
  exact silent part there s mem

/-- The text of a record's choice, if it has one, stays on its lines. -/
theorem dispatch_tidy {names : Names} (words : names.AreWords) {model : String}
    {own : Option Schema.Discriminator} {dispatch : Option DispatchText}
    (h : own.mapM (dispatchText names model) = .ok dispatch) : ∀ d ∈ dispatch, d.Tidy := by
  cases own with
  | none =>
    cases h
    nofun
  | some d =>
    rw [Option.mapM_some] at h
    obtain ⟨text, made, rfl⟩ := map_eq_ok.mp h
    rintro _ ⟨⟩
    exact dispatchText_tidy words model d text made

/-- The annotation of what a record is decoded to: its class, the others of its family, or
nothing. -/
theorem oneLine_result {className : String} {others : List String} {late : Bool}
    (own : IsWord className) (all : ∀ other ∈ others, IsWord other) :
    OneLine (placed late (String.intercalate " | " (className :: others ++ ["None"]))) := by
  refine oneLine_placed (oneLine_intercalate (by decide) fun part mem => ?_)
  rcases List.mem_append.mp mem with variant | none
  · rcases List.mem_cons.mp variant with rfl | other
    · exact own.oneLine
    · exact (all part other).oneLine
  · rw [List.mem_singleton.mp none]
    decide

/-- **The block of a model binds its class and its functions.** -/
theorem recordBlock_reads {names : Names} (words : names.AreWords) {late : Bool} {r : RecordModel}
    {c : RecordContract} (named : ∀ f ∈ c.fields, IsWord f.attributeName) :
    Yields (recordBlock names late r c) fun b => b.Reads ∧ b.exports = names.ofModel r.name := by
  intro block h
  obtain ⟨className, hclass, h⟩ := bind_eq_ok.mp h
  obtain ⟨base, hbase, h⟩ := bind_eq_ok.mp h
  obtain ⟨fields, hfields, h⟩ := bind_eq_ok.mp h
  obtain ⟨dispatch, hdispatch, h⟩ := bind_eq_ok.mp h
  obtain ⟨others, hothers, h⟩ := bind_eq_ok.mp h
  obtain ⟨decodes, hdecodes, h⟩ := bind_eq_ok.mp h
  obtain ⟨encodes, hencodes, h⟩ := bind_eq_ok.mp h
  cases h
  have class' : IsWord className := words.classOf r.name className hclass
  have base' : IsWord base := words.baseOf r.name base hbase
  have quoted : OneLine (Json.quote r.name) := Json.oneLine_quote r.name
  have tidy : ∀ f ∈ fields, f.Tidy := Yields.mapM
    (fun f mem => fieldText_tidy words (named f (mem_declarationOrder.mp mem))) fields hfields
  have choice : ∀ d ∈ dispatch, d.Tidy := dispatch_tidy words hdispatch
  have others' : ∀ other ∈ others, IsWord other :=
    Yields.mapM (fun other _ => words.classOf other) others hothers
  have result :
      OneLine (placed late (String.intercalate " | " (className :: others ++ ["None"]))) :=
    oneLine_result class' others'
  have required : OneLine (tupleText (c.required.map Json.quote)) :=
    oneLine_tupleText_map Json.oneLine_quote
  have decoded := binds_flatten (Yields.mapM
    (fun f mem => silent_decodeLines quoted (tidy f mem)) decodes hdecodes)
  have encoded := binds_flatten (Yields.mapM
    (fun f mem => silent_encodeLines quoted (tidy f mem)) encodes hencodes)
  have exports : className :: functionNames base = names.ofModel r.name := by
    rw [Names.ofModel, Names.follow_classes hclass, Names.follow_bases hbase]
  have returned : Binds ["    return result"] [] := .silent (by simp +decide [silent_line])
  refine ⟨⟨?_, by simp, ?_⟩, exports⟩
  -- the parts of the block in their order
  · have whole := binds_class class' |>.append (binds_docstring r.description)
      |>.append (binds_declarations tidy)
      |>.append (binds_pass (fields.isEmpty && (docstring r.description).isEmpty))
      |>.append (binds_decoder base' quoted result required)
      |>.append (binds_decodeChoice dispatch choice) |>.append (binds_instance class')
      |>.append decoded |>.append (binds_encoder base' quoted result)
      |>.append (binds_encodeChoice dispatch choice) |>.append (binds_instanceCheck class')
      |>.append encoded |>.append returned
    exact whole
  · intro name mem
    simp only [List.mem_append, List.mem_flatMap] at mem
    -- what every record needs, what its choice needs, and what its fields need
    rcases mem with (fixed | selected) | ⟨f, there, (unset | decoder) | encoder⟩
    · exact (show ∀ name ∈ recordImports, name ∈ supportNames by decide) name fixed
    · split at selected
      · rw [List.mem_singleton.mp selected]
        decide
      · cases selected
    · split at unset
      · cases unset
      · rw [List.mem_singleton.mp unset]
        decide
    · exact (tidy f there).decoder.imports name decoder
    · exact (tidy f there).encoder.imports name encoder

/-- The annotation of a union, and its functions. -/
theorem binds_union {title base variants check model value decoder encoder : String}
    (class' : IsWord title) (word : IsWord base) (told : OneLine check) (quoted : OneLine model)
    (h : OneLine value) (decodes : OneLine decoder) (encodes : OneLine encoder) :
    Binds [title ++ ": TypeAlias = " ++ Json.quote variants, "", "",
      "def " ++ checkName base ++ "(value: Any) -> bool:", "    return " ++ check, "", "",
      signature (decoderName base) "data" "Any" model value,
      "    if data is None or data is UNSET:", "        return data",
      "    return " ++ decoder ++ "(data, path=path)", "", "",
      signature (encoderName base) "value" value model "Any",
      "    if value is None or value is UNSET:", "        return value",
      "    return " ++ encoder ++ "(value, path=path)"] (title :: functionNames base) := by
  have functions := Names.isWord_functionNames word
  have annotation := Binds.annotated class' (Json.oneLine_quote variants)
  have checks := Binds.defined "def " (.inr rfl) (functions (checkName base) (by
    simp [functionNames])) (t := "(value: Any) -> bool:") (by decide) (by decide)
  have decoder' := binds_signature "data" "Any" value
    (functions (decoderName base) (by simp [functionNames])) (by decide) (by decide) quoted h
  have encoder' := binds_signature "value" value "Any"
    (functions (encoderName base) (by simp [functionNames])) (by decide) h quoted (by decide)
  have blank {lines names : List String} (rest : Binds lines names) :
      Binds ("" :: "" :: lines) names := .cons_silent silent_empty (.cons_silent silent_empty rest)
  refine annotation.cons (blank (checks.cons (.cons_silent ?_ (blank (decoder'.cons
    (.cons_silent (silent_line (by decide) (by decide)) (.cons_silent (silent_line (by decide)
      (by decide)) (.cons_silent ?_ (blank (encoder'.cons (.silent ?_)))))))))))
  · exact silent_append (by decide) (by decide) told
  · simp +decide [String.append_assoc, silent_append, decodes]
  · simp +decide [String.append_assoc, silent_append, silent_line, encodes]

/-- **The block of a union binds its annotation and its functions.** -/
theorem unionBlock_reads {names : Names} (words : names.AreWords) {late : Bool} {u : UnionModel}
    {c : UnionContract} :
    Yields (unionBlock names late u c) fun b => b.Reads ∧ b.exports = names.ofModel u.name := by
  intro block h
  obtain ⟨title, htitle, h⟩ := bind_eq_ok.mp h
  obtain ⟨base, hbase, h⟩ := bind_eq_ok.mp h
  obtain ⟨⟨check, imports⟩, hcheck, h⟩ := bind_eq_ok.mp h
  obtain ⟨variants, hvariants, h⟩ := bind_eq_ok.mp h
  obtain ⟨decoder, hdecoder, h⟩ := bind_eq_ok.mp h
  obtain ⟨encoder, hencoder, h⟩ := bind_eq_ok.mp h
  obtain ⟨decodes, hdecodes, h⟩ := bind_eq_ok.mp h
  obtain ⟨encodes, hencodes, h⟩ := bind_eq_ok.mp h
  cases h
  have class' : IsWord title := words.classOf u.name title htitle
  have base' : IsWord base := words.baseOf u.name base hbase
  obtain ⟨told, known⟩ := unionCheck_tidy words c.body _ hcheck
  have decodeTidy := planExpr_tidy words .decode c.body decoder hdecoder
  have encodeTidy := planExpr_tidy words .encode c.body encoder hencoder
  have value : OneLine (placed late (title ++ " | None")) :=
    oneLine_placed (oneLine_append.mpr ⟨class'.oneLine, by decide⟩)
  have exports : title :: functionNames base = names.ofModel u.name := by
    rw [Names.ofModel, Names.follow_classes htitle, Names.follow_bases hbase]
  refine ⟨⟨?_, by simp, ?_⟩, exports⟩
  · exact binds_union class' base' told (Json.oneLine_quote u.name) value
      (decodeTidy.line decodes hdecodes) (encodeTidy.line encodes hencodes)
  · intro name mem
    rcases List.mem_append.mp mem with mem | encoder
    · exact (List.mem_append.mp mem).elim (known name) (decodeTidy.imports name)
    · exact encodeTidy.imports name encoder

/-! ## Modules -/

theorem Binds.spaced {parts : List (List String × List String)}
    (each : ∀ part ∈ parts, Binds part.1 part.2) :
    Binds (Emit.spaced (parts.map Prod.fst)) (parts.flatMap Prod.snd) := by
  induction parts with
  | nil => exact .nil
  | cons part parts ih =>
    have here := each part List.mem_cons_self
    have rest := ih fun part mem => each part (List.mem_cons_of_mem _ mem)
    cases parts with
    | nil => simpa [Emit.spaced] using here
    | cons next parts =>
      rw [List.flatMap_cons]
      exact here.append (.cons_silent silent_empty (.cons_silent silent_empty rest))

theorem binds_exportList {exports : List String} (lines : ∀ name ∈ exports, OneLine name) :
    Binds (exportList exports) ["__all__"] := by
  have start : Binds ["__all__ = ["] ["__all__"] :=
    .line (by decide) (by decide) (by decide +kernel)
  refine (start.append (.silent fun s mem => ?_)).append (.silent (by simp +decide [silent_line]))
  obtain ⟨name, there, rfl⟩ := List.mem_map.mp mem
  have told := lines name there
  simp +decide [String.append_assoc, silent_append, told]

/-- The names that the header of a module imports. -/
def importedNames (late : Bool) (table : Table) (blocks : List Block) : List String :=
  (if late then ["annotations"] else []) ++ dataclassImports table ++
    typingImports (Names.ofTable table) table ++
    importOrder ("UNSET" :: blocks.flatMap (·.imports))

theorem mem_importOrder {names : List String} {name : String} :
    name ∈ importOrder names ↔ name ∈ names := by
  rw [importOrder, List.mem_mergeSort, List.mem_eraseDups]

theorem isWord_of_mem_supportNames : ∀ name ∈ supportNames, IsWord name := by decide +kernel

/-- What a module takes from the support library. -/
theorem support_of_reads {blocks : List Block} (reads : ∀ b ∈ blocks, b.Reads) :
    ∀ name ∈ importOrder ("UNSET" :: blocks.flatMap (·.imports)), name ∈ supportNames := by
  intro name mem
  rcases List.mem_cons.mp (mem_importOrder.mp mem) with rfl | used
  · decide
  · obtain ⟨b, there, used⟩ := List.mem_flatMap.mp used
    exact (reads b there).imports name used

/-- All that a module imports is reserved. -/
theorem importedNames_reserved {late : Bool} {table : Table} {blocks : List Block}
    (reads : ∀ b ∈ blocks, b.Reads) :
    ∀ name ∈ importedNames late table blocks, name ∈ reservedNames := by
  intro name mem
  simp only [importedNames, List.mem_append] at mem
  rcases mem with ((future | dataclass) | typing) | support
  · split at future
    · rw [List.mem_singleton.mp future]
      decide
    · cases future
  · refine (show ∀ name ∈ ["dataclass", "field"], name ∈ reservedNames by decide) name ?_
    unfold dataclassImports at dataclass
    split at dataclass
    · split at dataclass
      · exact dataclass
      · exact List.mem_cons.mpr (.inl (List.mem_singleton.mp dataclass))
    · cases dataclass
  · have known : ∀ name ∈ ["Any", "Literal", "TypeAlias"], name ∈ reservedNames := by decide
    simp only [typingImports, List.mem_append, List.mem_ite_nil_right, List.mem_singleton] at typing
    rcases typing with (rfl | ⟨-, rfl⟩) | ⟨-, rfl⟩ <;> exact known _ (by simp)
  · exact List.mem_append_left _ (support_of_reads reads name support)

theorem binds_dataclassImports (table : Table) :
    Binds (if (dataclassImports table).isEmpty then []
      else ["from dataclasses import " ++ commaSeparated (dataclassImports table)])
      (dataclassImports table) := by
  unfold dataclassImports
  split
  · split
    · exact .line (by decide) (by decide) (by decide +kernel)
    · exact .line (by decide) (by decide) (by decide +kernel)
  · exact .nil

theorem binds_typingImports (names : Names) (table : Table) :
    Binds ["from typing import " ++ commaSeparated (typingImports names table)]
      (typingImports names table) := by
  unfold typingImports
  split <;> split <;> exact .line (by decide) (by decide) (by decide +kernel)

/-- **The header of a module binds its imports** and the named enumerations. -/
theorem binds_header {late : Bool} {comment : String} {table : Table}
    {aliases : List (String × String)} {blocks : List Block} (reads : ∀ b ∈ blocks, b.Reads)
    (words : ∀ entry ∈ aliases, IsWord entry.1 ∧ OneLine entry.2) :
    Binds (headerOf late comment table aliases blocks)
      (importedNames late table blocks ++ aliases.map Prod.fst) := by
  -- the comment is cut into lines first, so each of them is one line of the module
  have comments : Binds (((Text.lines comment.toList).map String.ofList).map
      fun line => "# " ++ line) [] := by
    refine .silent fun s mem => ?_
    obtain ⟨line, there, rfl⟩ := List.mem_map.mp mem
    obtain ⟨cs, cut, rfl⟩ := List.mem_map.mp there
    refine silent_append (by decide) (by decide) (oneLine_ofList.mpr fun newline => ?_)
    have goes := Text.goes_of_mem_linesFrom (fun _ mem => by cases mem) cs cut '\n' newline
    cases goes
  have future : Binds (if late then ["from __future__ import annotations", ""] else [])
      (if late then ["annotations"] else []) := by
    cases late with
    | true =>
      exact (Binds.line (s := "from __future__ import annotations") (by decide) (by decide)
        (by decide +kernel)).cons (.silent (List.forall_mem_singleton.mpr silent_empty))
    | false => exact .nil
  have aliases' : Binds
      (aliases.flatMap fun entry => ["", entry.1 ++ ": TypeAlias = " ++ entry.2])
      (aliases.map Prod.fst) := by
    rw [List.map_eq_flatMap]
    exact .flatMap fun entry mem =>
      .cons_silent silent_empty (.annotated (words entry mem).1 (words entry mem).2)
  have support : ∀ name ∈ importOrder ("UNSET" :: blocks.flatMap (·.imports)), IsWord name :=
    fun name mem => isWord_of_mem_supportNames name (support_of_reads reads name mem)
  -- the parts of the header in their order
  have lines : headerOf late comment table aliases blocks =
      (((Text.lines comment.toList).map String.ofList).map fun line => "# " ++ line) ++
      ((if late then ["from __future__ import annotations", ""] else []) ++
      ((if (dataclassImports table).isEmpty then []
        else ["from dataclasses import " ++ commaSeparated (dataclassImports table)]) ++
      (["from typing import " ++ commaSeparated (typingImports (Names.ofTable table) table)] ++
      ("" :: ((["from openapi_model_gen.runtime import ("] ++
        ((importOrder ("UNSET" :: blocks.flatMap (·.imports))).map
          fun name => "    " ++ name ++ ",") ++ [")"]) ++
      aliases.flatMap fun entry => ["", entry.1 ++ ": TypeAlias = " ++ entry.2]))))) := by
    simp [headerOf, header]
  have whole := comments.append (future.append ((binds_dataclassImports table).append
    ((binds_typingImports (Names.ofTable table) table).append (.cons_silent silent_empty
      ((Binds.imports support).append aliases')))))
  rw [lines]
  simpa only [importedNames, List.append_assoc, List.nil_append] using whole

end WireModel.Emit
