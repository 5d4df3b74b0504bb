import WireModel.Proofs.Emit.Expressions
import WireModel.Proofs.Naming

/-!
# The names of a module are distinct

Classes are named first and functions after them, and each new name is new to all names before it.
A name that is taken is numbered, and the numbering stops at the first name that is free.

* **`freeBase_isFirst`**: the functions of a model are named after the first variant that is free.
* **`Names.sound_ofTable`**: the names in use are the given ones and the reserved ones, each once.
* **`Names.listName_mem_given_iff`**: only what is called like the list of exports gets its name.
-/

namespace WireModel

open Text (continuesIdentifier)

/-! ## Characters -/

theorem toNat_lt_of_isAlphanum {c : Char} (h : c.isAlphanum = true) : c.toNat < 128 := by
  delta Char.isAlphanum Char.isAlpha Char.isUpper Char.isLower Char.isDigit at h
  simp only [Bool.or_eq_true, Bool.and_eq_true, decide_eq_true_eq, ge_iff_le,
    UInt32.le_iff_toNat_le] at h
  simp at h
  omega

/-- What holds of all letters and digits is checked one by one. -/
theorem of_isAlphanum {P : Char → Prop}
    (all : ∀ n < 128, (Char.ofNat n).isAlphanum = true → P (Char.ofNat n)) {c : Char}
    (h : c.isAlphanum = true) : P c := by
  have here := all c.toNat (toNat_lt_of_isAlphanum h)
  rw [Char.ofNat_toNat] at here
  exact here h

/-- ASCII letters and digits stand in identifiers, and stay letters and digits in capitals and in
small letters. -/
theorem continuesIdentifier_of_isAlphanum {c : Char} (h : c.isAlphanum = true) :
    continuesIdentifier c = true ∧ c.toUpper.isAlphanum = true ∧ c.toLower.isAlphanum = true :=
  of_isAlphanum (P := fun c => continuesIdentifier c = true ∧ c.toUpper.isAlphanum = true ∧
    c.toLower.isAlphanum = true) (by decide +kernel) h

/-- In capitals they are capitals and digits, and in small letters there is no capital. -/
theorem cases_of_isAlphanum {c : Char} (h : c.isAlphanum = true) :
    (c.toUpper.isDigit = true ∨ c.toUpper.isUpper = true) ∧ c.toLower.isUpper = false :=
  of_isAlphanum (P := fun c => (c.toUpper.isDigit = true ∨ c.toUpper.isUpper = true) ∧
    c.toLower.isUpper = false) (by decide +kernel) h

/-- Digits and capitals are no small letters. -/
theorem isLower_eq_false {c : Char} (h : c.isDigit = true ∨ c.isUpper = true) :
    c.isLower = false := by
  have word : c.isAlphanum = true := by
    rcases h with digit | capital
    · exact Bool.or_eq_true_iff.mpr (.inr digit)
    · exact Bool.or_eq_true_iff.mpr (.inl (Bool.or_eq_true_iff.mpr (.inl capital)))
  exact of_isAlphanum (P := fun c => c.isDigit = true ∨ c.isUpper = true → c.isLower = false)
    (by decide +kernel) word h

/-- A text of characters that may stand inside an identifier. -/
structure IsWord (s : String) : Prop where
  some : s ≠ ""
  continues : ∀ c ∈ s.toList, continuesIdentifier c = true

namespace IsWord

instance (s : String) : Decidable (IsWord s) :=
  decidable_of_iff (s ≠ "" ∧ s.toList.all continuesIdentifier = true)
    ⟨fun ⟨some, all⟩ => ⟨some, List.all_eq_true.mp all⟩,
      fun word => ⟨word.some, List.all_eq_true.mpr word.continues⟩⟩

theorem ofList {cs : List Char} (some : cs ≠ []) (all : ∀ c ∈ cs, continuesIdentifier c = true) :
    IsWord (String.ofList cs) where
  some same := some (by simpa using congrArg String.toList same)
  continues c mem := all c (by rwa [String.toList_ofList] at mem)

theorem append {s t : String} (first : IsWord s) (second : IsWord t) : IsWord (s ++ t) where
  some none := first.some (by simpa using And.left (by simpa using congrArg String.toList none))
  continues c mem := by
    rw [String.toList_append, List.mem_append] at mem
    exact mem.elim (first.continues c) (second.continues c)

theorem of_isIdentifier {s : String} (h : Text.isIdentifier s = true) : IsWord s := by
  unfold Text.isIdentifier at h
  cases cs : s.toList with
  | nil =>
    rw [cs] at h
    cases h
  | cons c rest =>
    rw [cs, Text.isIdentifierList, Bool.and_eq_true, List.all_eq_true] at h
    obtain ⟨start, rest⟩ := h
    refine ⟨fun none => List.cons_ne_nil c _ (by rw [← cs, none]; rfl), ?_⟩
    rw [cs]
    refine List.forall_mem_cons.mpr ⟨?_, rest⟩
    rw [Text.startsIdentifier] at start
    rw [continuesIdentifier]
    split
    · rename_i small
      rw [if_pos small] at start
      rw [start, Bool.true_or]
    · rename_i large
      rw [if_neg large] at start
      rw [start, Bool.true_or]

/-- Such a text is an identifier if its first character may start one. -/
theorem isIdentifier {s : String} (word : IsWord s)
    (starts : s.toList.head?.any Text.startsIdentifier = true) : Text.isIdentifier s = true := by
  have continues := word.continues
  rw [Text.isIdentifier]
  cases chars : s.toList with
  | nil =>
    rw [chars] at starts
    cases starts
  | cons c rest =>
    rw [chars] at starts continues
    have start : Text.startsIdentifier c = true := starts
    rw [Text.isIdentifierList, start, Bool.true_and]
    exact List.all_eq_true.mpr (List.forall_mem_cons.mp continues).2

end IsWord

theorem isWord_ofNat (n : Nat) : IsWord (Decimal.ofNat n) :=
  .ofList (Decimal.natDigits_ne_nil n) fun c mem => by
    have digit := Decimal.isDigit_natDigits n c mem
    exact (continuesIdentifier_of_isAlphanum (by rw [Char.isAlphanum, digit, Bool.or_true])).1

namespace Naming

/-! ## Candidates -/

theorem isAlphanum_pascalFrom {previous : Option Char} {cs : List Char} :
    ∀ c ∈ pascalFrom previous cs, c.isAlphanum = true := by
  induction cs generalizing previous with
  | nil => nofun
  | cons d rest ih =>
    rw [pascalFrom]
    split
    · exact ih
    · rename_i word
      have word : d.isAlphanum = true := by simpa [isWordChar] using word
      split
      · exact List.forall_mem_cons.mpr ⟨word, ih⟩
      · exact List.forall_mem_cons.mpr ⟨(continuesIdentifier_of_isAlphanum word).2.1, ih⟩

/-- A candidate for a class is the name itself, or letters and digits. -/
theorem className_cases (s : String) : className s = s ∧ Text.isIdentifier s = true ∨
    className s ≠ "" ∧ ∀ c ∈ (className s).toList, c.isAlphanum = true := by
  rw [className]
  split
  · rename_i usable
    rw [Text.isUsableName, Bool.and_eq_true] at usable
    exact .inl ⟨rfl, usable.1⟩
  · right
    have model : ∀ c ∈ "Model".toList, c.isAlphanum = true := List.all_eq_true.mp (by decide)
    have pascal : ∀ c ∈ (pascalCase s).toList, c.isAlphanum = true := by
      rw [pascalCase, String.toList_ofList]
      exact isAlphanum_pascalFrom
    split
    · exact ⟨by decide, model⟩
    · rename_i c rest chars
      rw [chars] at pascal
      -- a digit in front is not the start of a name, so the word stands before it
      split
      · constructor
        · intro none
          have := congrArg String.toList none
          rw [String.toList_append] at this
          cases this
        · rw [String.toList_append, chars]
          intro d mem
          rcases List.mem_append.mp mem with mem | mem
          · exact model d mem
          · exact pascal d mem
      · rw [String.toList_ofList]
        exact ⟨fun none => by simpa using congrArg String.toList none, pascal⟩

theorem capital_of_pascalFrom {cs : List Char} : ∀ {previous : Option Char},
    followsLetter previous = false → ∀ {c : Char} {rest : List Char},
      pascalFrom previous cs = c :: rest → c.isDigit = true ∨ c.isUpper = true := by
  induction cs with
  | nil => nofun
  | cons d cs ih =>
    intro previous fresh c rest starts
    rw [pascalFrom, fresh] at starts
    split at starts
    · rename_i aside
      have aside : d.isAlphanum = false := by simpa [isWordChar] using aside
      have fresh : followsLetter (some d) = false := (Bool.or_eq_false_iff.mp aside).1
      exact ih fresh starts
    · rename_i word
      have word : d.isAlphanum = true := by simpa [isWordChar] using word
      cases starts
      exact (cases_of_isAlphanum word).1

/-- A mended name starts with a capital. -/
theorem capital_of_className {s : String} (unusable : Text.isUsableName s = false) :
    (className s).toList.head?.any Char.isUpper = true := by
  rw [className, unusable, if_neg Bool.false_ne_true]
  split
  · decide
  · rename_i c rest chars
    split
    · rw [String.toList_append]
      rfl
    · rename_i letter
      rw [pascalCase, String.toList_ofList] at chars
      have capital := (capital_of_pascalFrom rfl chars).resolve_left letter
      rw [String.toList_ofList]
      exact capital

/-- A candidate for a class is the name itself, or starts with a capital. -/
theorem className_eq_or_capital (s : String) :
    className s = s ∨ (className s).toList.head?.any Char.isUpper = true := by
  cases usable : Text.isUsableName s with
  | true => exact .inl (className_of_isUsableName usable)
  | false => exact .inr (capital_of_className usable)

theorem isWord_className (s : String) : IsWord (className s) := by
  rcases className_cases s with ⟨same, identifier⟩ | ⟨some, word⟩
  · rw [same]
    exact .of_isIdentifier identifier
  · exact ⟨some, fun c mem => (continuesIdentifier_of_isAlphanum (word c mem)).1⟩

theorem isWord_variant {candidate : String} (word : IsWord candidate) (k : Nat) :
    IsWord (variant candidate k) := by
  cases k with
  | zero => exact word
  | succ k => exact word.append (isWord_ofNat _)

theorem isAlphanum_wordRuns {cs word : List Char} (begun : ∀ c ∈ word, c.isAlphanum = true) :
    ∀ run ∈ wordRuns cs word, ∀ c ∈ run, c.isAlphanum = true := by
  have reversed {word : List Char} (begun : ∀ c ∈ word, c.isAlphanum = true) :
      ∀ c ∈ word.reverse, c.isAlphanum = true := fun c mem => begun c (List.mem_reverse.mp mem)
  induction cs generalizing word with
  | nil =>
    rw [wordRuns]
    split
    · nofun
    · exact List.forall_mem_singleton.mpr (reversed begun)
  | cons c rest ih =>
    rw [wordRuns]
    split
    · rename_i here
      exact ih (List.forall_mem_cons.mpr ⟨here, begun⟩)
    split
    · exact ih nofun
    · exact List.forall_mem_cons.mpr ⟨reversed begun, ih nofun⟩

/-- The characters of attributes: underscores, digits and small letters. -/
def isSmall (c : Char) : Bool := c == '_' || c.isAlphanum && !c.isUpper

theorem continuesIdentifier_of_isSmall {c : Char} (h : isSmall c = true) :
    continuesIdentifier c = true := by
  rcases Bool.or_eq_true_iff.mp h with underscore | word
  · rw [beq_iff_eq.mp underscore]
    decide
  · exact (continuesIdentifier_of_isAlphanum (Bool.and_eq_true_iff.mp word).1).1

theorem isSmall_joinedWords (cs : List Char) : ∀ c ∈ joinedWords cs, isSmall c = true := by
  intro c mem
  obtain ⟨d, there, rfl⟩ := List.mem_map.mp mem
  rcases mem_intercalate there with underscore | ⟨run, among, here⟩
  · rw [List.mem_singleton.mp underscore]
    decide
  · have word := isAlphanum_wordRuns (fun _ begun => by cases begun) run among d here
    rw [isSmall, (continuesIdentifier_of_isAlphanum word).2.2, (cases_of_isAlphanum word).2]
    simp

theorem isSmall_attributeName (s : String) : ∀ c ∈ (attributeName s).toList, isSmall c = true := by
  have body (cs : List Char) (all : ∀ c ∈ cs, isSmall c = true) :
      ∀ c ∈ mendBody cs, isSmall c = true := by
    cases cs with
    | nil => exact List.all_eq_true.mp (by decide)
    | cons c rest =>
      rw [mendBody]
      split
      · exact List.forall_mem_cons.mpr ⟨by decide, all⟩
      · exact all
  have name : ∀ c ∈ s.toList.takeWhile (· == '_') ++
      mendBody (joinedWords (s.toList.dropWhile (· == '_'))), isSmall c = true := by
    refine List.forall_mem_append.mpr ⟨fun c leading => ?_, body _ (isSmall_joinedWords _)⟩
    have underscore := List.all_eq_true.mp List.all_takeWhile c leading
    rw [beq_iff_eq.mp underscore]
    decide
  rw [attributeName]
  split
  · rw [String.toList_append, String.toList_ofList]
    exact List.forall_mem_append.mpr ⟨name, List.all_eq_true.mp (by decide)⟩
  · rwa [String.toList_ofList]

theorem isWord_attributeName (s : String) : IsWord (attributeName s) where
  some := by
    have name : String.ofList (s.toList.takeWhile (· == '_') ++
        mendBody (joinedWords (s.toList.dropWhile (· == '_')))) ≠ "" := by
      intro none
      have chars := congrArg String.toList none
      rw [String.toList_ofList] at chars
      exact List.append_ne_nil_of_right_ne_nil _ (mendBody_ne_nil _) chars
    rw [attributeName]
    split
    · exact fun none => name (String.append_eq_empty_iff.mp none).1
    · exact name
  continues c mem := continuesIdentifier_of_isSmall (isSmall_attributeName s c mem)

end Naming

namespace Emit

open Naming (IsFirst variant uniqueName className attributeName)

theorem checkName_injective : Function.Injective checkName :=
  fun _ _ same => (String.append_right_inj _).mp same

theorem decoderName_injective : Function.Injective decoderName :=
  fun _ _ same => (String.append_left_inj _).mp same

theorem encoderName_injective : Function.Injective encoderName :=
  fun _ _ same => (String.append_left_inj _).mp same

theorem functionNames_nodup (base : String) : (functionNames base).Nodup := by
  have lengths (first second : String) (differ : first.length ≠ second.length) : first ≠ second :=
    fun same => differ (congrArg String.length same)
  have «check decoder» : checkName base ≠ decoderName base := lengths _ _ (by
    simp only [checkName, decoderName, String.length_append]
    have : "is_".length = 3 := rfl
    have : "_from_dict".length = 10 := rfl
    omega)
  have «check encoder» : checkName base ≠ encoderName base := lengths _ _ (by
    simp only [checkName, encoderName, String.length_append]
    have : "is_".length = 3 := rfl
    have : "_to_dict".length = 8 := rfl
    omega)
  have «decoder encoder» : decoderName base ≠ encoderName base := lengths _ _ (by
    simp only [decoderName, encoderName, String.length_append]
    have : "_from_dict".length = 10 := rfl
    have : "_to_dict".length = 8 := rfl
    omega)
  simp [functionNames, «check decoder», «check encoder», «decoder encoder»]

namespace Names

theorem numbered_eq_search (taken : List String) (base : String) :
    ∀ fuel index, numbered taken base fuel index = Naming.search (isFree taken) base fuel index
  | 0, _ => rfl
  | fuel + 1, index => by
    rw [numbered, Naming.search, numbered_eq_search taken base fuel]

/-- Among one more numbers than three times the taken names there is a free one: each of the three
functions clashes with a taken name for no more numbers than there are such names. -/
theorem exists_isFree (taken : List String) (base : String) :
    ∃ k ≤ 3 * taken.length, isFree taken (base ++ Decimal.ofNat (2 + k)) = true := by
  by_contra none
  have clash (k : Nat) (small : k ≤ 3 * taken.length) :
      isFree taken (base ++ Decimal.ofNat (2 + k)) ≠ true := fun free => none ⟨k, small, free⟩
  let clashes (name : String → String) : List Nat :=
    (List.range (3 * taken.length + 1)).filter fun k =>
      taken.contains (name (base ++ Decimal.ofNat (2 + k)))
  have few (name : String → String) (injective : Function.Injective name) :
      (clashes name).length ≤ taken.length :=
    Naming.length_taken_le taken (injective.comp (Naming.candidate_numbers_injective base)) _
  -- if each number clashed, each would be among the clashes of one of the functions
  have all : List.range (3 * taken.length + 1) ⊆
      clashes checkName ++ clashes decoderName ++ clashes encoderName := by
    intro k there
    have taken := clash k (Nat.lt_succ_iff.mp (List.mem_range.mp there))
    rw [ne_eq, isFree_iff] at taken
    push Not at taken
    obtain ⟨name, function, mem⟩ := taken
    simp only [functionNames, List.mem_cons, List.not_mem_nil, or_false] at function
    simp only [List.mem_append, clashes, List.mem_filter, List.contains_iff_mem]
    rcases function with rfl | rfl | rfl
    · exact .inl (.inl ⟨there, mem⟩)
    · exact .inl (.inr ⟨there, mem⟩)
    · exact .inr ⟨there, mem⟩
  have length := (List.subperm_of_subset List.nodup_range all).length_le
  rw [List.length_range, List.length_append, List.length_append] at length
  have checks := few checkName checkName_injective
  have decoders := few decoderName decoderName_injective
  have encoders := few encoderName encoderName_injective
  omega

/-- **What functions are named after** is the first variant of its candidate for which all three
names are free. -/
theorem freeBase_isFirst (taken : List String) (base : String) :
    IsFirst (fun name => isFree taken name = true) base (freeBase taken base) := by
  rw [freeBase]
  split
  · rename_i free
    exact ⟨0, rfl, free, nofun⟩
  · rename_i clash
    rw [numbered_eq_search]
    exact Naming.isFirst_search clash (exists_isFree taken base)

/-! ## Names in use -/

/-- The names that are given: the classes, and three functions for each model. -/
def given (names : Names) : List String :=
  names.classes.map Prod.snd ++ names.bases.flatMap fun base => functionNames base.2

/-- What the functions of a class are named after, if the names are free. -/
def baseCandidate (c : String) : String :=
  let base := dropUnderscores (attributeName c)
  if base.isEmpty then "model" else base

theorem addFunctions_eq (names : Names) (name : String) :
    names.addFunctions name =
      let candidate := baseCandidate ((names.classes.lookup name).getD name)
      let base := freeBase names.taken candidate
      { names with
        bases := names.bases ++ [(name, base)]
        taken := functionNames base ++ names.taken } := rfl

theorem isWord_baseCandidate (c : String) : IsWord (baseCandidate c) := by
  rw [baseCandidate]
  split
  · decide
  · rename_i some
    refine ⟨by simpa using some, fun d mem => ?_⟩
    rw [dropUnderscores, String.toList_ofList, List.mem_reverse] at mem
    have kept := (List.dropWhile_sublist _).subset mem
    exact (Naming.isWord_attributeName c).continues d (List.mem_reverse.mp kept)

theorem isWord_functionNames {base : String} (word : IsWord base) :
    ∀ name ∈ functionNames base, IsWord name := by
  have is_ : IsWord "is_" := by decide
  simp only [functionNames, List.forall_mem_cons]
  exact ⟨is_.append word, word.append (by decide), word.append (by decide), nofun⟩

/-- Classes and what functions are named after are words. -/
structure AreWords (names : Names) : Prop where
  classes : ∀ entry ∈ names.classes, IsWord entry.2
  bases : ∀ entry ∈ names.bases, IsWord entry.2

namespace AreWords

theorem of_lookup {entries : List (String × String)} (words : ∀ entry ∈ entries, IsWord entry.2)
    {name word : String} (found : entries.lookup name = some word) : IsWord word := by
  obtain ⟨before, after, rfl, -⟩ := List.lookup_eq_some_iff.mp found
  exact words _ (List.mem_append_right _ List.mem_cons_self)

variable {names : Names}

theorem classOf (h : names.AreWords) (name : String) : Yields (names.classOf name) IsWord := by
  rw [Names.classOf]
  split
  · rename_i c found
    exact .ok (of_lookup h.classes found)
  · exact .error

theorem baseOf (h : names.AreWords) (name : String) : Yields (names.baseOf name) IsWord := by
  rw [Names.baseOf]
  split
  · rename_i base found
    exact .ok (of_lookup h.bases found)
  · exact .error

theorem isWord_of_mem_given (h : names.AreWords) : ∀ name ∈ names.given, IsWord name := by
  intro name mem
  rcases List.mem_append.mp mem with ofClass | ofFunction
  · obtain ⟨entry, there, rfl⟩ := List.mem_map.mp ofClass
    exact h.classes entry there
  · obtain ⟨entry, there, function⟩ := List.mem_flatMap.mp ofFunction
    exact isWord_functionNames (h.bases entry there) name function

end AreWords

/-- The class of a model and its functions. -/
def ofModel (names : Names) (name : String) : List String :=
  follow names.classes name :: functionNames (follow names.bases name)

theorem follow_classes {names : Names} {name c : String} (found : names.classOf name = .ok c) :
    follow names.classes name = c := by
  rw [classOf] at found
  split at found
  · rename_i c' there
    cases found
    rw [follow, there]
    rfl
  · cases found

theorem follow_bases {names : Names} {name base : String} (found : names.baseOf name = .ok base) :
    follow names.bases name = base := by
  rw [baseOf] at found
  split at found
  · rename_i base' there
    cases found
    rw [follow, there]
    rfl
  · cases found

/-- What holds of names while they are given. -/
structure Sound (names : Names) : Prop where
  /-- Every name in use is there once. -/
  distinct : names.taken.Nodup
  /-- The names in use are the given ones and the reserved ones. -/
  taken : names.taken.Perm (names.given ++ reservedNames)
  classes : ∀ entry ∈ names.classes, ∃ k, entry.2 = variant (className entry.1) k
  bases : ∀ entry ∈ names.bases, IsWord entry.2

namespace Sound

variable {names : Names}

theorem empty : Sound {} where
  distinct := by decide
  taken := .refl _
  classes := nofun
  bases := nofun

theorem addClass (h : names.Sound) (name : String) : (names.addClass name).Sound := by
  obtain ⟨k, stops, free, -⟩ := Naming.uniqueName_isFirst (className name) names.taken
  refine ⟨List.nodup_cons.mpr ⟨free, h.distinct⟩, ?_, ?_, h.bases⟩
  -- a new class is put behind the classes, and not in front of all names as in those in use
  · have given : (names.addClass name).given.Perm
        (uniqueName (className name) names.taken :: names.given) := by
      simp only [Names.given, Names.addClass, List.map_append, List.map_cons, List.map_nil,
        List.append_assoc, List.singleton_append]
      exact List.perm_middle
    exact (h.taken.cons _).trans (given.symm.append_right reservedNames)
  · intro entry mem
    rcases List.mem_append.mp mem with before | last
    · exact h.classes entry before
    · rw [List.mem_singleton.mp last]
      exact ⟨k, stops⟩

theorem addFunctions (h : names.Sound) (name : String) : (names.addFunctions name).Sound := by
  rw [addFunctions_eq]
  have word := isWord_baseCandidate ((names.classes.lookup name).getD name)
  generalize baseCandidate ((names.classes.lookup name).getD name) = candidate at word
  obtain ⟨k, stops, free, -⟩ := freeBase_isFirst names.taken candidate
  rw [isFree_iff] at free
  refine ⟨?_, ?_, h.classes, ?_⟩
  · refine List.nodup_append.mpr ⟨functionNames_nodup _, h.distinct, ?_⟩
    rintro n function _ taken rfl
    exact free n function taken
  · rw [given, List.flatMap_append, List.flatMap_singleton, ← List.append_assoc, List.append_assoc]
    exact (h.taken.append_left _).trans (List.perm_append_comm_assoc _ _ _)
  · intro entry mem
    rcases List.mem_append.mp mem with before | last
    · exact h.bases entry before
    · rw [List.mem_singleton.mp last]
      exact stops ▸ Naming.isWord_variant word k

/-- By induction on the names: first of the classes, then of the functions. -/
theorem ofTable (table : Table) : (Names.ofTable table).Sound := by
  have classes : ∀ (added : List String) (names : Names), names.Sound →
      (added.foldl Names.addClass names).Sound := by
    intro added
    induction added with
    | nil => exact fun _ h => h
    | cons name rest ih => exact fun _ h => ih _ (h.addClass name)
  have functions : ∀ (added : List String) (names : Names), names.Sound →
      (added.foldl Names.addFunctions names).Sound := by
    intro added
    induction added with
    | nil => exact fun _ h => h
    | cons name rest ih => exact fun _ h => ih _ (h.addFunctions name)
  exact functions _ _ (classes _ _ .empty)

/-- The given names are distinct, and none of them is reserved. -/
theorem given_nodup (h : names.Sound) :
    names.given.Nodup ∧ ∀ name ∈ names.given, name ∉ reservedNames := by
  have all : (names.given ++ reservedNames).Nodup := h.taken.nodup h.distinct
  obtain ⟨given, -, apart⟩ := List.nodup_append.mp all
  exact ⟨given, fun name mem reserved => apart name mem name reserved rfl⟩

theorem areWords (h : names.Sound) : names.AreWords where
  classes entry mem := by
    obtain ⟨k, same⟩ := h.classes entry mem
    exact same ▸ Naming.isWord_variant (Naming.isWord_className entry.1) k
  bases := h.bases

end Sound

/-! ## The names of a table -/

variable (table : Table)

theorem classes_ofTable : (ofTable table).classes.map Prod.fst =
    table.enums.map NamedEnum.name ++ table.names := by
  rw [ofTable, classes_foldl_addFunctions, classes_foldl_addClass]
  rfl

theorem bases_ofTable : (ofTable table).bases.map Prod.fst = table.names := by
  rw [ofTable, bases_foldl_addFunctions]
  have none (added : List String) (names : Names) :
      (added.foldl addClass names).bases = names.bases := by
    induction added generalizing names with
    | nil => rfl
    | cons name rest ih => exact ih _
  rw [none]
  rfl

/-- What could be the name of a class is in use once the class is named. -/
theorem className_mem_taken {name : String}
    (mem : name ∈ table.enums.map NamedEnum.name ++ table.names) :
    className name ∈ (ofTable table).taken := by
  have grows (name : String) (names : Names) : ∀ n ∈ names.taken, n ∈ (names.addClass name).taken :=
    fun _ there => List.mem_cons_of_mem _ there
  have kept (added : List String) (names : Names) :
      ∀ n ∈ names.taken, n ∈ (added.foldl addClass names).taken := by
    induction added generalizing names with
    | nil => exact fun _ there => there
    | cons name rest ih => exact fun n there => ih _ n (grows name names n there)
  have functions (added : List String) (names : Names) :
      ∀ n ∈ names.taken, n ∈ (added.foldl addFunctions names).taken := by
    induction added generalizing names with
    | nil => exact fun _ there => there
    | cons name rest ih => exact fun n there => ih _ n (List.mem_append_right _ there)
  have classes (added : List String) (names : Names) (there : name ∈ added) :
      className name ∈ (added.foldl addClass names).taken := by
    induction added generalizing names with
    | nil => cases there
    | cons first rest ih =>
      rcases List.mem_cons.mp there with rfl | later
      · refine kept rest _ _ ?_
        rw [addClass]
        -- the candidate is in use before, or this class takes it
        by_cases taken : className name ∈ names.taken
        · exact List.mem_cons_of_mem _ taken
        · rw [Naming.uniqueName_of_not_mem taken]
          exact List.mem_cons_self
      · exact ih _ later
  exact functions _ _ _ (classes _ _ mem)

/-- Whether a name can be given only to what is called so: it is usable as it stands and not
reserved, it starts with no capital and ends with no digit, and it is no name of a function of a
model. -/
def isOwnOnly (name : String) : Bool :=
  Text.isUsableName name && !reservedNames.contains name &&
    !name.toList.head?.any Char.isUpper && !name.toList.getLast?.any Char.isDigit &&
    !"is_".toList.isPrefixOf name.toList && !"_from_dict".toList.isSuffixOf name.toList &&
    !"_to_dict".toList.isSuffixOf name.toList

theorem not_mem_functionNames {name : String} (own : isOwnOnly name = true) (base : String) :
    name ∉ functionNames base := by
  simp only [isOwnOnly, Bool.and_eq_true, Bool.not_eq_true', Bool.eq_false_iff, ne_eq,
    List.isPrefixOf_iff_prefix, List.isSuffixOf_iff_suffix] at own
  obtain ⟨⟨⟨-, check⟩, decoder⟩, encoder⟩ := own
  simp only [functionNames, List.mem_cons, List.not_mem_nil, or_false]
  rintro (rfl | rfl | rfl)
  · exact check ⟨base.toList, (String.toList_append ..).symm⟩
  · exact decoder ⟨base.toList, (String.toList_append ..).symm⟩
  · exact encoder ⟨base.toList, (String.toList_append ..).symm⟩

/-- Such a name is given to a class exactly if something is called so: any other candidate starts
with a capital, and numbers stand behind candidates. -/
theorem mem_classes_iff {name : String} (own : isOwnOnly name = true) :
    name ∈ (ofTable table).classes.map Prod.snd ↔
      name ∈ table.enums.map NamedEnum.name ++ table.names := by
  have sound := Sound.ofTable table
  have noFunction := not_mem_functionNames own
  simp only [isOwnOnly, Bool.and_eq_true, Bool.not_eq_true', List.contains_eq_mem,
    decide_eq_false_iff_not] at own
  obtain ⟨⟨⟨⟨⟨⟨usable, unreserved⟩, small⟩, letter⟩, -⟩, -⟩, -⟩ := own
  constructor
  · intro mem
    obtain ⟨entry, there, rfl⟩ := List.mem_map.mp mem
    obtain ⟨k, stops⟩ := sound.classes entry there
    have known : entry.1 ∈ table.enums.map NamedEnum.name ++ table.names :=
      classes_ofTable table ▸ List.mem_map.mpr ⟨entry, there, rfl⟩
    rw [stops] at small letter ⊢
    -- without a number it is a candidate, and with one it ends in a digit
    cases k with
    | zero =>
      rcases Naming.className_eq_or_capital entry.1 with itself | capital
      · rwa [variant, itself]
      · rw [variant, capital] at small
        cases small
    | succ k =>
      rw [variant, String.toList_append, Decimal.ofNat, String.toList_ofList,
        List.getLast?_append_of_ne_nil _ (Decimal.natDigits_ne_nil _)] at letter
      obtain ⟨d, last⟩ : ∃ d, (Decimal.natDigits (2 + k)).getLast? = some d :=
        Option.isSome_iff_exists.mp (by simp [Decimal.natDigits_ne_nil])
      rw [last, Option.any_some, Decimal.isDigit_natDigits _ d (List.mem_of_getLast? last)] at letter
      cases letter
  · intro mem
    have taken := className_mem_taken table mem
    rw [Naming.className_of_isUsableName usable] at taken
    -- the candidate is taken: by a class, by a function, or because it is reserved
    rcases List.mem_append.mp (sound.taken.subset taken) with given | reserved
    · rcases List.mem_append.mp given with ofClass | ofFunction
      · exact ofClass
      · obtain ⟨base, -, function⟩ := List.mem_flatMap.mp ofFunction
        exact absurd function (noFunction base.2)
    · exact absurd reserved unreserved

theorem mem_given_iff {name : String} (own : isOwnOnly name = true) :
    name ∈ (ofTable table).given ↔ name ∈ table.enums.map NamedEnum.name ++ table.names := by
  rw [given, List.mem_append, mem_classes_iff table own]
  refine or_iff_left fun ofFunction => ?_
  obtain ⟨base, -, function⟩ := List.mem_flatMap.mp ofFunction
  exact not_mem_functionNames own base.2 function

/-- **The name of the list of exports is not reserved**, so what is called so gets it. -/
theorem listName_mem_given_iff : "__all__" ∈ (ofTable table).given ↔
    "__all__" ∈ table.enums.map NamedEnum.name ++ table.names :=
  mem_given_iff table (by decide +kernel)

end Names
end Emit
end WireModel
