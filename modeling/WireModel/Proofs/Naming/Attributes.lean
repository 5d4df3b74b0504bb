import Mathlib
import WireModel.Proofs.Emit.Names

/-!
# Names for attributes

An attribute is called by the words of a text: underscores in front as the text has them, then the
words in small letters with one underscore between two of them. Where there is no word, or the first
one starts with a digit, a letter is put in front, and a reserved word gets an underscore behind it.

* **`exists_words_joinedWords`**, **`isBody_mendBody`**: what stands behind the underscores in front
  is made of words, and it starts with a letter.
* **`joinedWords_of_words`**: words are taken apart and joined again without a change.
* **`attributeName_eq_self_iff`**: the names of attributes are the texts that stay as they are.
* **`attributeName_usable`**: names of attributes are usable, and naming an attribute by its name
  changes nothing.
-/

namespace WireModel.Naming

/-! ## Words -/

/-- A word inside the name of an attribute: small letters and digits. -/
structure IsSmallWord (word : List Char) : Prop where
  some : word ≠ []
  isAlphanum : ∀ c ∈ word, c.isAlphanum = true
  noCapital : ∀ c ∈ word, c.isUpper = false

/-- Words with an underscore between two of them. -/
def joined (words : List (List Char)) : List Char := ['_'].intercalate words

/-- A letter in front goes to the first word. -/
theorem joined_cons (c : Char) (word : List Char) (rest : List (List Char)) :
    joined ((c :: word) :: rest) = c :: joined (word :: rest) := by
  cases rest with
  | nil => rw [joined, joined, List.intercalate_singleton, List.intercalate_singleton]
  | cons next rest =>
    rw [joined, joined, List.intercalate_cons_cons, List.intercalate_cons_cons, List.cons_append,
      List.cons_append]

theorem map_joined {f : Char → Char} (underscore : f '_' = '_') (words : List (List Char)) :
    (joined words).map f = joined (words.map fun word => word.map f) := by
  induction words with
  | nil => rfl
  | cons word rest ih =>
    cases rest with
    | nil => simp [joined]
    | cons next rest =>
      have tail : ((joined (next :: rest)).map f) = joined ((next :: rest).map (·.map f)) := ih
      rw [joined, List.intercalate_cons_cons, List.map_append, List.map_append, ← joined, tail,
        List.map_singleton, underscore, List.map_cons, List.map_cons, joined, joined,
        List.map_cons, List.intercalate_cons_cons]

theorem not_isUpper_joined {words : List (List Char)} (small : ∀ word ∈ words, IsSmallWord word) :
    ∀ c ∈ joined words, c.isUpper = false := by
  intro c mem
  rcases mem_intercalate mem with underscore | ⟨word, among, here⟩
  · rw [List.mem_singleton.mp underscore]
    decide
  · exact (small word among).noCapital c here

/-! ## Taking words apart -/

/-- Without capitals no word starts inside of another one. -/
theorem separateWords_eq_self {cs : List Char} (small : ∀ c ∈ cs, c.isUpper = false)
    (previous : Option Char) : separateWords previous cs = cs := by
  induction cs generalizing previous with
  | nil => rfl
  | cons c cs ih =>
    obtain ⟨here, small⟩ := List.forall_mem_cons.mp small
    rw [separateWords, ih small, isUpper, here, Bool.false_and, if_neg Bool.false_ne_true]

/-- Letters and digits go on the word that was begun. -/
theorem wordRuns_append {cs : List Char} (all : ∀ c ∈ cs, c.isAlphanum = true)
    (rest word : List Char) : wordRuns (cs ++ rest) word = wordRuns rest (cs.reverse ++ word) := by
  induction cs generalizing word with
  | nil => rfl
  | cons c cs ih =>
    obtain ⟨here, all⟩ := List.forall_mem_cons.mp all
    have here : isWordChar c = true := here
    rw [List.cons_append, wordRuns, if_pos here, ih all, List.reverse_cons, List.append_assoc,
      List.singleton_append]

/-- Signs alone only end the word that was begun. -/
theorem wordRuns_aside {cs : List Char} (aside : ∀ c ∈ cs, c.isAlphanum = false)
    (word : List Char) : wordRuns cs word = if word.isEmpty then [] else [word.reverse] := by
  induction cs generalizing word with
  | nil => rfl
  | cons c cs ih =>
    obtain ⟨here, aside⟩ := List.forall_mem_cons.mp aside
    have here : ¬isWordChar c = true := by rw [isWordChar, here]; exact Bool.false_ne_true
    rw [wordRuns, if_neg here, ih aside]
    cases word with
    | nil => rfl
    | cons d word => rfl

theorem wordRuns_ne_nil {cs word : List Char} : ∀ run ∈ wordRuns cs word, run ≠ [] := by
  have begun {word : List Char} (some : ¬word.isEmpty = true) : word.reverse ≠ [] := by
    simpa using some
  induction cs generalizing word with
  | nil =>
    rw [wordRuns]
    split
    · exact fun run mem => absurd mem List.not_mem_nil
    · rename_i some
      exact List.forall_mem_singleton.mpr (begun some)
  | cons c cs ih =>
    rw [wordRuns]
    split
    · exact ih
    split
    · exact ih
    · rename_i some
      exact List.forall_mem_cons.mpr ⟨begun some, ih⟩

/-- Words are found again behind one another; signs behind the last one do not matter. -/
theorem wordRuns_joined {words : List (List Char)} (small : ∀ word ∈ words, IsSmallWord word)
    {tail : List Char} (aside : ∀ c ∈ tail, c.isAlphanum = false) :
    wordRuns (joined words ++ tail) [] = words := by
  induction words with
  | nil => exact wordRuns_aside aside []
  | cons word rest ih =>
    obtain ⟨first, small⟩ := List.forall_mem_cons.mp small
    have some : ¬(word.reverse ++ []).isEmpty = true := by simpa using first.some
    have whole : (word.reverse ++ []).reverse = word := by simp
    cases rest with
    | nil =>
      rw [joined, List.intercalate_singleton, wordRuns_append first.isAlphanum,
        wordRuns_aside aside, if_neg some, whole]
    | cons next rest =>
      have sign : ¬isWordChar '_' = true := by decide
      rw [joined, List.intercalate_cons_cons, ← joined, List.append_assoc, List.append_assoc,
        wordRuns_append first.isAlphanum, List.singleton_append, wordRuns, if_neg sign,
        if_neg some, whole, ih small]

/-! ## Joining words -/

/-- What is joined are small words. -/
theorem exists_words_joinedWords (cs : List Char) :
    ∃ words, (∀ word ∈ words, IsSmallWord word) ∧ joinedWords cs = joined words := by
  have same : joinedWords cs = joined ((wordRuns (separateWords none cs) []).map
      fun run => run.map Char.toLower) := map_joined rfl _
  refine ⟨_, ?_, same⟩
  intro word mem
  obtain ⟨run, among, rfl⟩ := List.mem_map.mp mem
  have letters : ∀ c ∈ run, c.isAlphanum = true :=
    isAlphanum_wordRuns (fun _ begun => by cases begun) run among
  exact {
    some := fun none => wordRuns_ne_nil run among (List.map_eq_nil_iff.mp none)
    isAlphanum := List.forall_mem_map.mpr fun c here =>
      (continuesIdentifier_of_isAlphanum (letters c here)).2.2
    noCapital := List.forall_mem_map.mpr fun c here => (cases_of_isAlphanum (letters c here)).2 }

/-- Small words are joined as they were, whatever signs stood behind them. -/
theorem joinedWords_of_words {words : List (List Char)}
    (small : ∀ word ∈ words, IsSmallWord word) {tail : List Char}
    (aside : ∀ c ∈ tail, c.isAlphanum = false) :
    joinedWords (joined words ++ tail) = joined words := by
  have lower : ∀ c ∈ joined words ++ tail, c.isUpper = false := by
    refine List.forall_mem_append.mpr ⟨not_isUpper_joined small, fun c mem => ?_⟩
    have letter := (Bool.or_eq_false_iff.mp (aside c mem)).1
    exact (Bool.or_eq_false_iff.mp letter).1
  rw [joinedWords, separateWords_eq_self lower, wordRuns_joined small aside, ← joined]
  refine (List.map_congr_left fun c mem => ?_).trans (List.map_id _)
  exact Char.toLower_eq_of_not_isUpper (by simp [not_isUpper_joined small c mem])

/-! ## Bodies -/

/-- What stands behind the underscores in front: small words, and a letter first. -/
structure IsBody (body : List Char) : Prop where
  words : ∃ words, (∀ word ∈ words, IsSmallWord word) ∧ body = joined words
  letter : body.head?.any Char.isLower = true

theorem exists_cons_of_letter {body : List Char} (h : body.head?.any Char.isLower = true) :
    ∃ c rest, body = c :: rest ∧ c.isLower = true := by
  cases body with
  | nil => cases h
  | cons c rest => exact ⟨c, rest, rfl, h⟩

theorem isBody_mendBody (cs : List Char) : IsBody (mendBody (joinedWords cs)) := by
  obtain ⟨words, small, same⟩ := exists_words_joinedWords cs
  rw [same]
  cases words with
  | nil =>
    -- without a word there is one that fills in
    refine ⟨⟨[['f', 'i', 'e', 'l', 'd']], ?_, rfl⟩, rfl⟩
    exact List.forall_mem_singleton.mpr ⟨List.cons_ne_nil _ _, by simp, by simp⟩
  | cons word rest =>
    obtain ⟨first, others⟩ := List.forall_mem_cons.mp small
    cases word with
    | nil => exact absurd rfl first.some
    | cons c word =>
      rw [joined_cons, mendBody]
      split
      · -- the letter in front of a digit begins the first word
        rename_i digit
        refine ⟨⟨('n' :: c :: word) :: rest, ?_, ?_⟩, rfl⟩
        · refine List.forall_mem_cons.mpr ⟨⟨List.cons_ne_nil _ _, ?_, ?_⟩, others⟩
          · exact List.forall_mem_cons.mpr ⟨by decide, first.isAlphanum⟩
          · exact List.forall_mem_cons.mpr ⟨by decide, first.noCapital⟩
        · rw [joined_cons, joined_cons]
      · rename_i letter
        refine ⟨⟨(c :: word) :: rest, small, (joined_cons c word rest).symm⟩, ?_⟩
        have word := first.isAlphanum c List.mem_cons_self
        have small := first.noCapital c List.mem_cons_self
        rw [List.head?_cons, Option.any_some]
        simpa [Char.isAlphanum, Char.isAlpha, small, letter] using word

/-- A body is not mended, and loses the signs behind it. -/
theorem IsBody.mendBody_joinedWords {body tail : List Char} (h : IsBody body)
    (aside : ∀ c ∈ tail, c.isAlphanum = false) : mendBody (joinedWords (body ++ tail)) = body := by
  obtain ⟨⟨words, small, rfl⟩, letter⟩ := h
  rw [joinedWords_of_words small aside]
  obtain ⟨c, rest, same, lower⟩ := exists_cons_of_letter letter
  have digit : ¬c.isDigit = true := fun digit =>
    Bool.false_ne_true ((isLower_eq_false (.inl digit)).symm.trans lower)
  rw [same, mendBody, if_neg digit]

/-! ## Underscores in front -/

theorem mem_takeWhile_underscore (cs : List Char) : ∀ c ∈ cs.takeWhile (· == '_'), c = '_' :=
  fun c mem => beq_iff_eq.mp (List.all_eq_true.mp List.all_takeWhile c mem)

/-- The underscores in front end where the body starts. -/
theorem span_of_isBody {leading body : List Char} (underscores : ∀ c ∈ leading, c = '_')
    (isBody : IsBody body) (tail : List Char) :
    (leading ++ body ++ tail).takeWhile (· == '_') = leading ∧
      (leading ++ body ++ tail).dropWhile (· == '_') = body ++ tail := by
  obtain ⟨c, rest, rfl, lower⟩ := exists_cons_of_letter isBody.letter
  have front : ∀ c ∈ leading, (c == '_') = true := fun c mem => beq_iff_eq.mpr (underscores c mem)
  have stops : ¬(c == '_') = true := by
    rw [beq_iff_eq]
    rintro rfl
    cases lower
  constructor
  · rw [List.append_assoc, List.takeWhile_append_of_pos front, List.cons_append,
      List.takeWhile_cons_of_neg (p := (· == '_')) stops, List.append_nil]
  · rw [List.append_assoc, List.dropWhile_append_of_pos front, List.cons_append,
      List.dropWhile_cons_of_neg (p := (· == '_')) stops]

/-! ## Reserved words -/

/-- A name, or a reserved word with an underscore behind it. -/
def marked (name : String) : String := if Text.isReserved name then name ++ "_" else name

theorem isReserved_marked (name : String) : Text.isReserved (marked name) = false := by
  rw [marked]
  split
  · -- no reserved word ends with an underscore
    have ends : ∀ word ∈ Text.reservedWords, word.toList.getLast? ≠ some '_' := by decide
    rw [← Bool.not_eq_true, Text.isReserved, List.contains_iff_mem]
    intro mem
    apply ends _ mem
    rw [String.toList_append]
    exact List.getLast?_concat
  · rename_i free
    exact Bool.not_eq_true _ ▸ free

theorem exists_toList_marked (name : String) :
    ∃ tail, (marked name).toList = name.toList ++ tail ∧ ∀ c ∈ tail, c = '_' := by
  rw [marked]
  split
  · exact ⟨['_'], String.toList_append, fun c mem => List.mem_singleton.mp mem⟩
  · exact ⟨[], (List.append_nil _).symm, nofun⟩

/-! ## Names of attributes -/

/-- A text that an attribute may be called by: underscores and a body, marked if it is reserved. -/
def IsAttribute (s : String) : Prop :=
  ∃ leading body, (∀ c ∈ leading, c = '_') ∧ IsBody body ∧
    s = marked (String.ofList (leading ++ body))

/-- An attribute has the underscores that the text has in front, and a body behind them. -/
theorem exists_body_attributeName (s : String) :
    ∃ body, IsBody body ∧
      attributeName s = marked (String.ofList (s.toList.takeWhile (· == '_') ++ body)) :=
  ⟨_, isBody_mendBody _, rfl⟩

theorem isAttribute_attributeName (s : String) : IsAttribute (attributeName s) := by
  obtain ⟨body, isBody, same⟩ := exists_body_attributeName s
  exact ⟨_, body, mem_takeWhile_underscore _, isBody, same⟩

theorem attributeName_of_isAttribute {s : String} (h : IsAttribute s) : attributeName s = s := by
  obtain ⟨leading, body, underscores, isBody, rfl⟩ := h
  obtain ⟨tail, chars, mark⟩ := exists_toList_marked (String.ofList (leading ++ body))
  obtain ⟨front, behind⟩ := span_of_isBody underscores isBody tail
  have aside : ∀ c ∈ tail, c.isAlphanum = false := by
    intro c mem
    rw [mark c mem]
    decide
  rw [String.toList_ofList] at chars
  show marked (String.ofList ((marked (String.ofList (leading ++ body))).toList.takeWhile _ ++
    mendBody (joinedWords ((marked (String.ofList (leading ++ body))).toList.dropWhile _)))) = _
  rw [chars, front, behind, isBody.mendBody_joinedWords aside]

/-- A text stays as it is exactly if it is the name of an attribute. -/
theorem attributeName_eq_self_iff (s : String) : attributeName s = s ↔ IsAttribute s :=
  ⟨fun same => same ▸ isAttribute_attributeName s, attributeName_of_isAttribute⟩

/-- How an attribute is spelled: the underscores of the text, a body, and a mark at most. -/
theorem exists_toList_attributeName (s : String) :
    ∃ body tail, IsBody body ∧
      (attributeName s).toList = s.toList.takeWhile (· == '_') ++ body ++ tail := by
  obtain ⟨body, isBody, same⟩ := exists_body_attributeName s
  obtain ⟨tail, chars, -⟩ :=
    exists_toList_marked (String.ofList (s.toList.takeWhile (· == '_') ++ body))
  rw [← same, String.toList_ofList] at chars
  exact ⟨body, tail, isBody, chars⟩

/-- Names of attributes have as many underscores in front as the texts that they are made from. -/
theorem takeWhile_attributeName (s : String) :
    (attributeName s).toList.takeWhile (· == '_') = s.toList.takeWhile (· == '_') := by
  obtain ⟨body, tail, isBody, chars⟩ := exists_toList_attributeName s
  rw [chars]
  exact (span_of_isBody (mem_takeWhile_underscore _) isBody tail).1

theorem isIdentifier_attributeName (s : String) : Text.isIdentifier (attributeName s) = true := by
  apply (isWord_attributeName s).isIdentifier
  obtain ⟨body, tail, isBody, chars⟩ := exists_toList_attributeName s
  have underscores := mem_takeWhile_underscore s.toList
  rw [chars]
  -- the first character is an underscore of the text, or else the letter of the body
  cases leading : s.toList.takeWhile (· == '_') with
  | nil =>
    obtain ⟨c, rest, rfl, lower⟩ := exists_cons_of_letter isBody.letter
    have letter : c.isAlpha = true := by rw [Char.isAlpha, lower, Bool.or_true]
    exact Text.startsIdentifier_of_isAlpha letter
  | cons c leading =>
    rw [leading] at underscores
    have start : Text.startsIdentifier '_' = true := by decide
    rw [underscores c List.mem_cons_self]
    exact start

theorem isReserved_attributeName (s : String) : Text.isReserved (attributeName s) = false := by
  obtain ⟨body, -, same⟩ := exists_body_attributeName s
  rw [same]
  exact isReserved_marked _

/-- The characters of attributes are the underscore, small letters and digits. -/
theorem cases_of_isSmall {c : Char} (h : isSmall c = true) :
    c = '_' ∨ c.isLower = true ∨ c.isDigit = true := by
  rcases Bool.or_eq_true_iff.mp h with underscore | word
  · exact .inl (beq_iff_eq.mp underscore)
  · obtain ⟨word, capital⟩ := Bool.and_eq_true_iff.mp word
    simp_all [Char.isAlphanum, Char.isAlpha]

/-- **Names of attributes are usable and stable.** Whatever the text, its attribute is called by an
identifier that is no reserved word, of underscores, small letters and digits, with as many
underscores in front as the text has; and by the same name if it is named again. -/
theorem attributeName_usable (s : String) :
    attributeName s ≠ "" ∧ Text.isIdentifier (attributeName s) = true ∧
      (∀ c ∈ (attributeName s).toList, c = '_' ∨ c.isLower = true ∨ c.isDigit = true) ∧
      Text.isReserved (attributeName s) = false ∧
      (attributeName s).toList.takeWhile (· == '_') = s.toList.takeWhile (· == '_') ∧
      attributeName (attributeName s) = attributeName s :=
  ⟨(isWord_attributeName s).some, isIdentifier_attributeName s,
    fun c mem => cases_of_isSmall (isSmall_attributeName s c mem), isReserved_attributeName s,
    takeWhile_attributeName s, (attributeName_eq_self_iff _).mpr (isAttribute_attributeName s)⟩

-- words start at capitals and end at signs; a digit gets a letter in front, a reserved word a mark
example : attributeName "__HTTPCode-3" = "__http_code_3" ∧ attributeName "3D" = "n3_d" ∧
    attributeName "Class" = "class_" := by
  decide +kernel

end WireModel.Naming
