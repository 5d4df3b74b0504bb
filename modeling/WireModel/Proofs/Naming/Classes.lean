import Mathlib
import WireModel.Proofs.Emit.Names

/-!
# Names for classes

A text that is no usable name is mended by taking its words in capitals. What comes out is an
identifier, but it is not looked at again, and three reserved words start with a capital.

* **`pascalFrom_eq_capital_iff`**: the words of a text make one word with a capital exactly if the
  text has no other letters and digits.
* **`isReserved_className_iff`**: a mended name is reserved exactly if it is one of the three.
* **`className_usable_iff`**: every name for a class is an identifier, and which ones are usable.
-/

namespace WireModel.Naming

/-! ## Words -/

theorem pascalFrom_eq_nil_iff {previous : Option Char} {cs : List Char} :
    pascalFrom previous cs = [] ↔ ∀ c ∈ cs, c.isAlphanum = false := by
  induction cs generalizing previous with
  | nil => exact ⟨fun _ => nofun, fun _ => rfl⟩
  | cons c rest ih =>
    rw [pascalFrom, List.forall_mem_cons, ← @ih (some c), isWordChar]
    cases c.isAlphanum <;> cases followsLetter previous <;> simp

theorem followsLetter_of_aside {c : Char} (h : c.isAlphanum = false) :
    followsLetter (some c) = false :=
  (Bool.or_eq_false_iff.mp h).1

theorem isAlphanum_of_isLower {c : Char} (h : c.isLower = true) : c.isAlphanum = true := by
  rw [Char.isAlphanum, Char.isAlpha, h, Bool.or_true, Bool.true_or]

/-- Behind a letter, small letters come only from themselves: a letter behind anything else
becomes a capital. -/
theorem pascalFrom_eq_small_iff {small : List Char} (isSmall : ∀ c ∈ small, c.isLower = true) :
    ∀ {previous : Option Char}, followsLetter previous = true → ∀ {cs : List Char},
      pascalFrom previous cs = small ↔
        ∃ after, cs = small ++ after ∧ ∀ c ∈ after, c.isAlphanum = false := by
  induction small with
  | nil =>
    intro previous _ cs
    rw [pascalFrom_eq_nil_iff]
    exact ⟨fun aside => ⟨cs, rfl, aside⟩, fun ⟨_, same, aside⟩ => same ▸ aside⟩
  | cons l small ih =>
    intro previous letter cs
    obtain ⟨first, rest⟩ := List.forall_mem_cons.mp isSmall
    have alpha : followsLetter (some l) = true := by
      rw [followsLetter, Option.any_some, Char.isAlpha, first, Bool.or_true]
    have here : isWordChar l = true := isAlphanum_of_isLower first
    constructor
    · intro same
      cases cs with
      | nil => cases same
      | cons c cs =>
        rw [pascalFrom] at same
        split at same
        -- What comes out behind a sign is a digit or a capital, so it is not the small letter.
        · rename_i aside
          have fresh := followsLetter_of_aside (c := c) (by simpa [isWordChar] using aside)
          rw [isLower_eq_false (capital_of_pascalFrom fresh same)] at first
          cases first
        · obtain ⟨rfl, tail⟩ := List.cons_eq_cons.mp same
          obtain ⟨after, rfl, aside⟩ := (ih rest alpha).mp tail
          exact ⟨after, rfl, aside⟩
    · rintro ⟨after, rfl, aside⟩
      rw [List.cons_append, pascalFrom, here, letter, (ih rest alpha).mpr ⟨after, rfl, aside⟩]
      rfl

/-- The words of a text make one word with a capital exactly if the text has no other letters and
digits; its first letter may be small. -/
theorem pascalFrom_eq_capital_iff {C : Char} {small : List Char} (capital : C.isUpper = true)
    (isSmall : ∀ c ∈ small, c.isLower = true) {cs : List Char} :
    ∀ {previous : Option Char}, followsLetter previous = false →
      (pascalFrom previous cs = C :: small ↔
        ∃ before c after, cs = before ++ c :: small ++ after ∧ c.isAlphanum = true ∧
          c.toUpper = C ∧ ∀ d ∈ before ++ after, d.isAlphanum = false) := by
  induction cs with
  | nil =>
    intro previous _
    exact ⟨nofun, fun ⟨before, c, after, same, _⟩ => by cases before <;> cases same⟩
  | cons d cs ih =>
    intro previous fresh
    rw [pascalFrom, fresh]
    -- what stands aside is dropped; the first letter or digit is the capital
    cases word : d.isAlphanum with
    | false =>
      rw [isWordChar, word]
      refine (ih (followsLetter_of_aside word)).trans ⟨?_, ?_⟩
      · rintro ⟨before, c, after, rfl, here, upper, aside⟩
        exact ⟨d :: before, c, after, rfl, here, upper, List.forall_mem_cons.mpr ⟨word, aside⟩⟩
      · rintro ⟨before, c, after, same, here, upper, aside⟩
        cases before with
        | nil =>
          cases same
          rw [word] at here
          cases here
        | cons e before =>
          cases same
          exact ⟨before, c, after, rfl, here, upper, (List.forall_mem_cons.mp aside).2⟩
    | true =>
      rw [isWordChar, word]
      constructor
      · intro same
        obtain ⟨rfl, tail⟩ := List.cons_eq_cons.mp same
        rw [Char.isUpper_toUpper_eq_isAlpha] at capital
        have letter : followsLetter (some d) = true := capital
        obtain ⟨after, rfl, aside⟩ := (pascalFrom_eq_small_iff isSmall letter).mp tail
        exact ⟨[], d, after, rfl, word, rfl, aside⟩
      · rintro ⟨before, c, after, same, here, upper, aside⟩
        cases before with
        | nil =>
          cases same
          rw [← upper, Char.isUpper_toUpper_eq_isAlpha] at capital
          have letter : followsLetter (some d) = true := capital
          have tail := (pascalFrom_eq_small_iff isSmall letter).mpr ⟨after, rfl, aside⟩
          exact List.cons_eq_cons.mpr ⟨upper, tail⟩
        | cons e before =>
          cases same
          rw [(List.forall_mem_cons.mp aside).1] at word
          cases word

/-- A text has no letters and digits of ASCII but those of one word. -/
def HasOnlyWord (word s : String) : Prop :=
  ∃ before after, s.toList = before ++ word.toList ++ after ∧
    ∀ c ∈ before ++ after, c.isAlphanum = false

theorem toUpper_eq_iff {C c : Char} (capital : C.isUpper = true) :
    c.toUpper = C ↔ c = C ∨ c = C.toLower := by
  have same : C.toUpper = C := Char.toUpper_eq_of_not_isLower (Char.not_isLower_of_isUpper capital)
  constructor
  · rintro rfl
    by_cases small : c.isLower = true
    · rw [Char.toLower_toUpper_eq_toLower]
      exact .inr (Char.toLower_eq_of_not_isUpper (Char.not_isUpper_of_isLower small)).symm
    · exact .inl (Char.toUpper_eq_of_not_isLower small).symm
  · rintro (rfl | rfl)
    · exact same
    · rw [Char.toUpper_toLower_eq_toUpper, same]

theorem pascalCase_eq_capital_iff (s : String) (C : Char) (small : List Char)
    (capital : C.isUpper = true) (isSmall : ∀ c ∈ small, c.isLower = true) :
    pascalCase s = String.ofList (C :: small) ↔
      HasOnlyWord (String.ofList (C :: small)) s ∨
        HasOnlyWord (String.ofList (C.toLower :: small)) s := by
  have here : C.isAlphanum = true := by simp [Char.isAlphanum, Char.isAlpha, capital]
  rw [pascalCase, String.ofList_inj, pascalFrom_eq_capital_iff capital isSmall rfl]
  simp only [HasOnlyWord, String.toList_ofList]
  constructor
  · rintro ⟨before, c, after, same, word, upper, aside⟩
    rcases (toUpper_eq_iff capital).mp upper with rfl | rfl
    · exact .inl ⟨before, after, same, aside⟩
    · exact .inr ⟨before, after, same, aside⟩
  · have word := (continuesIdentifier_of_isAlphanum here).2.2
    rintro (⟨before, after, same, aside⟩ | ⟨before, after, same, aside⟩)
    · exact ⟨before, C, after, same, here, (toUpper_eq_iff capital).mpr (.inl rfl), aside⟩
    · exact ⟨before, _, after, same, word, (toUpper_eq_iff capital).mpr (.inr rfl), aside⟩

/-! ## Reserved words -/

theorem isIdentifier_className (s : String) : Text.isIdentifier (className s) = true := by
  cases usable : Text.isUsableName s with
  | true =>
    rw [className_of_isUsableName usable]
    exact (Bool.and_eq_true_iff.mp usable).1
  | false =>
    have capital := capital_of_className usable
    apply (isWord_className s).isIdentifier
    cases chars : (className s).toList with
    | nil => rw [chars] at capital; cases capital
    | cons c rest =>
      rw [chars] at capital
      have letter : c.isAlpha = true := by
        rw [Char.isAlpha, show c.isUpper = true from capital, Bool.true_or]
      exact Text.startsIdentifier_of_isAlpha letter

/-- The reserved words that start with a capital. -/
theorem isReserved_of_capital {name : String}
    (capital : name.toList.head?.any Char.isUpper = true) :
    Text.isReserved name = true ↔ name ∈ ["False", "None", "True"] := by
  have all : ∀ word ∈ Text.reservedWords, word.toList.head?.any Char.isUpper = true ↔
      word ∈ ["False", "None", "True"] := by decide
  rw [Text.isReserved, List.contains_iff_mem]
  refine ⟨fun mem => (all name mem).mp capital, fun mem => ?_⟩
  have reserved : ∀ word ∈ ["False", "None", "True"], word ∈ Text.reservedWords := by decide
  exact reserved name mem

/-- A mended name is reserved exactly if the words of the text make one of three. -/
theorem isReserved_className_iff {s : String} (unusable : Text.isUsableName s = false) :
    Text.isReserved (className s) = true ↔ pascalCase s ∈ ["False", "None", "True"] := by
  rw [isReserved_of_capital (capital_of_className unusable), className, unusable,
    if_neg Bool.false_ne_true]
  split
  · rename_i none
    rw [String.toList_eq_nil_iff] at none
    rw [none]
    decide
  · rename_i c rest chars
    have whole : pascalCase s = String.ofList (c :: rest) := by rw [← chars, String.ofList_toList]
    split
    -- Words that start with a digit get an `M` in front, and none of the three has one or a digit.
    · rename_i digit
      have heads : ∀ word ∈ ["False", "None", "True"],
          word.toList.head? ≠ some 'M' ∧ word.toList.head?.any Char.isDigit = false := by decide
      refine iff_of_false (fun mem => (heads _ mem).1 ?_) fun mem => ?_
      · rw [String.toList_append]
        rfl
      · have aside := (heads _ mem).2
        rw [chars, List.head?_cons, Option.any_some, digit] at aside
        cases aside
    · rw [whole]

/-- Every name for a class is an identifier, and a usable name stays as it is. A text that is no
usable name gets one unless its only word is a reserved word that starts with a capital: that word
comes out again. -/
theorem className_usable_iff (s : String) :
    Text.isIdentifier (className s) = true ∧
      (Text.isUsableName s = true → className s = s) ∧
      (Text.isUsableName (className s) = true ↔ Text.isUsableName s = true ∨
        ∀ word ∈ ["False", "false", "None", "none", "True", "true"], ¬HasOnlyWord word s) := by
  refine ⟨isIdentifier_className s, className_of_isUsableName, ?_⟩
  cases usable : Text.isUsableName s with
  | true =>
    rw [className_of_isUsableName usable]
    exact iff_of_true usable (.inl rfl)
  | false =>
    have isFalse := pascalCase_eq_capital_iff s 'F' ['a', 'l', 's', 'e'] (by decide) (by simp)
    have isNone := pascalCase_eq_capital_iff s 'N' ['o', 'n', 'e'] (by decide) (by simp)
    have isTrue := pascalCase_eq_capital_iff s 'T' ['r', 'u', 'e'] (by decide) (by simp)
    have words : pascalCase s ∈ ["False", "None", "True"] ↔
        ∃ word ∈ ["False", "false", "None", "none", "True", "true"], HasOnlyWord word s := by
      simp only [List.mem_cons, List.not_mem_nil, or_false, exists_eq_or_imp, exists_eq_left]
      exact (or_congr isFalse (or_congr isNone isTrue)).trans (by simp only [or_assoc]; rfl)
    rw [Text.isUsableName, isIdentifier_className, Bool.true_and, Bool.not_eq_true',
      ← Bool.not_eq_true, isReserved_className_iff usable, words]
    simp

/-- Such a word comes out of a text that has a sign in front of it. -/
theorem none_is_no_class_name :
    className "-none" = "None" ∧ Text.isUsableName (className "-none") = false := by
  decide +kernel

end WireModel.Naming
