import Mathlib.Data.List.Induction
import WireModel.Emit.Module
import WireModel.Output.TextLiteral
import WireModel.Proofs.Success

/-!
# Docstrings cannot be closed

A description stands between three double quotes at either end. Its backslashes are doubled and its
quotes have one in front of them, so no quote of it is read as one.

* **`isSealed_docstring`**: every quote follows an odd number of backslashes, and the end an even
  one.
* **`takeBody_docstring`**: the literal ends behind the description and nowhere else.
-/

namespace WireModel.Emit

open Output.TextLiteral (takeBody)

/-- The number of backslashes at the end of a text. -/
def backslashes (cs : List Char) : Nat := (cs.reverse.takeWhile (· == '\\')).length

theorem backslashes_concat (cs : List Char) (c : Char) :
    backslashes (cs ++ [c]) = if c = '\\' then backslashes cs + 1 else 0 := by
  rw [backslashes, List.reverse_append, List.reverse_singleton, List.singleton_append,
    List.takeWhile_cons]
  by_cases same : c = '\\'
  · rw [if_pos same, if_pos (beq_iff_eq.mpr same), List.length_cons, backslashes]
  · rw [if_neg same, if_neg (by simpa using same), List.length_nil]

/-- No quote closes a text, and no backslash at its end keeps the next quote from closing it. -/
structure IsSealed (cs : List Char) : Prop where
  quotes : ∀ before after, cs = before ++ '"' :: after → backslashes before % 2 = 1
  ending : backslashes cs % 2 = 0

namespace IsSealed

theorem nil : IsSealed [] where
  quotes before after split := by cases before <;> cases split
  ending := rfl

/-- Quotes that stand before the last character, and the last character. -/
theorem quotes_concat {cs : List Char} {c : Char}
    (h : ∀ before after, cs = before ++ '"' :: after → backslashes before % 2 = 1)
    (last : c = '"' → backslashes cs % 2 = 1) (before after : List Char)
    (split : cs ++ [c] = before ++ '"' :: after) : backslashes before % 2 = 1 := by
  rcases List.eq_nil_or_concat after with rfl | ⟨inner, d, rfl⟩
  · obtain ⟨rfl, same⟩ := List.append_inj' split rfl
    exact last (List.cons.inj same).1
  · rw [List.concat_eq_append, ← List.cons_append, ← List.append_assoc] at split
    exact h before inner (List.append_inj' split rfl).1

theorem concat {cs : List Char} (h : IsSealed cs) {c : Char} (quote : c ≠ '"')
    (backslash : c ≠ '\\') : IsSealed (cs ++ [c]) where
  quotes := quotes_concat h.quotes fun same => absurd same quote
  ending := by rw [backslashes_concat, if_neg backslash]

/-- A character behind a backslash. -/
theorem escaped {cs : List Char} (h : IsSealed cs) (c : Char) : IsSealed (cs ++ ['\\'] ++ [c]) where
  quotes := by
    refine quotes_concat (quotes_concat h.quotes fun same => absurd same (by decide)) fun _ => ?_
    have even := h.ending
    rw [backslashes_concat, if_pos rfl]
    omega
  ending := by
    have even := h.ending
    rw [backslashes_concat, backslashes_concat, if_pos rfl]
    split
    · omega
    · rfl

theorem append_docstringChar {cs : List Char} (h : IsSealed cs) (c : Char) :
    IsSealed (cs ++ docstringChar c) := by
  unfold docstringChar
  split
  · exact List.append_assoc cs ['\\'] ['\\'] ▸ h.escaped '\\'
  split
  · exact List.append_assoc cs ['\\'] ['"'] ▸ h.escaped '"'
  split
  · have newline := h.concat (c := '\n') (by decide) (by decide)
    have blank {cs : List Char} (h : IsSealed cs) := h.concat (c := ' ') (by decide) (by decide)
    have blanks := blank (blank (blank (blank newline)))
    simpa only [List.append_assoc, List.cons_append, List.nil_append] using blanks
  · rename_i backslash quote _
    exact h.concat (by simpa using quote) (by simpa using backslash)

end IsSealed

/-- By induction on the characters, the last one first. -/
theorem isSealed_flatMap (cs : List Char) : IsSealed (cs.flatMap docstringChar) := by
  induction cs using List.reverseRecOn with
  | nil => exact .nil
  | append_singleton cs c ih =>
    rw [List.flatMap_append, List.flatMap_singleton]
    exact ih.append_docstringChar c

/-- **No quote of a docstring closes it.** -/
theorem isSealed_docstring (description : Option String) :
    IsSealed (docstring description).toList := by
  cases description with
  | none => exact .nil
  | some s =>
    rw [docstring, String.toList_ofList]
    exact isSealed_flatMap _

/-! ## Reading -/

theorem takeBody_plain {c : Char} (quote : c ≠ '"') (backslash : c ≠ '\\')
    (rest taken : List Char) :
    takeBody '"' true (c :: rest) taken = takeBody '"' true rest (c :: taken) := by
  have other : (c == '"') = false := by simpa using quote
  match rest with
  | [] => simp [takeBody, other]
  | [d] => simp [takeBody, other, backslash]
  | d :: e :: more => simp [takeBody, other]

theorem takeBody_docstringChar (c : Char) (rest taken : List Char) :
    takeBody '"' true (docstringChar c ++ rest) taken =
      takeBody '"' true rest ((docstringChar c).reverse ++ taken) := by
  unfold docstringChar
  split
  · rw [List.cons_append, List.singleton_append, takeBody]
    rfl
  split
  · rw [List.cons_append, List.singleton_append, takeBody]
    rfl
  split
  · have blank (rest taken : List Char) :=
      takeBody_plain (c := ' ') (by decide) (by decide) rest taken
    rw [List.cons_append, takeBody_plain (by decide) (by decide)]
    simp only [List.cons_append, List.nil_append, blank]
    rfl
  · rename_i backslash quote _
    rw [List.singleton_append,
      takeBody_plain (by simpa using quote) (by simpa using backslash)]
    rfl

/-- **A docstring ends where its description does**: a reader of the literal takes all of the
description, and leaves what is behind the three quotes after it. -/
theorem takeBody_docstring (description : Option String) (rest : List Char) :
    takeBody '"' true ((docstring description).toList ++ '"' :: '"' :: '"' :: rest) [] =
      some ((docstring description).toList, rest) := by
  have closes (cs taken : List Char) :
      takeBody '"' true (cs.flatMap docstringChar ++ '"' :: '"' :: '"' :: rest) taken =
        some (taken.reverse ++ cs.flatMap docstringChar, rest) := by
    induction cs generalizing taken with
    | nil => simp [takeBody]
    | cons c cs ih =>
      rw [List.flatMap_cons, List.append_assoc, takeBody_docstringChar, ih, List.reverse_append,
        List.reverse_reverse, List.append_assoc]
  cases description with
  | none => exact closes [] []
  | some s =>
    rw [docstring, String.toList_ofList]
    exact closes _ []

end WireModel.Emit
