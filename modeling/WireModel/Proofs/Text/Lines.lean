import Mathlib.Data.List.Infix
import WireModel.Text.Blank
import WireModel.Text.Search

/-!
# Lines

How a text is cut into lines from its start on.

* **`linesFrom_cons`**, **`linesFrom_pair`**: one character, or a carriage return with its newline.
* **`take_linesFrom_append`**: lines that are complete do not depend on what is behind them.
* **`fileLines_flatMap`**: a spelling of characters that keeps newlines apart keeps lines apart.
-/

namespace WireModel.Text

variable {ends : Char → Bool}

theorem occursIn_iff {part cs : List Char} : occursIn part cs = true ↔ part <:+: cs := by
  induction cs with
  | nil => rw [occursIn, List.isEmpty_iff, List.infix_nil]
  | cons c rest ih =>
    rw [occursIn, Bool.or_eq_true, List.isPrefixOf_iff_prefix, ih, List.infix_cons_iff]

/-! ## Single steps -/

theorem linesFrom_nil (line : List Char) :
    linesFrom ends [] line = if line.isEmpty then [] else [line.reverse] := by
  rw [linesFrom]

theorem linesFrom_pair (pairs : ends '\r' = true) (rest line : List Char) :
    linesFrom ends ('\r' :: '\n' :: rest) line = line.reverse :: linesFrom ends rest [] := by
  rw [linesFrom, if_pos pairs]

/-- A character that does not start the pair of a carriage return and a newline. -/
theorem linesFrom_cons {c : Char} {rest : List Char}
    (single : c = '\r' → rest.head? = some '\n' → ends '\r' = false) (line : List Char) :
    linesFrom ends (c :: rest) line =
      if ends c then line.reverse :: linesFrom ends rest []
      else linesFrom ends rest (c :: line) := by
  by_cases pair : c = '\r' ∧ rest.head? = some '\n'
  · obtain ⟨rfl, newline⟩ := pair
    obtain ⟨rest, rfl⟩ : ∃ below, rest = '\n' :: below := by
      cases rest with
      | nil => cases newline
      | cons d below => exact ⟨below, congrArg (· :: below) (Option.some.inj newline)⟩
    rw [linesFrom, single rfl rfl]
    rfl
  · rw [linesFrom]
    rintro below rfl rfl
    exact pair ⟨rfl, rfl⟩

theorem linesFrom_of_ends {c : Char} (stop : ends c = true) (other : c ≠ '\r')
    (rest line : List Char) :
    linesFrom ends (c :: rest) line = line.reverse :: linesFrom ends rest [] := by
  rw [linesFrom_cons (fun same => absurd same other), if_pos stop]

/-- Characters that end no line are a part of it. -/
theorem linesFrom_append {xs : List Char} (goes : ∀ c ∈ xs, ends c = false)
    (rest line : List Char) :
    linesFrom ends (xs ++ rest) line = linesFrom ends rest (xs.reverse ++ line) := by
  induction xs generalizing line with
  | nil => rfl
  | cons c xs ih =>
    have plain := goes c List.mem_cons_self
    have single : c = '\r' → (xs ++ rest).head? = some '\n' → ends '\r' = false :=
      fun same _ => same ▸ plain
    rw [List.cons_append, linesFrom_cons single, plain, if_neg Bool.false_ne_true,
      ih fun d mem => goes d (List.mem_cons_of_mem c mem), List.reverse_cons, List.append_assoc,
      List.singleton_append]

/-- Whole lines that end in newlines. -/
theorem linesFrom_lines {before : List (List Char)}
    (plain : ∀ line ∈ before, ∀ c ∈ line, isNewline c = false) (rest : List Char) :
    linesFrom isNewline (before.flatMap (· ++ ['\n']) ++ rest) [] =
      before ++ linesFrom isNewline rest [] := by
  induction before with
  | nil => rfl
  | cons line before ih =>
    rw [List.flatMap_cons, List.append_assoc, List.append_assoc,
      linesFrom_append (plain line List.mem_cons_self), List.append_nil, List.singleton_append,
      linesFrom_of_ends (by decide) (by decide), List.reverse_reverse,
      ih fun line mem => plain line (List.mem_cons_of_mem _ mem), List.cons_append]

/-- A line goes on as it has begun. -/
theorem head?_linesFrom (cs : List Char) {line : List Char} (begun : line ≠ []) :
    ∃ first, (linesFrom ends cs line).head? = some first ∧ line.reverse <+: first := by
  induction cs, line using linesFrom.induct ends with
  | case1 line none => exact absurd (List.isEmpty_iff.mp none) begun
  | case2 line some =>
    rw [linesFrom_nil, if_neg some]
    exact ⟨_, rfl, List.prefix_refl _⟩
  | case3 rest line pairs ih =>
    rw [linesFrom_pair pairs]
    exact ⟨_, rfl, List.prefix_refl _⟩
  | case4 rest line single ih =>
    obtain ⟨first, same, long⟩ := ih (List.cons_ne_nil _ _)
    rw [linesFrom, if_neg single]
    refine ⟨first, same, .trans ?_ long⟩
    rw [List.reverse_cons]
    exact List.prefix_append _ _
  | case5 c rest line single stop ih =>
    rw [linesFrom.eq_3 _ _ _ _ single, if_pos stop]
    exact ⟨_, rfl, List.prefix_refl _⟩
  | case6 c rest line single goes ih =>
    obtain ⟨first, same, long⟩ := ih (List.cons_ne_nil _ _)
    rw [linesFrom.eq_3 _ _ _ _ single, if_neg goes]
    refine ⟨first, same, .trans ?_ long⟩
    rw [List.reverse_cons]
    exact List.prefix_append _ _

/-- No line has a character that ends lines. -/
theorem goes_of_mem_linesFrom {cs line : List Char} (begun : ∀ c ∈ line, ends c = false) :
    ∀ l ∈ linesFrom ends cs line, ∀ c ∈ l, ends c = false := by
  have reversed {line : List Char} (begun : ∀ c ∈ line, ends c = false) :
      ∀ c ∈ line.reverse, ends c = false := fun c mem => begun c (List.mem_reverse.mp mem)
  induction cs, line using linesFrom.induct ends with
  | case1 line none =>
    rw [linesFrom_nil, if_pos none]
    nofun
  | case2 line some =>
    rw [linesFrom_nil, if_neg some]
    exact List.forall_mem_singleton.mpr (reversed begun)
  | case3 rest line pairs ih =>
    rw [linesFrom_pair pairs]
    exact List.forall_mem_cons.mpr ⟨reversed begun, ih nofun⟩
  | case4 rest line single ih =>
    rw [linesFrom, if_neg single]
    exact ih (List.forall_mem_cons.mpr ⟨Bool.eq_false_iff.mpr single, begun⟩)
  | case5 c rest line single stop ih =>
    rw [linesFrom.eq_3 _ _ _ _ single, if_pos stop]
    exact List.forall_mem_cons.mpr ⟨reversed begun, ih nofun⟩
  | case6 c rest line single goes ih =>
    rw [linesFrom.eq_3 _ _ _ _ single, if_neg goes]
    exact ih (List.forall_mem_cons.mpr ⟨Bool.eq_false_iff.mpr goes, begun⟩)

/-! ## Complete lines -/

/-- A carriage return ends the line, whether or not a newline follows it. -/
theorem take_linesFrom_return (ys line : List Char) :
    (linesFrom isNewline ('\r' :: ys) line).take 1 = [line.reverse] := by
  by_cases newline : ys.head? = some '\n'
  · obtain ⟨rest, rfl⟩ := List.head?_eq_some_iff.mp newline
    rw [linesFrom_pair (by decide)]
    rfl
  · rw [linesFrom_cons (fun _ same => absurd same newline), if_pos (by decide)]
    rfl

/-- A character that ends no line is a line of its own behind all others. -/
theorem length_linesFrom_singleton {c : Char} (plain : isNewline c = false) (line : List Char) :
    (linesFrom isNewline [c] line).length = 1 := by
  have single : c = '\r' → ([] : List Char).head? = some '\n' → isNewline '\r' = false :=
    fun _ none => by cases none
  rw [linesFrom_cons single, plain, if_neg Bool.false_ne_true, linesFrom_nil, if_neg (by simp)]
  rfl

/-- By induction on the lines: as long as one more line follows, it does not matter which. Behind a
carriage return it matters whether a newline follows, but not to the lines before. -/
theorem take_linesFrom_append {n : Nat} {xs line : List Char}
    (complete : n < (linesFrom isNewline (xs ++ ['.']) line).length) (ys : List Char) :
    (linesFrom isNewline (xs ++ ys) line).take n = (linesFrom isNewline xs line).take n := by
  induction xs, line using linesFrom.induct isNewline generalizing n with
  | case1 line empty | case2 line empty =>
    rw [List.nil_append, length_linesFrom_singleton (by decide)] at complete
    obtain rfl : n = 0 := Nat.lt_one_iff.mp complete
    rfl
  | case3 rest line pairs ih =>
    rw [List.cons_append, List.cons_append, linesFrom_pair pairs] at complete ⊢
    rw [linesFrom_pair pairs]
    cases n with
    | zero => rfl
    | succ n =>
      rw [List.take_succ_cons, List.take_succ_cons, ih (Nat.lt_of_succ_lt_succ complete)]
  | case4 rest line single ih => exact absurd (by decide) single
  | case5 c rest line single stop ih =>
    cases n with
    | zero => rfl
    | succ n =>
      rw [linesFrom.eq_3 _ _ _ _ single, if_pos stop, List.take_succ_cons]
      by_cases last : c = '\r' ∧ rest = []
      · obtain ⟨rfl, rfl⟩ := last
        -- only one line is known to be complete here
        rw [List.cons_append, List.nil_append, linesFrom_cons (fun _ same => absurd same (by decide)),
          if_pos stop, List.length_cons, length_linesFrom_singleton (by decide)] at complete
        obtain rfl : n = 0 := by omega
        exact take_linesFrom_return ys line
      · have head (zs : List Char) (same : c = '\r') : (rest ++ zs).head? ≠ some '\n' := by
          cases rest with
          | nil => exact absurd ⟨same, rfl⟩ last
          | cons d rest =>
            intro newline
            cases newline
            exact single rest same rfl
        rw [List.cons_append, linesFrom_cons (fun same newline => absurd newline (head _ same)),
          if_pos stop] at complete
        rw [List.cons_append, linesFrom_cons (fun same newline => absurd newline (head _ same)),
          if_pos stop, List.take_succ_cons, ih (Nat.lt_of_succ_lt_succ complete)]
  | case6 c rest line single goes ih =>
    have plain (zs : List Char) : c = '\r' → (rest ++ zs).head? = some '\n' →
        isNewline '\r' = false :=
      fun same _ => absurd (by rw [same]; decide) goes
    rw [List.cons_append, linesFrom_cons (plain _), if_neg goes] at complete
    rw [List.cons_append, linesFrom_cons (plain _), if_neg goes, linesFrom.eq_3 _ _ _ _ single,
      if_neg goes, ih complete]

/-! ## Spellings -/

/-- A spelling of characters in which newlines, and they alone, are newlines. -/
structure KeepsNewlines (spell : Char → List Char) : Prop where
  same : ∀ c, isNewline c = true → spell c = [c]
  plain : ∀ c, isNewline c = false → spell c ≠ [] ∧ ∀ d ∈ spell c, isNewline d = false

namespace KeepsNewlines

variable {spell : Char → List Char}

theorem ne_nil (keeps : KeepsNewlines spell) (c : Char) : spell c ≠ [] := by
  cases newline : isNewline c with
  | true =>
    rw [keeps.same c newline]
    nofun
  | false => exact (keeps.plain c newline).1

/-- What begins with a newline when it is spelled begins with a newline. -/
theorem head?_eq_newline (keeps : KeepsNewlines spell) {cs : List Char}
    (h : (cs.flatMap spell).head? = some '\n') : cs.head? = some '\n' := by
  cases cs with
  | nil => cases h
  | cons d rest =>
    rw [List.flatMap_cons] at h
    cases newline : isNewline d with
    | true =>
      rw [keeps.same d newline] at h
      exact h
    | false =>
      obtain ⟨first, tail, spelled⟩ := List.exists_cons_of_ne_nil (keeps.ne_nil d)
      rw [spelled, List.cons_append, List.head?_cons, Option.some.injEq] at h
      subst h
      have plain : isNewline '\n' = false :=
        (keeps.plain d newline).2 '\n' (by rw [spelled]; exact List.mem_cons_self)
      cases plain

end KeepsNewlines

theorem linesFrom_flatMap {spell : Char → List Char} (keeps : KeepsNewlines spell)
    (cs line : List Char) :
    linesFrom isNewline (cs.flatMap spell) ((line.reverse.flatMap spell).reverse) =
      (linesFrom isNewline cs line).map (·.flatMap spell) := by
  induction cs, line using linesFrom.induct isNewline with
  | case1 line empty =>
    obtain rfl := List.isEmpty_iff.mp empty
    rw [List.flatMap_nil, List.reverse_nil, List.flatMap_nil, List.reverse_nil, linesFrom_nil]
    rfl
  | case2 line some =>
    have spelled : (line.reverse.flatMap spell).reverse ≠ [] := by
      cases line with
      | nil => exact absurd rfl some
      | cons c line =>
        intro none
        rw [List.reverse_eq_nil_iff, List.reverse_cons, List.flatMap_append] at none
        have last := (List.append_eq_nil_iff.mp none).2
        rw [List.flatMap_singleton] at last
        exact keeps.ne_nil c last
    rw [List.flatMap_nil, linesFrom_nil, linesFrom_nil, if_neg some,
      if_neg (by rwa [List.isEmpty_iff]), List.reverse_reverse]
    rfl
  | case3 rest line pairs ih =>
    have return' := keeps.same '\r' (by decide)
    have newline := keeps.same '\n' (by decide)
    rw [List.flatMap_cons, List.flatMap_cons, return', newline, linesFrom_pair pairs]
    change linesFrom isNewline ('\r' :: '\n' :: rest.flatMap spell) _ = _
    rw [linesFrom_pair pairs, List.reverse_reverse, List.map_cons, ← ih]
    rfl
  | case4 rest line single ih => exact absurd (by decide) single
  | case5 c rest line single stop ih =>
    -- a spelling starts with a newline only if its character is one, so no new pair arises
    have head : c = '\r' → (rest.flatMap spell).head? = some '\n' → isNewline '\r' = false := by
      intro same newline
      obtain ⟨rest, rfl⟩ := List.head?_eq_some_iff.mp (keeps.head?_eq_newline newline)
      exact absurd rfl (single rest same)
    rw [linesFrom.eq_3 _ _ _ _ single, if_pos stop, List.map_cons, ← ih, List.flatMap_cons,
      keeps.same c stop, List.singleton_append, linesFrom_cons head, if_pos stop,
      List.reverse_reverse]
    rfl
  | case6 c rest line single goes ih =>
    have plain := (keeps.plain c (Bool.eq_false_iff.mpr goes)).2
    rw [linesFrom.eq_3 _ _ _ _ single, if_neg goes, ← ih, List.flatMap_cons,
      linesFrom_append plain, List.reverse_cons, List.flatMap_append, List.flatMap_singleton,
      List.reverse_append]

theorem fileLines_flatMap {spell : Char → List Char} (keeps : KeepsNewlines spell)
    (cs : List Char) : fileLines (cs.flatMap spell) = (fileLines cs).map (·.flatMap spell) :=
  linesFrom_flatMap keeps cs []

end WireModel.Text
