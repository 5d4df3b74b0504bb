import Mathlib.Data.List.TakeWhile
import WireModel.Proofs.Emit.Words

/-!
# The alternatives of annotations

An annotation is read as a text: it is cut at the bars that stand outside of brackets and quotes,
and blanks around the parts are left out. What is written for a type is read back piece by piece.

* **`alternatives_intercalate`**: pieces that close their brackets and quotes, put together by bars,
  are the alternatives of the whole.
* **`annotate_alternates`**: the alternatives of an annotation are kinds, classes, enumerated
  values, lists and mappings.
* **`mem_alternatives_orNull_iff`**: null is added to what does not end in it as a text, so it is
  missing exactly behind a class whose name ends so.
-/

namespace WireModel.Emit

open Text (continuesIdentifier)
open Types (WireType)

/-! ## Reading -/

/-- The parts of a text between the bars outside of brackets and quotes; the reader is inside of so
many brackets, and inside of quotes or not. Behind a backslash a quote ends nothing. -/
def betweenBars : Nat → Bool → List Char → List (List Char)
  | _, _, [] => [[]]
  | depth, true, '\\' :: c :: rest => (betweenBars depth true rest).modifyHead (['\\', c] ++ ·)
  | depth, true, c :: rest => (betweenBars depth (c != '"') rest).modifyHead (c :: ·)
  | depth, false, c :: rest =>
    if c == '|' && depth == 0 then [] :: betweenBars depth false rest
    else
      let inner := if c == '[' then depth + 1 else if c == ']' then depth - 1 else depth
      (betweenBars inner (c == '"') rest).modifyHead (c :: ·)

/-- A text without the blanks around it. -/
def bare (cs : List Char) : List Char :=
  ((cs.dropWhile (· == ' ')).reverse.dropWhile (· == ' ')).reverse

/-- The alternatives of an annotation. -/
def alternatives (hint : String) : List String :=
  (betweenBars 0 false hint.toList).map fun cs => String.ofList (bare cs)

/-- An annotation stands inside of another one: as that of the elements of a list or of the values
of a mapping, at any depth. -/
inductive Inside : String → String → Prop
  | list {inner outer} : "list[" ++ inner ++ "]" ∈ alternatives outer → Inside inner outer
  | mapping {inner outer} : "dict[str, " ++ inner ++ "]" ∈ alternatives outer → Inside inner outer
  | deeper {inner middle outer} : Inside inner middle → Inside middle outer → Inside inner outer

/-! ## Pieces -/

/-- Whether a character is no bar, bracket or quote. -/
def isOrdinary (c : Char) : Bool := c != '|' && c != '[' && c != ']' && c != '"'

/-- A text is read over without an end of a part, inside of so many brackets. -/
def Passes (depth : Nat) (cs : List Char) : Prop :=
  ∀ rest, betweenBars depth false (cs ++ rest) = (betweenBars depth false rest).modifyHead (cs ++ ·)

/-- A text is read over inside of brackets. -/
def Enclosable (s : String) : Prop := ∀ depth, Passes (depth + 1) s.toList

/-- A text is read over anywhere. -/
def Solid (s : String) : Prop := ∀ depth, Passes depth s.toList

theorem modifyHead_append {α : Type} (cs ds : List α) (parts : List (List α)) :
    (parts.modifyHead (ds ++ ·)).modifyHead (cs ++ ·) = parts.modifyHead (cs ++ ds ++ ·) := by
  cases parts <;> simp

namespace Passes

variable {depth : Nat} {cs ds : List Char}

theorem append (h : Passes depth cs) (h' : Passes depth ds) : Passes depth (cs ++ ds) := by
  intro rest
  rw [List.append_assoc, h, h', modifyHead_append]

theorem nil : Passes depth [] := by
  intro rest
  rw [List.nil_append]
  cases betweenBars depth false rest <;> rfl

/-- Characters that are no bars, brackets or quotes are read over. -/
theorem plain (plain : cs.all isOrdinary = true) : Passes depth cs := by
  induction cs with
  | nil => exact nil
  | cons c cs ih =>
    intro rest
    obtain ⟨here, later⟩ := Bool.and_eq_true_iff.mp plain
    simp only [isOrdinary, Bool.and_eq_true, bne_iff_ne, and_assoc] at here
    obtain ⟨bar, opening, closing, quote⟩ := here
    rw [List.cons_append, betweenBars]
    simp only [beq_eq_false_iff_ne.mpr bar, beq_eq_false_iff_ne.mpr opening,
      beq_eq_false_iff_ne.mpr closing, beq_eq_false_iff_ne.mpr quote, Bool.false_and,
      Bool.false_eq_true, if_false]
    rw [ih later, show (fun x => c :: x) = ([c] ++ ·) from rfl, modifyHead_append]
    rfl

/-- A bar inside of brackets ends nothing. -/
theorem bar : Passes (depth + 1) ['|'] := by
  intro rest
  rw [List.singleton_append, betweenBars]
  rfl

/-- What stands between brackets is read over as a whole. -/
theorem brackets (h : Passes (depth + 1) cs) : Passes depth (['['] ++ (cs ++ [']'])) := by
  intro rest
  have closing : betweenBars (depth + 1) false (']' :: rest) =
      (betweenBars depth false rest).modifyHead ([']'] ++ ·) := by
    rw [betweenBars]
    rfl
  have opening : betweenBars depth false ('[' :: (cs ++ ']' :: rest)) =
      (betweenBars (depth + 1) false (cs ++ ']' :: rest)).modifyHead (['['] ++ ·) := by
    rw [betweenBars]
    rfl
  rw [List.append_assoc, List.append_assoc, List.singleton_append,
    List.singleton_append, opening, h, closing, modifyHead_append, modifyHead_append,
    List.append_assoc]

theorem intercalate {separator : String} (between : Passes depth separator.toList) :
    ∀ {parts : List String}, (∀ part ∈ parts, Passes depth part.toList) →
      Passes depth (String.intercalate separator parts).toList
  | [], _ => by
    rw [String.intercalate_nil]
    exact nil
  | [part], all => by
    rw [String.intercalate_singleton]
    exact all part List.mem_cons_self
  | part :: next :: rest, all => by
    have others := between.intercalate (List.forall_mem_cons.mp all).2
    rw [String.intercalate_cons_cons, String.append_assoc, String.toList_append,
      String.toList_append]
    exact (all part List.mem_cons_self).append (between.append others)

end Passes

namespace Solid

variable {s t : String}

theorem enclosable (h : Solid s) : Enclosable s := fun depth => h (depth + 1)

theorem append (h : Solid s) (h' : Solid t) : Solid (s ++ t) := by
  intro depth
  rw [String.toList_append]
  exact (h depth).append (h' depth)

theorem plain (plain : s.toList.all isOrdinary = true) : Solid s := fun _ => .plain plain

theorem word (word : IsWord s) : Solid s := by
  refine .plain (List.all_eq_true.mpr fun c mem => ?_)
  have other {d : Char} (stops : continuesIdentifier d = false) : c ≠ d := by
    rintro rfl
    cases stops.symm.trans (word.continues c mem)
  simp only [isOrdinary, Bool.and_eq_true, bne_iff_ne]
  exact ⟨⟨⟨other (by decide), other (by decide)⟩, other (by decide)⟩, other (by decide)⟩

theorem brackets (h : Enclosable s) : Solid ("[" ++ s ++ "]") := by
  intro depth
  rw [String.toList_append, String.toList_append]
  exact (h depth).brackets

/-- Solid texts with commas between them. -/
theorem commaSeparated {parts : List String} (all : ∀ part ∈ parts, Solid part) :
    Solid (commaSeparated parts) := fun depth =>
  .intercalate (.plain (by decide)) fun part mem => all part mem depth

theorem numerals (all : s.toList ⊆ Decimal.numerals) : Solid s := by
  have ordinary : Decimal.numerals.all isOrdinary = true := by decide
  exact .plain (List.all_eq_true.mpr fun c mem => List.all_eq_true.mp ordinary c (all mem))

end Solid

namespace Enclosable

variable {s t : String}

theorem append (h : Enclosable s) (h' : Enclosable t) : Enclosable (s ++ t) := by
  intro depth
  rw [String.toList_append]
  exact (h depth).append (h' depth)

theorem bars : Enclosable " | " := fun _ =>
  have blank : [' '].all isOrdinary = true := by decide
  (Passes.plain blank).append (Passes.bar.append (.plain blank))

end Enclosable

/-! ## Literals -/

/-- What is escaped ends no quotes, and is read over between them. -/
theorem betweenBars_escaped {depth : Nat} {cs : List Char} (h : Escaped cs) (rest : List Char) :
    betweenBars depth true (cs ++ rest) = (betweenBars depth true rest).modifyHead (cs ++ ·) := by
  induction h with
  | nil =>
    rw [List.nil_append]
    cases betweenBars depth true rest <;> rfl
  | @plain c cs quote backslash _ ih =>
    have inside : (c != '"') = true := bne_iff_ne.mpr quote
    rw [List.cons_append, betweenBars, inside, ih, show (fun x => c :: x) = ([c] ++ ·) from rfl,
      modifyHead_append]
    · rfl
    · exact fun _ _ same _ => backslash same
  | @escape c cs _ ih =>
    rw [List.cons_append, List.cons_append, betweenBars, ih, modifyHead_append]
    rfl

theorem solid_quote (s : String) : Solid (Json.quote s) := by
  intro depth rest
  have opening (cs : List Char) : betweenBars depth false ('"' :: cs) =
      (betweenBars depth true cs).modifyHead (['"'] ++ ·) := by
    rw [betweenBars]
    rfl
  have closing : betweenBars depth true ('"' :: rest) =
      (betweenBars depth false rest).modifyHead (['"'] ++ ·) := by
    rw [betweenBars]
    · rfl
    · nofun
  rw [Json.quote, String.toList_ofList, Json.quoteList, List.cons_append, List.cons_append,
    List.append_assoc, List.singleton_append, opening,
    betweenBars_escaped (.flatMap_escapeChar s.toList), closing, modifyHead_append,
    modifyHead_append]
  simp

mutual

/-- A literal closes its brackets and quotes. By induction on the value. -/
theorem solid_literal : ∀ v : Value, Yields (literal v) Solid
  | .null => .ok (.plain (by decide))
  | .bool b => .ok (.plain (by cases b <;> decide))
  | .int n => by
    rw [literal]
    split
    · exact .ok (.numerals (Decimal.numerals_ofInt n))
    · exact .error
  | .float x => .ok (.numerals (Decimal.numerals_ofBinary64 x))
  | .str s => .ok (solid_quote s)
  | .list items | .tuple items => (solid_literals items).bind_pure fun parts all =>
    .brackets (Solid.commaSeparated all).enclosable
  | .map entries => (solid_entryLiterals entries).bind_pure fun parts all =>
    ((Solid.plain (by decide)).append (.commaSeparated all)).append (.plain (by decide))
  | .unset | .record .. | .knot _ => .error

theorem solid_literals : ∀ values : List Value, Yields (literals values) (∀ part ∈ ·, Solid part)
  | [] => .ok nofun
  | v :: rest => (solid_literal v).bind fun _ here => (solid_literals rest).bind_pure
    fun _ there => List.forall_mem_cons.mpr ⟨here, there⟩

theorem solid_entryLiterals : ∀ entries : List (Value × Value),
    Yields (entryLiterals entries) (∀ part ∈ ·, Solid part)
  | [] => .ok nofun
  | (k, v) :: rest => (solid_literal k).bind fun _ told => (solid_literal v).bind
    fun _ here => (solid_entryLiterals rest).bind_pure fun _ there =>
      List.forall_mem_cons.mpr ⟨(told.append (.plain (by decide))).append here, there⟩

end

/-! ## Alternatives -/

/-- A text has no blanks around it. -/
structure Trimmed (s : String) : Prop where
  front : s.toList.head? ≠ some ' '
  back : s.toList.getLast? ≠ some ' '

/-- Blanks behind a text without blanks around it are left out. -/
theorem bare_of_trimmed {s : String} (trimmed : Trimmed s) (blanks : List Char)
    (all : blanks.all (· == ' ') = true) : bare (s.toList ++ blanks) = s.toList := by
  have all := List.all_eq_true.mp all
  obtain ⟨front, back⟩ := trimmed
  have kept {cs : List Char} (first : cs.head? ≠ some ' ') : cs.dropWhile (· == ' ') = cs := by
    cases cs with
    | nil => rfl
    | cons c cs =>
      exact List.dropWhile_cons_of_neg fun same => first (congrArg some (beq_iff_eq.mp same))
  have dropped (cs : List Char) :
      (blanks.reverse ++ cs).dropWhile (· == ' ') = cs.dropWhile (· == ' ') :=
    List.dropWhile_append_of_pos fun c mem => all c (List.mem_reverse.mp mem)
  rw [← List.head?_reverse] at back
  rw [bare]
  cases chars : s.toList with
  | nil => rw [List.nil_append, List.dropWhile_eq_nil_iff.mpr all]; rfl
  | cons c cs =>
    rw [chars] at front back
    have first : (c :: cs ++ blanks).head? ≠ some ' ' := front
    rw [kept first, List.reverse_append, dropped, kept back, List.reverse_reverse]

/-- Pieces that close their brackets and quotes, with bars between them, are the alternatives of the
whole. -/
theorem alternatives_intercalate : ∀ {parts : List String}, parts ≠ [] →
    (∀ part ∈ parts, Solid part ∧ Trimmed part) →
      alternatives (String.intercalate " | " parts) = parts
  | [], empty, _ => absurd rfl empty
  | [part], _, all => by
    obtain ⟨solid, trimmed⟩ := all part List.mem_cons_self
    have whole := solid 0 []
    have alone := bare_of_trimmed trimmed [] rfl
    rw [List.append_nil] at whole alone
    rw [String.intercalate_singleton, alternatives, whole, betweenBars]
    simp [alone]
  | part :: next :: rest, _, all => by
    obtain ⟨⟨solid, trimmed⟩, later⟩ := List.forall_mem_cons.mp all
    have ih := alternatives_intercalate (List.cons_ne_nil next rest) later
    rw [alternatives] at ih
    rw [String.intercalate_cons_cons, alternatives, String.toList_append, String.toList_append,
      List.append_assoc, solid]
    generalize (String.intercalate " | " (next :: rest)).toList = tail at ih ⊢
    -- the blank in front of the bar ends the first part, the one behind it begins the next one
    have bar : betweenBars 0 false (" | ".toList ++ tail) =
        [' '] :: (betweenBars 0 false tail).modifyHead (' ' :: ·) := by
      change betweenBars 0 false (' ' :: '|' :: ' ' :: tail) = _
      simp [betweenBars]
    have first := bare_of_trimmed trimmed [' '] (by decide)
    have others : ((betweenBars 0 false tail).modifyHead (' ' :: ·)).map
        (fun cs => String.ofList (bare cs)) = next :: rest := by
      rw [← ih]
      cases betweenBars 0 false tail <;> rfl
    rw [bar, List.modifyHead_cons, List.map_cons, others, first, String.ofList_toList]

/-- What ends a text with bars in it ends its last part. -/
theorem endsInNull_intercalate {parts : List String} {last : String}
    (ends : parts.getLast? = some last) :
    endsInNull (String.intercalate " | " parts) = endsInNull last := by
  obtain ⟨front, rfl⟩ := List.getLast?_eq_some_iff.mp ends
  by_cases alone : front = []
  · rw [alone, List.nil_append, String.intercalate_singleton]
  · rw [String.intercalate_append_of_ne_nil alone (List.cons_ne_nil _ _),
      String.intercalate_singleton]
    have blank : " | ".toList = [' ', '|', ' '] := by decide
    rw [endsInNull, endsInNull, Text.endsWith, Text.endsWith, String.toList_append,
      String.toList_append, blank, List.reverse_append, List.reverse_append]
    change List.isPrefixOf ['e', 'n', 'o', 'N'] (last.toList.reverse ++ ' ' :: _) =
      List.isPrefixOf ['e', 'n', 'o', 'N'] last.toList.reverse
    -- no blank is among the four characters that are compared
    generalize last.toList.reverse = chars
    rcases chars with _ | ⟨a, _ | ⟨b, _ | ⟨c, _ | ⟨d, rest⟩⟩⟩⟩ <;> simp [List.isPrefixOf]

/-! ## Annotations of types -/

/-- What an alternative in an annotation may be. A union of nothing has an empty one. -/
inductive Piece (names : Names) : String → Prop
  | empty : Piece names ""
  | unset : Piece names "Unset"
  | kind (kind : Schema.Kind) : Piece names (annotateKind kind)
  | own {entry} : entry ∈ names.classes → Piece names entry.2
  | values {s} : Enclosable s → Piece names ("Literal[" ++ s ++ "]")
  | list {s} : Enclosable s → Piece names ("list[" ++ s ++ "]")
  | mapping {s} : Enclosable s → Piece names ("dict[str, " ++ s ++ "]")

namespace Piece

variable {names : Names} {s : String}

theorem solid (words : names.AreWords) (piece : Piece names s) : Solid s := by
  have bracketed {front inner : String} (plain : front.toList.all isOrdinary = true)
      (enclosable : Enclosable inner) : Solid (front ++ ("[" ++ inner ++ "]")) :=
    (Solid.plain plain).append (.brackets enclosable)
  cases piece with
  | empty => exact .plain (by decide)
  | unset => exact .plain (by decide)
  | kind kind => exact .plain (by cases kind <;> decide)
  | own mem => exact .word (words.classes _ mem)
  | @values inner enclosable =>
    have same : "Literal[" ++ inner ++ "]" = "Literal" ++ ("[" ++ inner ++ "]") := by
      rw [← String.append_assoc, ← String.append_assoc]; rfl
    rw [same]
    exact bracketed (by decide) enclosable
  | @list inner enclosable =>
    have same : "list[" ++ inner ++ "]" = "list" ++ ("[" ++ inner ++ "]") := by
      rw [← String.append_assoc, ← String.append_assoc]; rfl
    rw [same]
    exact bracketed (by decide) enclosable
  | @mapping inner enclosable =>
    have same : "dict[str, " ++ inner ++ "]" = "dict" ++ ("[" ++ ("str, " ++ inner) ++ "]") := by
      simp only [← String.append_assoc]; rfl
    rw [same]
    exact bracketed (by decide) ((Solid.plain (by decide)).enclosable.append enclosable)

/-- What closes a bracket at its end, and begins with a letter, has no blanks around it. -/
theorem trimmed_bracketed {front inner : String} (letter : front.toList.head?.any Char.isAlpha) :
    Trimmed (front ++ inner ++ "]") where
  front blank := by
    obtain ⟨c, first, alpha⟩ := (Option.any_eq_true _ _).mp letter
    obtain ⟨cs, same⟩ := List.head?_eq_some_iff.mp first
    rw [String.toList_append, String.toList_append, same] at blank
    cases blank
    cases alpha
  back blank := by
    have last : (front ++ inner ++ "]").toList.getLast? = some ']' := by
      rw [String.toList_append]
      exact List.getLast?_concat
    rw [last] at blank
    cases blank

theorem endsInNull_bracketed (s : String) : endsInNull (s ++ "]") = false := by
  rw [endsInNull, Text.endsWith, String.toList_append, List.reverse_append]
  rfl

theorem trimmed (words : names.AreWords) (piece : Piece names s) : Trimmed s := by
  cases piece with
  | empty => exact ⟨by decide, by decide⟩
  | unset => exact ⟨by decide, by decide⟩
  | kind kind => exact ⟨by cases kind <;> decide, by cases kind <;> decide⟩
  | @own entry mem =>
    have noBlank : ' ' ∉ entry.2.toList := by
      intro blank
      have stops : continuesIdentifier ' ' = false := by decide
      cases stops.symm.trans ((words.classes _ mem).continues ' ' blank)
    exact ⟨fun first => noBlank (List.mem_of_head? first),
      fun last => noBlank (List.mem_of_getLast? last)⟩
  | values | list | mapping => exact trimmed_bracketed (by decide)

/-- Only null itself and classes end in it. -/
theorem cases_of_endsInNull (piece : Piece names s) (ends : endsInNull s = true) :
    s = "None" ∨ ∃ entry ∈ names.classes, entry.2 = s := by
  cases piece with
  | empty | unset => exact absurd ends (by decide)
  | kind kind =>
    cases kind with
    | null => exact .inl rfl
    | _ => exact absurd ends (by decide)
  | own mem => exact .inr ⟨_, mem, rfl⟩
  | values | list | mapping => cases (endsInNull_bracketed _).symm.trans ends

theorem own_of_lookup {name c : String} (found : names.classes.lookup name = some c) :
    Piece names c := by
  obtain ⟨before, after, same, -⟩ := List.lookup_eq_some_iff.mp found
  have mem : (name, c) ∈ names.classes := by
    rw [same]
    exact List.mem_append_right _ List.mem_cons_self
  exact .own mem

end Piece

/-- An annotation is put together from its alternatives. -/
structure Alternates (names : Names) (hint : String) : Prop where
  whole : String.intercalate " | " (alternatives hint) = hint
  nonempty : alternatives hint ≠ []
  pieces : ∀ s ∈ alternatives hint, Piece names s

namespace Alternates

variable {names : Names} {hint : String}

/-- Pieces with bars between them are an annotation, and its alternatives. -/
theorem of_pieces (words : names.AreWords) {parts : List String} (nonempty : parts ≠ [])
    (pieces : ∀ s ∈ parts, Piece names s) :
    alternatives (String.intercalate " | " parts) = parts ∧
      Alternates names (String.intercalate " | " parts) := by
  have same : alternatives (String.intercalate " | " parts) = parts :=
    alternatives_intercalate nonempty fun s mem =>
      ⟨(pieces s mem).solid words, (pieces s mem).trimmed words⟩
  exact ⟨same, by rw [same], by rwa [same], by rwa [same]⟩

theorem of_piece (words : names.AreWords) (piece : Piece names hint) :
    alternatives hint = [hint] ∧ Alternates names hint := by
  have alone := of_pieces words (List.cons_ne_nil hint []) (List.forall_mem_singleton.mpr piece)
  rwa [String.intercalate_singleton] at alone

theorem enclosable (words : names.AreWords) (h : Alternates names hint) :
    Enclosable hint := by
  intro depth
  rw [← h.whole]
  exact .intercalate (Enclosable.bars depth) fun s mem =>
    ((h.pieces s mem).solid words).enclosable depth

/-- A piece behind an annotation is one more alternative. -/
theorem append (words : names.AreWords) (h : Alternates names hint) {s : String}
    (piece : Piece names s) :
    alternatives (hint ++ " | " ++ s) = alternatives hint ++ [s] ∧
      Alternates names (hint ++ " | " ++ s) := by
  have joined : String.intercalate " | " (alternatives hint ++ [s]) =
      hint ++ " | " ++ s := by
    rw [String.intercalate_append_of_ne_nil h.nonempty (List.cons_ne_nil _ _), h.whole,
      String.intercalate_singleton]
  have pieces : ∀ part ∈ alternatives hint ++ [s], Piece names part :=
    List.forall_mem_append.mpr ⟨h.pieces, List.forall_mem_singleton.mpr piece⟩
  have more := of_pieces words (List.append_ne_nil_of_left_ne_nil h.nonempty _) pieces
  rwa [joined] at more

/-- Null behind an annotation is one more alternative. -/
theorem append_null (words : names.AreWords) (h : Alternates names hint) :
    alternatives (hint ++ " | None") = alternatives hint ++ ["None"] ∧
      Alternates names (hint ++ " | None") := by
  have joined : " | None" = " | " ++ "None" := by decide
  rw [joined, ← String.append_assoc]
  exact h.append words (.kind .null)

/-- What ends an annotation ends its last alternative. -/
theorem exists_last (h : Alternates names hint) : ∃ last,
    (alternatives hint).getLast? = some last ∧ Piece names last ∧
      endsInNull hint = endsInNull last := by
  obtain ⟨last, ends⟩ := Option.ne_none_iff_exists'.mp fun none =>
    h.nonempty (List.getLast?_eq_none_iff.mp none)
  refine ⟨last, ends, h.pieces last (List.mem_of_getLast? ends), ?_⟩
  rw [← endsInNull_intercalate ends, h.whole]

end Alternates

theorem intercalate_flatMap {separator : String} {f : String → List String} :
    ∀ {parts : List String}, (∀ s ∈ parts, f s ≠ [] ∧ String.intercalate separator (f s) = s) →
      String.intercalate separator (parts.flatMap f) = String.intercalate separator parts
  | [], _ => rfl
  | [part], all => by
    rw [List.flatMap_singleton, String.intercalate_singleton]
    exact (all part List.mem_cons_self).2
  | part :: next :: rest, all => by
    obtain ⟨⟨some, same⟩, others⟩ := List.forall_mem_cons.mp all
    have more : (next :: rest).flatMap f ≠ [] := by
      rw [List.flatMap_cons]
      exact List.append_ne_nil_of_left_ne_nil (others next List.mem_cons_self).1 _
    rw [List.flatMap_cons, String.intercalate_append_of_ne_nil some more, same,
      intercalate_flatMap others, String.intercalate_cons_cons]

/-- The alternatives of a union are those of its parts. -/
theorem Alternates.union {names : Names} (words : names.AreWords) {parts : List String}
    (all : ∀ s ∈ parts, Alternates names s) :
    (∀ s ∈ parts, alternatives s ⊆ alternatives (String.intercalate " | " parts)) ∧
      Alternates names (String.intercalate " | " parts) := by
  cases parts with
  | nil => exact ⟨nofun, (of_piece words .empty).2⟩
  | cons part rest =>
    have some : (part :: rest).flatMap alternatives ≠ [] := by
      rw [List.flatMap_cons]
      exact List.append_ne_nil_of_left_ne_nil (all part List.mem_cons_self).nonempty _
    have whole := of_pieces words some fun piece mem => by
      obtain ⟨s, there, mem⟩ := List.mem_flatMap.mp mem
      exact (all s there).pieces piece mem
    rw [intercalate_flatMap fun s mem => ⟨(all s mem).nonempty, (all s mem).whole⟩] at whole
    refine ⟨fun s mem piece own => ?_, whole.2⟩
    rw [whole.1]
    exact List.mem_flatMap.mpr ⟨s, mem, own⟩

/-! ## Null -/

/-- Null is lost behind an annotation that has no null, but a class at its end whose name ends like
it. -/
def LosesNull (names : Names) (hint : String) : Prop :=
  "None" ∉ alternatives hint ∧ ∃ entry ∈ names.classes,
    (alternatives hint).getLast? = some entry.2 ∧ endsInNull entry.2 = true

section Null

variable {names : Names} {hint : String}

/-- An annotation has the alternatives that it has without null, and with null it may have one
more. -/
theorem Alternates.orNull (words : names.AreWords) (h : Alternates names hint) :
    alternatives hint ⊆ alternatives (orNull hint) ∧
      Alternates names (orNull hint) := by
  rw [Emit.orNull]
  split
  · exact ⟨fun _ mem => mem, h⟩
  · obtain ⟨more, alternates⟩ := h.append_null words
    refine ⟨?_, alternates⟩
    rw [more]
    exact List.subset_append_left _ _

/-- **Null is among the alternatives** of an annotation that it is added to exactly unless it is
lost. -/
theorem mem_alternatives_orNull_iff (words : names.AreWords) (h : Alternates names hint) :
    "None" ∈ alternatives (orNull hint) ↔ ¬LosesNull names hint := by
  obtain ⟨last, ends, piece, same⟩ := h.exists_last
  rw [orNull]
  cases null : endsInNull hint with
  | true =>
    rw [if_pos rfl]
    rw [null] at same
    constructor
    · exact fun mem lost => lost.1 mem
    · intro kept
      by_contra missing
      rcases piece.cases_of_endsInNull same.symm with rfl | ⟨entry, mem, rfl⟩
      · exact missing (List.mem_of_getLast? ends)
      · exact kept ⟨missing, entry, mem, ends, same.symm⟩
  | false =>
    rw [if_neg nofun, (h.append_null words).1]
    refine iff_of_true (List.mem_append_right _ List.mem_cons_self) fun lost => ?_
    obtain ⟨-, entry, -, there, own⟩ := lost
    cases ends.symm.trans there
    rw [null, own] at same
    cases same

end Null

/-! ## Annotations of types -/

mutual

/-- **The annotation of a type** is put together from its alternatives. By induction on the type. -/
theorem annotate_alternates {names : Names} (words : names.AreWords) :
    ∀ t : WireType, Yields (annotate names t) (Alternates names)
  | .primitive kind _ => .ok (Alternates.of_piece words (.kind kind)).2
  | .enum name values _ => by
    rw [annotate]
    split
    · rename_i c found
      obtain ⟨n, -, there⟩ := Option.bind_eq_some_iff.mp found
      exact .ok (Alternates.of_piece words (Piece.own_of_lookup there)).2
    · exact (solid_literals values).bind_pure fun _ all =>
        (Alternates.of_piece words (.values (Solid.commaSeparated all).enclosable)).2
  | .sequence element => (annotate_alternates words element).bind_pure fun _ here =>
    (Alternates.of_piece words (.list (here.enclosable words))).2
  | .mapping value => (annotate_alternates words value).bind_pure fun _ here =>
    (Alternates.of_piece words (.mapping (here.enclosable words))).2
  | .model name => by
    rw [annotate, Names.classOf]
    split
    · rename_i c found
      exact .ok (Alternates.of_piece words (Piece.own_of_lookup found)).2
    · exact .error
  | .union _ _ _ variants => (annotateAll_alternates words variants).bind_pure fun _ all =>
    (Alternates.union words fun s mem => all s (List.mem_eraseDups.mp mem)).2
  | .nullable inner => (annotate_alternates words inner).bind_pure fun _ here =>
    (here.orNull words).2
  | .optional inner => annotate_alternates words inner

theorem annotateAll_alternates {names : Names} (words : names.AreWords) :
    ∀ ts : List WireType, Yields (annotateAll names ts) (∀ part ∈ ·, Alternates names part)
  | [] => .ok nofun
  | t :: rest => (annotate_alternates words t).bind fun _ here =>
    (annotateAll_alternates words rest).bind_pure fun _ there =>
      List.forall_mem_cons.mpr ⟨here, there⟩

end

end WireModel.Emit
