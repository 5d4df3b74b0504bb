import WireModel.Proofs.Codec.Decoding
import WireModel.Proofs.Value.Likeness

/-!
# Alternatives that never get a value

A warning says that an alternative of a union takes every value of a later one. Predicates are
compared for that with the equality of values, to which `1`, `1.0` and `true` are the same; but the
check of an enumeration asks for one kind as well. So a warning can be wrong, and it is enough to
look at the values that the enumerations of the later predicate list.

* **`Predicate.exists_listed_of_shadows`**: a JSON value that the later predicate takes and the
  earlier one does not is the same as one that the later predicate lists.
* **`overlaps_true_iff`**: the warnings of contracts are those of the unions in them, and when a
  warning is true.
-/

namespace WireModel

open Schema (Kind)
open Types (WireType)

/-! ## Values that are the same -/

namespace Value

theorem same_iff_alike {v w : Value} :
    v.same w = true ↔ alike v w = true ∧ ∀ x, v = .float x → x.isNaN = false := by
  unfold same
  split
  · rename_i x y
    have number : x.sameNumber y = true → x.isNaN = false := by
      intro same
      simp only [Decimal.Binary64.sameNumber, Bool.and_eq_true, Bool.not_eq_true'] at same
      exact same.1.1
    simp only [alike, Bool.or_eq_true, beq_iff_eq, float.injEq, forall_eq']
    constructor
    · exact fun same => ⟨.inr same, number same⟩
    · rintro ⟨rfl | same, real⟩
      · exact Decimal.Binary64.sameNumber_self real
      · exact same
  · -- a float that is like a value of another kind is a whole number, so it is not NaN
    rename_i other
    constructor
    · intro like
      refine ⟨like, ?_⟩
      rintro x rfl
      obtain ⟨n, number, same⟩ := (alike_iff_of_number (m := .float x) rfl).mp like
      cases w <;> cases number
      · exact Decimal.Binary64.isNaN_eq_false
          (Decimal.Binary64.isInt_iff.mp (Number.key_float_eq_int.mp same)).1
      · exact Decimal.Binary64.isNaN_eq_false
          (Decimal.Binary64.isInt_iff.mp (Number.key_float_eq_int.mp same)).1
      · exact absurd rfl (other x _ rfl)
    · exact And.left

/-- Two values that no check tells apart: they are the same, and of one kind. -/
structure Equal (v w : Value) : Prop where
  same : v.same w = true
  kind : v.sameKind w = true

theorem member_iff {candidates : List Value} {v : Value} :
    v.member candidates = true ↔ ∃ w ∈ candidates, v.Equal w := by
  simp only [member, List.any_eq_true, Bool.and_eq_true]
  exact exists_congr fun w => and_congr_right fun _ => ⟨fun h => ⟨h.1, h.2⟩, fun h => ⟨h.1, h.2⟩⟩

theorem sameKind_trans {v w x : Value} (json : v.isJson = true) (first : v.sameKind w = true)
    (second : w.sameKind x = true) : v.sameKind x = true := by
  cases v <;> cases w <;> simp only [sameKind, Bool.false_eq_true] at first <;> try cases json
  all_goals cases x <;> simp only [sameKind, Bool.false_eq_true] at second ⊢

section

variable {v w : Value} (equal : v.Equal w)

include equal

theorem Equal.isKind_eq (kind : Kind) : Codec.isKind kind v = Codec.isKind kind w := by
  have same := equal.kind
  cases v <;> cases w <;> first | (cases kind <;> rfl) | cases same

theorem Equal.isSequence_eq : v.isSequence = w.isSequence := by
  have same := equal.kind
  cases v <;> cases w <;> first | rfl | cases same

theorem Equal.isMap_eq : v.isMap = w.isMap := by
  have same := equal.kind
  cases v <;> cases w <;> first | rfl | cases same

variable (json : v.isJson = true)

include json

theorem Equal.isJson : w.isJson = true := isJson_of_alike json (alike_of_same equal.same)

theorem Equal.trans {x : Value} (next : w.Equal x) : v.Equal x := by
  obtain ⟨like, real⟩ := same_iff_alike.mp equal.same
  refine ⟨same_iff_alike.mpr ⟨?_, real⟩, sameKind_trans json equal.kind next.kind⟩
  exact alike_trans json like (alike_of_same next.same)

/-- The second of two equal values is equal to itself: it is not a not-a-number. -/
theorem Equal.right : w.Equal w := by
  refine ⟨same_iff_alike.mpr ⟨alike_refl (equal.isJson json), ?_⟩, sameKind_self w⟩
  rintro y rfl
  obtain ⟨same, kind⟩ := equal
  cases v <;> cases kind
  simp only [Value.same, Decimal.Binary64.sameNumber, Bool.and_eq_true, Bool.not_eq_true'] at same
  exact same.1.2

theorem Equal.hasRequired_eq (names : List String) :
    Codec.hasRequired names v = Codec.hasRequired names w := by
  have same := equal.kind
  have like := alike_of_same equal.same
  cases v with
  | map entries =>
    obtain ⟨others, rfl, -, -⟩ := (alike_map_iff json).mp like
    have keys := keys_perm_of_alike json like
    have key (name : String) : hasKey name entries = hasKey name others := by
      rw [Bool.eq_iff_iff, hasKey, hasKey, lookup_isSome_iff_mem, lookup_isSome_iff_mem,
        keys.mem_iff]
    simp only [Codec.hasRequired, key]
  | _ => cases w <;> first | rfl | cases same

end

end Value

/-! ## Predicates -/

namespace Predicate

/-- The values that the enumerations of a predicate list. -/
inductive Lists (w : Value) : Predicate → Prop
  | enumMember {values} : w ∈ values → Lists w (.enumMember values)
  | anyOf {p predicates} : p ∈ predicates → Lists w p → Lists w (.anyOf predicates)

theorem anyHoldsOfWire_iff {predicates : List Predicate} {v : Value} :
    anyHoldsOfWire predicates v = true ↔ ∃ p ∈ predicates, p.holdsOfWire v = true := by
  induction predicates with
  | nil => simp [anyHoldsOfWire]
  | cons p rest ih => simp [anyHoldsOfWire, ih]

/-- No predicate tells apart a JSON value from one that is equal to it. By induction on the
predicate. -/
theorem holdsOfWire_of_equal {v w : Value} (json : v.isJson = true) (equal : v.Equal w) :
    ∀ p : Predicate, p.holdsOfWire w = true → p.holdsOfWire v = true
  | .record _ required, taken => by
    rw [holdsOfWire, equal.hasRequired_eq json]
    exact taken
  | .primitive kind, taken => by
    rw [holdsOfWire, equal.isKind_eq]
    exact taken
  | .sequence, taken => by
    rw [holdsOfWire, equal.isSequence_eq]
    exact taken
  | .mapping, taken => by
    rw [holdsOfWire, equal.isMap_eq]
    exact taken
  | .enumMember values, taken => by
    obtain ⟨c, mem, next⟩ := Value.member_iff.mp taken
    exact Value.member_iff.mpr ⟨c, mem, equal.trans json next⟩
  | .anyOf predicates, taken => by
    obtain ⟨p, mem, taken⟩ := anyHoldsOfWire_iff.mp taken
    exact anyHoldsOfWire_iff.mpr ⟨p, mem, holdsOfWire_of_equal json equal p taken⟩

/-- A predicate takes what it lists and what is equal to itself. -/
theorem holdsOfWire_of_lists {p : Predicate} {w : Value} (listed : p.Lists w) (equal : w.Equal w) :
    p.holdsOfWire w = true := by
  induction listed with
  | enumMember mem => exact Value.member_iff.mpr ⟨w, mem, equal⟩
  | anyOf mem _ ih => exact anyHoldsOfWire_iff.mpr ⟨_, mem, ih⟩

/-- Of two predicates that are the same, the first one takes what the second one does, but for
what is equal to a value that the second one lists. -/
theorem exists_lists_of_same {v : Value} : ∀ {p q : Predicate}, p.same q = true →
    q.holdsOfWire v = true → p.holdsOfWire v = true ∨ ∃ w, q.Lists w ∧ v.Equal w
  | .record _ required, q, same, taken => by
    cases q <;> simp only [Predicate.same, Bool.false_eq_true, Bool.and_eq_true, beq_iff_eq] at same
    obtain ⟨-, rfl⟩ := same
    exact .inl taken
  | .primitive kind, q, same, taken => by
    cases q <;> simp only [Predicate.same, Bool.false_eq_true, beq_iff_eq] at same
    obtain rfl := same
    exact .inl taken
  | .sequence, q, same, taken => by
    rw [same_sequence_iff.mp same] at taken
    exact .inl taken
  | .mapping, q, same, taken => by
    cases q <;> simp only [Predicate.same, Bool.false_eq_true] at same
    exact .inl taken
  -- enumerations are all the same, so the value has to be among those of the second one
  | .enumMember _, q, same, taken => by
    cases q <;> simp only [Predicate.same, Bool.false_eq_true] at same
    obtain ⟨w, mem, equal⟩ := Value.member_iff.mp taken
    exact .inr ⟨w, .enumMember mem, equal⟩
  | .anyOf ps, q, same, taken => by
    cases q <;> simp only [Predicate.same, Bool.false_eq_true] at same
    rename_i qs
    obtain ⟨q, mem, taken⟩ := anyHoldsOfWire_iff.mp taken
    rcases all same mem taken with ⟨p, mem, taken⟩ | ⟨w, listed, equal⟩
    · exact .inl (anyHoldsOfWire_iff.mpr ⟨p, mem, taken⟩)
    · exact .inr ⟨w, .anyOf mem listed, equal⟩
where
  all {v : Value} : ∀ {ps qs : List Predicate} {q : Predicate}, sameAll ps qs = true → q ∈ qs →
      q.holdsOfWire v = true →
        (∃ p ∈ ps, p.holdsOfWire v = true) ∨ ∃ w, q.Lists w ∧ v.Equal w
    | [], [], _, _, mem, _ => nomatch mem
    | p :: ps, q' :: qs, q, same, mem, taken => by
      simp only [sameAll, Bool.and_eq_true] at same
      rcases List.mem_cons.mp mem with rfl | mem
      · exact (exists_lists_of_same same.1 taken).imp_left fun taken => ⟨p, List.mem_cons_self, taken⟩
      · rcases all same.2 mem taken with ⟨p, mem, taken⟩ | other
        · exact .inl ⟨p, List.mem_cons_of_mem _ mem, taken⟩
        · exact .inr other

/-- What a later predicate takes and an earlier one does not, although it should, is equal to a
value that the later one lists, and the two predicates are the same. -/
theorem exists_lists_of_shadows {p q : Predicate} (shadows : p.shadows q = true) {v : Value}
    (taken : q.holdsOfWire v = true) :
    p.holdsOfWire v = true ∨ p.same q = true ∧ ∃ w, q.Lists w ∧ v.Equal w := by
  unfold Predicate.shadows at shadows
  split at shadows
  · rename_i same
    exact (exists_lists_of_same same taken).imp_right fun listed => ⟨same, listed⟩
  · split at shadows
    · exact .inl rfl
    · left
      cases v <;> first | rfl | cases taken
    · rename_i kind values
      left
      obtain ⟨w, mem, equal⟩ := Value.member_iff.mp taken
      have of_kind := List.all_eq_true.mp (Bool.and_eq_true_iff.mp shadows).2 w mem
      simp only [Bool.and_eq_true, beq_iff_eq, bne_iff_ne] at of_kind
      rw [holdsOfWire, equal.isKind_eq, ← of_kind.1]
      cases w <;> rfl
    · rename_i required _ others
      left
      cases v with
      | map entries =>
        rw [holdsOfWire, Codec.hasRequired, List.all_eq_true] at taken ⊢
        intro name mem
        exact taken name (List.contains_iff_mem.mp (List.all_eq_true.mp shadows name mem))
      | _ => cases taken
    · left
      cases v <;> first | rfl | cases taken
    · cases shadows

/-- **When a warning about two predicates is true.** An earlier predicate that should take every
value of a later one takes all JSON values that the later one does exactly if it takes those of them
that the later one lists. -/
theorem takes_all_iff {p q : Predicate} (shadows : p.shadows q = true) :
    (∀ v : Value, v.isJson = true → q.holdsOfWire v = true → p.holdsOfWire v = true) ↔
      ∀ w : Value, w.isJson = true → q.Lists w → q.holdsOfWire w = true →
        p.holdsOfWire w = true := by
  constructor
  · exact fun all w json _ taken => all w json taken
  · intro all v json taken
    rcases exists_lists_of_shadows shadows taken with taken | ⟨-, w, listed, equal⟩
    · exact taken
    · have taken' := holdsOfWire_of_lists listed (equal.right json)
      exact holdsOfWire_of_equal json equal p (all w (equal.isJson json) listed taken')

end Predicate
/-! ## Warnings of plans -/

namespace Contract

/-- Which pairs of alternatives there is a warning about. -/
theorem mem_overlaps_iff {predicates : List Predicate} {a b : Nat} :
    (a, b) ∈ overlaps predicates ↔ ∃ i j p q, a = i + 1 ∧ b = j + 1 ∧ i < j ∧
      predicates[i]? = some p ∧ predicates[j]? = some q ∧ p.shadows q = true := by
  -- alternatives are paired with those behind them
  have later {i j : Nat} {q : Predicate} : (q, j) ∈ predicates.zipIdx.drop (i + 1) ↔
      i < j ∧ predicates[j]? = some q := by
    simp only [List.mem_iff_getElem?, List.getElem?_drop, List.getElem?_zipIdx]
    constructor
    · rintro ⟨k, found⟩
      obtain ⟨q', there, same⟩ := Option.map_eq_some_iff.mp found
      cases same
      rw [Nat.zero_add]
      exact ⟨by omega, there⟩
    · rintro ⟨less, found⟩
      refine ⟨j - (i + 1), ?_⟩
      rw [show i + 1 + (j - (i + 1)) = j by omega, found, Nat.zero_add]
      rfl
  simp only [overlaps, List.mem_flatMap, List.mem_filterMap, Prod.exists]
  constructor
  · rintro ⟨p, i, first, q, j, second, reported⟩
    split at reported
    · rename_i shadows
      cases reported
      obtain ⟨less, found⟩ := later.mp second
      exact ⟨i, j, p, q, rfl, rfl, less, List.mem_zipIdx_iff_getElem?.mp first, found, shadows⟩
    · cases reported
  · rintro ⟨i, j, p, q, rfl, rfl, less, first, second, shadows⟩
    refine ⟨p, i, List.mem_zipIdx_iff_getElem?.mpr first, q, j, later.mpr ⟨less, second⟩, ?_⟩
    rw [if_pos shadows]

end Contract

namespace Plan

/-- A plan is a part of another one: that itself, or inside of it. -/
inductive Part (part : Plan) : Plan → Prop
  | refl : Part part part
  | nullable {p} : Part part p → Part part (.nullable p)
  | eachElement {p} : Part part p → Part part (.eachElement p)
  | eachValue {p} : Part part p → Part part (.eachValue p)
  | option {options description option} : option ∈ options → Part part option.2 →
      Part part (.firstMatch options description)

mutual

/-- The warnings about the alternatives in a plan. -/
def overlapWarnings : Plan → List Warning
  | .nullable inner => inner.overlapWarnings
  | .eachElement element => element.overlapWarnings
  | .eachValue value => value.overlapWarnings
  | .firstMatch options description =>
    optionWarnings options ++ (Contract.overlaps (options.map Prod.fst)).map fun pair =>
      .overlap description pair.1 pair.2
  | _ => []

def optionWarnings : List (Predicate × Plan) → List Warning
  | [] => []
  | (_, plan) :: rest => plan.overlapWarnings ++ optionWarnings rest

end

/-- The options of a plan have a pair of alternatives, counted from zero, that there is a warning
about. -/
def HasOverlap (options : List (Predicate × Plan)) (i j : Nat) : Prop :=
  i < j ∧ ∃ first second, options[i]? = some first ∧ options[j]? = some second ∧
    first.1.shadows second.1 = true

theorem mem_overlaps_options_iff {options : List (Predicate × Plan)} {a b : Nat} :
    (a, b) ∈ Contract.overlaps (options.map Prod.fst) ↔
      ∃ i j, a = i + 1 ∧ b = j + 1 ∧ HasOverlap options i j := by
  simp only [Contract.mem_overlaps_iff, List.getElem?_map, Option.map_eq_some_iff, HasOverlap]
  constructor
  · rintro ⟨i, j, _, _, rfl, rfl, less, ⟨first, hfirst, rfl⟩, ⟨second, hsecond, rfl⟩, shadows⟩
    exact ⟨i, j, rfl, rfl, less, first, second, hfirst, hsecond, shadows⟩
  · rintro ⟨i, j, rfl, rfl, less, first, second, hfirst, hsecond, shadows⟩
    exact ⟨i, j, _, _, rfl, rfl, less, ⟨first, hfirst, rfl⟩, ⟨second, hsecond, rfl⟩, shadows⟩

/-- A warning about a plan is about a union in it. -/
def WarnsOf (p : Plan) (w : Warning) : Prop :=
  ∃ options description i j, Part (.firstMatch options description) p ∧
    HasOverlap options i j ∧ w = .overlap description (i + 1) (j + 1)

theorem warnsOf_iff_of_part {w : Warning} {inner outer : Plan}
    (same : ∀ options description, Part (.firstMatch options description) outer ↔
      Part (.firstMatch options description) inner) : outer.WarnsOf w ↔ inner.WarnsOf w := by
  simp only [WarnsOf, same]

mutual

theorem mem_overlapWarnings_iff {w : Warning} :
    ∀ {p : Plan}, w ∈ p.overlapWarnings ↔ p.WarnsOf w
  | .pass _ | .checkEnum .. | .call _ | .dispatch .. => by
    constructor
    · nofun
    · rintro ⟨_, _, _, _, part, -, -⟩
      cases part
  | .nullable inner => by
    rw [overlapWarnings, mem_overlapWarnings_iff (p := inner)]
    refine (warnsOf_iff_of_part fun _ _ => ⟨fun outer => ?_, .nullable⟩).symm
    cases outer with
    | nullable part => exact part
  | .eachElement inner => by
    rw [overlapWarnings, mem_overlapWarnings_iff (p := inner)]
    refine (warnsOf_iff_of_part fun _ _ => ⟨fun outer => ?_, .eachElement⟩).symm
    cases outer with
    | eachElement part => exact part
  | .eachValue inner => by
    rw [overlapWarnings, mem_overlapWarnings_iff (p := inner)]
    refine (warnsOf_iff_of_part fun _ _ => ⟨fun outer => ?_, .eachValue⟩).symm
    cases outer with
    | eachValue part => exact part
  | .firstMatch options description => by
    rw [overlapWarnings, List.mem_append, mem_optionWarnings_iff]
    constructor
    · -- a warning is about alternatives further in, or about those of this plan
      rintro (⟨option, mem, others, d, i, j, part, rest⟩ | own)
      · exact ⟨others, d, i, j, .option mem part, rest⟩
      · obtain ⟨⟨a, b⟩, pair, rfl⟩ := List.mem_map.mp own
        obtain ⟨i, j, rfl, rfl, overlap⟩ := mem_overlaps_options_iff.mp pair
        exact ⟨options, description, i, j, .refl, overlap, rfl⟩
    · rintro ⟨others, d, i, j, part, overlap, rfl⟩
      cases part with
      | refl =>
        refine .inr (List.mem_map.mpr ⟨(i + 1, j + 1), ?_, rfl⟩)
        exact mem_overlaps_options_iff.mpr ⟨i, j, rfl, rfl, overlap⟩
      | option mem part => exact .inl ⟨_, mem, others, d, i, j, part, overlap, rfl⟩

theorem mem_optionWarnings_iff {w : Warning} : ∀ {options : List (Predicate × Plan)},
    w ∈ optionWarnings options ↔ ∃ option ∈ options, option.2.WarnsOf w
  | [] => by simp [optionWarnings]
  | (p, plan) :: rest => by
    have others := @mem_optionWarnings_iff w rest
    rw [optionWarnings, List.mem_append, mem_overlapWarnings_iff, others, List.exists_mem_cons_iff]

end

end Plan

namespace Contract

theorem quietly_runs {α : Type} {result : Except Fault α} {a : α} {log log' : List Warning}
    (h : Runs (quietly result) log a log') : log' = log := by
  cases result with
  | error fault => exact absurd h not_runs_throw
  | ok b => exact (runs_pure_iff.mp h).2.symm

theorem warnAll_runs {context : String} : ∀ {pairs : List (Nat × Nat)} {log log' : List Warning},
    Runs (pairs.forM fun (i, j) => Logged.warn (ε := Fault) (.overlap context i j)) log () log' →
      log' = log ++ pairs.map fun pair => .overlap context pair.1 pair.2
  | [], log, log', h => by
    rw [(runs_pure_iff.mp h).2, List.map_nil, List.append_nil]
  | pair :: pairs, log, log', h => by
    obtain ⟨_, middle, first, rest⟩ := runs_bind_iff.mp h
    cases first
    rw [warnAll_runs rest, List.map_cons, List.append_assoc, List.singleton_append]

mutual

/-- What the derivation of a plan warns about can be read off the plan. By induction on the type. -/
theorem planOf_runs {table : Table} : ∀ {context : String} {t : WireType} {p : Plan}
    {log log' : List Warning}, Runs (planOf table context t) log p log' →
      log' = log ++ p.overlapWarnings
  | _, .primitive .., _, _, _, h | _, .enum .., _, _, _, h | _, .model _, _, _, _, h
  | _, .union _ _ (some _) _, _, _, _, h => by
    obtain ⟨rfl, rfl⟩ := runs_pure_iff.mp h
    exact (List.append_nil _).symm
  | _, .optional inner, _, _, _, h => planOf_runs (t := inner) h
  | _, .nullable _, _, _, _, h | _, .sequence _, _, _, _, h | _, .mapping _, _, _, _, h => by
    obtain ⟨q, middle, inner, h⟩ := runs_bind_iff.mp h
    obtain ⟨rfl, rfl⟩ := runs_pure_iff.mp h
    exact (planOf_runs inner : _ = _ ++ q.overlapWarnings)
  | _, .union _ _ none _, _, _, _, h => by
    obtain ⟨options, middle, hoptions, h⟩ := runs_bind_iff.mp h
    obtain ⟨_, middle', warned, h⟩ := runs_bind_iff.mp h
    obtain ⟨rfl, rfl⟩ := runs_pure_iff.mp h
    rw [warnAll_runs warned, optionsOf_runs hoptions, List.append_assoc]
    rfl

theorem optionsOf_runs {table : Table} : ∀ {context : String} {ts : List WireType}
    {options : List (Predicate × Plan)} {log log' : List Warning},
    Runs (optionsOf table context ts) log options log' → log' = log ++ Plan.optionWarnings options
  | _, [], _, _, _, h => by
    obtain ⟨rfl, rfl⟩ := runs_pure_iff.mp h
    exact (List.append_nil _).symm
  | _, t :: rest, _, _, _, h => by
    obtain ⟨p, first, hp, h⟩ := runs_bind_iff.mp h
    obtain ⟨plan, second, hplan, h⟩ := runs_bind_iff.mp h
    obtain ⟨others, third, hothers, h⟩ := runs_bind_iff.mp h
    obtain ⟨rfl, rfl⟩ := runs_pure_iff.mp h
    rw [optionsOf_runs hothers, planOf_runs hplan, quietly_runs hp, List.append_assoc]
    rfl

end

/-- The plans of a contract: those of its fields, or of its alternatives. -/
def plans : Contract → List Plan
  | .record r => r.fields.map FieldContract.plan
  | .union u => [u.body]

theorem mapM_runs {α β : Type} {f : α → Logged Fault β} {warnings : β → List Warning}
    (each : ∀ {a b log log'}, Runs (f a) log b log' → log' = log ++ warnings b) :
    ∀ {l : List α} {bs : List β} {log log' : List Warning}, Runs (l.mapM f) log bs log' →
      log' = log ++ bs.flatMap warnings
  | [], bs, log, log', h => by
    rw [List.mapM_nil] at h
    obtain ⟨rfl, rfl⟩ := runs_pure_iff.mp h
    exact (List.append_nil _).symm
  | a :: l, bs, log, log', h => by
    rw [List.mapM_cons] at h
    obtain ⟨b, middle, first, h⟩ := runs_bind_iff.mp h
    obtain ⟨bs', middle', rest, h⟩ := runs_bind_iff.mp h
    obtain ⟨rfl, rfl⟩ := runs_pure_iff.mp h
    rw [mapM_runs each rest, each first, List.flatMap_cons, List.append_assoc]

theorem ofModel_runs {table : Table} {m : Model} {c : Contract} {log log' : List Warning}
    (h : Runs (ofModel table m) log c log') :
    log' = log ++ c.plans.flatMap Plan.overlapWarnings := by
  cases m with
  | record r =>
    obtain ⟨fields, middle, all, h⟩ := runs_bind_iff.mp h
    obtain ⟨rfl, rfl⟩ := runs_pure_iff.mp h
    rw [plans, List.flatMap_map]
    refine mapM_runs (fun {f c log log'} h => ?_) all
    obtain ⟨plan, middle, here, h⟩ := runs_bind_iff.mp h
    obtain ⟨rfl, rfl⟩ := runs_pure_iff.mp h
    exact planOf_runs here
  | union u =>
    obtain ⟨body, middle, here, h⟩ := runs_bind_iff.mp h
    obtain ⟨rfl, rfl⟩ := runs_pure_iff.mp h
    rw [plans, List.flatMap_singleton]
    exact planOf_runs here

end Contract

namespace Contracts

/-- A plan stands in some contracts, at any depth. -/
def Uses (contracts : Contracts) (p : Plan) : Prop :=
  ∃ c ∈ contracts, ∃ whole ∈ c.plans, p.Part whole

/-- The warnings of a derivation are those about the unions in the contracts. -/
theorem mem_warnings_iff {table : Table} {contracts : Contracts} {warnings : List Warning}
    (derived : (Contract.derive table).outcome = (.ok contracts, warnings)) {w : Warning} :
    w ∈ warnings ↔ ∃ options description i j, contracts.Uses (.firstMatch options description) ∧
      Plan.HasOverlap options i j ∧ w = .overlap description (i + 1) (j + 1) := by
  have logged : warnings = [] ++ _ := Contract.mapM_runs Contract.ofModel_runs derived
  rw [logged, List.nil_append]
  simp only [List.mem_flatMap, Plan.mem_overlapWarnings_iff]
  constructor
  · rintro ⟨c, mem, whole, there, options, d, i, j, part, rest⟩
    exact ⟨options, d, i, j, ⟨c, mem, whole, there, part⟩, rest⟩
  · rintro ⟨options, d, i, j, ⟨c, mem, whole, there, part⟩, rest⟩
    exact ⟨c, mem, whole, there, options, d, i, j, part, rest⟩

end Contracts

/-! ## The alternative that a value is decoded as -/

namespace Plan

/-- The alternative that a value is decoded as, counted from zero: the first one that takes it. -/
def chosen (options : List (Predicate × Plan)) (v : Value) : Option Nat :=
  options.findIdx? fun option => option.1.holdsOfWire v

theorem chosen_eq_some_iff {options : List (Predicate × Plan)} {v : Value} {j : Nat} :
    chosen options v = some j ↔
      ∃ option, options[j]? = some option ∧ option.1.holdsOfWire v = true ∧
        ∀ k < j, ∀ other, options[k]? = some other → other.1.holdsOfWire v = false := by
  rw [chosen, List.findIdx?_eq_some_iff_getElem]
  constructor
  · rintro ⟨inside, taken, none⟩
    refine ⟨_, List.getElem?_eq_getElem inside, taken, fun k before other there => ?_⟩
    obtain ⟨_, rfl⟩ := List.getElem?_eq_some_iff.mp there
    exact Bool.eq_false_iff.mpr (none k before)
  · rintro ⟨option, there, taken, none⟩
    obtain ⟨inside, rfl⟩ := List.getElem?_eq_some_iff.mp there
    refine ⟨inside, taken, fun k before => Bool.eq_false_iff.mp ?_⟩
    exact none k before _ (List.getElem?_eq_getElem (before.trans inside))

/-- **When a warning about two alternatives is true.** No JSON value is decoded as the later one
exactly if whatever it lists and takes is taken before. -/
theorem never_chosen_iff {options : List (Predicate × Plan)} {i j : Nat}
    (overlap : HasOverlap options i j) :
    (∀ v : Value, v.isJson = true → chosen options v ≠ some j) ↔
      ∀ later, options[j]? = some later → ∀ w : Value, w.isJson = true → later.1.Lists w →
        later.1.holdsOfWire w = true →
          ∃ k < j, ∃ other, options[k]? = some other ∧ other.1.holdsOfWire w = true := by
  obtain ⟨less, first, second, hfirst, hsecond, shadows⟩ := overlap
  constructor
  · intro never later found w json _ taken
    by_contra none
    refine never w json (chosen_eq_some_iff.mpr ⟨later, found, taken, fun k before other there => ?_⟩)
    exact Bool.eq_false_iff.mpr fun taken => none ⟨k, before, other, there, taken⟩
  · intro all v json chosen
    obtain ⟨later, found, taken, none⟩ := chosen_eq_some_iff.mp chosen
    obtain rfl := Option.some.inj (hsecond.symm.trans found)
    rcases Predicate.exists_lists_of_shadows shadows taken with taken | ⟨-, w, listed, equal⟩
    · rw [none i less first hfirst] at taken
      cases taken
    · have taken' := Predicate.holdsOfWire_of_lists listed (equal.right json)
      obtain ⟨k, before, other, there, holds⟩ :=
        all second found w (equal.isJson json) listed taken'
      have taken := Predicate.holdsOfWire_of_equal json equal other.1 holds
      rw [none k before other there] at taken
      cases taken

end Plan

open Plan (HasOverlap chosen)

/-- **When overlap warnings are true.** Predicates of which the earlier one should take every value
of the later one do so exactly if it takes those JSON values that the later one lists in its
enumerations and takes itself. The warnings of contracts are those about the unions in them, and
what a warning says, that no value is decoded as the later alternative, is true exactly if whatever
JSON value that one lists and takes is taken before. -/
theorem overlap_warnings_true_iff {table : Table} {contracts : Contracts}
    {warnings : List Warning}
    (derived : (Contract.derive table).outcome = (.ok contracts, warnings)) :
    (∀ p q : Predicate, p.shadows q = true →
      ((∀ v : Value, v.isJson = true → q.holdsOfWire v = true → p.holdsOfWire v = true) ↔
        ∀ w : Value, w.isJson = true → q.Lists w → q.holdsOfWire w = true →
          p.holdsOfWire w = true)) ∧
    (∀ w ∈ warnings, ∃ options description i j, contracts.Uses (.firstMatch options description) ∧
      HasOverlap options i j ∧ w = .overlap description (i + 1) (j + 1)) ∧
    ∀ options description i j, contracts.Uses (.firstMatch options description) →
      HasOverlap options i j → .overlap description (i + 1) (j + 1) ∈ warnings ∧
      ((∀ v : Value, v.isJson = true → chosen options v ≠ some j) ↔
        ∀ later, options[j]? = some later → ∀ w : Value, w.isJson = true → later.1.Lists w →
          later.1.holdsOfWire w = true →
            ∃ k < j, ∃ other, options[k]? = some other ∧ other.1.holdsOfWire w = true) := by
  refine ⟨fun p q => Predicate.takes_all_iff, fun w => (Contracts.mem_warnings_iff derived).mp, ?_⟩
  intro options description i j used overlap
  refine ⟨?_, Plan.never_chosen_iff overlap⟩
  exact (Contracts.mem_warnings_iff derived).mpr ⟨_, _, i, j, used, overlap, rfl⟩

/-! ## An alternative that does get a value -/

/-- A union of the enumerations of `1` and of `true`. -/
def oneOrTrue : Types.Definition :=
  .type (.union none .anyOf none
    [.enum none [.int 1] .integer, .enum none [.bool true] .boolean])

def oneOrTrueTable : Table :=
  ⟨[.union ⟨"Q", .anyOf, none,
    [.enum none [.int 1] .integer, .enum none [.bool true] .boolean]⟩], []⟩

/-- The alternatives of the union. -/
def oneOrTrueOptions : List (Predicate × Plan) :=
  [(.enumMember [.int 1], .checkEnum [.int 1] none),
    (.enumMember [.bool true], .checkEnum [.bool true] none)]

def oneOrTrueContracts : Contracts := [.union ⟨"Q", .firstMatch oneOrTrueOptions "Q"⟩]

theorem oneOrTrue_derives : (Contract.derive oneOrTrueTable).outcome =
    (.ok oneOrTrueContracts, [.overlap "Q" 1 2]) := by
  with_unfolding_all rfl

theorem oneOrTrue_uses : oneOrTrueContracts.Uses (.firstMatch oneOrTrueOptions "Q") :=
  ⟨_, List.mem_cons_self, _, List.mem_cons_self, .refl⟩

theorem oneOrTrue_hasOverlap : HasOverlap oneOrTrueOptions 0 1 :=
  ⟨by decide, _, _, rfl, rfl, by decide +kernel⟩

/-- There is a warning that the second enumeration never gets a value, but `true` is decoded as
it. -/
theorem true_is_chosen : Table.build {} [("Q", oneOrTrue)] = .ok oneOrTrueTable ∧
    (Contract.derive oneOrTrueTable).outcome = (.ok oneOrTrueContracts, [.overlap "Q" 1 2]) ∧
    oneOrTrueContracts.Uses (.firstMatch oneOrTrueOptions "Q") ∧
    HasOverlap oneOrTrueOptions 0 1 ∧
    chosen oneOrTrueOptions (.bool true) = some 1 ∧
    Codec.decode oneOrTrueContracts "Q" (.bool true) = .ok (.bool true) := by
  have decoded : (Codec.decode oneOrTrueContracts "Q" (.bool true)).toOption.any
      (Value.identical (.bool true)) = true := by decide +kernel
  obtain ⟨v, found, same⟩ := (Option.any_eq_true _ _).mp decoded
  obtain rfl := Value.eq_of_identical same
  exact ⟨by with_unfolding_all rfl, oneOrTrue_derives, oneOrTrue_uses, oneOrTrue_hasOverlap, by decide +kernel,
    toOption_eq_some.mp found⟩

/-- The warning is found to be wrong by the one value that the second enumeration lists. -/
theorem true_is_not_taken_before :
    (Contract.derive oneOrTrueTable).outcome = (.ok oneOrTrueContracts, [.overlap "Q" 1 2]) ∧
    ¬∀ v : Value, v.isJson = true → chosen oneOrTrueOptions v ≠ some 1 := by
  refine ⟨oneOrTrue_derives, fun never => ?_⟩
  obtain ⟨-, -, truth⟩ := overlap_warnings_true_iff oneOrTrue_derives
  have before := (truth _ _ 0 1 oneOrTrue_uses oneOrTrue_hasOverlap).2.mp never
  obtain ⟨k, less, other, there, taken⟩ :=
    before _ rfl (.bool true) rfl (.enumMember List.mem_cons_self) (by decide +kernel)
  obtain rfl : k = 0 := by omega
  obtain rfl := Option.some.inj there
  revert taken
  decide +kernel

end WireModel
