import WireModel.Proofs.Plan.Overlaps

/-!
# Membership in enumerations

Two JSON values are one if they are built in the same way from the same scalars: lists in one order,
mappings without regard to the order of their keys, and numbers of one kind only. The check of an
enumeration looks at the kind of the outermost value alone, so it takes some values for others.

* **`alike_iff_matches`**: values are alike if they are built from scalars that are one but for the
  kinds of numbers.
* **`member_iff_declared`**: a member is declared, or it is mistaken for a declared value: inside of
  the two, numbers of different kinds stand at one place.
* **`Mistaken.exists_number`**: where they differ, the two have one number, of different kinds.
* **`exact_iff`**: when the checks of an enumeration are exact.
-/

namespace WireModel.Value

/-! ## One and the same value -/

/-- The rational number that a value is. -/
def rational? : Value → Option ℚ
  | .bool b => some (if b then 1 else 0)
  | .int n => some n
  | .float x => if x.isFinite then some x.value else none
  | _ => none

/-- Two scalars that are one but for the kinds of numbers. -/
inductive Blurred : Value → Value → Prop
  | null : Blurred .null .null
  | str (s : String) : Blurred (.str s) (.str s)
  | number {v w : Value} {q : ℚ} : v.rational? = some q → w.rational? = some q → Blurred v w

/-- Two values are built in the same way from scalars that are related: lists in one order, mappings
with the same keys in any. -/
inductive Matches (R : Value → Value → Prop) : Value → Value → Prop
  | scalar {v w : Value} : R v w → Matches R v w
  | list {items others : List Value} : items.length = others.length →
      (∀ p ∈ items.zip others, Matches R p.1 p.2) → Matches R (.list items) (.list others)
  | map {entries others : List (Value × Value)} :
      (∀ key, (lookup key entries).isSome = (lookup key others).isSome) →
      (∀ key v w, lookup key entries = some v → lookup key others = some w → Matches R v w) →
      Matches R (.map entries) (.map others)

/-- Two values are one JSON value. -/
def SameJson : Value → Value → Prop := Matches fun v w => Blurred v w ∧ v.sameKind w = true

/-- Two values stand at one place inside of two others. -/
inductive Facing (m n : Value) : Value → Value → Prop
  | refl : Facing m n m n
  | item {items others : List Value} {p : Value × Value} : p ∈ items.zip others →
      Facing m n p.1 p.2 → Facing m n (.list items) (.list others)
  | entry {entries others : List (Value × Value)} {key : String} {v w : Value} :
      lookup key entries = some v → lookup key others = some w → Facing m n v w →
      Facing m n (.map entries) (.map others)

/-- A value is mistaken for another one of its kind: they are one but for the kinds of numbers, and
these differ somewhere inside. -/
structure Mistaken (v w : Value) : Prop where
  matched : Matches Blurred v w
  kind : v.sameKind w = true
  differ : ∃ m n, Facing m n v w ∧ m.sameKind n = false

/-- Every number in a value is finite. -/
def IsFinite (v : Value) : Prop := ∀ x, Part (.float x) v → x.isFinite = true

/-- A value is one of the declared ones. -/
def Declared (values : List Value) (v : Value) : Prop := ∃ c ∈ values, v.SameJson c

/-! ## Likeness -/

/-- Numbers are compared by the rational numbers that they are. -/
theorem rational?_eq_some_iff {v : Value} {q : ℚ} :
    v.rational? = some q ↔ ∃ m, v.number? = some m ∧ m.key = .inl q := by
  cases v with
  | float x => by_cases finite : x.isFinite = true <;> simp [rational?, number?, Number.key, finite]
  | bool b => cases b <;> simp [rational?, number?, Number.key]
  | _ => simp [rational?, number?, Number.key]

theorem exists_rational {w : Value} {n : Number} (number : w.number? = some n)
    (finite : w.IsFinite) : ∃ q, n.key = .inl q := by
  cases w with
  | float x =>
    cases number
    exact ⟨x.value, if_pos (finite x .refl)⟩
  | bool b =>
    cases number
    exact ⟨_, rfl⟩
  | int n =>
    cases number
    exact ⟨_, rfl⟩
  | _ => cases number

theorem alike_of_blurred {v w : Value} (h : Blurred v w) : alike v w = true := by
  cases h with
  | null => exact alike_null_iff.mpr rfl
  | str s => exact alike_str_iff.mpr rfl
  | number first second =>
    obtain ⟨m, number, same⟩ := rational?_eq_some_iff.mp first
    obtain ⟨n, number', same'⟩ := rational?_eq_some_iff.mp second
    exact (alike_iff_of_number number).mpr ⟨n, number', same.trans same'.symm⟩

theorem blurred_of_number {v w : Value} {m : Number} (number : v.number? = some m)
    (finite : w.IsFinite) (like : alike v w = true) : Blurred v w := by
  obtain ⟨n, number', same⟩ := (alike_iff_of_number number).mp like
  obtain ⟨q, rational⟩ := exists_rational number' finite
  exact .number (rational?_eq_some_iff.mpr ⟨m, number, same.trans rational⟩)
    (rational?_eq_some_iff.mpr ⟨n, number', rational⟩)

theorem IsFinite.of_part {v w : Value} (finite : w.IsFinite) (part : v.Part w) : v.IsFinite :=
  fun x inner => finite x (inner.trans part)

/-- What is like a value with finite numbers is built from the same scalars, but for the kinds of
numbers. -/
theorem matches_of_alike {v : Value} (json : v.isJson = true) :
    ∀ {w : Value}, w.IsFinite → alike v w = true → Matches Blurred v w := by
  induction v, json using json_induct with
  | null =>
    intro w finite like
    rw [alike_null_iff.mp like]
    exact .scalar .null
  | bool b => exact fun finite like => .scalar (blurred_of_number rfl finite like)
  | int n => exact fun finite like => .scalar (blurred_of_number rfl finite like)
  | float x => exact fun finite like => .scalar (blurred_of_number rfl finite like)
  | str s =>
    intro w finite like
    rw [alike_str_iff.mp like]
    exact .scalar (.str s)
  | list items json ih =>
    intro w finite like
    obtain ⟨others, rfl, all⟩ := alike_list_iff.mp like
    refine .list all.length_eq fun p mem => ?_
    obtain ⟨left, right⟩ := List.of_mem_zip mem
    exact ih p.1 left (finite.of_part (part_of_mem right)) (zip_of_forall₂ all p mem)
  | map entries json ih =>
    intro w finite like
    obtain ⟨others, rfl, size, all⟩ := (alike_map_iff json).mp like
    refine .map (fun key => ?_) fun key v w found found' => ?_
    · rw [Bool.eq_iff_iff, lookup_isSome_iff_mem, lookup_isSome_iff_mem,
        (keys_perm_of_alike json like).mem_iff]
    · obtain ⟨_, there, like⟩ := all key v (mem_of_lookup found)
      rw [found'] at there
      cases there
      exact ih _ (mem_of_lookup found) (finite.of_part (part_of_lookup found')) like

/-- Mappings with the same keys are of one size. -/
theorem length_eq_of_keys {entries others : List (Value × Value)}
    (json : (map entries).isJson = true) (json' : (map others).isJson = true)
    (keys : ∀ key, (lookup key entries).isSome = (lookup key others).isSome) :
    entries.length = others.length := by
  have sub {entries others : List (Value × Value)} (json : (map entries).isJson = true)
      (keys : ∀ key, (lookup key entries).isSome = (lookup key others).isSome) :
      entries.length ≤ others.length := by
    -- the keys of JSON are distinct, so it is enough that each of them is a key of the other
    have included : entries.map Prod.fst ⊆ others.map Prod.fst := by
      intro k mem
      obtain ⟨entry, there, rfl⟩ := List.mem_map.mp mem
      obtain ⟨key, text⟩ := ((isJson_map.mp json).1 entry there).1
      rw [text] at mem ⊢
      rw [← lookup_isSome_iff_mem, ← keys key]
      exact lookup_isSome_iff_mem.mpr mem
    have size := (List.subperm_of_subset (keys_nodup_of_isJson json) included).length_le
    rwa [List.length_map, List.length_map] at size
  exact Nat.le_antisymm (sub json keys) (sub json' fun key => (keys key).symm)

theorem alike_of_matches {v w : Value} (h : Matches Blurred v w) (json : v.isJson = true)
    (json' : w.isJson = true) : alike v w = true := by
  induction h with
  | scalar one => exact alike_of_blurred one
  | list size each ih =>
    refine alike_list_iff.mpr ⟨_, rfl, forall₂_of_zip size fun p mem => ?_⟩
    obtain ⟨left, right⟩ := List.of_mem_zip mem
    exact ih p mem (isJson_list.mp json _ left) (isJson_list.mp json' _ right)
  | map keys each ih =>
    refine (alike_map_iff json).mpr ⟨_, rfl, length_eq_of_keys json json' keys, ?_⟩
    intro key v mem
    have found := lookup_of_mem (keys_nodup_of_isJson json) mem
    have there := keys key
    rw [found] at there
    obtain ⟨w, found'⟩ := Option.isSome_iff_exists.mp there.symm
    exact ⟨w, found', ih key v w found found' (isJson_of_lookup json found)
      (isJson_of_lookup json' found')⟩

/-- Values are alike exactly if they are built in the same way from scalars that are one but for the
kinds of numbers. -/
theorem alike_iff_matches {v w : Value} (json : v.isJson = true) (json' : w.isJson = true)
    (finite : w.IsFinite) : alike v w = true ↔ Matches Blurred v w :=
  ⟨matches_of_alike json finite, fun h => alike_of_matches h json json'⟩

/-! ## Kinds inside -/

/-- Values that are one but for the kinds of numbers are one, or these differ somewhere. -/
theorem sameJson_or_differ {v w : Value} (h : Matches Blurred v w) :
    v.SameJson w ∨ ∃ m n, Facing m n v w ∧ m.sameKind n = false := by
  induction h with
  | scalar one =>
    rename_i v w
    cases kind : v.sameKind w with
    | true => exact .inl (.scalar ⟨one, kind⟩)
    | false => exact .inr ⟨v, w, .refl, kind⟩
  | list size each ih =>
    rename_i items others
    -- lists that are not one have elements at some place that are not
    by_cases all : ∀ p ∈ items.zip others, SameJson p.1 p.2
    · exact .inl (.list size all)
    · push Not at all
      obtain ⟨p, mem, other⟩ := all
      obtain ⟨m, n, facing, kind⟩ := (ih p mem).resolve_left other
      exact .inr ⟨m, n, .item mem facing, kind⟩
  | map keys each ih =>
    rename_i entries others
    by_cases all : ∀ key v w, lookup key entries = some v → lookup key others = some w →
        SameJson v w
    · exact .inl (.map keys all)
    · push Not at all
      obtain ⟨key, v, w, found, found', other⟩ := all
      obtain ⟨m, n, facing, kind⟩ := (ih key v w found found').resolve_left other
      exact .inr ⟨m, n, .entry found found' facing, kind⟩

theorem SameJson.matched {v w : Value} (h : v.SameJson w) : Matches Blurred v w := by
  unfold SameJson at h
  induction h with
  | scalar one => exact .scalar one.1
  | list size _ ih => exact .list size ih
  | map keys _ ih => exact .map keys ih

theorem SameJson.kind {v w : Value} (h : v.SameJson w) : v.sameKind w = true := by
  cases h with
  | scalar one => exact one.2
  | list | map => rfl

/-- Values at one place are built from the same scalars if the values around them are. -/
theorem Facing.matched {R : Value → Value → Prop} {m n v w : Value} (facing : Facing m n v w)
    (scalars : ∀ {v w}, R v w → Blurred v w) (h : Matches R v w) : Matches R m n := by
  induction facing with
  | refl => exact h
  | item mem _ ih =>
    cases h with
    | scalar one =>
      cases scalars one with
      | number first => cases first
    | list _ each => exact ih (each _ mem)
  | entry found found' _ ih =>
    cases h with
    | scalar one =>
      cases scalars one with
      | number first => cases first
    | map _ each => exact ih (each _ _ _ found found')

/-- In values that are one, kinds are the same at every place. -/
theorem Facing.sameKind {m n v w : Value} (facing : Facing m n v w) (h : v.SameJson w) :
    m.sameKind n = true :=
  SameJson.kind (facing.matched And.left h)

/-- Values are not mistaken for values that they are. -/
theorem Mistaken.not_sameJson {v w : Value} (h : v.Mistaken w) : ¬v.SameJson w := by
  intro one
  obtain ⟨m, n, facing, different⟩ := h.differ
  rw [facing.sameKind one] at different
  cases different

/-- Only lists and mappings are mistaken for others. -/
theorem Mistaken.container {v w : Value} (h : v.Mistaken w) :
    (∃ items, v = .list items) ∨ ∃ entries, v = .map entries := by
  obtain ⟨m, n, facing, different⟩ := h.differ
  cases facing with
  | refl => exact absurd h.kind (by rw [different]; decide)
  | item => exact .inl ⟨_, rfl⟩
  | entry => exact .inr ⟨_, rfl⟩

/-- Where values that are mistaken for each other differ, they have the same number. -/
theorem Mistaken.exists_number {v w : Value} (h : v.Mistaken w) : ∃ m n q, Facing m n v w ∧
    m.rational? = some q ∧ n.rational? = some q ∧ m.sameKind n = false := by
  obtain ⟨m, n, facing, different⟩ := h.differ
  cases facing.matched id h.matched with
  | scalar one =>
    cases one with
    | null | str => cases different
    | number first second => exact ⟨m, n, _, facing, first, second, different⟩
  | list | map => cases different

/-! ## Enumerations -/

section

variable {values : List Value} (json : ∀ c ∈ values, c.isJson = true)
  (finite : ∀ c ∈ values, c.IsFinite)

include json finite

/-- A JSON value is a member of an enumeration exactly if it is declared or mistaken for a declared
value. -/
theorem member_iff_declared {v : Value} (plain : v.isJson = true) :
    v.member values = true ↔ Declared values v ∨ ∃ c ∈ values, v.Mistaken c := by
  have same_iff {c : Value} (mem : c ∈ values) (kind : v.sameKind c = true) :
      v.same c = true ↔ Matches Blurred v c := by
    rw [← alike_iff_matches plain (json c mem) (finite c mem), same_iff_alike]
    refine and_iff_left_of_imp fun like => ?_
    rintro x rfl
    obtain ⟨n, number, key⟩ := (alike_iff_of_number (m := .float x) rfl).mp like
    obtain ⟨q, rational⟩ := exists_rational number (finite c mem)
    refine Decimal.Binary64.isNaN_eq_false ?_
    by_contra infinite
    rw [rational, Number.key, if_neg infinite] at key
    cases key
  rw [member_iff]
  constructor
  · rintro ⟨c, mem, same, kind⟩
    have matched := (same_iff mem kind).mp same
    rcases sameJson_or_differ matched with one | differ
    · exact .inl ⟨c, mem, one⟩
    · exact .inr ⟨c, mem, matched, kind, differ⟩
  · rintro (⟨c, mem, one⟩ | ⟨c, mem, mistaken⟩)
    · exact ⟨c, mem, (same_iff mem one.kind).mpr one.matched, one.kind⟩
    · exact ⟨c, mem, (same_iff mem mistaken.kind).mpr mistaken.matched, mistaken.kind⟩

end

/-- The codec and the predicate of an enumeration take a value exactly if it is declared. -/
structure Exact (values : List Value) (v : Value) : Prop where
  codec : ∀ path, (∃ w, (Codec.enumOf values).run v path = .ok w) ↔ Declared values v
  predicate : (Predicate.enumMember values).holdsOfWire v = true ↔ Declared values v

/-- **When the checks of an enumeration are exact.** The codec and the predicate of an enumeration
of JSON values with finite numbers take a JSON value exactly if it is declared, unless it is
mistaken for a declared value and not declared itself. -/
theorem exact_iff {values : List Value} (json : ∀ c ∈ values, c.isJson = true)
    (finite : ∀ c ∈ values, c.IsFinite) {v : Value} (plain : v.isJson = true) :
    Exact values v ↔ ((∃ c ∈ values, v.Mistaken c) → Declared values v) := by
  have accepted (path : Codec.Path) :
      (∃ w, (Codec.enumOf values).run v path = .ok w) ↔ v.member values = true := by
    simp only [Codec.enumOf_run_ok_iff, exists_eq_right]
  have member := member_iff_declared json finite plain
  constructor
  · exact fun exact mistaken => exact.predicate.mp (member.mpr (.inr mistaken))
  · intro settled
    have declared : v.member values = true ↔ Declared values v :=
      member.trans (or_iff_left_of_imp settled)
    exact ⟨fun path => (accepted path).trans declared, declared⟩

/-- True is not taken for one, whatever lists are declared beside it. -/
theorem true_is_not_one : (∀ c ∈ [Value.int 1, .list [.int 2]], c.isJson = true) ∧
    (∀ c ∈ [Value.int 1, .list [.int 2]], c.IsFinite) ∧ isJson (.bool true) = true ∧
    Exact [.int 1, .list [.int 2]] (.bool true) := by
  have json : ∀ c ∈ [Value.int 1, .list [.int 2]], c.isJson = true := by
    simp [isJson, areJson]
  have finite : ∀ c ∈ [Value.int 1, .list [.int 2]], c.IsFinite := by
    intro c mem x part
    simp only [List.mem_cons, List.not_mem_nil, or_false] at mem
    obtain rfl | rfl := mem
    · cases part
    · cases part with
      | item mem part =>
        obtain rfl := List.mem_singleton.mp mem
        cases part
  refine ⟨json, finite, rfl, (exact_iff json finite rfl).mpr ?_⟩
  rintro ⟨c, -, mistaken⟩
  obtain ⟨_, ⟨⟩⟩ | ⟨_, ⟨⟩⟩ := mistaken.container

/-- Inside of a list, true is taken for one. -/
theorem nested_true_is_taken_for_one :
    (∀ path, (Codec.enumOf [.list [.int 1]]).run (.list [.bool true]) path =
      .ok (.list [.bool true])) ∧ ¬Exact [.list [.int 1]] (.list [.bool true]) := by
  have taken : member [.list [.int 1]] (.list [.bool true]) = true := by
    simp [member, same, alike, alikeList, sameScalar, number?, Number.same, sameKind]
  refine ⟨fun path => Codec.enumOf_run_ok_iff.mpr ⟨taken, rfl⟩, fun exact => ?_⟩
  obtain ⟨c, mem, one⟩ := exact.predicate.mp taken
  obtain rfl := List.mem_singleton.mp mem
  have facing : Facing (.bool true) (.int 1) (.list [.bool true]) (.list [.int 1]) :=
    .item List.mem_cons_self .refl
  cases facing.sameKind one

end WireModel.Value
