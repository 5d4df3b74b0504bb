import Mathlib.Data.List.Perm.Basic
import WireModel.Proofs.Table.Conformance

/-!
# What a round trip keeps

Decoding leaves out the keys of a mapping that are no wire names of the record that it is decoded
as; nothing else is lost. `kept` is a wire form without these keys, `extras` are the keys. Encoding
writes the entries of a record in the order of its fields, so what comes back is the wire form up
to the order of entries (`Value.Reordered`).
-/

namespace WireModel

/-- Two values are equal up to the order of the entries of mappings, at any depth. -/
inductive Value.Reordered : Value → Value → Prop
  | refl {v} : Reordered v v
  | list {items others} : items.length = others.length →
      (∀ p ∈ items.zip others, Reordered p.1 p.2) → Reordered (.list items) (.list others)
  | map {entries others} : (entries.map Prod.fst).Perm (others.map Prod.fst) →
      (∀ key v w, (key, v) ∈ entries → (key, w) ∈ others → Reordered v w) →
      Reordered (.map entries) (.map others)

namespace Table

variable (table : Table)

/-- The field of a record for a key of a mapping. -/
def fieldOfKey? (r : RecordModel) (key : Value) : Option Field :=
  r.fields.find? fun f => key.isText f.wireName

mutual

/-- A wire form without the keys that got lost when it was decoded as a value. -/
def kept : Value → Value → Value
  | .list items, .list vs => .list (keptItems items vs)
  | .map entries, .map results => .map (keptEntries entries results)
  | .map members, .record model fields =>
    match table.record? model with
    | some r => .map (keptMembers r fields members)
    | none => .map members
  | d, _ => d
termination_by structural d => d

def keptItems : List Value → List Value → List Value
  | d :: items, v :: vs => kept d v :: keptItems items vs
  | items, _ => items
termination_by structural items => items

def keptEntries : List (Value × Value) → List (Value × Value) → List (Value × Value)
  | (key, d) :: entries, (_, v) :: results => (key, kept d v) :: keptEntries entries results
  | entries, _ => entries
termination_by structural entries => entries

/-- The entries of a mapping that the fields of a record have read. -/
def keptMembers (r : RecordModel) (fields : List (String × Value)) :
    List (Value × Value) → List (Value × Value)
  | [] => []
  | (key, d) :: members =>
    match fieldOfKey? r key with
    | some f =>
      (key, kept d (Value.attributeOf fields f.attributeName)) :: keptMembers r fields members
    | none => keptMembers r fields members
termination_by structural members => members

end

mutual

/-- The keys that got lost when a wire form was decoded as a value. -/
def extras : Value → Value → List Value
  | .list items, .list vs => extraItems items vs
  | .map entries, .map results => extraEntries entries results
  | .map members, .record model fields =>
    match table.record? model with
    | some r => extraMembers r fields members
    | none => []
  | _, _ => []
termination_by structural d => d

def extraItems : List Value → List Value → List Value
  | d :: items, v :: vs => extras d v ++ extraItems items vs
  | _, _ => []
termination_by structural items => items

def extraEntries : List (Value × Value) → List (Value × Value) → List Value
  | (_, d) :: entries, (_, v) :: results => extras d v ++ extraEntries entries results
  | _, _ => []
termination_by structural entries => entries

def extraMembers (r : RecordModel) (fields : List (String × Value)) :
    List (Value × Value) → List Value
  | [] => []
  | (key, d) :: members =>
    match fieldOfKey? r key with
    | some f =>
      extras d (Value.attributeOf fields f.attributeName) ++ extraMembers r fields members
    | none => key :: extraMembers r fields members
termination_by structural members => members

end

variable {table}

mutual

/-- A wire form without extra keys is kept as it is. -/
theorem kept_of_extras_eq_nil : ∀ {d v : Value}, table.extras d v = [] → table.kept d v = d
  | .list items, v, h => by
    cases v <;> try rfl
    rw [kept, keptItems_of_extras_eq_nil h]
  | .map members, v, h => by
    cases v with
    | map results => rw [kept, keptEntries_of_extras_eq_nil h]
    | record model fields =>
      simp only [kept, extras] at h ⊢
      split at h
      · exact congrArg Value.map (keptMembers_of_extras_eq_nil h)
      · rfl
    | _ => rfl
  | .null, _, _ | .bool _, _, _ | .int _, _, _ | .float _, _, _ | .str _, _, _ | .tuple _, _, _
  | .unset, _, _ | .record _ _, _, _ | .knot _, _, _ => rfl

theorem keptItems_of_extras_eq_nil : ∀ {items vs : List Value},
    table.extraItems items vs = [] → table.keptItems items vs = items
  | [], _, _ => rfl
  | d :: items, [], _ => rfl
  | d :: items, v :: vs, h => by
    obtain ⟨first, rest⟩ := List.append_eq_nil_iff.mp h
    rw [keptItems, kept_of_extras_eq_nil first, keptItems_of_extras_eq_nil rest]

theorem keptEntries_of_extras_eq_nil : ∀ {entries results : List (Value × Value)},
    table.extraEntries entries results = [] → table.keptEntries entries results = entries
  | [], _, _ => rfl
  | (key, d) :: entries, [], _ => rfl
  | (key, d) :: entries, (_, v) :: results, h => by
    obtain ⟨first, rest⟩ := List.append_eq_nil_iff.mp h
    rw [keptEntries, kept_of_extras_eq_nil first, keptEntries_of_extras_eq_nil rest]

theorem keptMembers_of_extras_eq_nil {r : RecordModel} {fields : List (String × Value)} :
    ∀ {members : List (Value × Value)}, table.extraMembers r fields members = [] →
      table.keptMembers r fields members = members
  | [], _ => rfl
  | (key, d) :: members, h => by
    simp only [extraMembers, keptMembers] at h ⊢
    split at h
    · obtain ⟨first, rest⟩ := List.append_eq_nil_iff.mp h
      rw [kept_of_extras_eq_nil first, keptMembers_of_extras_eq_nil rest]
    · cases h

end

mutual

/-- What is read unchanged has no extra keys. -/
theorem extras_self : ∀ {d : Value}, table.extras d d = []
  | .list items => by rw [extras, extraItems_self]
  | .map entries => by rw [extras, extraEntries_self]
  | .null | .bool _ | .int _ | .float _ | .str _ | .tuple _ | .unset | .record _ _
  | .knot _ => rfl

theorem extraItems_self : ∀ {items : List Value}, table.extraItems items items = []
  | [] => rfl
  | d :: items => by rw [extraItems, extras_self, extraItems_self, List.append_nil]

theorem extraEntries_self : ∀ {entries : List (Value × Value)},
    table.extraEntries entries entries = []
  | [] => rfl
  | (key, d) :: entries => by rw [extraEntries, extras_self, extraEntries_self, List.append_nil]

end

theorem kept_self (d : Value) : table.kept d d = d := kept_of_extras_eq_nil extras_self

theorem mem_keptMembers {r : RecordModel} {fields : List (String × Value)} {key w : Value} :
    ∀ {members : List (Value × Value)}, (key, w) ∈ table.keptMembers r fields members ↔
      ∃ d f, (key, d) ∈ members ∧ fieldOfKey? r key = some f ∧
        w = table.kept d (Value.attributeOf fields f.attributeName)
  | [] => by simp [keptMembers]
  | (key', d') :: members => by
    rw [keptMembers]
    split
    · rename_i f found
      rw [List.mem_cons, mem_keptMembers]
      constructor
      · rintro (same | ⟨d, g, mem, hg, rfl⟩)
        · cases same
          exact ⟨d', f, List.mem_cons_self, found, rfl⟩
        · exact ⟨d, g, List.mem_cons_of_mem _ mem, hg, rfl⟩
      · rintro ⟨d, g, mem, hg, rfl⟩
        rcases List.mem_cons.mp mem with same | mem
        · cases same
          rw [found] at hg
          cases hg
          exact .inl rfl
        · exact .inr ⟨d, g, mem, hg, rfl⟩
    · rename_i missing
      rw [mem_keptMembers]
      constructor
      · rintro ⟨d, g, mem, hg, rfl⟩
        exact ⟨d, g, List.mem_cons_of_mem _ mem, hg, rfl⟩
      · rintro ⟨d, g, mem, hg, rfl⟩
        rcases List.mem_cons.mp mem with same | mem
        · cases same
          rw [missing] at hg
          cases hg
        · exact ⟨d, g, mem, hg, rfl⟩

theorem keys_keptMembers (r : RecordModel) (fields : List (String × Value)) :
    ∀ members : List (Value × Value),
      ((table.keptMembers r fields members).map Prod.fst).Sublist (members.map Prod.fst)
  | [] => .slnil
  | (key, d) :: members => by
    rw [keptMembers]
    split
    · exact (keys_keptMembers r fields members).cons_cons _
    · exact (keys_keptMembers r fields members).cons _

/-! ## Plain values stay plain -/

mutual

theorem isPlain_kept : ∀ {d v : Value}, d.isPlain = true → (table.kept d v).isPlain = true
  | .list items, v, plain => by
    cases v with
    | list vs => exact arePlain_keptItems plain
    | _ => exact plain
  | .map entries, v, plain => by
    cases v with
    | map results => exact arePlain_keptEntries plain
    | record model fields =>
      rw [kept]
      split
      · exact arePlain_keptMembers plain
      · exact plain
    | _ => exact plain
  | .null, _, _ | .bool _, _, _ | .int _, _, _ | .float _, _, _ | .str _, _, _ | .tuple _, _, _
  | .unset, _, _ | .record _ _, _, _ | .knot _, _, _ => by assumption

theorem arePlain_keptItems : ∀ {items vs : List Value}, Value.arePlain items = true →
    Value.arePlain (table.keptItems items vs) = true
  | [], _, _ => rfl
  | d :: items, [], plain => plain
  | d :: items, v :: vs, plain => by
    simp only [keptItems, Value.arePlain, Bool.and_eq_true] at plain ⊢
    exact ⟨isPlain_kept plain.1, arePlain_keptItems plain.2⟩

theorem arePlain_keptEntries : ∀ {entries results : List (Value × Value)},
    Value.arePlainEntries entries = true →
      Value.arePlainEntries (table.keptEntries entries results) = true
  | [], _, _ => rfl
  | (key, d) :: entries, [], plain => plain
  | (key, d) :: entries, (_, v) :: results, plain => by
    simp only [keptEntries, Value.arePlainEntries, Bool.and_eq_true] at plain ⊢
    exact ⟨⟨plain.1.1, isPlain_kept plain.1.2⟩, arePlain_keptEntries plain.2⟩

theorem arePlain_keptMembers {r : RecordModel} {fields : List (String × Value)} :
    ∀ {members : List (Value × Value)}, Value.arePlainEntries members = true →
      Value.arePlainEntries (table.keptMembers r fields members) = true
  | [], _ => rfl
  | (key, d) :: members, plain => by
    simp only [Value.arePlainEntries, Bool.and_eq_true] at plain
    rw [keptMembers]
    split
    · simp only [Value.arePlainEntries, Bool.and_eq_true]
      exact ⟨⟨plain.1.1, isPlain_kept plain.1.2⟩, arePlain_keptMembers plain.2⟩
    · exact arePlain_keptMembers plain.2

end
end Table

theorem Value.Reordered.isPlain {v w : Value} (h : v.Reordered w) (plain : w.isPlain = true) :
    v.isPlain = true := by
  induction h with
  | refl => exact plain
  | list same _ ih =>
    rw [isPlain_list] at plain ⊢
    intro v mem
    obtain ⟨w, mem⟩ := exists_zip_of_mem_left same mem
    exact ih (v, w) mem (plain w (List.of_mem_zip mem).2)
  | map keys _ ih =>
    rw [isPlain_map] at plain ⊢
    rintro ⟨key, v⟩ mem
    obtain ⟨⟨key', w⟩, mem', same⟩ :=
      List.mem_map.mp (keys.mem_iff.mp (List.mem_map.mpr ⟨_, mem, rfl⟩))
    cases same
    exact ⟨(plain _ mem').1, ih _ v w mem mem' (plain _ mem').2⟩

end WireModel
