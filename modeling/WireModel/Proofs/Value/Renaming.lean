import WireModel.Codec.Combinators
import WireModel.Proofs.Lists
import WireModel.Proofs.Value.Plain

/-!
# Values with other names of models

The models of two documents may have other names, and so do instances of them. `Renamed R` relates
values that differ in nothing else; the result of a codec can only depend on the names that it knows
models by. A value without instances is related to itself alone.
-/

namespace WireModel.Value

/-- Whether a value holds no others. -/
def isScalar : Value → Bool
  | .list _ | .tuple _ | .map _ | .record .. => false
  | _ => true

/-- The same values, but instances may be those of other models. -/
inductive Renamed (R : String → String → Prop) : Value → Value → Prop
  | scalar {v} : v.isScalar = true → Renamed R v v
  | list {vs ws} : vs.length = ws.length → (∀ p ∈ vs.zip ws, Renamed R p.1 p.2) →
      Renamed R (.list vs) (.list ws)
  | tuple {vs ws} : vs.length = ws.length → (∀ p ∈ vs.zip ws, Renamed R p.1 p.2) →
      Renamed R (.tuple vs) (.tuple ws)
  | map {entries others} : entries.map Prod.fst = others.map Prod.fst →
      (∀ p ∈ entries.zip others, Renamed R p.1.2 p.2.2) → Renamed R (.map entries) (.map others)
  | record {a b fields others} : R a b → fields.map Prod.fst = others.map Prod.fst →
      (∀ p ∈ fields.zip others, Renamed R p.1.2 p.2.2) →
      Renamed R (.record a fields) (.record b others)

/-- Entries with the same keys and renamed values. -/
def EntriesRenamed {κ : Type} (R : String → String → Prop) :
    List (κ × Value) → List (κ × Value) → Prop :=
  List.Forall₂ fun entry other => other.1 = entry.1 ∧ entry.2.Renamed R other.2

variable {R : String → String → Prop}

/-! ## Parts -/

theorem EntriesRenamed.of_zip {κ : Type} {entries others : List (κ × Value)}
    (keys : entries.map Prod.fst = others.map Prod.fst)
    (all : ∀ p ∈ entries.zip others, p.1.2.Renamed R p.2.2) : EntriesRenamed R entries others := by
  have same : entries.length = others.length := by simpa using congrArg List.length keys
  refine forall₂_of_zip same fun p mem => ⟨?_, all p mem⟩
  exact (eq_of_zip_of_map_eq keys p mem).symm

theorem EntriesRenamed.keys {κ : Type} {entries others : List (κ × Value)}
    (h : EntriesRenamed R entries others) : entries.map Prod.fst = others.map Prod.fst :=
  map_eq_map_of_forall₂ h fun _ _ same => same.1.symm

theorem EntriesRenamed.zip {κ : Type} {entries others : List (κ × Value)}
    (h : EntriesRenamed R entries others) : ∀ p ∈ entries.zip others, p.1.2.Renamed R p.2.2 :=
  fun p mem => (zip_of_forall₂ h p mem).2

theorem Renamed.of_list {vs ws : List Value} (h : List.Forall₂ (Renamed R) vs ws) :
    Renamed R (.list vs) (.list ws) :=
  .list h.length_eq (zip_of_forall₂ h)

theorem Renamed.of_map {entries others : List (Value × Value)}
    (h : EntriesRenamed R entries others) : Renamed R (.map entries) (.map others) :=
  .map h.keys h.zip

theorem Renamed.of_record {a b : String} {fields others : List (String × Value)} (name : R a b)
    (h : EntriesRenamed R fields others) : Renamed R (.record a fields) (.record b others) :=
  .record name h.keys h.zip

theorem Renamed.exists_elements {v w : Value} (h : v.Renamed R w) {vs : List Value}
    (elements : v.elements? = some vs) :
    ∃ ws, w.elements? = some ws ∧ List.Forall₂ (Renamed R) vs ws := by
  cases h with
  | scalar scalar =>
    cases v with
    | list | tuple => cases scalar
    | _ => cases elements
  | list same all | tuple same all =>
    cases elements
    exact ⟨_, rfl, forall₂_of_zip same all⟩
  | map | record => cases elements

theorem Renamed.exists_entries {entries : List (Value × Value)} {w : Value}
    (h : (Value.map entries).Renamed R w) : ∃ others, w = .map others ∧ EntriesRenamed R entries others := by
  cases h with
  | scalar scalar => cases scalar
  | map keys all => exact ⟨_, rfl, .of_zip keys all⟩

theorem Renamed.exists_record {a : String} {fields : List (String × Value)} {w : Value}
    (h : (Value.record a fields).Renamed R w) :
    ∃ b others, w = .record b others ∧ R a b ∧ EntriesRenamed R fields others := by
  cases h with
  | scalar scalar => cases scalar
  | record name keys all => exact ⟨_, _, rfl, name, .of_zip keys all⟩

/-! ## Laws -/

theorem Renamed.symm {v w : Value} (h : v.Renamed R w) : w.Renamed (fun a b => R b a) v := by
  induction h with
  | scalar scalar => exact .scalar scalar
  | list same _ ih =>
    exact .list same.symm (forall_mem_zip_swap (R := fun v w => Renamed (fun a b => R b a) w v) ih)
  | tuple same _ ih =>
    exact .tuple same.symm (forall_mem_zip_swap (R := fun v w => Renamed (fun a b => R b a) w v) ih)
  | map keys _ ih =>
    exact .map keys.symm (forall_mem_zip_swap (R := fun (e f : Value × Value) =>
      f.2.Renamed (fun a b => R b a) e.2) ih)
  | record name keys _ ih =>
    exact .record name keys.symm (forall_mem_zip_swap (R := fun (e f : String × Value) =>
      f.2.Renamed (fun a b => R b a) e.2) ih)

/-- A value without instances is the same. -/
theorem Renamed.eq_of_isPlain {v w : Value} (h : v.Renamed R w) (plain : v.isPlain = true) :
    w = v := by
  induction h with
  | scalar => rfl
  | list same _ ih | tuple same _ ih =>
    have plains := arePlain_iff.mp plain
    rw [eq_of_zip same fun p mem => ih p mem (plains _ (List.of_mem_zip mem).1)]
  | map keys _ ih =>
    have plains := isPlain_map.mp plain
    have same := congrArg List.length keys
    simp only [List.length_map] at same
    rw [eq_of_zip same fun p mem => ?_]
    exact Prod.ext (eq_of_zip_of_map_eq keys p mem).symm
      (ih p mem (plains _ (List.of_mem_zip mem).1).2)
  | record => cases plain

mutual

/-- A value without instances stays as it is. -/
theorem renamed_of_isPlain : ∀ {v : Value}, v.isPlain = true → v.Renamed R v
  | .null, _ | .bool _, _ | .int _, _ | .float _, _ | .str _, _ | .knot _, _ => .scalar rfl
  | .list _, h => .of_list (renamed_of_arePlain h)
  | .tuple _, h =>
    .tuple rfl (zip_of_forall₂ (renamed_of_arePlain h))
  | .map _, h => .of_map (renamed_of_arePlainEntries h)

theorem renamed_of_arePlain : ∀ {items : List Value}, arePlain items = true →
    List.Forall₂ (Renamed R) items items
  | [], _ => .nil
  | v :: rest, h => by
    simp only [arePlain, Bool.and_eq_true] at h
    exact .cons (renamed_of_isPlain h.1) (renamed_of_arePlain h.2)

theorem renamed_of_arePlainEntries : ∀ {entries : List (Value × Value)},
    arePlainEntries entries = true → EntriesRenamed R entries entries
  | [], _ => .nil
  | (k, v) :: rest, h => by
    simp only [arePlainEntries, Bool.and_eq_true] at h
    exact .cons ⟨rfl, renamed_of_isPlain h.1.2⟩ (renamed_of_arePlainEntries h.2)

end

/-! ## What a codec sees -/

section

variable {v w : Value}

theorem Renamed.isNull_eq (h : v.Renamed R w) : w.isNull = v.isNull := by
  cases h <;> rfl

theorem Renamed.isUnset_eq (h : v.Renamed R w) : w.isUnset = v.isUnset := by
  cases h <;> rfl

theorem Renamed.isSequence_eq (h : v.Renamed R w) : w.isSequence = v.isSequence := by
  cases h <;> rfl

theorem Renamed.isMap_eq (h : v.Renamed R w) : w.isMap = v.isMap := by
  cases h <;> rfl

theorem Renamed.isKind_eq (h : v.Renamed R w) (kind : Schema.Kind) :
    Codec.isKind kind w = Codec.isKind kind v := by
  cases h with
  | scalar => rfl
  | _ => cases kind <;> rfl

theorem Renamed.asStr?_eq (h : v.Renamed R w) : w.asStr? = v.asStr? := by
  cases h <;> rfl

end

theorem EntriesRenamed.lookup {entries others : List (Value × Value)}
    (h : EntriesRenamed R entries others) (key : String) :
    Value.lookup key entries = none ∧ Value.lookup key others = none ∨
      ∃ v w, Value.lookup key entries = some v ∧ Value.lookup key others = some w ∧
        v.Renamed R w := by
  induction h with
  | nil => exact .inl ⟨rfl, rfl⟩
  | @cons e f _ _ first _ ih =>
    rw [Value.lookup, Value.lookup, first.1]
    split
    · exact .inr ⟨_, _, rfl, rfl, first.2⟩
    · exact ih

theorem EntriesRenamed.hasKey_eq {entries others : List (Value × Value)}
    (h : EntriesRenamed R entries others) (key : String) :
    Value.hasKey key others = Value.hasKey key entries := by
  rcases h.lookup key with ⟨none, none'⟩ | ⟨v, w, some, some', -⟩
  · rw [Value.hasKey, Value.hasKey, none, none']
  · rw [Value.hasKey, Value.hasKey, some, some']
    rfl

theorem EntriesRenamed.attributeOf {fields others : List (String × Value)}
    (h : EntriesRenamed R fields others) (name : String) :
    (Value.attributeOf fields name).Renamed R (Value.attributeOf others name) := by
  induction h with
  | nil => exact .scalar rfl
  | @cons e f _ _ first _ ih =>
    rw [Value.attributeOf, Value.attributeOf, List.lookup_cons, List.lookup_cons, first.1]
    cases name == e.1 with
    | true => exact first.2
    | false => exact ih

theorem EntriesRenamed.setKey {entries others : List (Value × Value)}
    (h : EntriesRenamed R entries others) (key : String) {v w : Value} (same : v.Renamed R w) :
    EntriesRenamed R (Value.setKey key v entries) (Value.setKey key w others) := by
  induction h with
  | nil => exact .cons ⟨rfl, same⟩ .nil
  | @cons e f _ _ first rest ih =>
    obtain ⟨k, v⟩ := e
    obtain ⟨l, w⟩ := f
    obtain ⟨rfl, first⟩ := first
    rw [Value.setKey, Value.setKey]
    split
    · exact .cons ⟨rfl, same⟩ rest
    · exact .cons ⟨rfl, first⟩ ih

theorem Renamed.hasRequired_eq {v w : Value} (h : v.Renamed R w) (names : List String) :
    Codec.hasRequired names w = Codec.hasRequired names v := by
  cases h with
  | map keys all =>
    have same := EntriesRenamed.of_zip keys all
    simp only [Codec.hasRequired, same.hasKey_eq]
  | _ => rfl

/-! ## Renaming -/

mutual

/-- A value with its instances renamed. -/
def rename (ρ : String → String) : Value → Value
  | .list items => .list (renameAll ρ items)
  | .tuple items => .tuple (renameAll ρ items)
  | .map entries => .map (renameEntries ρ entries)
  | .record model fields => .record (ρ model) (renameFields ρ fields)
  | v => v

def renameAll (ρ : String → String) : List Value → List Value
  | [] => []
  | v :: rest => v.rename ρ :: renameAll ρ rest

def renameEntries (ρ : String → String) : List (Value × Value) → List (Value × Value)
  | [] => []
  | (k, v) :: rest => (k, v.rename ρ) :: renameEntries ρ rest

def renameFields (ρ : String → String) : List (String × Value) → List (String × Value)
  | [] => []
  | (k, v) :: rest => (k, v.rename ρ) :: renameFields ρ rest

end

theorem renameAll_eq_map (ρ : String → String) (items : List Value) :
    renameAll ρ items = items.map (rename ρ) := by
  induction items with
  | nil => rfl
  | cons v rest ih => rw [renameAll, List.map_cons, ih]

theorem renameEntries_eq_map (ρ : String → String) (entries : List (Value × Value)) :
    renameEntries ρ entries = entries.map fun entry => (entry.1, entry.2.rename ρ) := by
  induction entries with
  | nil => rfl
  | cons entry rest ih => rw [renameEntries, List.map_cons, ih]

theorem renameFields_eq_map (ρ : String → String) (fields : List (String × Value)) :
    renameFields ρ fields = fields.map fun field => (field.1, field.2.rename ρ) := by
  induction fields with
  | nil => rfl
  | cons field rest ih => rw [renameFields, List.map_cons, ih]

theorem eq_renamed_of_zip {κ : Type} {ρ : String → String} {entries others : List (κ × Value)}
    (keys : entries.map Prod.fst = others.map Prod.fst)
    (all : ∀ p ∈ entries.zip others, p.2.2 = p.1.2.rename ρ) :
    others = entries.map fun entry => (entry.1, entry.2.rename ρ) := by
  have same : entries.length = others.length := by simpa using congrArg List.length keys
  exact eq_map_of_zip same fun p mem =>
    Prod.ext (eq_of_zip_of_map_eq keys p mem).symm (all p mem)

/-- A renamed value is the value renamed. -/
theorem Renamed.eq_rename {ρ : String → String} (names : ∀ a b, R a b → ρ a = b) {v w : Value}
    (h : v.Renamed R w) : w = v.rename ρ := by
  induction h with
  | @scalar v scalar => cases v <;> first | rfl | cases scalar
  | list same _ ih | tuple same _ ih => rw [rename, renameAll_eq_map, eq_map_of_zip same ih]
  | map keys _ ih => rw [rename, renameEntries_eq_map, eq_renamed_of_zip keys ih]
  | record name keys _ ih =>
    rw [rename, renameFields_eq_map, eq_renamed_of_zip keys ih, names _ _ name]

theorem rename_of_isPlain (ρ : String → String) {v : Value} (plain : v.isPlain = true) :
    v.rename ρ = v := by
  have renamed : v.Renamed (fun a b => ρ a = b) v := renamed_of_isPlain plain
  exact (renamed.eq_rename fun _ _ same => same).symm

end WireModel.Value
