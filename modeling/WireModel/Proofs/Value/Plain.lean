import Mathlib.Data.List.Nodup
import WireModel.Value.Display
import WireModel.Value.Equality

/-!
# Plain values and JSON values

A plain value holds no instance of a model and nothing unset, at any depth; documents are plain,
and so is every wire form. A JSON value is built from scalars, lists and mappings with distinct
text keys. Whatever is like a plain value is plain as well, so no instance is ever a member of
an enumeration that a document declares.

The parts of a value are the values inside of it, at any depth; the keys of mappings are not among
them. A part of a JSON value is one as well, and a part of a value that can be shown can be shown.
-/

namespace WireModel.Value

/-- The attribute of an instance; one that it does not have is unset. -/
def attributeOf (fields : List (String × Value)) (name : String) : Value :=
  (fields.lookup name).getD .unset

/-! ## Plain values -/

mutual

/-- Whether a value holds no instance and nothing unset. -/
def isPlain : Value → Bool
  | .unset | .record .. => false
  | .list items | .tuple items => arePlain items
  | .map entries => arePlainEntries entries
  | _ => true

def arePlain : List Value → Bool
  | [] => true
  | v :: rest => v.isPlain && arePlain rest

def arePlainEntries : List (Value × Value) → Bool
  | [] => true
  | (k, v) :: rest => k.isPlain && v.isPlain && arePlainEntries rest

end

theorem arePlain_iff {items : List Value} :
    arePlain items = true ↔ ∀ v ∈ items, v.isPlain = true := by
  induction items with
  | nil => simp [arePlain]
  | cons v rest ih => simp [arePlain, ih]

theorem arePlainEntries_iff {entries : List (Value × Value)} :
    arePlainEntries entries = true ↔
      ∀ entry ∈ entries, entry.1.isPlain = true ∧ entry.2.isPlain = true := by
  induction entries with
  | nil => simp [arePlainEntries]
  | cons entry rest ih => simp [arePlainEntries, ih]

theorem isPlain_list {items : List Value} :
    (list items).isPlain = true ↔ ∀ v ∈ items, v.isPlain = true := arePlain_iff

theorem isPlain_map {entries : List (Value × Value)} :
    (map entries).isPlain = true ↔
      ∀ entry ∈ entries, entry.1.isPlain = true ∧ entry.2.isPlain = true :=
  arePlainEntries_iff

mutual

/-- What is like a plain value is plain. -/
theorem isPlain_of_alike : ∀ {v c : Value}, alike v c = true → c.isPlain = true →
    v.isPlain = true
  | .null, _, _, _ | .bool _, _, _, _ | .int _, _, _, _ | .float _, _, _, _ | .str _, _, _, _
  | .knot _, _, _, _ => rfl
  | .unset, c, h, plain => by
    cases c <;> simp_all [alike, sameScalar, number?, isPlain]
  | .record m fields, c, h, plain => by
    cases c <;> simp_all [alike, sameScalar, number?, isPlain]
  | .list items, c, h, plain => by
    cases c <;> simp only [alike, sameScalar, number?, Bool.false_eq_true] at h
    exact arePlain_of_alike h plain
  | .tuple items, c, h, plain => by
    cases c <;> simp only [alike, sameScalar, number?, Bool.false_eq_true] at h
    exact arePlain_of_alike h plain
  | .map entries, c, h, plain => by
    cases c <;> simp only [alike, sameScalar, number?, Bool.false_eq_true, Bool.and_eq_true] at h
    exact arePlainEntries_of_alike h.2 plain

theorem arePlain_of_alike : ∀ {vs cs : List Value}, alikeList vs cs = true →
    arePlain cs = true → arePlain vs = true
  | [], _, _, _ => rfl
  | v :: vs, [], h, _ => by simp [alikeList] at h
  | v :: vs, c :: cs, h, plain => by
    simp only [alikeList, arePlain, Bool.and_eq_true] at h plain ⊢
    exact ⟨isPlain_of_alike h.1 plain.1, arePlain_of_alike h.2 plain.2⟩

theorem arePlainEntries_of_alike : ∀ {entries others : List (Value × Value)},
    alikeEntries entries others = true → arePlainEntries others = true →
      arePlainEntries entries = true
  | [], _, _, _ => rfl
  | (k, v) :: rest, others, h, plain => by
    simp only [alikeEntries, arePlainEntries, Bool.and_eq_true] at h ⊢
    cases found : others.find? fun entry => alike k entry.1 with
    | none => simp [found] at h
    | some entry =>
      rw [found] at h
      have plainEntry := arePlainEntries_iff.mp plain entry (List.mem_of_find?_eq_some found)
      have likeKey : alike k entry.1 = true := by simpa using List.find?_some found
      exact ⟨⟨isPlain_of_alike likeKey plainEntry.1, isPlain_of_alike h.1 plainEntry.2⟩,
        arePlainEntries_of_alike h.2 plain⟩

end

/-- The members of a plain enumeration are plain. -/
theorem isPlain_of_member {v : Value} {candidates : List Value}
    (plain : ∀ c ∈ candidates, c.isPlain = true) (h : v.member candidates = true) :
    v.isPlain = true := by
  obtain ⟨c, mem, like⟩ := List.any_eq_true.mp h
  simp only [Bool.and_eq_true] at like
  exact isPlain_of_alike (alike_of_same like.1) (plain c mem)

/-! ## JSON values -/

mutual

/-- Whether a value is one of JSON. -/
def isJson : Value → Bool
  | .null | .bool _ | .int _ | .float _ | .str _ => true
  | .list items => areJson items
  | .map entries => areJsonEntries entries && decide (entries.map fun entry => asStr? entry.1).Nodup
  | _ => false

def areJson : List Value → Bool
  | [] => true
  | v :: rest => v.isJson && areJson rest

def areJsonEntries : List (Value × Value) → Bool
  | [] => true
  | (k, v) :: rest => k.asStr?.isSome && v.isJson && areJsonEntries rest

end

theorem isJson_list {items : List Value} :
    (list items).isJson = true ↔ ∀ v ∈ items, v.isJson = true := by
  show areJson items = true ↔ _
  induction items with
  | nil => simp [areJson]
  | cons v rest ih => simp [areJson, ih]

theorem areJsonEntries_iff {entries : List (Value × Value)} :
    areJsonEntries entries = true ↔
      ∀ entry ∈ entries, (∃ key, entry.1 = .str key) ∧ entry.2.isJson = true := by
  induction entries with
  | nil => simp [areJsonEntries]
  | cons entry rest ih =>
    obtain ⟨k, v⟩ := entry
    have text : k.asStr?.isSome = true ↔ ∃ key, k = .str key := by cases k <;> simp [asStr?]
    simp [areJsonEntries, ih, text]

/-- A mapping of JSON has distinct text keys. -/
theorem isJson_map {entries : List (Value × Value)} :
    (map entries).isJson = true ↔
      (∀ entry ∈ entries, (∃ key, entry.1 = .str key) ∧ entry.2.isJson = true) ∧
        (entries.map fun entry => asStr? entry.1).Nodup := by
  simp only [isJson, Bool.and_eq_true, areJsonEntries_iff, decide_eq_true_eq]

mutual

theorem isPlain_of_isJson : ∀ {v : Value}, v.isJson = true → v.isPlain = true
  | .null, _ | .bool _, _ | .int _, _ | .float _, _ | .str _, _ => rfl
  | .list items, h => arePlain_of_areJson h
  | .map entries, h => by
    simp only [isJson, Bool.and_eq_true] at h
    exact arePlainEntries_of_areJson h.1

theorem arePlain_of_areJson : ∀ {items : List Value}, areJson items = true →
    arePlain items = true
  | [], _ => rfl
  | v :: rest, h => by
    simp only [areJson, arePlain, Bool.and_eq_true] at h ⊢
    exact ⟨isPlain_of_isJson h.1, arePlain_of_areJson h.2⟩

theorem arePlainEntries_of_areJson : ∀ {entries : List (Value × Value)},
    areJsonEntries entries = true → arePlainEntries entries = true
  | [], _ => rfl
  | (.str _, v) :: rest, h => by
    simp only [areJsonEntries, arePlainEntries, Bool.and_eq_true] at h ⊢
    exact ⟨⟨rfl, isPlain_of_isJson h.1.2⟩, arePlainEntries_of_areJson h.2⟩

end

theorem isJson_of_lookup {key : String} {v : Value} {entries : List (Value × Value)}
    (json : (map entries).isJson = true) (h : lookup key entries = some v) : v.isJson = true := by
  have all := (isJson_map.mp json).1
  clear json
  induction entries with
  | nil => cases h
  | cons entry rest ih =>
    obtain ⟨k, w⟩ := entry
    simp only [lookup] at h
    split at h
    · cases h
      exact (all (k, v) List.mem_cons_self).2
    · exact ih h fun entry he => all entry (List.mem_cons_of_mem _ he)

theorem isText_iff {key : String} {v : Value} : v.isText key = true ↔ v = .str key := by
  cases v <;> simp [isText]

theorem lookup_isSome_iff_mem {key : String} {entries : List (Value × Value)} :
    (lookup key entries).isSome = true ↔ .str key ∈ entries.map Prod.fst := by
  rw [lookup_isSome_iff, List.mem_map]
  exact exists_congr fun entry => and_congr_right fun _ => isText_iff

/-- The keys of a mapping made of fields are texts. -/
theorem lookup_texts (key : String) : ∀ fields : List (String × Value),
    lookup key (fields.map fun field => (.str field.1, field.2)) = fields.lookup key
  | [] => rfl
  | (name, v) :: rest => by
    rw [List.map_cons, lookup, List.lookup_cons, lookup_texts, isText, BEq.comm]
    cases key == name <;> rfl

theorem mem_of_lookup {key : String} {v : Value} :
    ∀ {entries : List (Value × Value)}, lookup key entries = some v → (.str key, v) ∈ entries
  | (k, w) :: rest, h => by
    simp only [lookup] at h
    split at h
    · rename_i text
      cases h
      rw [isText_iff.mp text]
      exact List.mem_cons_self
    · exact List.mem_cons_of_mem _ (mem_of_lookup h)

theorem lookup_of_mem {key : String} {v : Value} :
    ∀ {entries : List (Value × Value)}, (entries.map Prod.fst).Nodup → (.str key, v) ∈ entries →
      lookup key entries = some v
  | (k, w) :: rest, distinct, mem => by
    obtain ⟨fresh, distinct⟩ := List.nodup_cons.mp distinct
    simp only [lookup]
    rcases List.mem_cons.mp mem with same | mem
    · cases same
      simp [isText]
    · have other : k.isText key = false := by
        rw [Bool.eq_false_iff]
        intro text
        exact fresh (List.mem_map.mpr ⟨_, mem, (isText_iff.mp text).symm⟩)
      rw [other]
      exact lookup_of_mem distinct mem

section Filter

variable {key : String} {p : Value × Value → Bool}

theorem lookup_filter (kept : ∀ v, p (.str key, v) = true) :
    ∀ entries : List (Value × Value), lookup key (entries.filter p) = lookup key entries
  | [] => rfl
  | (k, w) :: rest => by
    rw [List.filter_cons]
    by_cases same : k.isText key = true
    · rw [isText_iff.mp same, if_pos (kept w)]
      simp [lookup, isText]
    · split <;> simp only [lookup, if_neg same, lookup_filter kept rest]

theorem lookup_filter_eq_none (dropped : ∀ v, p (.str key, v) = false)
    (entries : List (Value × Value)) : lookup key (entries.filter p) = none := by
  rw [← Option.not_isSome_iff_eq_none, lookup_isSome_iff]
  rintro ⟨⟨k, v⟩, mem, same⟩
  obtain rfl := isText_iff.mp same
  exact absurd (List.mem_filter.mp mem).2 (by simp [dropped v])

end Filter

theorem keys_nodup_of_isJson {entries : List (Value × Value)}
    (h : (map entries).isJson = true) : (entries.map Prod.fst).Nodup := by
  have distinct : ((entries.map Prod.fst).map asStr?).Nodup := by
    rw [List.map_map]
    exact (isJson_map.mp h).2
  exact distinct.of_map

/-- A mapping of distinct texts to JSON values is a JSON value. -/
theorem isJson_map_of_keys {entries : List (Value × Value)}
    (each : ∀ entry ∈ entries, (∃ key, entry.1 = .str key) ∧ entry.2.isJson = true)
    (distinct : (entries.map Prod.fst).Nodup) : (map entries).isJson = true := by
  refine isJson_map.mpr ⟨each, ?_⟩
  have texts : (entries.map Prod.fst).map asStr? = entries.map fun entry => asStr? entry.1 := by
    rw [List.map_map]
    rfl
  rw [← texts]
  refine distinct.map_on fun k mem k' mem' same => ?_
  obtain ⟨entry, there, rfl⟩ := List.mem_map.mp mem
  obtain ⟨entry', there', rfl⟩ := List.mem_map.mp mem'
  obtain ⟨key, text⟩ := (each entry there).1
  obtain ⟨key', text'⟩ := (each entry' there').1
  rw [text, text'] at same ⊢
  cases same
  rfl

/-! ## Parts -/

/-- A value is a part of another one: that itself, or inside of it. -/
inductive Part (part : Value) : Value → Prop
  | refl : Part part part
  | item {items v} : v ∈ items → Part part v → Part part (.list items)
  | entry {entries : List (Value × Value)} {entry} : entry ∈ entries → Part part entry.2 →
      Part part (.map entries)

theorem Part.trans {u v w : Value} (inner : u.Part v) (outer : v.Part w) : u.Part w := by
  induction outer with
  | refl => exact inner
  | item mem _ ih => exact .item mem ih
  | entry mem _ ih => exact .entry mem ih

theorem part_of_mem {v : Value} {items : List Value} (mem : v ∈ items) : v.Part (.list items) :=
  .item mem .refl

theorem part_of_mem_entries {entry : Value × Value} {entries : List (Value × Value)}
    (mem : entry ∈ entries) : entry.2.Part (.map entries) :=
  .entry mem .refl

theorem part_of_lookup {key : String} {v : Value} {entries : List (Value × Value)}
    (h : lookup key entries = some v) : v.Part (.map entries) :=
  part_of_mem_entries (mem_of_lookup h)

theorem Part.isPlain {v w : Value} (part : v.Part w) : w.isPlain = true → v.isPlain = true := by
  induction part with
  | refl => exact id
  | item mem _ ih => exact fun plain => ih (isPlain_list.mp plain _ mem)
  | entry mem _ ih => exact fun plain => ih (isPlain_map.mp plain _ mem).2

theorem Part.isJson {v w : Value} (part : v.Part w) : w.isJson = true → v.isJson = true := by
  induction part with
  | refl => exact id
  | item mem _ ih => exact fun json => ih (isJson_list.mp json _ mem)
  | entry mem _ ih => exact fun json => ih ((isJson_map.mp json).1 _ mem).2

/-- The texts of the keys of a JSON mapping are distinct. -/
theorem keyTexts_nodup_of_isJson {entries : List (Value × Value)}
    (json : (map entries).isJson = true) : (entries.map fun entry => entry.1.keyText).Nodup := by
  have texts : entries.map (fun entry => entry.1.asStr?) =
      (entries.map fun entry => entry.1.keyText).map some := by
    rw [List.map_map]
    refine List.map_congr_left fun entry mem => ?_
    obtain ⟨key, text⟩ := ((isJson_map.mp json).1 entry mem).1
    rw [Function.comp_apply, text]
    rfl
  have distinct := (isJson_map.mp json).2
  rw [texts] at distinct
  exact distinct.of_map

/-! ## Values that can be shown -/

theorem areTellable_iff {items : List Value} :
    areTellable items = true ↔ ∀ v ∈ items, v.isTellable = true := by
  induction items with
  | nil => simp [areTellable]
  | cons v rest ih => simp [areTellable, ih]

theorem areTellableEntries_iff {entries : List (Value × Value)} :
    areTellableEntries entries = true ↔
      ∀ entry ∈ entries, entry.1.isTellable = true ∧ entry.2.isTellable = true := by
  induction entries with
  | nil => simp [areTellableEntries]
  | cons entry rest ih => simp [areTellableEntries, ih]

theorem isTellable_list {items : List Value} :
    (list items).isTellable = true ↔ ∀ v ∈ items, v.isTellable = true := areTellable_iff

theorem isTellable_map {entries : List (Value × Value)} :
    (map entries).isTellable = true ↔
      ∀ entry ∈ entries, entry.1.isTellable = true ∧ entry.2.isTellable = true :=
  areTellableEntries_iff

theorem Part.isTellable {v w : Value} (part : v.Part w) :
    w.isTellable = true → v.isTellable = true := by
  induction part with
  | refl => exact id
  | item mem _ ih => exact fun tellable => ih (isTellable_list.mp tellable _ mem)
  | entry mem _ ih => exact fun tellable => ih (isTellable_map.mp tellable _ mem).2

end WireModel.Value
