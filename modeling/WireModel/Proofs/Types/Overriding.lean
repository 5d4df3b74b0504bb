import Mathlib.Data.List.Nodup
import WireModel.Types.Resolution

/-!
# Fields that take each other's place

An `allOf` adds fields one after another: a field of a new name goes to the end, any other one takes
the place of the field that had its name.

* **`lastField?`**: of the fields of a list, the last one of a name is the one that counts.
* **`Merge.mem_add`**: a merge adds no other fields than those of the object.
* **`names_putFields`**: the names keep the order in which they first appeared.
* **`lastField?_putFields`**: what was added last under a name is what stands there.
* **`Field.requireIf`**: a field that is made required stays the same in all else.
-/

namespace WireModel.Types

/-! ## The last field of a name -/

/-- The last field of a name, if there is one. -/
def lastField? (fields : List Field) (x : String) : Option Field :=
  fields.reverse.find? (·.name == x)

variable {x : String}

theorem lastField?_append (fields others : List Field) :
    lastField? (fields ++ others) x = (lastField? others x).or (lastField? fields x) := by
  rw [lastField?, List.reverse_append, List.find?_append]
  rfl

theorem lastField?_cons (f : Field) (rest : List Field) :
    lastField? (f :: rest) x = (lastField? rest x).or (if f.name = x then some f else none) := by
  rw [← List.singleton_append, lastField?_append]
  congr 1
  by_cases named : f.name = x <;> simp [lastField?, named]

theorem lastField?_eq_none_iff {fields : List Field} :
    lastField? fields x = none ↔ ∀ f ∈ fields, f.name ≠ x := by
  simp [lastField?]

theorem mem_of_lastField? {fields : List Field} {f : Field} (h : lastField? fields x = some f) :
    f ∈ fields ∧ f.name = x := by
  unfold lastField? at h
  exact ⟨List.mem_reverse.mp (List.mem_of_find?_eq_some h), by simpa using List.find?_some h⟩

theorem lastField?_of_mem {fields : List Field} (distinct : (fields.map Field.name).Nodup)
    {f : Field} (mem : f ∈ fields) : lastField? fields f.name = some f := by
  induction fields with
  | nil => cases mem
  | cons g rest ih =>
    obtain ⟨fresh, distinct⟩ := List.nodup_cons.mp distinct
    rw [lastField?_cons]
    rcases List.mem_cons.mp mem with rfl | mem
    · have none : lastField? rest f.name = none :=
        lastField?_eq_none_iff.mpr fun g there same => fresh (List.mem_map.mpr ⟨g, there, same⟩)
      rw [none, if_pos rfl, Option.none_or]
    · rw [ih distinct mem, Option.some_or]

/-- Of several lists, the last one that has a field of the name decides. -/
theorem exists_last_of_flatten {f : Field} : ∀ {parts : List (List Field)},
    lastField? parts.flatten x = some f → ∃ before part after, parts = before ++ part :: after ∧
      lastField? part x = some f ∧ ∀ later ∈ after, lastField? later x = none
  | part :: rest, h => by
    rw [List.flatten_cons, lastField?_append, Option.or_eq_some_iff] at h
    rcases h with later | ⟨none, here⟩
    · obtain ⟨before, other, after, rfl, found, behind⟩ := exists_last_of_flatten later
      exact ⟨part :: before, other, after, rfl, found, behind⟩
    · refine ⟨[], part, rest, rfl, here, fun later mem => lastField?_eq_none_iff.mpr ?_⟩
      intro g there
      exact lastField?_eq_none_iff.mp none g (List.mem_flatten.mpr ⟨later, mem, there⟩)

/-! ## Adding fields -/

theorem names_putField (f : Field) (fields : List Field) :
    (putField f fields).map Field.name =
      if f.name ∈ fields.map Field.name then fields.map Field.name
      else fields.map Field.name ++ [f.name] := by
  induction fields with
  | nil => rfl
  | cons g rest ih =>
    rw [putField]
    by_cases same : g.name = f.name
    · simp [same]
    · have other : (g.name == f.name) = false := beq_eq_false_iff_ne.mpr same
      have fresh : f.name ≠ g.name := fun eq => same eq.symm
      rw [other, if_neg Bool.false_ne_true, List.map_cons, ih]
      simp only [List.map_cons, List.mem_cons, fresh, false_or]
      split <;> rfl

theorem lastField?_putField (f : Field) {fields : List Field}
    (distinct : (fields.map Field.name).Nodup) : lastField? (putField f fields) x =
      if f.name = x then some f else lastField? fields x := by
  induction fields with
  | nil => rw [putField, lastField?_cons]; rfl
  | cons g rest ih =>
    obtain ⟨fresh, distinct⟩ := List.nodup_cons.mp distinct
    rw [putField]
    by_cases same : g.name = f.name
    · rw [if_pos (beq_iff_eq.mpr same), lastField?_cons, lastField?_cons, same]
      split
      · rename_i here
        have none : lastField? rest x = none := lastField?_eq_none_iff.mpr fun h there eq =>
          fresh (List.mem_map.mpr ⟨h, there, eq.trans (here.symm.trans same.symm)⟩)
        rw [none, Option.none_or]
      · rfl
    · rw [if_neg (by simpa using same), lastField?_cons, lastField?_cons, ih distinct]
      split
      · rw [Option.some_or]
      · rfl

/-- Fields, and others added to them one after another. -/
def putFields (fields added : List Field) : List Field :=
  added.foldl (fun fields f => putField f fields) fields

theorem eraseDups_concat (names : List String) (name : String) :
    (names ++ [name]).eraseDups =
      if name ∈ names then names.eraseDups else names.eraseDups ++ [name] := by
  rw [List.eraseDups_append]
  by_cases mem : name ∈ names <;> simp [List.removeAll, List.eraseDups_cons, mem]

theorem mem_putField {f g : Field} : ∀ {fields : List Field}, g ∈ putField f fields →
    g = f ∨ g ∈ fields
  | [], mem => .inl (List.mem_singleton.mp mem)
  | h :: rest, mem => by
    rw [putField] at mem
    split at mem <;> rcases List.mem_cons.mp mem with rfl | mem
    · exact .inl rfl
    · exact .inr (List.mem_cons_of_mem _ mem)
    · exact .inr List.mem_cons_self
    · exact (mem_putField mem).imp_right (List.mem_cons_of_mem _)

theorem mem_putFields {f : Field} : ∀ {added fields : List Field}, f ∈ putFields fields added →
    f ∈ added ∨ f ∈ fields
  | [], _, mem => .inr mem
  | g :: added, fields, mem => by
    have mem : f ∈ putFields (putField g fields) added := mem
    rcases mem_putFields mem with mem | mem
    · exact .inl (List.mem_cons_of_mem _ mem)
    · rcases mem_putField mem with rfl | mem
      · exact .inl List.mem_cons_self
      · exact .inr mem

/-- A field of a merge is one of the object that was added, or was there before. -/
theorem Merge.mem_add {merge : Merge} {o : ObjectType} {f : Field}
    (mem : f ∈ (merge.add o).fields) : f ∈ o.fields ∨ f ∈ merge.fields :=
  mem_putFields mem

/-- Fields keep the order in which their names first appear. -/
theorem names_putFields (before : List String) : ∀ {added fields : List Field},
    fields.map Field.name = before.eraseDups →
      (putFields fields added).map Field.name = (before ++ added.map Field.name).eraseDups
  | [], fields, names => by rw [List.map_nil, List.append_nil, ← names]; rfl
  | f :: added, fields, names => by
    have first : (putField f fields).map Field.name = (before ++ [f.name]).eraseDups := by
      rw [names_putField, names, eraseDups_concat]
      simp only [List.mem_eraseDups]
    rw [List.map_cons, List.append_cons]
    exact names_putFields _ first

theorem nodup_putField (f : Field) {fields : List Field}
    (distinct : (fields.map Field.name).Nodup) :
    ((putField f fields).map Field.name).Nodup := by
  rw [names_putField]
  split
  · exact distinct
  · rename_i fresh
    exact List.nodup_append.mpr ⟨distinct, List.nodup_singleton _,
      fun a mem b single => fun same => fresh (List.mem_singleton.mp single ▸ same ▸ mem)⟩

theorem nodup_putFields : ∀ (added : List Field) {fields : List Field},
    (fields.map Field.name).Nodup → ((putFields fields added).map Field.name).Nodup
  | [], _, distinct => distinct
  | f :: added, _, distinct => nodup_putFields added (nodup_putField f distinct)

/-- What was added last under a name is what stands there. -/
theorem lastField?_putFields : ∀ {added fields : List Field}, (fields.map Field.name).Nodup →
    lastField? (putFields fields added) x = (lastField? added x).or (lastField? fields x)
  | [], _, _ => rfl
  | f :: added, fields, distinct => by
    show lastField? (putFields (putField f fields) added) x = _
    rw [lastField?_putFields (nodup_putField f distinct), lastField?_putField f distinct,
      lastField?_cons, Option.or_assoc]
    split <;> rfl

/-! ## Fields made required -/

/-- A type without the mark of an optional field. -/
def WireType.present : WireType → WireType
  | .optional inner => inner
  | t => t

theorem WireType.present_eq_self {t : WireType} (bare : t.isOptional = false) : t.present = t := by
  cases t with
  | optional => cases bare
  | _ => rfl

/-- A field is optional at the top of its type, or not at all. -/
def Field.Proper (f : Field) : Prop :=
  ∃ t : WireType, t.isOptional = false ∧ (f.type = t ∨ f.type = .optional t)

/-- Makes a field required if it is listed. -/
def Field.requireIf (names : List String) (f : Field) : Field :=
  match f.type with
  | .optional inner => if names.contains f.name then { f with type := inner } else f
  | _ => f

theorem require_eq_map (names : List String) (fields : List Field) :
    require names fields = fields.map (Field.requireIf names) := rfl

theorem Field.name_requireIf (names : List String) (f : Field) :
    (f.requireIf names).name = f.name := by
  unfold requireIf
  split
  · split <;> rfl
  · rfl

theorem names_require (names : List String) (fields : List Field) :
    (require names fields).map Field.name = fields.map Field.name := by
  rw [require_eq_map, List.map_map]
  exact List.map_congr_left fun f _ => f.name_requireIf names

theorem lastField?_require (names : List String) (fields : List Field) :
    lastField? (require names fields) x = (lastField? fields x).map (Field.requireIf names) := by
  induction fields with
  | nil => rfl
  | cons f rest ih =>
    rw [require_eq_map, List.map_cons, ← require_eq_map, lastField?_cons, lastField?_cons, ih,
      Option.map_or, f.name_requireIf]
    congr 1
    split <;> rfl

/-- Two fields that may differ only in whether they are required. -/
structure Field.Restates (f g : Field) : Prop where
  name : f.name = g.name
  type : f.type.present = g.type.present
  default : f.default = g.default
  description : f.description = g.description

namespace Field.Proper

variable {names : List String} {f : Field}

/-- A proper field that is listed is required, and stays proper. -/
theorem requireIf (proper : f.Proper) :
    (f.requireIf names).Proper ∧
      (f.requireIf names).required = (f.required || names.contains f.name) := by
  obtain ⟨t, bare, same | same⟩ := proper
  · have kept : f.requireIf names = f := by
      unfold Field.requireIf
      split
      · rename_i inner optional
        rw [← same, optional] at bare
        cases bare
      · rfl
    rw [kept, Field.required, same, bare]
    exact ⟨⟨t, bare, .inl same⟩, rfl⟩
  · have unmarked : f.required = false := by rw [Field.required, same]; rfl
    unfold Field.requireIf
    rw [same, unmarked, Bool.false_or]
    dsimp only
    split
    · rename_i listed
      exact ⟨⟨t, bare, .inl rfl⟩, by rw [listed, Field.required, bare]; rfl⟩
    · rename_i unlisted
      exact ⟨⟨t, bare, .inr same⟩, by rw [unmarked, Bool.eq_false_iff.mpr unlisted]⟩

/-- Nothing else changes when a proper field is made required. -/
theorem restates_requireIf (proper : f.Proper) : (f.requireIf names).Restates f := by
  unfold Field.requireIf
  split
  · rename_i inner optional
    split
    · refine ⟨rfl, ?_, rfl, rfl⟩
      obtain ⟨t, bare, same | same⟩ := proper
      · rw [← same, optional] at bare
        cases bare
      · obtain rfl : inner = t := WireType.optional.inj (optional.symm.trans same)
        show inner.present = f.type.present
        rw [optional, WireType.present_eq_self bare]
        rfl
    · exact ⟨rfl, rfl, rfl, rfl⟩
  · exact ⟨rfl, rfl, rfl, rfl⟩

end Field.Proper

end WireModel.Types
