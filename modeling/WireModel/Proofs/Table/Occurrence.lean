import WireModel.Proofs.Table.Conformance
import WireModel.Proofs.Table.WellFormed

/-!
# The types of a table

The types that decoding can meet, starting from the models of a table, and two properties of all
of them: enumerations hold plain values, and alternatives are told apart by shapes alone. The
second one can be checked type by type (`isUntangled`) unless unions have unions as variants.
-/

namespace WireModel.Table

open Types (WireType)

/-- A type stands in the table: in a field, as the alternatives of a union, or inside of these. -/
inductive Occurs (table : Table) : WireType → Prop
  | field {r f} : .record r ∈ table.models → f ∈ r.fields → Occurs table f.type
  | union {u} : .union u ∈ table.models → Occurs table u.type
  | optional {t} : Occurs table (.optional t) → Occurs table t
  | nullable {t} : Occurs table (.nullable t) → Occurs table t
  | sequence {t} : Occurs table (.sequence t) → Occurs table t
  | mapping {t} : Occurs table (.mapping t) → Occurs table t
  | variant {name mode d variants t} : Occurs table (.union name mode d variants) →
      t ∈ variants → Occurs table t

/-- A type leads to a model or a union that carries a discriminator, directly or through
unions. -/
inductive LeadsToTagged (table : Table) : WireType → Prop
  | record {name r} : table.record? name = some r → r.discriminator ≠ none →
      LeadsToTagged table (.model name)
  | tagged {name mode d variants} : LeadsToTagged table (.union name mode (some d) variants)
  | optional {t} : LeadsToTagged table t → LeadsToTagged table (.optional t)
  | nullable {t} : LeadsToTagged table t → LeadsToTagged table (.nullable t)
  | named {name u} : table.get? name = some (.union u) → LeadsToTagged table u.type →
      LeadsToTagged table (.model name)
  | variant {name mode variants t} : t ∈ variants → LeadsToTagged table t →
      LeadsToTagged table (.union name mode none variants)

/-- Unions and discriminators do not mix: no variant of an undiscriminated union leads to a
discriminator, and a discriminated union leads to records without one of their own. -/
structure Untangled (table : Table) : Prop where
  untagged : ∀ {name mode variants t}, table.Occurs (.union name mode none variants) →
    t ∈ variants → ¬table.LeadsToTagged t
  tagged : ∀ {name mode d variants target}, table.Occurs (.union name mode (some d) variants) →
    target ∈ WireType.targets (some d) →
    ∃ r, table.record? target = some r ∧ r.discriminator = none

/-- The values of all enumerations hold no instance and nothing unset. -/
def PlainEnums (table : Table) : Prop :=
  ∀ {name values kind}, table.Occurs (.enum name values kind) → ∀ v ∈ values, v.isPlain = true

theorem Occurs.of_get? {table : Table} {name : String} {u : UnionModel}
    (h : table.get? name = some (.union u)) : table.Occurs u.type :=
  .union (mem_of_get? h)

/-! ## Checks -/

mutual

/-- Whether a check holds of a type and of all types inside of it. -/
def everywhere (check : WireType → Bool) : WireType → Bool
  | .optional t => check (.optional t) && everywhere check t
  | .nullable t => check (.nullable t) && everywhere check t
  | .sequence t => check (.sequence t) && everywhere check t
  | .mapping t => check (.mapping t) && everywhere check t
  | .union name mode discriminator variants =>
    check (.union name mode discriminator variants) && allEverywhere check variants
  | t => check t

def allEverywhere (check : WireType → Bool) : List WireType → Bool
  | [] => true
  | t :: rest => everywhere check t && allEverywhere check rest

end

theorem allEverywhere_eq_all (check : WireType → Bool) (ts : List WireType) :
    allEverywhere check ts = ts.all (everywhere check) := by
  induction ts with
  | nil => rfl
  | cons t rest ih => rw [allEverywhere, List.all_cons, ih]

theorem check_of_everywhere {check : WireType → Bool} {t : WireType}
    (h : everywhere check t = true) : check t = true := by
  cases t <;> simp_all [everywhere]

/-- The types that stand in a model at its top. -/
def topTypes : Model → List WireType
  | .record r => r.fields.map Field.type
  | .union u => [u.type]

/-- Whether a check holds of all types of a table. -/
def checkAll (table : Table) (check : WireType → Bool) : Bool :=
  table.models.all fun m => (topTypes m).all (everywhere check)

theorem Occurs.everywhere {table : Table} {check : WireType → Bool}
    (h : table.checkAll check = true) {t : WireType} (occurs : table.Occurs t) :
    Table.everywhere check t = true := by
  have top : ∀ m ∈ table.models, ∀ t ∈ topTypes m, Table.everywhere check t = true := by
    simpa only [checkAll, List.all_eq_true] using h
  induction occurs with
  | field mem hf => exact top _ mem _ (List.mem_map.mpr ⟨_, hf, rfl⟩)
  | union mem => exact top _ mem _ List.mem_cons_self
  | optional _ ih | nullable _ ih | sequence _ ih | mapping _ ih =>
    simp only [Table.everywhere, Bool.and_eq_true] at ih
    exact ih.2
  | variant _ mem ih =>
    simp only [Table.everywhere, Bool.and_eq_true, allEverywhere_eq_all, List.all_eq_true] at ih
    exact ih.2 _ mem

/-- Whether a name is that of a record without a discriminator. -/
def isUntaggedRecord (table : Table) (name : String) : Bool :=
  match table.record? name with
  | some r => r.discriminator.isNone
  | none => false

/-- Whether a variant of an undiscriminated union is no union and has no discriminator. -/
def isUntaggedVariant (table : Table) : WireType → Bool
  | .model name => table.isUntaggedRecord name
  | .optional t | .nullable t => table.isUntaggedVariant t
  | .union .. => false
  | _ => true

/-- Whether the variants of a union are untangled, if the type is one. -/
def isUntangledUnion (table : Table) : WireType → Bool
  | .union _ _ none variants => variants.all table.isUntaggedVariant
  | .union _ _ (some d) _ => (WireType.targets (some d)).all table.isUntaggedRecord
  | _ => true

/-- A check that is enough for a table to be untangled. -/
def isUntangled (table : Table) : Bool := table.checkAll table.isUntangledUnion

theorem exists_of_isUntaggedRecord {table : Table} {name : String}
    (h : table.isUntaggedRecord name = true) :
    ∃ r, table.record? name = some r ∧ r.discriminator = none := by
  unfold isUntaggedRecord at h
  split at h
  · rename_i r found
    exact ⟨r, found, by simpa using h⟩
  · cases h

theorem LeadsToTagged.not_isUntaggedVariant {table : Table} {t : WireType}
    (h : table.LeadsToTagged t) : table.isUntaggedVariant t = false := by
  refine Bool.eq_false_iff.mpr fun untagged => ?_
  induction h with
  | record found tagged =>
    obtain ⟨r, found', plain⟩ := exists_of_isUntaggedRecord untagged
    rw [found] at found'
    cases found'
    exact tagged plain
  | tagged | variant => cases untagged
  | optional _ ih | nullable _ ih => exact ih untagged
  | named found _ _ =>
    obtain ⟨r, found', -⟩ := exists_of_isUntaggedRecord untagged
    simp [record?, found] at found'

theorem untangled_of_isUntangled {table : Table} (h : table.isUntangled = true) :
    table.Untangled where
  untagged := by
    intro name mode variants t occurs mem leads
    have all := check_of_everywhere (occurs.everywhere h)
    simp only [isUntangledUnion, List.all_eq_true] at all
    have untagged := all t mem
    rw [leads.not_isUntaggedVariant] at untagged
    cases untagged
  tagged := by
    intro name mode d variants target occurs mem
    have all := check_of_everywhere (occurs.everywhere h)
    simp only [isUntangledUnion, List.all_eq_true] at all
    exact exists_of_isUntaggedRecord (all target mem)

end WireModel.Table
