import WireModel.Proofs.Table.WellFormed
import WireModel.Proofs.Types.Nullability

/-!
# Fields that allow null

A field of a resolved object, and the field of the table that it becomes, allows null only if its
property declares null, and it does if the property carries it. What is declared and not carried is
null as a type of its own, and null in a variant of a named union that is neither null itself nor
flagged; where schemas have none of these, both are the same.
-/

namespace WireModel

open Schema
open Types (Definition Origins PropertiesOf DeclaresNull CarriesNull KeepsNull passesNull)

/-- Whether null is allowed is what a schema says about it. -/
structure NullExact (graph : Graph) (node : Node) (nullable : Bool) : Prop where
  declared : nullable = true → DeclaresNull graph passesNull node
  carried : CarriesNull graph node → nullable = true
  exact : KeepsNull graph → (node.isNull = true → node.nullable = true) →
    (nullable = true ↔ DeclaresNull graph passesNull node)

theorem nullExact_of_iff {graph : Graph} {node : Node} {nullable : Bool}
    (h : nullable = true ↔ CarriesNull graph node) : NullExact graph node nullable where
  declared allowed := (h.mp allowed).declaresNull
  carried carries := h.mpr carries
  exact keeps alone :=
    ⟨fun allowed => (h.mp allowed).declaresNull, fun declares => h.mpr (declares.carriesNull keeps alone)⟩

namespace Table

/-- The fields of a record are those of its object that the options do not leave out. -/
theorem exists_object_of_record {options : Options} {definitions : List (String × Definition)}
    {table : Table} (builds : build options definitions = .ok table) {r : RecordModel}
    (mem : .record r ∈ table.models) : ∃ o, (r.name, .object o) ∈ definitions ∧
      r.fields = (o.fields.filter fun f => !skips options f.name).map fieldOf := by
  obtain ⟨ignored, models, first, b⟩ := exists_building builds
  obtain ⟨d, there, -, made⟩ := b.exists_definition (b.mem_models mem)
  obtain ⟨o, same, recorded⟩ := modelOf_record made
  obtain ⟨-, rfl, -⟩ := recordOf_eq recorded
  refine ⟨o, ?_, rfl⟩
  rw [← same]
  exact there

/-- In every resolution of schemas with distinct names, the fields of an object are those of the
properties of its schema, and each allows null as its property says. In every table that is built
from it so do the fields of the records, which are those of the properties that are not left
out. -/
theorem nullable_of_resolve {graph : Graph} {definitions : List (String × Definition)}
    (distinct : (graph.definitions.map Prod.fst).Nodup)
    (resolves : (Types.resolve graph).outcome.1 = .ok definitions) :
    ∃ origins, Origins graph definitions origins ∧
      (∀ name node o, (name, node) ∈ origins → (name, .object o) ∈ definitions →
        ∃ properties, PropertiesOf graph node properties ∧
          List.Forall₂ (fun p f => f.name = p.name ∧ NullExact graph p.node f.nullable) properties
            o.fields) ∧
      ∀ options table, build options definitions = .ok table → ∀ r, .record r ∈ table.models →
        ∃ node properties, (r.name, node) ∈ origins ∧ PropertiesOf graph node properties ∧
          List.Forall₂ (fun p g => g.wireName = p.name ∧ NullExact graph p.node g.nullable)
            (properties.filter fun p => !skips options p.name) r.fields := by
  obtain ⟨entries, hoisted, resolution⟩ := Types.exists_resolution resolves
  obtain ⟨origins, origin, fits⟩ := resolution.exists_origins distinct
  refine ⟨origins, origin, ?_, ?_⟩
  · intro name node o from_ mem
    obtain ⟨properties, of, all⟩ := fits name node o from_ mem
    exact ⟨properties, of, all.imp fun _ _ fit => ⟨fit.name, nullExact_of_iff fit.nullable⟩⟩
  · intro options table builds r mem
    obtain ⟨o, defined, fields⟩ := exists_object_of_record builds mem
    have named : r.name ∈ origins.map Prod.fst := by
      rw [origin.names]
      exact List.mem_map.mpr ⟨_, defined, rfl⟩
    obtain ⟨⟨name, node⟩, from_, rfl⟩ := List.mem_map.mp named
    obtain ⟨properties, of, all⟩ := fits _ node o from_ defined
    refine ⟨node, properties, from_, of, ?_⟩
    have kept : List.Forall₂ (Types.FieldFits graph)
        (properties.filter fun p => !skips options p.name)
        (o.fields.filter fun f => !skips options f.name) :=
      List.rel_filter (fun p f fit => by simp only [fit.name]) all
    rw [fields]
    refine List.forall₂_map_right_iff.mpr (kept.imp fun p f fit => ⟨fit.name, ?_⟩)
    exact nullExact_of_iff fit.nullable

/-! ## An heir -/

/-- Somebody with a name. -/
def personNode : Node :=
  .object (.at "#/definitions/Person")
    [⟨"name", .primitive (.at "#/definitions/Person/properties/name") .string none, false⟩] []
    .undeclared none

/-- A person with a share, or null. -/
def heirNode : Node :=
  .composite { Notes.at "#/definitions/Heir" with nullable := true } .allOf
    [.reference (.at "#/definitions/Heir/allOf/0") "#/definitions/Person" "Person",
      .object (.at "#/definitions/Heir/allOf/1")
        [⟨"share", .primitive (.at "#/definitions/Heir/allOf/1/properties/share") .number none,
          false⟩] [] .undeclared none] none

/-- A reference to an heir. -/
def heirReference : Node :=
  .reference (.at "#/definitions/Will/properties/heir") "#/definitions/Heir" "Heir"

/-- The schemas of a will, which may name an heir. -/
def willGraph : Graph :=
  ⟨"", "#/definitions", "will", [("Person", personNode), ("Heir", heirNode),
    ("Will", .object (.at "#/definitions/Will") [⟨"heir", heirReference, false⟩] [] .undeclared none)]⟩

/-- Whether the field of the heir in a will allows null. -/
def heirAllowsNull (definitions : List (String × Definition)) : Bool :=
  definitions.any fun d =>
    match d with
    | ("Will", .object o) => o.fields.any fun f => f.name == "heir" && f.nullable
    | _ => false

theorem exists_heir {definitions : List (String × Definition)} (h : heirAllowsNull definitions) :
    ∃ o, ("Will", .object o) ∈ definitions ∧ ∃ f ∈ o.fields, f.name = "heir" ∧ f.nullable = true := by
  obtain ⟨d, mem, found⟩ := List.any_eq_true.mp h
  split at found
  · rename_i o
    obtain ⟨f, there, both⟩ := List.any_eq_true.mp found
    obtain ⟨name, nullable⟩ := Bool.and_eq_true_iff.mp both
    exact ⟨o, mem, f, there, by simpa using name, nullable⟩
  · cases found

/-- The will resolves, and each of its fields allows null as its property says. -/
theorem will_fields : (willGraph.definitions.map Prod.fst).Nodup ∧ ∃ definitions,
    (Types.resolve willGraph).outcome.1 = .ok definitions ∧ heirAllowsNull definitions = true ∧
    ∃ origins, Origins willGraph definitions origins ∧
      ∀ name node o, (name, node) ∈ origins → (name, .object o) ∈ definitions →
        ∃ properties, PropertiesOf willGraph node properties ∧
          List.Forall₂ (fun p f => f.name = p.name ∧ NullExact willGraph p.node f.nullable)
            properties o.fields := by
  have distinct : (willGraph.definitions.map Prod.fst).Nodup := by decide
  have field : (Types.resolve willGraph).outcome.1.toOption.any heirAllowsNull = true := by
    decide +kernel
  obtain ⟨definitions, found, allows⟩ := (Option.any_eq_true _ _).mp field
  have resolves := toOption_eq_some.mp found
  obtain ⟨origins, origin, fields, -⟩ := nullable_of_resolve distinct resolves
  exact ⟨distinct, definitions, resolves, allows, origins, origin, fields⟩

/-- The heir of a will may be null, though no reference to a merged schema declares null if such
schemas pass nothing on. -/
theorem heir_allows_null : ∃ definitions o f,
    (Types.resolve willGraph).outcome.1 = .ok definitions ∧ ("Will", .object o) ∈ definitions ∧
    f ∈ o.fields ∧ f.name = "heir" ∧ f.nullable = true ∧ heirReference.isMerge = false ∧
    ¬DeclaresNull willGraph (fun node => !node.isMerge) heirReference := by
  have field : (Types.resolve willGraph).outcome.1.toOption.any heirAllowsNull = true := by
    decide +kernel
  obtain ⟨definitions, found, allows⟩ := (Option.any_eq_true _ _).mp field
  obtain ⟨o, mem, f, there, name, nullable⟩ := exists_heir allows
  refine ⟨definitions, o, f, toOption_eq_some.mp found, mem, there, name, nullable, rfl, ?_⟩
  intro declares
  cases declares with
  | flag flagged => cases flagged
  | null alone => cases alone
  | reference found passes =>
    have heir : willGraph.get? "Heir" = some heirNode := rfl
    rw [heir] at found
    cases found
    cases passes

end Table
end WireModel
