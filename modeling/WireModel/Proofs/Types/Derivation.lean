import WireModel.Types.Resolution

/-!
# What a schema means

The types of schemas as a relation, without state, warnings or a way to find names: the models
made from objects inside other schemas may have any names.

* `TypeOf` is the type of a schema where the meanings of some named schemas are known, with the
  models made inside of it.
* `DefinitionOf` is the meaning of a named schema in the same way.
* `Derived` is a list of named schemas, each with the meaning that it has by those behind it.

A reference to a model needs no meaning of that model; a reference to any other schema needs one
that was derived before. That is what a resolution can do without running in a circle.
-/

namespace WireModel.Types

open Schema

/-- The meanings of named schemas, as far as they are known. -/
abbrev Known := String → Option Definition

/-! ## Objects and composites -/

/-- An object that is a model of its own has properties or tells its variants apart. -/
theorem bare_eq_false {properties : List Property} {discriminator : Option Discriminator}
    (proper : properties ≠ [] ∨ discriminator ≠ none) :
    (properties.isEmpty && discriminator.isNone) = false := by
  rcases proper with some | some
  · simp [some]
  · simp [Option.isNone_eq_false_iff.mpr (Option.isSome_iff_ne_none.mpr some)]

/-- A composite is the one reference of its `allOf`, an `allOf` to merge, or a union. -/
theorem composite_cases (mode : Combination) (members : List Node) :
    (∃ inner pointer target, mode = .allOf ∧ members = [.reference inner pointer target]) ∨
      (mode = .allOf ∧ ∀ inner pointer target, members ≠ [.reference inner pointer target]) ∨
      mode ≠ .allOf := by
  by_cases merged : mode = .allOf
  · by_cases wrapped : ∃ inner pointer target, members = [.reference inner pointer target]
    · obtain ⟨inner, pointer, target, same⟩ := wrapped
      exact .inl ⟨inner, pointer, target, merged, same⟩
    · exact .inr (.inl ⟨merged, fun inner pointer target same =>
        wrapped ⟨inner, pointer, target, same⟩⟩)
  · exact .inr (.inr merged)

section

variable {scope : Scope} {owner hint : String} {notes : Notes} {members : List Node}
  {discriminator : Option Discriminator}

theorem typeOf_merge
    (proper : ∀ inner pointer target, members ≠ [.reference inner pointer target]) :
    typeOf scope owner hint (.composite notes .allOf members discriminator) = (do
      let name ← newName (owner ++ hint)
      let merge ← mergeOf scope name { description := notes.description } members
      addHoisted (merge.toObject name none)
      return (WireType.model name).orNullIf notes.nullable) := by
  rw [typeOf]
  exact proper

theorem typeOf_union {mode : Combination} (union : mode ≠ .allOf) :
    typeOf scope owner hint (.composite notes mode members discriminator) = (do
      let (variants, nullable) ← variantsOf scope owner hint 1 members
      let t ← unionOf notes mode discriminator none variants
      return t.orNullIf (notes.nullable || nullable)) := by
  rw [typeOf]
  · exact fun _ _ _ merged => absurd merged union
  · exact union

end

/-! ## Schemas -/

/-- The type of a reference to a named schema. -/
inductive Refers (graph : Graph) (known : Known) : Bool → String → WireType → Prop
  | model {nullable target node} : graph.get? target = some node → isModel node = true →
      Refers graph known nullable target
        ((WireType.orNullIf (declaresNull node) (.model target)).orNullIf nullable)
  | named {nullable target node t} : graph.get? target = some node → isModel node = false →
      known target = some (.type t) → Refers graph known nullable target (t.orNullIf nullable)
  | object {nullable target node o} : graph.get? target = some node → isModel node = false →
      known target = some (.object o) →
      Refers graph known nullable target ((WireType.model o.name).orNullIf nullable)

/-- The type of a union with some variants. -/
inductive UnionOf (mode : Combination) (name : Option String) :
    Option Discriminator → List WireType → WireType → Prop
  | single {discriminator t} : UnionOf mode name discriminator [t] t
  | untagged {variants} : 1 < variants.length →
      UnionOf mode name none variants (.union name mode none variants)
  | tagged {declared names} : 1 < names.length →
      UnionOf mode name (some declared) (names.map .model)
        (.union name mode (some ⟨declared.property, completed declared.mapping names⟩)
          (names.map .model))

mutual

/-- The type of a schema, with the models made inside of it. -/
inductive TypeOf (graph : Graph) (known : Known) : Node → WireType → List ObjectType → Prop
  | reference {notes pointer target t} : Refers graph known notes.nullable target t →
      TypeOf graph known (.reference notes pointer target) t []
  | primitive {notes kind format} :
      TypeOf graph known (.primitive notes kind format)
        ((WireType.primitive kind format).orNullIf notes.nullable) []
  | enum {notes values kind} : values ≠ [] →
      TypeOf graph known (.enum notes values kind)
        ((WireType.enum none values kind).orNullIf notes.nullable) []
  | list {notes} :
      TypeOf graph known (.array notes none)
        ((WireType.sequence .any).orNullIf notes.nullable) []
  | array {notes items element own} : TypeOf graph known items element own →
      TypeOf graph known (.array notes (some items))
        ((WireType.sequence element).orNullIf notes.nullable) own
  | dictionary {notes required additional} : (∀ node, additional ≠ .schema node) →
      TypeOf graph known (.object notes [] required additional none)
        ((WireType.mapping .any).orNullIf notes.nullable) []
  | mapping {notes required node value own} : TypeOf graph known node value own →
      TypeOf graph known (.object notes [] required (.schema node) none)
        ((WireType.mapping value).orNullIf notes.nullable) own
  | object {notes properties required additional discriminator name fields own} :
      properties ≠ [] ∨ discriminator ≠ none → FieldsOf graph known properties fields own →
      TypeOf graph known (.object notes properties required additional discriminator)
        ((WireType.model name).orNullIf notes.nullable)
        (own ++ [⟨name, fields, [], none, notes.description⟩])
  | wrapper {notes inner pointer target discriminator t} :
      Refers graph known inner.nullable target t →
      TypeOf graph known (.composite notes .allOf [.reference inner pointer target] discriminator)
        (t.orNullIf notes.nullable) []
  | merge {notes members discriminator name result own} :
      (∀ inner pointer target, members ≠ [.reference inner pointer target]) →
      MergeOf graph known { description := notes.description } members result own →
      TypeOf graph known (.composite notes .allOf members discriminator)
        ((WireType.model name).orNullIf notes.nullable) (own ++ [result.toObject name none])
  | union {notes mode members discriminator variants nullable t own} : mode ≠ .allOf →
      VariantsOf graph known members variants nullable own →
      UnionOf mode none discriminator variants t →
      TypeOf graph known (.composite notes mode members discriminator)
        (t.orNullIf (notes.nullable || nullable)) own

/-- The fields of properties. -/
inductive FieldsOf (graph : Graph) (known : Known) :
    List Property → List Field → List ObjectType → Prop
  | nil : FieldsOf graph known [] [] []
  | cons {name node required rest t fields own others} : TypeOf graph known node t own →
      FieldsOf graph known rest fields others →
      FieldsOf graph known (⟨name, node, required⟩ :: rest)
        (fieldOf name required node.notes t :: fields) (own ++ others)

/-- The variants of a union, and whether null is among them. -/
inductive VariantsOf (graph : Graph) (known : Known) :
    List Node → List WireType → Bool → List ObjectType → Prop
  | nil : VariantsOf graph known [] [] false []
  | null {node rest variants nullable own} : node.isNull = true →
      VariantsOf graph known rest variants nullable own →
      VariantsOf graph known (node :: rest) variants true own
  | cons {node rest t variants nullable own others} : node.isNull = false →
      TypeOf graph known node t own → VariantsOf graph known rest variants nullable others →
      VariantsOf graph known (node :: rest) (t.strip :: variants) (t.isNullable || nullable)
        (own ++ others)

/-- What the members of an `allOf` add to a merge. -/
inductive MergeOf (graph : Graph) (known : Known) :
    Merge → List Node → Merge → List ObjectType → Prop
  | nil {merge} : MergeOf graph known merge [] merge []
  | reference {merge notes pointer target rest o result own} : graph.contains target = true →
      known target = some (.object o) →
      MergeOf graph known { merge.add o with parents := merge.parents ++ [target] } rest result
        own →
      MergeOf graph known merge (.reference notes pointer target :: rest) result own
  | object {merge notes properties required additional discriminator rest fields result own
        others} : FieldsOf graph known properties fields own →
      MergeOf graph known
        { merge.add ⟨"", fields, [], none, notes.description⟩ with
          required := merge.required ++ required } rest result others →
      MergeOf graph known merge
        (.object notes properties required additional discriminator :: rest) result (own ++ others)
  | nested {merge notes members discriminator rest inner result own others} :
      MergeOf graph known { description := notes.description } members inner own →
      MergeOf graph known (merge.add (inner.toObject "" none)) rest result others →
      MergeOf graph known merge (.composite notes .allOf members discriminator :: rest) result
        (own ++ others)

end

/-! ## Named schemas -/

/-- The meaning of a named schema, with the models made inside of it. -/
inductive DefinitionOf (graph : Graph) (known : Known) (name : String) :
    Node → Definition → List ObjectType → Prop
  | object {notes properties required additional discriminator fields own} :
      isModel (.object notes properties required additional discriminator) = true →
      FieldsOf graph known properties fields own →
      DefinitionOf graph known name (.object notes properties required additional discriminator)
        (.object ⟨name, fields, [], familyDiscriminator graph name, notes.description⟩) own
  | merge {notes members discriminator result own} :
      MergeOf graph known { description := notes.description } members result own →
      DefinitionOf graph known name (.composite notes .allOf members discriminator)
        (.object (result.toObject name (familyDiscriminator graph name))) own
  | union {notes mode members discriminator variants nullable t own} : mode ≠ .allOf →
      isModel (.composite notes mode members discriminator) = true →
      VariantsOf graph known members variants nullable own →
      UnionOf mode (some name) discriminator variants t →
      DefinitionOf graph known name (.composite notes mode members discriminator) (.type t) own
  | enum {notes values kind} : values ≠ [] →
      DefinitionOf graph known name (.enum notes values kind)
        (.type ((WireType.enum (some name) values kind).orNullIf notes.nullable)) []
  | other {node t own} : isModel node = false →
      (∀ notes values kind, node ≠ .enum notes values kind) → TypeOf graph known node t own →
      DefinitionOf graph known name node (.type t) own

/-- A named schema with its meaning and the models made inside of it. -/
structure Entry where
  name : String
  meaning : Definition
  own : List ObjectType

/-- The name of an entry with its meaning. -/
def Entry.pair (e : Entry) : String × Definition := (e.name, e.meaning)

/-- The meanings that a list of names gives. -/
def knownIn (pairs : List (String × Definition)) : Known := fun name => pairs.lookup name

/-- Entries in front of what is known, the last one first: each has its meaning by what is behind
it, a new name, and none of those that are being resolved. -/
inductive Derived (graph : Graph) (active : List String) (known : List (String × Definition)) :
    List Entry → Prop
  | nil : Derived graph active known []
  | cons {e node entries} : Derived graph active known entries → e.name ∉ active →
      knownIn (entries.map Entry.pair ++ known) e.name = none → graph.get? e.name = some node →
      DefinitionOf graph (knownIn (entries.map Entry.pair ++ known)) e.name node e.meaning
        e.own →
      Derived graph active known (e :: entries)

end WireModel.Types
