import WireModel.Proofs.Options
import WireModel.Proofs.Schema.Parsing
import WireModel.Proofs.Table.Occurrence
import WireModel.Proofs.Types.Order

/-!
# Invariants of tables

What holds of every table that is built from a document, whatever the options.

* **closed**: every model that a type refers to, and every target of a discriminator, on a model
  or inside a type, is a model of the table;
* **proper fields**: names are distinct, nothing required has a default, and what a field says
  about absence and null is said outside of its type;
* **the models asked for**: nothing that the options leave out is there, everything else is, once,
  and in the order asked for.

The first part follows from the check of references, the second from the fields being added one by
one, and the third from the names of a resolution being distinct.
-/

namespace WireModel

open Types (WireType ObjectType Definition)
open Options (textsIn)

/-- Whether a definition is a model: an object, or a union. -/
def Types.Definition.isModel : Definition → Bool
  | .object _ => true
  | .type (.union ..) => true
  | .type _ => false

/-- The names that some put first, each once, and then the others. -/
def Table.arranged (first names : List String) : List String :=
  first.eraseDups.filter (names.contains ·) ++ names.filter (!first.contains ·)

/-- The names of the definitions that are models and are not left out, in their order. -/
def Table.modelNames (ignored : List String) (definitions : List (String × Definition)) :
    List String :=
  (definitions.filter fun d => d.2.isModel && !ignored.contains d.1).map Prod.fst

namespace Table

/-- What every table guarantees. -/
structure Sound (options : Options) (definitions : List (String × Definition)) (table : Table) :
    Prop where
  /-- Every model that is referred to, from a field or a variant at any depth, is there. -/
  refs : ∀ {name}, table.Occurs (.model name) → name ∈ table.names
  /-- Discriminators of models lead to models that are there. -/
  targets : ∀ {m d entry}, m ∈ table.models → m.discriminator = some d → entry ∈ d.mapping →
    entry.2 ∈ table.names
  /-- Discriminators inside types lead to models that are there. -/
  innerTargets : ∀ {name mode d variants entry},
    table.Occurs (.union name mode (some d) variants) → entry ∈ d.mapping → entry.2 ∈ table.names
  wireNames : ∀ {r}, .record r ∈ table.models → (r.fields.map Field.wireName).Nodup
  attributes : ∀ {r}, .record r ∈ table.models → (r.fields.map Field.attributeName).Nodup
  /-- Nothing required has a default. -/
  defaults : ∀ {r f}, .record r ∈ table.models → f ∈ r.fields → f.required = true →
    f.default = none
  /-- Absence and null are no part of the type of a field. -/
  bare : ∀ {r f}, .record r ∈ table.models → f ∈ r.fields →
    ∀ t, f.type ≠ .optional t ∧ f.type ≠ .nullable t
  /-- No field is left out by the options. -/
  fields : ∀ {r f}, .record r ∈ table.models → f ∈ r.fields →
    options.ignoresField f.wireName = .ok false ∧ f.wireName ∉ textsIn options.ignoreFields
  /-- No model is left out by the options. -/
  models : ∀ name ∈ table.names, name ∉ textsIn options.ignoreClasses
  /-- No enumeration is left out by the options. -/
  enums : ∀ e ∈ table.enums, e.name ∉ textsIn options.ignoreClasses
  /-- The models are those of the definitions, in the order that the options ask for. -/
  names : table.names =
    arranged (textsIn options.orderClasses) (modelNames (textsIn options.ignoreClasses) definitions)
  /-- Every name is there once. -/
  distinct : table.names.Nodup

/-! ## Order -/

theorem nodup_eraseDups (names : List String) : names.eraseDups.Nodup := by
  generalize size : names.length = n
  induction n using Nat.strong_induction_on generalizing names with
  | _ n ih =>
    cases names with
    | nil => exact List.nodup_nil
    | cons name rest =>
      rw [List.eraseDups_cons, List.nodup_cons]
      have shorter : (rest.filter fun b => !b == name).length < n := by
        have := List.length_filter_le (fun b => !b == name) rest
        rw [List.length_cons] at size
        omega
      refine ⟨fun mem => ?_, ih _ shorter _ rfl⟩
      have kept := List.mem_filter.mp (List.mem_eraseDups.mp mem)
      simp at kept

theorem arranged_nodup {first names : List String} (distinct : names.Nodup) :
    (arranged first names).Nodup := by
  refine List.nodup_append.mpr ⟨(nodup_eraseDups first).filter _, distinct.filter _, ?_⟩
  rintro a front b back rfl
  have listed : a ∈ first := List.mem_eraseDups.mp (List.mem_of_mem_filter front)
  have other := (List.mem_filter.mp back).2
  rw [List.contains_iff_mem.mpr listed] at other
  cases other

theorem mem_arranged {first names : List String} {name : String} :
    name ∈ arranged first names ↔ name ∈ names := by
  simp only [arranged, List.mem_append, List.mem_filter, List.mem_eraseDups,
    List.contains_iff_mem, Bool.not_eq_true', ← Bool.not_eq_true]
  by_cases listed : name ∈ first <;> simp [listed]

theorem map_name_find? (models : List Model) (names : List String) :
    (names.filterMap fun n => models.find? (·.name == n)).map Model.name =
      names.filter ((models.map Model.name).contains ·) := by
  induction names with
  | nil => rfl
  | cons n rest ih =>
    rw [List.filterMap_cons, List.filter_cons]
    cases found : models.find? (·.name == n) with
    | some m =>
      have same : m.name = n := by simpa using List.find?_some found
      have there : n ∈ models.map Model.name :=
        List.mem_map.mpr ⟨m, List.mem_of_find?_eq_some found, same⟩
      rw [if_pos (List.contains_iff_mem.mpr there), List.map_cons, same, ih]
    | none =>
      have absent : n ∉ models.map Model.name := by
        intro mem
        obtain ⟨m, there, same⟩ := List.mem_map.mp mem
        exact List.find?_eq_none.mp found m there (by simpa using same)
      rw [if_neg fun there => absent (List.contains_iff_mem.mp there), ih]

theorem map_name_ordered (first : List String) (models : List Model) :
    (ordered first models).map Model.name = arranged first (models.map Model.name) := by
  rw [ordered, List.map_append, map_name_find?, arranged, List.filter_map]
  rfl

/-! ## Building -/

theorem modelOf_isSome {options : Options} {name : String} {definition : Definition}
    {o : Option Model} (h : modelOf options name definition = .ok o) :
    o.map Model.name = if definition.isModel then some name else none := by
  unfold modelOf at h
  split at h
  · obtain ⟨r, made, rfl⟩ := map_eq_ok.mp h
    rw [(recordOf_eq made).2.1]
    rfl
  · cases h
    rfl
  · rename_i t other
    cases h
    cases t with
    | union n mode d variants => exact absurd rfl (other n mode d variants)
    | _ => rfl

section

variable {options : Options} {definitions : List (String × Definition)} {ignored : List String}
  {models : List Model}

theorem AreModelsOf.map_name (h : AreModelsOf options ignored definitions models) :
    models.map Model.name = modelNames ignored definitions := by
  obtain ⟨os, all, rfl⟩ := h
  rw [modelNames, ← List.filter_filter, ← keptOf]
  generalize keptOf ignored definitions = kept at all
  induction all with
  | nil => rfl
  | @cons d o ds os here _ ih =>
    have named := modelOf_isSome here
    rw [List.filterMap_cons, List.filter_cons]
    cases model : d.2.isModel with
    | true =>
      rw [model, if_pos rfl] at named
      obtain ⟨m, rfl, same⟩ := Option.map_eq_some_iff.mp named
      rw [if_pos rfl, id_eq, List.map_cons, List.map_cons, same, ih]
    | false =>
      rw [model, if_neg Bool.false_ne_true] at named
      rw [if_neg Bool.false_ne_true, Option.map_eq_none_iff.mp named]
      exact ih

theorem mem_missingNames_iff {name : String} :
    name ∈ missingNames models ↔ (∃ m ∈ models, name ∈ m.refs) ∧ name ∉ models.map Model.name := by
  simp [missingNames]

end

namespace Building

variable {options : Options} {definitions : List (String × Definition)} {table : Table}
  {ignored : List String} {models : List Model} {first : List String}

theorem map_name (b : Building options definitions table ignored models first) :
    models.map Model.name = modelNames ignored definitions := AreModelsOf.map_name b.made

theorem names_eq (b : Building options definitions table ignored models first) :
    table.names = arranged first (modelNames ignored definitions) := by
  rw [names, b.result, map_name_ordered, b.map_name]

theorem mem_names (b : Building options definitions table ignored models first) {name : String} :
    name ∈ table.names ↔ name ∈ models.map Model.name := by
  rw [b.names_eq, mem_arranged, b.map_name]

/-- What a model refers to is there. -/
theorem refs_mem (b : Building options definitions table ignored models first) {m : Model}
    (mem : m ∈ models) {name : String} (ref : name ∈ m.refs) : name ∈ table.names := by
  by_contra absent
  have missing : name ∈ missingNames models :=
    mem_missingNames_iff.mpr ⟨⟨m, mem, ref⟩, fun there => absent (b.mem_names.mpr there)⟩
  rw [b.closed] at missing
  cases missing

theorem mem_refsOfAll {variants : List WireType} {t : WireType} (mem : t ∈ variants)
    {name : String} (ref : name ∈ t.refs) : name ∈ WireType.refsOfAll variants := by
  induction variants with
  | nil => cases mem
  | cons first rest ih =>
    rw [WireType.refsOfAll, List.mem_append]
    rcases List.mem_cons.mp mem with rfl | mem
    · exact .inl ref
    · exact .inr (ih mem)

theorem mem_of_mem_refsOfAll {variants : List WireType} {name : String}
    (ref : name ∈ WireType.refsOfAll variants) : ∃ t ∈ variants, name ∈ t.refs := by
  induction variants with
  | nil => cases ref
  | cons first rest ih =>
    rw [WireType.refsOfAll, List.mem_append] at ref
    rcases ref with here | later
    · exact ⟨first, List.mem_cons_self, here⟩
    · obtain ⟨t, mem, ref⟩ := ih later
      exact ⟨t, List.mem_cons_of_mem _ mem, ref⟩

/-- Whatever a type of the table refers to is there: by the check at the top of each model, and
below it because a type refers to all that its parts refer to. -/
theorem refs_mem_of_occurs (b : Building options definitions table ignored models first)
    {t : WireType} (occurs : table.Occurs t) : ∀ name ∈ t.refs, name ∈ table.names := by
  induction occurs with
  | @field r f mem hf =>
    intro name ref
    refine b.refs_mem (b.mem_models mem) ?_
    rw [Model.refs, List.mem_append, List.mem_append]
    exact .inl (.inl (List.mem_flatMap.mpr ⟨f, hf, ref⟩))
  | @union u mem =>
    intro name ref
    refine b.refs_mem (b.mem_models mem) ?_
    rw [UnionModel.type, WireType.refs, List.mem_append] at ref
    rw [Model.refs, List.mem_append, List.mem_append]
    rcases ref with ref | ref
    · obtain ⟨t, there, ref⟩ := mem_of_mem_refsOfAll ref
      exact .inl (.inr (List.mem_flatMap.mpr ⟨t, there, ref⟩))
    · exact .inr ref
  | optional _ ih | nullable _ ih | sequence _ ih | mapping _ ih =>
    intro name ref
    exact ih name (by rwa [WireType.refs])
  | variant _ mem ih =>
    intro name ref
    refine ih name ?_
    rw [WireType.refs, List.mem_append]
    exact .inl (mem_refsOfAll mem ref)

theorem targets_mem (b : Building options definitions table ignored models first) {m : Model}
    (mem : m ∈ table.models) {d : Schema.Discriminator} (tagged : m.discriminator = some d)
    {entry : String × String} (there : entry ∈ d.mapping) : entry.2 ∈ table.names := by
  refine b.refs_mem (b.mem_models mem) ?_
  rw [Model.refs, List.mem_append, tagged]
  exact .inr (List.mem_map.mpr ⟨entry, there, rfl⟩)

/-- A field of a record comes from a field of an object that the options do not leave out. -/
theorem exists_field (b : Building options definitions table ignored models first)
    {r : RecordModel} {f : Field} (mem : .record r ∈ table.models) (hf : f ∈ r.fields) :
    ∃ g : Types.Field, f = fieldOf g ∧ options.ignoresField g.name = .ok false := by
  obtain ⟨d, -, -, made⟩ := b.exists_definition (b.mem_models mem)
  obtain ⟨o, -, recorded⟩ := modelOf_record made
  obtain ⟨known, rfl, -⟩ := recordOf_eq recorded
  obtain ⟨g, kept, rfl⟩ := List.mem_map.mp hf
  obtain ⟨there, used⟩ := List.mem_filter.mp kept
  refine ⟨g, rfl, ?_⟩
  rw [known g there]
  simpa using used

end Building

/-! ## Tables of documents -/

theorem strip_bare : ∀ t u : WireType, t.strip ≠ .optional u ∧ t.strip ≠ .nullable u
  | .optional inner, u | .nullable inner, u => strip_bare inner u
  | .primitive .., _ | .sequence _, _ | .mapping _, _ | .enum .., _ | .model _, _
  | .union .., _ => ⟨nofun, nofun⟩

theorem fieldOf_default {f : Types.Field} (required : (fieldOf f).required = true) :
    (fieldOf f).default = none := by
  change (f.required && !(f.required && f.default.isSome)) = true at required
  change f.default = none
  cases present : f.default with
  | none => rfl
  | some v =>
    rw [present, Option.isSome_some, Bool.and_true, Bool.and_not_self] at required
    cases required

theorem enumOf_name {name : String} {definition : Definition} {e : NamedEnum}
    (h : enumOf name definition = some e) : e.name = name := by
  unfold enumOf at h
  split at h
  · split at h
    · split at h
      · cases h
        rfl
      · cases h
    · cases h
  · cases h

/-- Every table that is built from the schemas of a document satisfies all invariants. -/
theorem sound_of_build {document : Value} {requested : Option String} {source : String}
    {graph : Schema.Graph} {options : Options} {definitions : List (String × Definition)}
    {table : Table} (json : document.isJson = true)
    (loads : (Schema.Graph.ofDocument document requested source).outcome.1 = .ok graph)
    (resolves : (Types.resolve graph).outcome.1 = .ok definitions)
    (builds : build options definitions = .ok table) : table.Sound options definitions := by
  have wellFormed := build_wellFormed builds
  obtain ⟨ignored, models, first, b⟩ := exists_building builds
  have ignoredEq := Options.ignoredClasses_eq b.skipped
  have firstEq := Options.firstClasses_eq b.front
  subst ignoredEq firstEq
  have schemas := Schema.names_nodup_of_ofDocument json (Logged.gives_of_outcome loads)
  obtain ⟨entries, hoisted, resolution⟩ := Types.exists_resolution resolves
  have unique : (modelNames (textsIn options.ignoreClasses) definitions).Nodup :=
    (resolution.nodup schemas).sublist (List.filter_sublist.map _)
  refine
    { refs := fun occurs => b.refs_mem_of_occurs occurs _ List.mem_cons_self
      targets := fun mem tagged there => b.targets_mem mem tagged there
      innerTargets := fun occurs there => b.refs_mem_of_occurs occurs _ ?_
      wireNames := wellFormed.wireNames
      attributes := wellFormed.attributes
      defaults := fun mem hf required => ?_
      bare := fun mem hf t => ?_
      fields := fun mem hf => ?_
      models := fun name mem listed => ?_
      enums := fun e mem listed => ?_
      names := b.names_eq
      distinct := b.names_eq ▸ arranged_nodup unique }
  · rw [WireType.refs, List.mem_append]
    exact .inr (List.mem_map.mpr ⟨_, there, rfl⟩)
  · obtain ⟨g, rfl, -⟩ := b.exists_field mem hf
    exact fieldOf_default required
  · obtain ⟨g, rfl, -⟩ := b.exists_field mem hf
    exact strip_bare g.type t
  · obtain ⟨g, rfl, kept⟩ := b.exists_field mem hf
    exact ⟨kept, Options.not_mem_textsIn_of_ignoresField kept⟩
  · rw [b.names_eq, mem_arranged] at mem
    obtain ⟨d, there, rfl⟩ := List.mem_map.mp mem
    have used := (Bool.and_eq_true_iff.mp (List.mem_filter.mp there).2).2
    rw [List.contains_iff_mem.mpr listed] at used
    cases used
  · rw [b.result] at mem
    obtain ⟨d, there, made⟩ := List.mem_filterMap.mp mem
    have used := (List.mem_filter.mp there).2
    rw [← enumOf_name made, List.contains_iff_mem.mpr listed] at used
    cases used

/-- No definition of a model is an enumeration. -/
theorem enumOf_of_isModel {name : String} {definition : Definition}
    (model : definition.isModel = true) : enumOf name definition = none := by
  cases definition with
  | object o => rfl
  | type t =>
    cases t with
    | union => rfl
    | _ => cases model

theorem map_name_enumOf (definitions : List (String × Definition)) :
    (definitions.filterMap fun d => enumOf d.1 d.2).map NamedEnum.name =
      (definitions.filter fun d => (enumOf d.1 d.2).isSome).map Prod.fst := by
  induction definitions with
  | nil => rfl
  | cons d rest ih =>
    rw [List.filterMap_cons, List.filter_cons]
    cases made : enumOf d.1 d.2 with
    | none => exact ih
    | some e =>
      rw [Option.isSome_some, if_pos rfl, List.map_cons, List.map_cons, ih, enumOf_name made]

/-- Models and named enumerations have distinct names: both come from definitions, and no definition
is both. -/
theorem called_nodup {document : Value} {requested : Option String} {source : String}
    {graph : Schema.Graph} {options : Options} {definitions : List (String × Definition)}
    {table : Table}
    (keys : ∀ container entries, Schema.findContainer document = .ok (container, entries) →
      (entries.map Prod.fst).Nodup)
    (loads : (Schema.Graph.ofDocument document requested source).outcome.1 = .ok graph)
    (resolves : (Types.resolve graph).outcome.1 = .ok definitions)
    (builds : build options definitions = .ok table) :
    (table.enums.map NamedEnum.name ++ table.names).Nodup := by
  obtain ⟨ignored, models, first, b⟩ := exists_building builds
  have schemas := Schema.names_nodup_of_keys_nodup (Logged.gives_of_outcome loads) keys
  obtain ⟨entries, hoisted, resolution⟩ := Types.exists_resolution resolves
  have distinct : (definitions.map Prod.fst).Nodup := resolution.nodup schemas
  have enums : table.enums.map NamedEnum.name =
      ((keptOf ignored definitions).filter fun d => (enumOf d.1 d.2).isSome).map
        Prod.fst := by
    rw [b.result, map_name_enumOf]
  rw [enums, b.names_eq]
  refine List.nodup_append.mpr ⟨?_, arranged_nodup ?_, ?_⟩
  · exact distinct.sublist ((List.filter_sublist.trans List.filter_sublist).map _)
  · exact distinct.sublist (List.filter_sublist.map _)
  · rintro name enum _ model rfl
    obtain ⟨d, there, rfl⟩ := List.mem_map.mp enum
    obtain ⟨d', there', same⟩ := List.mem_map.mp (mem_arranged.mp model)
    obtain ⟨kept, isEnum⟩ := List.mem_filter.mp there
    obtain ⟨mem', isModel⟩ := List.mem_filter.mp there'
    obtain rfl := List.inj_on_of_nodup_map distinct mem' (List.mem_filter.mp kept).1 same
    rw [enumOf_of_isModel (Bool.and_eq_true_iff.mp isModel).1] at isEnum
    cases isEnum

/-- The table of a document, with what it is built from, if all stages succeed. -/
def ofDocument? (document : Value) (requested : Option String) (source : String)
    (options : Options) : Option (Schema.Graph × List (String × Definition) × Table) :=
  (Schema.Graph.ofDocument document requested source).outcome.1.toOption.bind fun graph =>
    (Types.resolve graph).outcome.1.toOption.bind fun definitions =>
      (build options definitions).toOption.map fun table => (graph, definitions, table)

theorem ofDocument?_eq_some {document : Value} {requested : Option String} {source : String}
    {options : Options} {graph : Schema.Graph} {definitions : List (String × Definition)}
    {table : Table}
    (h : ofDocument? document requested source options = some (graph, definitions, table)) :
    (Schema.Graph.ofDocument document requested source).outcome.1 = .ok graph ∧
      (Types.resolve graph).outcome.1 = .ok definitions ∧
      build options definitions = .ok table := by
  obtain ⟨g, loads, h⟩ := Option.bind_eq_some_iff.mp h
  obtain ⟨ds, resolves, h⟩ := Option.bind_eq_some_iff.mp h
  obtain ⟨t, builds, same⟩ := Option.map_eq_some_iff.mp h
  cases same
  exact ⟨toOption_eq_some.mp loads, toOption_eq_some.mp resolves, toOption_eq_some.mp builds⟩

/-- A document with a family of animals, a toy with an inline object, and a mood. -/
def zooDocument : Value :=
  .ofFields [("openapi", .str "3.0.0"), ("components", .ofFields [("schemas", .ofFields [
    ("Animal", .ofFields [("type", .str "object"), ("required", .ofTexts ["kind"]),
      ("properties", .ofFields [("kind", .ofFields [("type", .str "string")]),
        ("mood", .ofFields [("$ref", .str "#/components/schemas/Mood")])]),
      ("discriminator", .ofFields [("propertyName", .str "kind")])]),
    ("Cat", .ofFields [("allOf", .list [.ofFields [("$ref", .str "#/components/schemas/Animal")],
      .ofFields [("type", .str "object"),
        ("properties", .ofFields [("lives", .ofFields [("type", .str "integer")])])]])]),
    ("Mood", .ofFields [("type", .str "string"), ("enum", .ofTexts ["calm", "wild"])]),
    ("Stone", .ofFields [("type", .str "object")]),
    ("Toy", .ofFields [("type", .str "object"), ("properties", .ofFields [
      ("owner", .ofFields [("$ref", .str "#/components/schemas/Animal")]),
      ("shape", .ofFields [("type", .str "object"), ("properties", .ofFields [
        ("size", .ofFields [("type", .str "number")])])])])])])])]

/-- Toys first, no stones, and no lives. -/
def zooOptions : Options :=
  { ignoreClasses := some (.list [.str "Stone"]), ignoreFields := some (.list [.str "lives"])
    orderClasses := some (.list [.str "Toy"]) }

/-- The zoo has a table, with the models that are asked for. -/
theorem zoo_sound : zooDocument.isJson = true ∧ ∃ graph definitions table,
    (Schema.Graph.ofDocument zooDocument none "zoo").outcome.1 = .ok graph ∧
    (Types.resolve graph).outcome.1 = .ok definitions ∧
    build zooOptions definitions = .ok table ∧ table.Sound zooOptions definitions ∧
    table.names = ["Toy", "Animal", "Cat", "ToyShape"] := by
  have json : zooDocument.isJson = true := by decide +kernel
  have some : (ofDocument? zooDocument none "zoo" zooOptions).any
      (fun built => built.2.2.names == ["Toy", "Animal", "Cat", "ToyShape"]) = true := by
    decide +kernel
  obtain ⟨⟨graph, definitions, table⟩, found, names⟩ := (Option.any_eq_true _ _).mp some
  obtain ⟨loads, resolves, builds⟩ := ofDocument?_eq_some found
  have sound := sound_of_build json loads resolves builds
  exact ⟨json, graph, definitions, table, loads, resolves, builds, sound, by simpa using names⟩

end Table
end WireModel
