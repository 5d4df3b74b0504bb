import WireModel.Proofs.Codec.Simulation
import WireModel.Proofs.Pipeline
import WireModel.Proofs.Schema.Declaration
import WireModel.Proofs.Table.Extraction

/-!
# A name for a schema is transparent

A document, and the same one with a name for the schema of a property: what decodes and encodes
again in the one does so in the other, with the same result (`Pipeline.roundTrip_of_declares`).
The models that are made of schemas without a name may be called otherwise in the second document,
and the schema of the property is one of them if it is an object; the renaming of models shows in a
result only where an instance of a model is left in it as it is.

Not every schema can be given a name like this. `Types.Nameable` says which: an `allOf`, for one,
joins the family of a discriminator when it gets a name, and its name becomes a tag of the family
(`Pipeline.pet_joins_animals`).
-/

namespace WireModel

open Types (Field IsNaming KeepsTargets Nameable)

/-- What comes back of a wire form that is decoded as a model and encoded again. -/
def Pipeline.roundTrip (p : Pipeline) (name : String) (ignoring : Bool) (d : Value) :
    Codec.Outcome Value := do
  let v ← Codec.decode p.contracts name d ignoring
  Codec.encode p.contracts name v ignoring

namespace Codec

variable {R : String → String → Prop} {left right : Table} {contracts contracts' : Contracts}

theorem roundTrip_simulates (tables : Table.TablesAlike R left right)
    (implement : contracts.Implement left) (implement' : contracts'.Implement right) {a b : String}
    (name : R a b) {d e : Value} (plain : d.isPlain = true) {ignoring : Bool}
    (ok : (do
      let v ← decode contracts a d ignoring
      encode contracts a v ignoring) = .ok e) :
    ∃ e', (do
      let v ← decode contracts' b d ignoring
      encode contracts' b v ignoring) = .ok e' ∧ e.Renamed R e' := by
  obtain ⟨v, decoded, encoded⟩ := bind_eq_ok.mp ok
  obtain ⟨v', decoded', same⟩ := decode_simulates tables implement implement' name
    (Value.renamed_of_isPlain plain) decoded
  obtain ⟨e', encoded', result⟩ := encode_simulates tables implement implement' name same encoded
  exact ⟨e', bind_eq_ok.mpr ⟨v', decoded', encoded'⟩, result⟩

end Codec

namespace Pipeline

theorem enumsPlain (p : Pipeline) : ∀ d ∈ p.definitions, d.2.EnumsPlain := by
  have schemas := Schema.enumsPlain_of_ofDocument p.plain (Logged.gives_of_outcome p.loads)
  obtain ⟨entries, hoisted, resolution⟩ := Types.exists_resolution p.resolves
  exact resolution.enumsPlain schemas

/-- If tables are alike, so are the round trips of their pipelines. -/
theorem roundTrip_eq_map (p q : Pipeline) {R : String → String → Prop}
    (tables : Table.TablesAlike R p.table q.table) {ρ : String → String}
    (renamed : ∀ a b, R a b → ρ a = b) {n : String} (name : R n n) (ignoring : Bool) {d : Value}
    (plain : d.isPlain = true) :
    (q.roundTrip n ignoring d).toOption = (p.roundTrip n ignoring d).toOption.map (·.rename ρ) := by
  cases left : p.roundTrip n ignoring d with
  | ok e =>
    obtain ⟨e', right, result⟩ :=
      Codec.roundTrip_simulates tables p.implement q.implement name plain left
    have right : q.roundTrip n ignoring d = .ok e' := right
    rw [right, result.eq_rename renamed]
    rfl
  | error fault =>
    cases right : q.roundTrip n ignoring d with
    | ok e' =>
      obtain ⟨e, back, -⟩ :=
        Codec.roundTrip_simulates tables.symm q.implement p.implement name plain right
      cases left.symm.trans back
    | error fault' => rfl

/-- The definitions of the second of two documents that differ in a name for a schema are those of
the first one up to a renaming of models. If it does not touch what discriminators lead to, the
tables are alike. -/
theorem exists_tablesAlike (p q : Pipeline) (options : q.options = p.options)
    {owner property name : String} {schema : Schema.Node}
    (extracts : p.graph.Extracts q.graph owner property name schema)
    (nameable : Nameable p.graph schema) (unused : name ∉ p.definitions.map Prod.fst)
    (spares : Table.SparesDefault p.options p.definitions property schema.notes.default) :
    ∃ ρ t d lost, IsNaming p.graph p.definitions q.definitions ρ (Field.Named property name schema t)
        name d lost ∧
      (KeepsTargets ρ p.definitions → ∃ R : String → String → Prop, (∀ a b, R a b → ρ a = b) ∧
        (∀ n, p.graph.contains n = true → R n n) ∧ Table.TablesAlike R p.table q.table) := by
  obtain ⟨entries, hoisted, r⟩ := Types.exists_resolution p.resolves
  obtain ⟨entries', hoisted', r'⟩ := Types.exists_resolution q.resolves
  obtain ⟨ρ, t, d, lost, stands, naming⟩ := r.exists_naming extracts nameable r' unused
  obtain ⟨ignored, models, first, b⟩ := Table.exists_building p.builds
  obtain ⟨ignored', models', first', b'⟩ := Table.exists_building q.builds
  rw [options] at b'
  obtain rfl : ignored' = ignored := Except.ok.inj (b'.skipped.symm.trans b.skipped)
  have distinct := r.nodup extracts.distinct
  have distinct' := r'.nodup extracts.distinct_other
  refine ⟨ρ, t, d, lost, naming, fun keeps => ⟨_, fun a b pair => pair.renamed, ?_,
    Table.tablesAlike stands naming b b' distinct' keeps p.enumsPlain spares distinct⟩⟩
  intro n declared
  refine Table.paired_of_fixed naming b b' distinct distinct' ?_ (naming.fixed n declared)
  rw [r.map_fst, List.mem_append]
  exact .inl (Types.contains_iff.mp declared)

/-- A name for the schema of a property makes no difference to what comes back of a wire form, or
to whether something does, for any schema of the document. The models of the first document are
those of the second one up to a renaming that keeps the names of schemas, and so are the results.
The renaming must not touch models that a discriminator leads to, because their names are tags. -/
theorem roundTrip_of_declares (p q : Pipeline) (options : q.options = p.options)
    (requested : q.requested = p.requested) {x : Schema.Extraction}
    (declares : x.Declares p.requested p.document q.document)
    (unused : x.name ∉ p.definitions.map Prod.fst) {schema : Schema.Node}
    (reads : (Schema.parse (Schema.rootOf p.document p.requested) x.schema x.place).Gives schema)
    (nameable : Nameable p.graph schema)
    (spares : Table.SparesDefault p.options p.definitions x.property schema.notes.default) :
    ∃ ρ t d lost, IsNaming p.graph p.definitions q.definitions ρ
        (Field.Named x.property x.name schema t) x.name d lost ∧
      (KeepsTargets ρ p.definitions → ∀ n, p.graph.contains n = true → ∀ ignoring d,
        d.isPlain = true →
          (q.roundTrip n ignoring d).toOption =
            (p.roundTrip n ignoring d).toOption.map (·.rename ρ)) := by
  have fresh : x.name ∉ p.graph.definitions.map Prod.fst := by
    obtain ⟨entries, hoisted, r⟩ := Types.exists_resolution p.resolves
    rw [r.map_fst, List.mem_append, not_or] at unused
    exact unused.1
  have loads := Logged.gives_of_outcome q.loads
  rw [requested] at loads
  have extracts := declares.extracts reads (Logged.gives_of_outcome p.loads) loads fresh
  obtain ⟨ρ, t, d, lost, naming, alike⟩ :=
    exists_tablesAlike p q options extracts nameable unused spares
  refine ⟨ρ, t, d, lost, naming, fun keeps n declared ignoring d plain => ?_⟩
  obtain ⟨R, renamed, same, tables⟩ := alike keeps
  exact roundTrip_eq_map p q tables renamed (same n declared) ignoring plain

/-! ## A pet with a name -/

section

open Schema (AgreesBut Extraction Node Notes referenceTo)

/-- A house with a pet of some schema. -/
def houseSchema (pet : Value) : Value :=
  .ofFields [("type", .str "object"), ("properties", .ofFields [("pet", pet)])]

/-- A document with the schema of a house among others. -/
def houseDocument (pet : Value) (others : List (String × Value)) : Value :=
  .ofFields [("definitions", .ofFields (("House", houseSchema pet) :: others))]

/-- The same document with a name for the schema of the pet. -/
def namedDocument (pet : Value) (others : List (String × Value)) : Value :=
  houseDocument (referenceTo "#/definitions/Pet") (("Pet", pet) :: others)

/-- The name for the schema of the pet. -/
def petExtraction (pet : Value) : Extraction where
  owner := "House"
  property := "pet"
  schema := pet
  place := "#/definitions/House/properties/pet"
  name := "Pet"
  pointer := "#/definitions/Pet"

theorem isComment_eq_false {key : String} {v : Value} (schema : v.asStr? = none)
    (name : "_comment".toList.isPrefixOf key.toList = false) :
    Schema.isComment (.str key, v) = false := by
  simp only [Schema.isComment, schema, Option.isSome_none, Bool.false_or]
  exact name

theorem petExtraction_declares {pet : Value} (schema : pet.asStr? = none)
    {others : List (String × Value)} (distinct : ("House" :: others.map Prod.fst).Nodup) :
    (petExtraction pet).Declares none (houseDocument pet others) (namedDocument pet others) := by
  have stands : "#/definitions/House/properties/pet" = "#/definitions" ++ "/" ++
      Pointer.escape "House" ++ "/properties/" ++ Pointer.escape "pet" := by
    decide
  have refers : Schema.targetOf none "#/definitions/Pet" = .ok "Pet" :=
    toOption_eq_some.mp (by decide +kernel)
  have edits : (petExtraction pet).Edits ("#/definitions" ++ "/" ++ Pointer.escape "House")
      (houseSchema pet) (houseSchema (referenceTo "#/definitions/Pet")) :=
    .property rfl rfl (((AgreesBut.refl _ []).cons_of_mem (by decide) _ _).cons _)
      (show _ = some (Value.map ([] ++ (.str "pet", pet) :: [])) from rfl)
      (show _ = some (Value.map ([] ++ _ :: [])) from rfl) rfl stands
  have keys : ((([] : Schema.Members) ++ (.str "House", houseSchema pet) ::
      others.map fun m => (Value.str m.1, m.2)).map Prod.fst).Nodup := by
    rw [List.nil_append, List.map_cons, List.map_map]
    have := distinct.map (f := Value.str) fun _ _ same => Value.str.inj same
    rwa [List.map_cons, List.map_map] at this
  have adds : (petExtraction pet).Adds (houseDocument pet others) (namedDocument pet others)
      "#/definitions" ([] ++ (.str "House", houseSchema pet) :: others.map fun m => (.str m.1, m.2))
      ([] ++ (.str "House", houseSchema (referenceTo "#/definitions/Pet")) ::
        others.map fun m => (.str m.1, m.2)) :=
    ⟨rfl, keys, ⟨_, [_], _, rfl, rfl, fun _ => rfl⟩,
      isComment_eq_false schema (show "_comment".toList.isPrefixOf "Pet".toList = false from rfl),
      refers⟩
  exact .named ((AgreesBut.refl _ []).cons_of_mem (by decide) _ _)
    (isComment_eq_false rfl (show "_comment".toList.isPrefixOf "House".toList = false from rfl))
    edits adds

/-- A schema of pets that have names. -/
def petSchema : Value :=
  .ofFields [("type", .str "object"),
    ("properties", .ofFields [("name", .ofFields [("type", .str "string")])])]

/-- The wire form of a house with a pet. -/
def home : Value := .ofFields [("pet", .ofFields [("name", .str "Tom")])]

/-- What the schema of the pet is read as. -/
def petNode : Node :=
  .object (.at "#/definitions/House/properties/pet")
    [⟨"name", .primitive (.at "#/definitions/House/properties/pet/properties/name") .string none,
      false⟩] [] .undeclared none

def houseGraph : Schema.Graph :=
  ⟨"", "#/definitions", "house",
    [("House", .object (.at "#/definitions/House") [⟨"pet", petNode, false⟩] [] .undeclared none)]⟩

def houseDefinitions : List (String × Types.Definition) :=
  [("House", .object ⟨"House", [⟨"pet", .optional (.model "HousePet"), none, none⟩], [], none, none⟩),
    ("HousePet", .object ⟨"HousePet", [⟨"name", .optional (.primitive .string none), none, none⟩], [],
      none, none⟩)]

set_option maxRecDepth 4000 in
theorem stages_of_house {p : Pipeline}
    (h : run? (houseDocument petSchema []) none "house" {} = some p) :
    p.graph = houseGraph ∧ p.definitions = houseDefinitions := by
  obtain ⟨document, requested, source, -⟩ := run?_eq_some h
  have graph : p.graph = houseGraph := by
    have loads := p.loads
    rw [document, requested, source] at loads
    exact Except.ok.inj (loads.symm.trans rfl)
  have resolves := p.resolves
  rw [graph] at resolves
  exact ⟨graph, Except.ok.inj (resolves.symm.trans rfl)⟩

theorem not_carries_houseDefinitions {d : Schema.Discriminator} :
    ∀ definition ∈ houseDefinitions, ¬definition.2.Carries d := by
  intro definition mem carries
  rcases List.mem_pair.mp mem with rfl | rfl
  all_goals
    rcases carries with own | ⟨f, mem, _, _, _, part⟩
    · cases own
    · obtain rfl := List.mem_singleton.mp mem
      cases part with
      | optional part => cases part

theorem eq_ok_of_identical {result : Codec.Outcome Value} {v : Value}
    (h : result.toOption.any v.identical = true) : result = .ok v := by
  obtain ⟨e, ok, same⟩ := (Option.any_eq_true _ _).mp h
  rw [toOption_eq_some.mp ok, Value.eq_of_identical same]

/-- The pet of a house comes back also if its schema has a name. -/
theorem house_keeps_pet : ∃ p q : Pipeline,
    run? (houseDocument petSchema []) none "house" {} = some p ∧
    run? (namedDocument petSchema []) none "house" {} = some q ∧
    p.roundTrip "House" false home = .ok home ∧ q.roundTrip "House" false home = .ok home := by
  have returns : (run? (houseDocument petSchema []) none "house" {}).any (fun p =>
      (p.roundTrip "House" false home).toOption.any home.identical) = true := by
    decide +kernel
  have builds : (run? (namedDocument petSchema []) none "house" {}).isSome = true := by decide +kernel
  obtain ⟨p, first, returns⟩ := (Option.any_eq_true _ _).mp returns
  have returned := eq_ok_of_identical returns
  obtain ⟨q, second⟩ := Option.isSome_iff_exists.mp builds
  obtain ⟨document, requested, -, options⟩ := run?_eq_some first
  obtain ⟨document', requested', -, options'⟩ := run?_eq_some second
  obtain ⟨graph, definitions⟩ := stages_of_house first
  have declares : (petExtraction petSchema).Declares p.requested p.document q.document := by
    rw [requested, document, document']
    exact petExtraction_declares rfl (List.nodup_singleton _)
  have unused : "Pet" ∉ p.definitions.map Prod.fst := by
    rw [definitions]
    decide
  have reads : (Schema.parse (Schema.rootOf p.document p.requested) petSchema
      "#/definitions/House/properties/pet").Gives petNode := by
    rw [requested, document]
    exact Logged.gives_of_outcome rfl
  have nameable : Nameable p.graph petNode := .object nofun
  have spares : Table.SparesDefault p.options p.definitions "pet" none := by
    rw [options]
    exact nofun
  obtain ⟨ρ, t, d, lost, -, alike⟩ := roundTrip_of_declares p q (options'.trans options.symm)
    (requested'.trans requested.symm) declares unused reads nameable spares
  have keeps : KeepsTargets ρ p.definitions := by
    rw [definitions]
    exact fun definition mem d carries => absurd carries (not_carries_houseDefinitions _ mem)
  have declared : p.graph.contains "House" = true := by
    rw [graph]
    decide
  have named := alike keeps "House" declared false home rfl
  rw [returned, Except.toOption, Option.map_some, Value.rename_of_isPlain ρ rfl,
    toOption_eq_some] at named
  exact ⟨p, q, first, second, returned, named⟩

/-- A schema of animals, which are told apart by their kind. -/
def animalSchema : Value :=
  .ofFields [("type", .str "object"), ("required", .list [.str "kind"]),
    ("properties", .ofFields [("kind", .ofFields [("type", .str "string")])]),
    ("discriminator", .ofFields [("propertyName", .str "kind")])]

/-- A schema of pets, which are animals with a friend among the animals. -/
def friendlySchema : Value :=
  .ofFields [("allOf", .list [referenceTo "#/definitions/Animal",
    .ofFields [("properties", .ofFields [("friend", referenceTo "#/definitions/Animal")])]])]

/-- The wire form of a house with a pet whose friend is called a pet, too. -/
def homeOfFriends : Value :=
  .ofFields [("pet", .ofFields [("kind", .str "Animal"),
    ("friend", .ofFields [("kind", .str "Pet")])])]

/-- Under a name an `allOf` is one of the family of its parent, and its name is a tag of the family;
without a name there is no such tag. -/
theorem pet_joins_animals : ∃ p q : Pipeline, q.options = p.options ∧ q.requested = p.requested ∧
    (petExtraction friendlySchema).Declares p.requested p.document q.document ∧
    "Pet" ∉ p.definitions.map Prod.fst ∧ homeOfFriends.isJson = true ∧
    (p.roundTrip "House" false homeOfFriends).toOption = none ∧
    q.roundTrip "House" false homeOfFriends = .ok homeOfFriends := by
  have fails : (run? (houseDocument friendlySchema [("Animal", animalSchema)]) none "house" {}).any
      (fun p => !(p.definitions.map Prod.fst).contains "Pet" &&
        (p.roundTrip "House" false homeOfFriends).toOption.isNone) = true := by
    decide +kernel
  have returns : (run? (namedDocument friendlySchema [("Animal", animalSchema)]) none "house" {}).any
      (fun q => (q.roundTrip "House" false homeOfFriends).toOption.any homeOfFriends.identical) =
        true := by
    decide +kernel
  obtain ⟨p, first, fails⟩ := (Option.any_eq_true _ _).mp fails
  obtain ⟨unused, fails⟩ := (Bool.and_eq_true _ _).mp fails
  obtain ⟨q, second, returns⟩ := (Option.any_eq_true _ _).mp returns
  obtain ⟨document, requested, -, options⟩ := run?_eq_some first
  obtain ⟨document', requested', -, options'⟩ := run?_eq_some second
  refine ⟨p, q, options'.trans options.symm, requested'.trans requested.symm, ?_, ?_, rfl,
    Option.isNone_iff_eq_none.mp fails, eq_ok_of_identical returns⟩
  · rw [requested, document, document']
    exact petExtraction_declares rfl (by decide)
  · simpa using unused

end

end Pipeline
end WireModel
