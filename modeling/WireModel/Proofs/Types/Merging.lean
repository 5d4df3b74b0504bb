import WireModel.Proofs.Types.Fixpoint
import WireModel.Proofs.Types.Requirement

/-!
# What an `allOf` merges

An `allOf` takes the fields of its members one after another: those of the objects that references
lead to, those of the properties of objects in place, and those that a nested `allOf` merges itself.

* **`MembersFields`**: the fields that each member brings.
* **`Merged`**: a merge has each name that they bring once, in the order of first appearance, and
  under it the field of the last member that brings it. Only whether that is required may change.
* **`merges_of_resolve`**: the object of every `allOf` of a resolution is such a merge. Its fields
  are the ones that the members declare, however deep.
-/

namespace WireModel.Types

open Schema

/-! ## Merges -/

/-- A merge of the fields that members bring. -/
structure Merged (members : List Node) (parts : List (List Field)) (fields : List Field) :
    Prop where
  /-- Each name has the place where it first appears. -/
  names : fields.map Field.name = (parts.flatten.map Field.name).eraseDups
  /-- The last member that brings a name tells all of its field but one thing: it is required also
  if an object among the members lists it. -/
  last : ∀ f ∈ fields, ∃ before part after g, parts = before ++ part :: after ∧
    lastField? part f.name = some g ∧ (∀ later ∈ after, ∀ h ∈ later, h.name ≠ f.name) ∧
    f.Restates g ∧ f.required = (g.required || lists members f.name)

mutual

/-- The fields that a member of an `allOf` brings. -/
inductive MemberFields (graph : Graph) (definitions : List (String × Definition)) :
    Node → List Field → Prop
  | reference {notes pointer target o} : graph.contains target = true →
      (target, .object o) ∈ definitions →
      MemberFields graph definitions (.reference notes pointer target) o.fields
  | object {notes properties required additional discriminator fields own} :
      FieldsOf graph (knownIn definitions) properties fields own →
      (∀ o ∈ own, o.pair ∈ definitions) →
      MemberFields graph definitions
        (.object notes properties required additional discriminator) fields
  | nested {notes members discriminator parts fields} :
      MembersFields graph definitions members parts → Merged members parts fields →
      MemberFields graph definitions (.composite notes .allOf members discriminator) fields

/-- The fields that the members of an `allOf` bring, for each member. -/
inductive MembersFields (graph : Graph) (definitions : List (String × Definition)) :
    List Node → List (List Field) → Prop
  | nil : MembersFields graph definitions [] []
  | cons {m members part parts} : MemberFields graph definitions m part →
      MembersFields graph definitions members parts →
      MembersFields graph definitions (m :: members) (part :: parts)

end

/-- A schema declares a field: an object has a property of its name, and an `allOf` a member that
declares it. -/
inductive DeclaresField (graph : Graph) (x : String) : Node → Prop
  | property {notes properties required additional discriminator p} : p ∈ properties → p.name = x →
      DeclaresField graph x (.object notes properties required additional discriminator)
  | member {notes members discriminator m node} : m ∈ members →
      memberSchema graph m = some node → DeclaresField graph x node →
      DeclaresField graph x (.composite notes .allOf members discriminator)

/-- The name that a reference leads to. -/
def referredName? : Node → Option String
  | .reference _ _ target => some target
  | _ => none

variable {graph : Graph} {x : String}

theorem HasField.declares {node : Node} {flag : Bool} (h : HasField graph x flag node) :
    DeclaresField graph x node := by
  induction h with
  | object named _ => exact .property (List.mem_append_right _ List.mem_cons_self) named
  | merge stands _ _ ih => exact .member (List.mem_append_right _ List.mem_cons_self) stands ih

theorem DeclaresField.not_lacks {node : Node} (h : DeclaresField graph x node) :
    ¬Lacks graph x node := by
  induction h with
  | property mem named =>
    rintro ⟨none⟩
    exact none _ mem named
  | member mem stands _ ih =>
    rintro (_ | ⟨none⟩)
    exact ih (none _ mem _ stands)

/-- The fields of an object are those that its schema declares. -/
theorem FieldsFit.mem_names_iff {node : Node} {fields : List Field}
    (fits : FieldsFit graph node fields) :
    x ∈ fields.map Field.name ↔ DeclaresField graph x node := by
  cases found : requirement fields x with
  | some flag =>
    refine iff_of_true ?_ (fits.has x flag found).declares
    rw [requirement_eq_map, Option.map_eq_some_iff] at found
    obtain ⟨f, there, -⟩ := found
    exact List.mem_map.mpr ⟨f, mem_of_lastField? there⟩
  | none =>
    refine iff_of_false (fun mem => ?_) fun declares => declares.not_lacks (fits.lacks x found)
    obtain ⟨f, there, named⟩ := List.mem_map.mp mem
    exact requirement_eq_none_iff.mp found f there named

theorem lists_cons (m : Node) (members : List Node) :
    lists (m :: members) x = (lists [m] x || lists members x) := by
  simp [lists]

/-- Fields that are added member by member, and of which the listed ones are then required, are a
merge. -/
theorem merged_require {members : List Node} {parts : List (List Field)} {required : List String}
    (proper : ∀ part ∈ parts, ∀ f ∈ part, f.Proper)
    (listed : ∀ x, required.contains x = lists members x) :
    Merged members parts (require required (putFields [] parts.flatten)) where
  names := by
    rw [names_require]
    exact names_putFields [] rfl
  last f mem := by
    have empty : (([] : List Field).map Field.name).Nodup := .nil
    have distinct : ((require required (putFields [] parts.flatten)).map Field.name).Nodup := by
      rw [names_require]
      exact nodup_putFields _ empty
    have found := lastField?_of_mem distinct mem
    rw [lastField?_require, Option.map_eq_some_iff] at found
    obtain ⟨g, found, same⟩ := found
    rw [lastField?_putFields empty] at found
    change (lastField? parts.flatten f.name).or none = some g at found
    rw [Option.or_none] at found
    obtain ⟨before, part, after, eq, here, later⟩ := exists_last_of_flatten found
    obtain ⟨there, named⟩ := mem_of_lastField? here
    have fits := proper part (eq ▸ List.mem_append_right _ List.mem_cons_self) g there
    refine ⟨before, part, after, g, eq, here, ?_, same ▸ fits.restates_requireIf, ?_⟩
    · exact fun other behind => lastField?_eq_none_iff.mp (later other behind)
    · rw [← same, fits.requireIf.2, listed, Field.name_requireIf]

/-! ## Derivations -/

variable {definitions : List (String × Definition)}

/-- The fields of what is known are proper. -/
theorem Known.Requires.proper {known : Known} (requires : known.Requires graph) {target : String}
    {o : ObjectType} (there : graph.contains target = true)
    (meant : known target = some (.object o)) : ∀ f ∈ o.fields, f.Proper := by
  obtain ⟨node, found⟩ := Option.isSome_iff_exists.mp there
  exact (requires _ _ _ meant found).proper

/-- What a derivation merges are the fields of its members, one after another. -/
structure MergesParts (graph : Graph) (definitions : List (String × Definition)) (merge : Merge)
    (members : List Node) (result : Merge) (parts : List (List Field)) : Prop where
  brings : MembersFields graph definitions members parts
  proper : ∀ part ∈ parts, ∀ f ∈ part, f.Proper
  fields : result.fields = putFields merge.fields parts.flatten
  parents : result.parents = merge.parents ++ members.filterMap referredName?
  required : ∀ x, result.required.contains x = (merge.required.contains x || lists members x)

/-- When nothing was merged before, the object is a merge. -/
theorem MergesParts.merged {description : Option String} {members : List Node} {result : Merge}
    {parts : List (List Field)}
    (h : MergesParts graph definitions { description := description } members result parts) :
    Merged members parts (require result.required result.fields) := by
  rw [h.fields]
  refine merged_require h.proper fun x => ?_
  rw [h.required]
  rfl

/-- One more member in front. -/
theorem MergesParts.cons {merge next result : Merge} {m : Node} {members : List Node}
    {part : List Field} {parts : List (List Field)}
    (rest : MergesParts graph definitions next members result parts)
    (first : MemberFields graph definitions m part) (proper : ∀ f ∈ part, f.Proper)
    (fields : next.fields = putFields merge.fields part)
    (parents : next.parents = merge.parents ++ [m].filterMap referredName?)
    (required : ∀ x, next.required.contains x = (merge.required.contains x || lists [m] x)) :
    MergesParts graph definitions merge (m :: members) result (part :: parts) where
  brings := .cons first rest.brings
  proper := List.forall_mem_cons.mpr ⟨proper, rest.proper⟩
  fields := by
    rw [rest.fields, fields, List.flatten_cons]
    exact List.foldl_append.symm
  parents := by
    rw [rest.parents, parents, List.append_assoc, ← List.filterMap_append]
    rfl
  required x := by rw [rest.required, required, lists_cons m members, Bool.or_assoc]

/-- By induction on the derivation, a member at a time; what a nested `allOf` brings is its own
merge. -/
theorem MergeOf.exists_parts (requires : (knownIn definitions).Requires graph) :
    ∀ {merge members result own}, MergeOf graph (knownIn definitions) merge members result own →
      (∀ o ∈ own, o.pair ∈ definitions) →
      ∃ parts, MergesParts graph definitions merge members result parts
  | merge, _, _, _, .nil, _ =>
    ⟨[], .nil, List.forall_mem_nil _, rfl, (List.append_nil _).symm,
      fun _ => (Bool.or_false _).symm⟩
  | merge, _, _, _, @MergeOf.reference _ _ _ notes pointer target _ o _ _ there meant rest,
      inside => by
    obtain ⟨parts, merges⟩ := rest.exists_parts requires inside
    exact ⟨o.fields :: parts, merges.cons (.reference there (mem_of_lookup_eq_some meant))
      (requires.proper there meant) rfl rfl fun _ => (Bool.or_false _).symm⟩
  | merge, _, _, _, @MergeOf.object _ _ _ notes properties required additional discriminator _
      fields _ own others h rest, inside => by
    obtain ⟨here, later⟩ := List.forall_mem_append.mp inside
    obtain ⟨parts, merges⟩ := rest.exists_parts requires later
    have fits : FieldsFit graph
        (.object notes properties required additional discriminator) fields :=
      fieldsFit_object (h.requires requires).1
    refine ⟨fields :: parts, merges.cons (.object h here) fits.proper rfl
      (List.append_nil _).symm fun x => ?_⟩
    rw [List.contains_append, lists_object]
  | merge, _, _, _, @MergeOf.nested _ _ _ notes members discriminator _ inner _ own others h rest,
      inside => by
    obtain ⟨here, later⟩ := List.forall_mem_append.mp inside
    obtain ⟨innerParts, nested⟩ := h.exists_parts requires here
    obtain ⟨parts, merges⟩ := rest.exists_parts requires later
    have fits : FieldsFit graph (.composite notes .allOf members discriminator)
        (require inner.required inner.fields) :=
      (h.requires requires mergeFits_nil).1.fieldsFit
    exact ⟨_, merges.cons (.nested nested.brings nested.merged) fits.proper rfl
      (List.append_nil _).symm fun _ => (Bool.or_false _).symm⟩

/-! ## Resolutions -/

/-- What a resolution results in is what its schemas require. -/
theorem Resolution.requires {entries : List Entry} {hoisted : List ObjectType}
    (r : Resolution graph definitions entries hoisted)
    (distinct : (graph.definitions.map Prod.fst).Nodup) :
    (knownIn definitions).Requires graph := by
  intro name d node meant found
  obtain ⟨e, mem, rfl⟩ := r.exists_entry (contains_iff.mp (contains_of_get? found))
  obtain ⟨node', found', meaning, -⟩ := r.derived.requires e mem
  obtain rfl := Option.some.inj (found.symm.trans found')
  obtain rfl := Option.some.inj (meant.symm.trans (r.knownIn_eq distinct mem))
  exact meaning

/-- An `allOf` defines an object, which is its model. -/
theorem Defines.exists_merge {notes : Notes} {members : List Node}
    {discriminator : Option Discriminator} {p : String × Definition}
    (h : Defines graph definitions (.composite notes .allOf members discriminator) p) :
    ∃ o result own, p.2 = .object o ∧ o.fields = require result.required result.fields ∧
      o.parents = result.parents ∧
      MergeOf graph (knownIn definitions) { description := notes.description } members result
        own ∧ ∀ o ∈ own, o.pair ∈ definitions := by
  cases h with
  | named meaning inside =>
    generalize p.2 = d at meaning
    cases meaning with
    | merge h => exact ⟨_, _, _, rfl, rfl, rfl, h, inside⟩
    | union mode => exact absurd rfl mode
    | other other => cases other
  | made same models =>
    obtain ⟨own, model, inside⟩ := models
    cases model with
    | merge h => exact ⟨_, _, _, by rw [same]; rfl, rfl, rfl, h, inside⟩

/-- **What an `allOf` merges.** In a resolution of schemas with distinct names, every `allOf` that
is a model defines an object. Its fields are a merge of those that its members bring: each name that
some member declares, at any depth, stands once and where it first appears, and says what the last
member says that declares it. A field that an object among the members lists is required. Its
parents are the schemas that the members refer to, in order. -/
theorem merges_of_resolve {graph : Graph} {definitions : List (String × Definition)}
    (distinct : (graph.definitions.map Prod.fst).Nodup)
    (resolves : (resolve graph).outcome.1 = .ok definitions) :
    ∃ origins, Origins graph definitions origins ∧
      ∀ name notes members discriminator,
        (name, .composite notes .allOf members discriminator) ∈ origins →
        ∃ o parts, (name, .object o) ∈ definitions ∧
          MembersFields graph definitions members parts ∧ Merged members parts o.fields ∧
          (o.fields.map Field.name).Nodup ∧
          (∀ x, x ∈ o.fields.map Field.name ↔
            DeclaresField graph x (.composite notes .allOf members discriminator)) ∧
          (∀ f ∈ o.fields, lists members f.name = true → f.type.isOptional = false) ∧
          o.parents = members.filterMap referredName? := by
  obtain ⟨entries, hoisted, r⟩ := exists_resolution resolves
  obtain ⟨origins, origin, all⟩ := r.exists_defines distinct
  refine ⟨origins, origin, fun name notes members discriminator from_ => ?_⟩
  obtain ⟨⟨_, d⟩, mem, rfl, defines⟩ := exists_right_of_forall₂ all from_
  obtain ⟨o, result, own, rfl, fields, parents, merge, inside⟩ := defines.exists_merge
  have requires := r.requires distinct
  obtain ⟨parts, merges⟩ := merge.exists_parts requires inside
  have fits : FieldsFit graph (.composite notes .allOf members discriminator) o.fields := by
    rw [fields]
    exact (merge.requires requires mergeFits_nil).1.fieldsFit
  have merged : Merged members parts o.fields := by
    rw [fields]
    exact merges.merged
  refine ⟨o, parts, mem, merges.brings, merged, fits.distinct rfl, fun x => fits.mem_names_iff,
    fun f own listed => ?_, ?_⟩
  · obtain ⟨-, -, -, g, -, -, -, -, required⟩ := merged.last f own
    rw [listed, Bool.or_true] at required
    simpa [Field.required] using required
  · rw [parents, merges.parents]
    rfl

/-! ## A diamond -/

/-- An object with one property. -/
def single (property : String) (kind : Kind) (required : List String) : Node :=
  .object (.at "#/definitions") [⟨property, .primitive (.at "#/definitions") kind none, false⟩]
    required .undeclared none

def merging (members : List Node) : Node := .composite (.at "#/definitions") .allOf members none

def referring (target : String) : Node :=
  .reference (.at "#/definitions") ("#/definitions/" ++ target) target

/-- `Both` extends `Base` on two ways, of which the second one declares `id` again. -/
def diamond : Graph :=
  ⟨"", "#/definitions", "diamond",
    [("Both", merging [referring "Left", referring "Right", merging [single "extra" .string []],
        single "left" .number ["id"]]),
      ("Left", merging [referring "Base", single "left" .string []]),
      ("Right", merging [referring "Base", single "id" .integer []]),
      ("Base", single "id" .string [])]⟩

/-- The names and types of the fields of `Both`. -/
def fieldsOfBoth : Option (List (String × String)) :=
  ((resolve diamond).outcome.1.toOption.bind (·.lookup "Both")).bind fun
    | .object o => some (o.fields.map fun f =>
        (f.name, match f.type with | .primitive kind _ => kind.name | _ => "optional"))
    | .type _ => none

example : fieldsOfBoth = some [("id", "integer"), ("left", "optional"), ("extra", "optional")] := by
  decide +kernel

/-- Whatever is in the diamond, `Both` has each field once, needs its `id` and extends two. -/
theorem both_merges : (diamond.definitions.map Prod.fst).Nodup ∧ ∃ definitions o,
    (resolve diamond).outcome.1 = .ok definitions ∧ ("Both", .object o) ∈ definitions ∧
      (o.fields.map Field.name).Nodup ∧ "extra" ∈ o.fields.map Field.name ∧
      (∀ f ∈ o.fields, f.name = "id" → f.type.isOptional = false) ∧
      o.parents = ["Left", "Right"] := by
  have distinct : (diamond.definitions.map Prod.fst).Nodup := by decide
  obtain ⟨definitions, resolves⟩ :=
    exists_of_isOk (show (resolve diamond).outcome.1.isOk = true by decide +kernel)
  obtain ⟨origins, origin, merges⟩ := merges_of_resolve distinct resolves
  have named : diamond.definitions.head (by decide) ∈ origins := by
    obtain ⟨made, rfl, -⟩ := origin.schemas
    exact List.mem_append_left _ List.mem_cons_self
  obtain ⟨o, parts, mem, -, -, once, declares, needs, parents⟩ := merges _ _ _ _ named
  refine ⟨distinct, definitions, o, resolves, mem, once, ?_, fun f own id => ?_, parents⟩
  · -- it is the field of an `allOf` inside of the `allOf`
    have nested : merging [single "extra" .string []] ∈ [referring "Left", referring "Right",
        merging [single "extra" .string []], single "left" .number ["id"]] := by
      simp
    refine (declares "extra").mpr (.member nested rfl ?_)
    exact .member List.mem_cons_self rfl (.property List.mem_cons_self rfl)
  · exact needs f own (by rw [id]; decide)

end WireModel.Types
