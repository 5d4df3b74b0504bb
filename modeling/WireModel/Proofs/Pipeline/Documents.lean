import WireModel.Proofs.Emit.Names
import WireModel.Proofs.Pipeline
import WireModel.Proofs.Plan.Documents
import WireModel.Proofs.Table.Provenance

/-!
# Documents of derived plans

The documents of plans leave out an empty name of an enumeration, but no plan of a pipeline has one:
an enumeration has the name of a schema, and no schema is called nothing.

* **`named_of_produces`**: no enumeration in a plan has an empty name.
* **`toDocument_tells`**: the documents of plans tell them up to descriptions, also across tables.
-/

namespace WireModel

open Types (WireType)

/-! ## Names of schemas -/

namespace Schema

open Logged

theorem name_ne_empty_of_readDefinition {root : Option String} {container : String}
    {entry : Value × Value} {result : String × Node}
    (h : (readDefinition root container entry).Gives result) : result.1 ≠ "" := by
  unfold readDefinition at h
  split at h
  · exact absurd h not_gives_failAbout
  · split at h
    · exact absurd h not_gives_fail
    · rename_i some
      obtain ⟨node, -, h⟩ := h.bind
      obtain rfl := gives_pure_iff.mp h
      exact fun none => some (String.isEmpty_iff.mpr none)

/-- Every schema has a name: one without is refused, and the name of the root is a word. -/
theorem name_ne_empty_of_ofDocument {document : Value} {requested : Option String} {source : String}
    {graph : Graph} (h : (Graph.ofDocument document requested source).Gives graph) :
    ∀ d ∈ graph.definitions, d.1 ≠ "" := by
  obtain ⟨members, container, entries, definitions, -, -, read, cases⟩ := ofDocument_cases h
  have named : ∀ d ∈ definitions, d.1 ≠ "" := by
    intro d mem
    obtain ⟨entry, -, reads⟩ := exists_left_of_forall₂ read.mapM mem
    exact name_ne_empty_of_readDefinition reads
  rcases cases with ⟨-, rfl⟩ | ⟨name, node, root, -, -, rfl⟩
  · exact named
  · refine List.forall_mem_cons.mpr ⟨?_, named⟩
    unfold rootNameOf at root
    split at root
    · cases root
    · split at root
      · cases root
        exact (Naming.isWord_className _).some
      · cases root

end Schema

/-! ## Plans of types -/

namespace Plan

/-- The enumerations in a plan are those in its type. -/
theorem Implements.exists_enum {table : Table} {values : List Value} {name : Option String}
    {t : WireType} {p : Plan} (h : Implements table t p)
    (part : (Plan.checkEnum values name).Part p) :
    ∃ kind, (WireType.enum name values kind).Part t := by
  induction t using WireType.induct generalizing p with
  | primitive kind format =>
    cases h
    cases part
  | enum n vs kind =>
    cases h
    cases part
    exact ⟨kind, .refl⟩
  | model n =>
    cases h
    cases part
  | optional inner ih => exact (ih h part).imp fun _ => .optional
  | nullable inner ih =>
    obtain ⟨q, rfl, h⟩ := h
    cases part with
    | nullable part => exact (ih h part).imp fun _ => .nullable
  | sequence element ih =>
    obtain ⟨q, rfl, h⟩ := h
    cases part with
    | eachElement part => exact (ih h part).imp fun _ => .sequence
  | mapping value ih =>
    obtain ⟨q, rfl, h⟩ := h
    cases part with
    | eachValue part => exact (ih h part).imp fun _ => .mapping
  | union n mode d variants ih =>
    cases d with
    | some d =>
      cases h
      cases part
    | none =>
      obtain ⟨options, description, rfl, all⟩ := h
      cases part with
      | option mem part =>
        obtain ⟨t, there, h⟩ := all.exists_variant mem
        exact (ih t there h part).imp fun _ => .variant there

end Plan

/-- Every plan of a contract is that of a type of the table. -/
theorem Contract.Implements.exists_occurs {table : Table} {m : Model} {c : Contract}
    (h : Contract.Implements table m c) (mem : m ∈ table.models) {p : Plan} (there : p ∈ c.plans) :
    ∃ t, table.Occurs t ∧ Plan.Implements table t p := by
  cases h with
  | record implements =>
    obtain ⟨f, own, rfl⟩ := List.mem_map.mp there
    obtain ⟨g, field, same⟩ := exists_left_of_forall₂ implements.fields own
    exact ⟨g.type, .field mem field, same.plan⟩
  | union _ body =>
    obtain rfl := List.mem_singleton.mp there
    exact ⟨_, .union mem, body⟩

/-- A plan that contracts are made of: one of a field or of alternatives, any part of it, or the
dispatch of a record by its discriminator. -/
inductive Contracts.Produces (contracts : Contracts) : Plan → Prop
  | use {p} : contracts.Uses p → Produces contracts p
  | dispatch {r d} : .record r ∈ contracts → r.discriminator = some d →
      Produces contracts (.dispatch d.property d.mapping)

namespace Pipeline

/-- An enumeration with a name in a type of the table has the name of a schema. -/
theorem enum_name_ne_empty (p : Pipeline) {name : String} {values : List Value}
    {kind : Schema.Kind} (occurs : p.table.Occurs (.enum (some name) values kind)) : name ≠ "" := by
  obtain ⟨entries, hoisted, resolution⟩ := Types.exists_resolution p.resolves
  obtain ⟨ignored, models, first, b⟩ := Table.exists_building p.builds
  obtain ⟨notes, -, named⟩ := b.occurs_stems resolution.stems occurs _ .refl
  exact Schema.name_ne_empty_of_ofDocument (Logged.gives_of_outcome p.loads) _
    (Types.mem_of_get? (named name rfl))

/-- No enumeration in a plan has the empty name. -/
theorem named_of_produces (p : Pipeline) {plan : Plan} (produces : p.contracts.Produces plan) :
    plan.Named := by
  cases produces with
  | use uses =>
    obtain ⟨c, mem, whole, there, part⟩ := uses
    obtain ⟨m, model, implements⟩ := exists_left_of_forall₂
      (Contract.derive_implements (Logged.gives_of_outcome p.derives)) mem
    obtain ⟨t, occurs, implements⟩ := implements.exists_occurs model there
    refine Plan.Named.part (fun values inner => ?_) part
    obtain ⟨kind, inside⟩ := implements.exists_enum inner
    exact p.enum_name_ne_empty (occurs.part inside) rfl
  | dispatch => nofun

/-- **Documents tell plans.** Two plans of the same or of different tables have the same document
exactly if they are the same but for the descriptions of alternatives. Their documents are one JSON
value only if the plans are the same but for the order of keys in the values of enumerations. And
predicates are told entirely. -/
theorem toDocument_tells (first second : Pipeline) {p q : Plan}
    (left : first.contracts.Produces p) (right : second.contracts.Produces q) :
    (p.toDocument = q.toDocument ↔ p.undescribed = q.undescribed) ∧
    (p.toDocument.SameJson q.toDocument → p.Agree Value.SameJson q) ∧
    ∀ a b : Predicate, (a.toDocument = b.toDocument ↔ a = b) ∧
      (a.toDocument.SameJson b.toDocument → a.Agree Value.SameJson b) := by
  have named := first.named_of_produces left
  have named' := second.named_of_produces right
  refine ⟨Plan.toDocument_eq_iff named named', ?_, fun a b => ⟨Predicate.toDocument_eq_iff, ?_⟩⟩
  · exact Plan.agree_of_toDocument Value.compares_sameJson named named'
  · exact Predicate.agree_of_toDocument Value.compares_sameJson

/-! ## Twins -/

/-- Two unions of the same variants. -/
def twinsDocument : Value :=
  .ofFields [("definitions", .ofFields [
    ("Colour", .ofFields [("enum", .ofTexts ["red", "green"])]),
    ("First", alternatives), ("Second", alternatives)])]
where
  alternatives : Value := .ofFields [("anyOf", .list [
    .ofFields [("$ref", .str "#/definitions/Colour")], .ofFields [("type", .str "integer")]])]

/-- What the stages make of twins. -/
def twins : Pipeline := (run? twinsDocument none "twins" {}).get (by decide +kernel)

/-- The alternatives of a union with their description. -/
def optionsOf? (p : Pipeline) (name : String) : Option (List (Predicate × Plan) × String) :=
  match p.contracts.get? name with
  | some (.union ⟨_, .firstMatch options description⟩) => some (options, description)
  | _ => none

theorem produces_of_optionsOf? {p : Pipeline} {name description : String}
    {options : List (Predicate × Plan)} (h : p.optionsOf? name = some (options, description)) :
    p.contracts.Produces (.firstMatch options description) := by
  unfold optionsOf? at h
  split at h
  · rename_i found
    cases h
    exact .use ⟨_, List.mem_of_find?_eq_some found, _, List.mem_cons_self, .refl⟩
  · cases h

/-- The plans of twins differ in their descriptions, and have one document. -/
theorem twins_differ_in_description : ∃ options others,
    twins.contracts.Produces (.firstMatch options "First") ∧
    twins.contracts.Produces (.firstMatch others "Second") ∧
    (Plan.firstMatch options "First").toDocument = (Plan.firstMatch others "Second").toDocument ∧
    (Plan.firstMatch options "First").undescribed =
      (Plan.firstMatch others "Second").undescribed := by
  -- One evaluation finds both plans and compares their documents.
  have checked : (twins.optionsOf? "First").any (fun first =>
      (twins.optionsOf? "Second").any fun second =>
        first.2 == "First" && second.2 == "Second" &&
          (Plan.firstMatch first.1 "First").toDocument.identical
            (Plan.firstMatch second.1 "Second").toDocument) = true := by
    decide +kernel
  obtain ⟨⟨options, description⟩, first, checked⟩ := (Option.any_eq_true _ _).mp checked
  obtain ⟨⟨others, other⟩, second, checked⟩ := (Option.any_eq_true _ _).mp checked
  simp only [Bool.and_eq_true, beq_iff_eq] at checked
  obtain ⟨⟨rfl, rfl⟩, same⟩ := checked
  have left := produces_of_optionsOf? first
  have right := produces_of_optionsOf? second
  have same := Value.eq_of_identical same
  exact ⟨options, others, left, right, same, (toDocument_tells twins twins left right).1.mp same⟩

end Pipeline
end WireModel
