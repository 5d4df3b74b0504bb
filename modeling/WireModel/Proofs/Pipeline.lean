import WireModel.Plan.Contract
import WireModel.Proofs.Plan.Derivation
import WireModel.Proofs.Schema.Provenance
import WireModel.Proofs.Table.Provenance
import WireModel.Schema.Graph
import WireModel.Table.Build
import WireModel.Types.Resolution

/-!
# What the stages make

A `Pipeline` is a document with all that the stages make of it, each from what the one before
made: its schemas, their types, the table of models and the contracts. Documents are plain: they
hold no instance of a model and nothing unset.
-/

namespace WireModel

/-- A document, and the results of all stages on it. -/
structure Pipeline where
  document : Value
  plain : document.isPlain = true
  /-- The name that is asked for the root of the document. -/
  requested : Option String
  /-- What messages call the document. -/
  source : String
  options : Options
  graph : Schema.Graph
  loads : (Schema.Graph.ofDocument document requested source).outcome.1 = .ok graph
  definitions : List (String × Types.Definition)
  resolves : (Types.resolve graph).outcome.1 = .ok definitions
  table : Table
  builds : Table.build options definitions = .ok table
  contracts : Contracts
  derives : (Contract.derive table).outcome.1 = .ok contracts

namespace Pipeline

/-- The results of all stages on a document, if all of them succeed. -/
def run? (document : Value) (requested : Option String) (source : String) (options : Options) :
    Option Pipeline :=
  if plain : document.isPlain = true then
    match loads : (Schema.Graph.ofDocument document requested source).outcome.1 with
    | .error _ => none
    | .ok graph =>
      match resolves : (Types.resolve graph).outcome.1 with
      | .error _ => none
      | .ok definitions =>
        match builds : Table.build options definitions with
        | .error _ => none
        | .ok table =>
          match derives : (Contract.derive table).outcome.1 with
          | .error _ => none
          | .ok contracts =>
            some ⟨document, plain, requested, source, options, graph, loads, definitions, resolves,
              table, builds, contracts, derives⟩
  else none

theorem run?_eq_some {document : Value} {requested : Option String} {source : String}
    {options : Options} {p : Pipeline} (h : run? document requested source options = some p) :
    p.document = document ∧ p.requested = requested ∧ p.source = source ∧ p.options = options := by
  unfold run? at h
  split at h
  · split at h
    · cases h
    · split at h
      · cases h
      · split at h
        · cases h
        · split at h
          · cases h
          · cases h
            exact ⟨rfl, rfl, rfl, rfl⟩
  · cases h

theorem wellFormed (p : Pipeline) : p.table.WellFormed := Table.build_wellFormed p.builds

theorem implement (p : Pipeline) : p.contracts.Implement p.table :=
  Contract.derive_implement (Logged.gives_of_outcome p.derives)

theorem plainEnums (p : Pipeline) : p.table.PlainEnums := by
  have schemas := Schema.enumsPlain_of_ofDocument p.plain (Logged.gives_of_outcome p.loads)
  obtain ⟨entries, hoisted, resolution⟩ := Types.exists_resolution p.resolves
  obtain ⟨ignored, models, first, b⟩ := Table.exists_building p.builds
  exact @fun _ _ _ occurs => b.plainEnums resolution.stems schemas occurs

end Pipeline
end WireModel
