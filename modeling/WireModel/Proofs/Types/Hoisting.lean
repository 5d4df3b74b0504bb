import WireModel.Proofs.Schema.Parsing
import WireModel.Proofs.Types.Fixpoint

/-!
# Where models without a name stand

A schema that becomes a model under a new name stands inside of a named one. Its place is the name
and the way down: which of the schemas inside is taken, at each depth.

* **`Node.at?`**: the schema at a place inside of another one.
* **`exists_places_inside`**: the schemas that `madeInside` lists stand at places below the top, no
  two at the same one.
* **`Resolution.exists_places`**: every model that a resolution adds is that of a schema inside of a
  named one, and no two models are made at one place.
-/

namespace WireModel

namespace Schema

/-- The schema on a way down. -/
def Node.at? : Node → List Nat → Option Node
  | node, [] => some node
  | node, i :: way => (node.children[i]?).bind (·.at? way)

/-- The schema at a place: the name of a schema, and a way down from it. -/
def Graph.at? (graph : Graph) (place : String × List Nat) : Option Node :=
  (graph.get? place.1).bind (·.at? place.2)

end Schema

namespace Types

open Schema

/-! ## Ways down -/

/-- Schemas stand inside of another one, each on a way of its own. -/
def StandIn (node : Node) (made : List Node) : Prop :=
  ∃ ways : List (List Nat), ways.Nodup ∧ List.Forall₂ (fun way n => node.at? way = some n) ways made

/-- Schemas stand inside of some others, each on a way of its own: which of them, and down from
there. -/
def StandBelow (nodes made : List Node) : Prop :=
  ∃ ways : List (Nat × List Nat), ways.Nodup ∧
    List.Forall₂ (fun way n => (nodes[way.1]?).bind (·.at? way.2) = some n) ways made

theorem standIn_nil {node : Node} : StandIn node [] := ⟨[], .nil, .nil⟩

theorem standBelow_nil {nodes : List Node} : StandBelow nodes [] := ⟨[], .nil, .nil⟩

/-- The ways into the first of some schemas and those into the others are different ones. -/
theorem StandIn.cons {node : Node} {nodes made others : List Node} (first : StandIn node made)
    (rest : StandBelow nodes others) : StandBelow (node :: nodes) (made ++ others) := by
  obtain ⟨ways, distinct, stand⟩ := first
  obtain ⟨ways', distinct', stand'⟩ := rest
  refine ⟨ways.map (fun way => (0, way)) ++ ways'.map (fun way => (way.1 + 1, way.2)), ?_, ?_⟩
  · refine List.nodup_append.mpr ⟨distinct.map fun a b same => (Prod.mk.inj same).2,
      distinct'.map fun a b same => ?_, ?_⟩
    · obtain ⟨index, way⟩ := Prod.mk.inj same
      exact Prod.ext (Nat.succ.inj index) way
    · rintro a here b there rfl
      obtain ⟨way, -, rfl⟩ := List.mem_map.mp here
      obtain ⟨way', -, same⟩ := List.mem_map.mp there
      exact Nat.succ_ne_zero _ (Prod.mk.inj same).1
  · refine List.rel_append (List.forall₂_map_left_iff.mpr ?_) (List.forall₂_map_left_iff.mpr ?_)
    · exact stand.imp fun way n found => found
    · exact stand'.imp fun way n found => found

theorem StandIn.below {node : Node} {made : List Node} (h : StandIn node made) :
    StandBelow [node] made := by
  have first := h.cons (standBelow_nil : StandBelow [] [])
  rwa [List.append_nil] at first

theorem StandBelow.append {nodes made : List Node} (h : StandBelow nodes made)
    (more : List Node) : StandBelow (nodes ++ more) made := by
  obtain ⟨ways, distinct, stand⟩ := h
  refine ⟨ways, distinct, stand.imp fun way n found => ?_⟩
  obtain ⟨node, here, below⟩ := Option.bind_eq_some_iff.mp found
  rw [List.getElem?_append_left (List.getElem?_eq_some_iff.mp here).1, here]
  exact below

/-- Below the top means inside of what is right inside. -/
theorem StandBelow.exists_ways {node : Node} {made : List Node}
    (h : StandBelow node.children made) : ∃ ways : List (List Nat), ways.Nodup ∧
      (∀ way ∈ ways, way ≠ []) ∧
      List.Forall₂ (fun way n => node.at? way = some n) ways made := by
  obtain ⟨ways, distinct, stand⟩ := h
  refine ⟨ways.map fun way => way.1 :: way.2, distinct.map fun a b same => ?_, ?_, ?_⟩
  · obtain ⟨index, way⟩ := List.cons.inj same
    exact Prod.ext index way
  · intro way mem
    obtain ⟨_, -, rfl⟩ := List.mem_map.mp mem
    exact List.cons_ne_nil _ _
  · exact List.forall₂_map_left_iff.mpr (stand.imp fun way n found => found)

theorem StandBelow.standIn {node : Node} {made : List Node}
    (h : StandBelow node.children made) : StandIn node made := by
  obtain ⟨ways, distinct, -, stand⟩ := h.exists_ways
  exact ⟨ways, distinct, stand⟩

/-- The schema itself stands on the empty way, which leads below the top of nothing. -/
theorem StandBelow.standIn_self {node : Node} {made : List Node}
    (h : StandBelow node.children made) : StandIn node (made ++ [node]) := by
  obtain ⟨ways, distinct, below, stand⟩ := h.exists_ways
  refine ⟨ways ++ [[]], ?_, List.rel_append stand (.cons rfl .nil)⟩
  refine List.nodup_append.mpr ⟨distinct, List.nodup_singleton _, ?_⟩
  rintro way mem _ top rfl
  exact below way mem (List.mem_singleton.mp top)

/-! ## Schemas that become models -/

/-- An object that is no model has no properties, so the values of its keys come first. -/
theorem StandBelow.of_bare {notes : Notes} {properties : List Property} {required : List String}
    {additional : Additional} {discriminator : Option Discriminator} {made : List Node}
    (bare : (properties.isEmpty && discriminator.isNone) = true)
    (h : StandBelow additional.nodes made) :
    StandBelow (Node.object notes properties required additional discriminator).children made := by
  obtain ⟨none, -⟩ := Bool.and_eq_true_iff.mp bare
  obtain rfl := List.isEmpty_iff.mp none
  exact h

mutual

/-- By induction on the schema: what `madeIn` lists stands inside, each on a way of its own. -/
theorem standIn_madeIn : ∀ node, StandIn node (madeIn node)
  | .reference .. | .primitive .. | .enum .. | .array _ none => by
    rw [madeIn]
    exact standIn_nil
  | .array notes (some items) => by
    rw [madeIn]
    have below : StandBelow (Node.array notes (some items)).children (madeIn items) :=
      (standIn_madeIn items).below
    exact below.standIn
  | .object notes properties required additional discriminator => by
    rw [madeIn]
    split
    · rename_i bare
      exact StandBelow.standIn (.of_bare bare (standBelow_additional additional))
    · exact StandBelow.standIn_self ((standBelow_properties properties).append _)
  | .composite notes mode members discriminator => by
    obtain ⟨inner, pointer, target, rfl, rfl⟩ | ⟨rfl, proper⟩ | union :=
      composite_cases mode members
    · rw [madeIn]
      exact standIn_nil
    · rw [madeIn_merge proper]
      have below : StandBelow (Node.composite notes .allOf members discriminator).children _ :=
        standBelow_members members
      exact below.standIn_self
    · rw [madeIn_union union]
      have below : StandBelow (Node.composite notes mode members discriminator).children _ :=
        standBelow_variants members
      exact below.standIn

theorem standBelow_additional : ∀ additional : Additional,
    StandBelow additional.nodes (madeInOther additional)
  | .schema node => by
    rw [madeInOther]
    exact (standIn_madeIn node).below
  | .undeclared | .flag _ => by
    rw [madeInOther]
    · exact standBelow_nil
    · simp

theorem standBelow_properties : ∀ properties : List Property,
    StandBelow (properties.map PropertyOf.node) (madeInProperties properties)
  | [] => by
    rw [madeInProperties]
    exact standBelow_nil
  | ⟨_, node, _⟩ :: rest => by
    rw [madeInProperties]
    exact (standIn_madeIn node).cons (standBelow_properties rest)

theorem standBelow_variants : ∀ members : List Node, StandBelow members (madeInVariants members)
  | [] => by
    rw [madeInVariants]
    exact standBelow_nil
  | node :: rest => by
    rw [madeInVariants]
    exact (standIn_madeIn node).cons (standBelow_variants rest)

theorem standBelow_members : ∀ members : List Node, StandBelow members (madeInMembers members)
  | [] => by
    rw [madeInMembers]
    exact standBelow_nil
  | .object notes properties required additional discriminator :: rest => by
    rw [madeInMembers]
    exact StandIn.cons (StandBelow.standIn ((standBelow_properties properties).append _))
      (standBelow_members rest)
  | .composite notes .allOf members discriminator :: rest => by
    rw [madeInMembers]
    have inner : StandBelow (Node.composite notes .allOf members discriminator).children
        (madeInMembers members) := standBelow_members members
    exact inner.standIn.cons (standBelow_members rest)
  | .composite _ .oneOf _ _ :: rest | .composite _ .anyOf _ _ :: rest | .primitive .. :: rest
  | .array .. :: rest | .enum .. :: rest | .reference .. :: rest => by
    rw [madeInMembers]
    · exact standIn_nil.cons (standBelow_members rest)
    all_goals simp

end

/-- What `madeInside` lists stands below the top of the named schema. -/
theorem standBelow_madeInside : ∀ node : Node, StandBelow node.children (madeInside node)
  | .reference .. | .primitive .. | .enum .. | .array _ none => by
    rw [madeInside, madeIn]
    · exact standBelow_nil
    all_goals simp
  | .array notes (some items) => by
    rw [madeInside, madeIn]
    · exact (standIn_madeIn items).below
    all_goals simp
  | .object notes properties required additional discriminator => by
    rw [madeInside]
    split
    · exact (standBelow_properties properties).append _
    · rename_i other
      have bare : (properties.isEmpty && discriminator.isNone) = true := by
        simp only [isModel, Bool.or_eq_true, not_or] at other
        simpa using other.1
      rw [madeIn, if_pos bare]
      exact .of_bare bare (standBelow_additional additional)
  | .composite notes mode members discriminator => by
    by_cases merged : mode = .allOf
    · subst merged
      exact standBelow_members members
    · rw [madeInside_union merged, madeIn_union merged]
      exact standBelow_variants members

theorem exists_places_inside (node : Node) : ∃ ways : List (List Nat), ways.Nodup ∧
    (∀ way ∈ ways, way ≠ []) ∧
    List.Forall₂ (fun way n => node.at? way = some n) ways (madeInside node) :=
  (standBelow_madeInside node).exists_ways

/-! ## Resolutions -/

/-- Places inside of several names are different if they are for each name. -/
theorem exists_places_of_entries {Q : ObjectType → String × List Nat → Prop} :
    ∀ {entries : List Entry}, (entries.map Entry.name).Nodup →
      (∀ e ∈ entries, ∃ places : List (String × List Nat), places.Nodup ∧
        (∀ place ∈ places, place.1 = e.name) ∧ List.Forall₂ Q e.own places) →
      ∃ places : List (String × List Nat), places.Nodup ∧
        (∀ place ∈ places, place.1 ∈ entries.map Entry.name) ∧
        List.Forall₂ Q (entries.flatMap Entry.own) places
  | [], _, _ => ⟨[], .nil, nofun, .nil⟩
  | e :: entries, distinct, each => by
    obtain ⟨fresh, distinct⟩ := List.nodup_cons.mp distinct
    obtain ⟨here, later⟩ := List.forall_mem_cons.mp each
    obtain ⟨places, nodup, named, all⟩ := here
    obtain ⟨others, nodup', named', all'⟩ := exists_places_of_entries distinct later
    refine ⟨places ++ others, List.nodup_append.mpr ⟨nodup, nodup', ?_⟩, ?_,
      List.rel_append all all'⟩
    · rintro place mem _ mem' rfl
      exact fresh (named place mem ▸ named' place mem')
    · refine List.forall_mem_append.mpr ⟨fun place mem => ?_, fun place mem => ?_⟩
      · rw [named place mem]
        exact List.mem_cons_self
      · exact List.mem_cons_of_mem _ (named' place mem)

/-- Every model that a resolution adds is that of a schema inside of a named one, and no two models
are made at the same place. -/
theorem Resolution.exists_places {graph : Graph} {definitions : List (String × Definition)}
    {entries : List Entry} {hoisted : List ObjectType}
    (r : Resolution graph definitions entries hoisted)
    (distinct : (graph.definitions.map Prod.fst).Nodup) :
    ∃ places : List (String × List Nat), places.Nodup ∧
      List.Forall₂ (fun o place => place.2 ≠ [] ∧ ∃ node, graph.at? place = some node ∧
        Models graph definitions node o) hoisted places := by
  have each : ∀ e ∈ entries, ∃ places : List (String × List Nat), places.Nodup ∧
      (∀ place ∈ places, place.1 = e.name) ∧
      List.Forall₂ (fun o place => place.2 ≠ [] ∧ ∃ node, graph.at? place = some node ∧
        Models graph definitions node o) e.own places := by
    intro e mem
    obtain ⟨node, found, -, made⟩ := r.defines distinct mem
    obtain ⟨ways, nodup, below, stand⟩ := exists_places_inside node
    refine ⟨ways.map fun way => (e.name, way),
      nodup.map fun a b same => (Prod.mk.inj same).2, fun place there => ?_, ?_⟩
    · obtain ⟨_, -, rfl⟩ := List.mem_map.mp there
      rfl
    · refine (List.forall₂_map_left_iff.mpr ?_).flip
      refine forall₂_imp_of_mem (forall₂_comp stand made) fun way there o ⟨n, at_, models⟩ => ?_
      refine ⟨below way there, n, ?_, models⟩
      show (graph.get? e.name).bind _ = _
      rw [found]
      exact at_
  obtain ⟨places, nodup, -, all⟩ := exists_places_of_entries r.derived.names_nodup each
  obtain ⟨ordered, all', perm⟩ := List.perm_comp_forall₂ r.made all
  exact ⟨ordered, perm.nodup_iff.mpr nodup, all'⟩

end Types
end WireModel
