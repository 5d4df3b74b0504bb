import WireModel.Proofs.Types.Needs

/-!
# Schemas that lead back to themselves

A resolution that calls a reference or an `allOf` circular has met a cycle of needs: the schemas
that are being resolved need each other one after another, so another need of one of them closes
a cycle. `Blames` says of a computation that all that it calls circular is so.

A cycle of needs may pass through a property: that of an object inside of a list that refers to the
list, say. So not all that is called circular consists of aliases only, or of members of `allOf`s
only.
-/

namespace WireModel.Types

open Schema

/-! ## Faults -/

/-- The schema that a fault calls circular, and whether as a member of an `allOf`. -/
def Fault.circle? : Fault → Option (Bool × String)
  | .circularReference target _ => some (false, target)
  | .circularAllOf target _ => some (true, target)
  | _ => none

/-- Whatever a computation calls circular is so. -/
abbrev Blames {α : Type} (computation : Resolve α) (C : Bool → String → Prop) : Prop :=
  FailsOnly computation fun fault =>
    ∀ member target, fault.circle? = some (member, target) → C member target

namespace Blames

variable {C : Bool → String → Prop}

theorem newName {base : String} : Blames (Types.newName base) C := by
  intro s fault s' fails
  cases fails

theorem addHoisted {o : ObjectType} : Blames (Types.addHoisted o) C := by
  intro s fault s' fails
  cases fails

theorem warnAdditional {path : String} {properties : List Property} {additional : Additional} :
    Blames (Types.warnAdditional path properties additional) C := by
  unfold Types.warnAdditional
  split
  · split
    · exact .pure
    · intro s fault s' fails
      cases fails
  · exact .pure

theorem unionOf {notes : Notes} {mode : Combination} {discriminator : Option Discriminator}
    {name : Option String} {variants : List WireType} :
    Blames (Types.unionOf notes mode discriminator name variants) C := by
  unfold Types.unionOf
  split
  · exact .throw nofun
  · exact .pure
  · split
    · exact .pure
    · refine FailsOnly.bind ?_ fun d => .pure
      refine FailsOnly.bind (.mapM fun t _ => ?_) fun names => .pure
      split
      · exact .pure
      · exact .throw nofun

end Blames

/-- A link that leads, if it is followed, to a schema that is being resolved and on a cycle, or to
one whose meaning calls only cycles circular. -/
def Answered (scope : Scope) (C : Bool → String → Prop) (link : Link) : Prop :=
  Followed scope.graph link → scope.graph.contains link.2 = true →
    (link.2 ∈ scope.active → C link.1.isMember link.2) ∧
      (link.2 ∉ scope.active → Blames (scope.meaning link.2) C)

variable {scope : Scope} {C : Bool → String → Prop}

theorem reference_blames {guarded nullable : Bool} {pointer target location : String}
    (h : ∀ link ∈ [(Way.plain guarded, target)], Answered scope C link) :
    Blames (reference scope nullable pointer target location) C := by
  have h := List.forall_mem_singleton.mp h
  unfold reference
  split
  · exact .throw nofun
  · rename_i node found
    split
    · exact .pure
    · rename_i other
      have unnamed : isModel node = false := by simpa using other
      have there : scope.graph.contains target = true := contains_of_get? found
      obtain ⟨met, fresh⟩ := h (.inr ⟨node, found, unnamed⟩) there
      split
      · rename_i active
        refine .throw fun member name circle => ?_
        obtain ⟨rfl, rfl⟩ : false = member ∧ target = name := by simpa [Fault.circle?] using circle
        simpa using met (by simpa using active)
      · rename_i inactive
        refine (fresh (by simpa using inactive)).bind fun d => ?_
        split
        · exact .pure
        · exact .pure

theorem parent_blames {way : Way} {pointer target location : String} (member : way.isMember = true)
    (h : Answered scope C (way, target)) : Blames (parent scope pointer target location) C := by
  unfold parent
  split
  · exact .throw nofun
  · rename_i there
    obtain ⟨met, fresh⟩ := h (.inl member) (by simpa using there)
    split
    · rename_i active
      refine .throw fun flag name circle => ?_
      obtain ⟨rfl, rfl⟩ : true = flag ∧ target = name := by simpa [Fault.circle?] using circle
      rw [← member]
      exact met (by simpa using active)
    · rename_i inactive
      refine (fresh (by simpa using inactive)).bind fun d => ?_
      split
      · exact .pure
      · exact .throw nofun

mutual

theorem typeOf_blames (guarded : Bool) : ∀ node owner hint,
    (∀ link ∈ linksIn guarded node, Answered scope C link) → Blames (typeOf scope owner hint node) C
  | .reference .., owner, hint, h => by
    rw [typeOf]
    rw [linksIn] at h
    exact reference_blames h
  | .primitive .., owner, hint, h => by
    rw [typeOf]
    exact .pure
  | .enum .., owner, hint, h => by
    rw [typeOf]
    split
    · exact .throw nofun
    · exact .pure
  | .array _ none, owner, hint, h => by
    rw [typeOf]
    exact .pure
  | .array _ (some items), owner, hint, h => by
    rw [typeOf]
    rw [linksIn] at h
    exact (typeOf_blames guarded items owner _ h).bind fun element => .pure
  | .object notes properties required additional discriminator, owner, hint, h => by
    rw [typeOf]
    rw [linksIn] at h
    split
    · rename_i bare
      rw [if_pos bare] at h
      exact (otherType_blames guarded additional owner hint h).bind fun value => .pure
    · rename_i proper
      rw [if_neg proper] at h
      refine Blames.newName.bind fun name => ?_
      refine (fieldsOf_blames properties name h).bind fun fields => ?_
      exact Blames.warnAdditional.bind fun _ => Blames.addHoisted.bind fun _ => .pure
  | .composite notes mode members discriminator, owner, hint, h => by
    obtain ⟨inner, pointer, target, rfl, rfl⟩ | ⟨rfl, proper⟩ | union :=
      composite_cases mode members
    · rw [typeOf]
      rw [linksIn] at h
      exact (reference_blames h).bind fun t => .pure
    · rw [linksIn_merge proper] at h
      rw [typeOf_merge proper]
      refine Blames.newName.bind fun name => ?_
      have straight := Way.isMember_member guarded
      refine (mergeOf_blames straight members name _ h).bind fun merge => ?_
      exact Blames.addHoisted.bind fun _ => .pure
    · rw [linksIn_union union] at h
      rw [typeOf_union union]
      refine (variantsOf_blames guarded members owner hint 1 h).bind fun result => ?_
      exact Blames.unionOf.bind fun t => .pure

theorem otherType_blames (guarded : Bool) : ∀ additional owner hint,
    (∀ link ∈ linksInOther guarded additional, Answered scope C link) →
      Blames (otherType scope owner hint additional) C
  | .schema node, owner, hint, h => by
    rw [linksInOther] at h
    rw [otherType]
    exact typeOf_blames guarded node owner _ h
  | .undeclared, owner, hint, h | .flag _, owner, hint, h => by
    rw [otherType]
    · exact .pure
    · nofun

theorem fieldsOf_blames : ∀ properties owner,
    (∀ link ∈ linksInProperties properties, Answered scope C link) →
      Blames (fieldsOf scope owner properties) C
  | [], owner, h => by
    rw [fieldsOf]
    exact .pure
  | ⟨name, node, required⟩ :: rest, owner, h => by
    rw [linksInProperties, List.forall_mem_append] at h
    rw [fieldsOf]
    refine (typeOf_blames true node owner _ h.1).bind fun t => ?_
    exact (fieldsOf_blames rest owner h.2).bind fun fields => .pure

theorem variantsOf_blames (guarded : Bool) : ∀ members owner hint index,
    (∀ link ∈ linksInVariants guarded members, Answered scope C link) →
      Blames (variantsOf scope owner hint index members) C
  | [], owner, hint, index, h => by
    rw [variantsOf]
    exact .pure
  | node :: rest, owner, hint, index, h => by
    rw [linksInVariants, List.forall_mem_append] at h
    rw [variantsOf]
    split
    · exact (variantsOf_blames guarded rest owner hint (index + 1) h.2).bind fun result => .pure
    · refine (typeOf_blames guarded node owner _ h.1).bind fun t => ?_
      exact (variantsOf_blames guarded rest owner hint (index + 1) h.2).bind fun result => .pure

theorem mergeOf_blames {way : Way} (member : way.isMember = true) : ∀ members name merge,
    (∀ link ∈ linksInMembers way members, Answered scope C link) →
      Blames (mergeOf scope name merge members) C
  | [], name, merge, h => by
    rw [mergeOf]
    exact .pure
  | .reference .. :: rest, name, merge, h => by
    rw [linksInMembers, List.forall_mem_cons] at h
    rw [mergeOf]
    exact (parent_blames member h.1).bind fun o => mergeOf_blames member rest name _ h.2
  | .object _ properties _ _ _ :: rest, name, merge, h => by
    rw [linksInMembers, List.forall_mem_append] at h
    rw [mergeOf]
    exact (fieldsOf_blames properties name h.1).bind fun fields =>
      mergeOf_blames member rest name _ h.2
  | .composite _ .allOf members _ :: rest, name, merge, h => by
    rw [linksInMembers, List.forall_mem_append] at h
    rw [mergeOf]
    exact (mergeOf_blames member members name _ h.1).bind fun inner =>
      mergeOf_blames member rest name _ h.2
  | .composite _ .oneOf _ _ :: rest, name, merge, h
  | .composite _ .anyOf _ _ :: rest, name, merge, h | .primitive .. :: rest, name, merge, h
  | .enum .. :: rest, name, merge, h | .array .. :: rest, name, merge, h => by
    rw [mergeOf]
    · exact .throw nofun
    all_goals nofun

end

theorem definitionOf_blames {name : String} {node : Node}
    (h : ∀ link ∈ linksInside node, Answered scope C link) :
    Blames (definitionOf scope name node) C := by
  unfold definitionOf
  split
  · rename_i model
    split
    · rw [linksInside, if_pos model] at h
      refine (fieldsOf_blames _ name h).bind fun fields => ?_
      exact Blames.warnAdditional.bind fun _ => .pure
    · rw [linksInside] at h
      exact (mergeOf_blames rfl _ name _ h).bind fun merge => .pure
    · rename_i union
      rw [linksInside_union union] at h
      refine (variantsOf_blames false _ name "" 1 h).bind fun result => ?_
      exact Blames.unionOf.bind fun t => .pure
    · rename_i object merge union
      cases node with
      | object => exact absurd rfl (object _ _ _ _ _)
      | composite => exact absurd rfl (union _ _ _ _)
      | _ => cases model
  · rename_i other
    rw [linksInside_other (by simpa using other)] at h
    split
    · split
      · exact .throw (by rintro _ _ ⟨⟩)
      · exact .pure
    · exact (typeOf_blames false _ name "" h).bind fun t => .pure

/-- What is called circular leads back to itself; the last way leads to a member of an `allOf`, or
to none. -/
def Closes (graph : Graph) (member : Bool) (target : String) : Prop :=
  ∃ ways way, Cycle graph target (ways ++ [way]) ∧ way.isMember = member

/-- **Only cycles are called circular.** By induction on the depth: every schema that is being
resolved leads to the next one, so a need of one of them closes a cycle. They are different ones,
so the depth is enough. -/
theorem definition_blames (graph : Graph) (depth : Nat) : ∀ active name,
    (name :: active).Nodup → (∀ n ∈ name :: active, graph.contains n = true) →
    graph.definitions.length ≤ depth + active.length →
    (∀ n ∈ active, ∃ ways, Leads graph n ways name) →
      Blames (definition graph depth active name) (Closes graph) := by
  induction depth with
  | zero =>
    intro active name distinct declared enough _
    have sub : name :: active ⊆ graph.definitions.map Prod.fst :=
      fun n mem => contains_iff.mp (declared n mem)
    have := (List.subperm_of_subset distinct sub).length_le
    simp only [List.length_cons, List.length_map] at this
    omega
  | succ depth ih =>
    intro active name distinct declared enough leads s fault s' fails
    rw [definition] at fails
    rcases fails_bind_iff.mp fails with first | ⟨_, _, -, fails⟩
    · cases first
    split at fails
    · exact absurd fails not_fails_pure
    · obtain ⟨rfl, -⟩ := fails_throw_iff.mp fails
      rintro _ _ ⟨⟩
    · rename_i node _ found
      have all : ∀ n ∈ name :: active, ∃ ways, Leads graph n ways name :=
        List.forall_mem_cons.mpr ⟨⟨[], .stay⟩, leads⟩
      rcases fails_bind_iff.mp fails with here | ⟨_, _, -, fails⟩
      · refine definitionOf_blames (fun link mem followed there => ?_) _ fault s' here
        have need : Needs graph name link.1 link.2 := ⟨node, found, mem, followed⟩
        refine ⟨fun met => ?_, fun fresh => ?_⟩
        · obtain ⟨ways, lead⟩ := all _ met
          exact ⟨ways, link.1, ⟨by simp, lead.then need⟩, rfl⟩
        · refine ih (name :: active) link.2 (List.nodup_cons.mpr ⟨fresh, distinct⟩)
            (List.forall_mem_cons.mpr ⟨there, declared⟩) ?_ fun n mem => ?_
          · rw [List.length_cons]
            omega
          · obtain ⟨ways, lead⟩ := all n mem
            exact ⟨_, lead.then need⟩
      · cases fails

/-- What a resolution calls circular leads back to itself. -/
theorem cycle_of_resolve {graph : Graph} {fault : Fault} {member : Bool} {target : String}
    (h : (resolve graph).outcome.1 = .error fault)
    (circle : fault.circle? = some (member, target)) :
    Closes graph member target := by
  let start : Progress := { taken := graph.definitions.map (·.1), warnings := [] }
  have fails : Fails (resolveAll graph) start fault ((resolveAll graph) start).2 :=
    Prod.ext h rfl
  rcases fails_bind_iff.mp fails with first | ⟨_, _, -, rest⟩
  · suffices blames : Blames _ (Closes graph) from blames _ _ _ first member target circle
    refine .mapM fun declared mem => .bind ?_ fun d => .pure
    refine definition_blames graph _ [] declared.1 (List.nodup_singleton _) ?_ (by simp) nofun
    exact List.forall_mem_singleton.mpr (contains_iff.mpr (List.mem_map_of_mem mem))
  · cases rest

/-- A resolution succeeds only without cycles, and calls only cycles circular. So there is a cycle
of aliases or one of `allOf`s then, unless all cycles go through a property, or through an `allOf`
inside of some schema. -/
theorem circular_of_resolve (graph : Graph) :
    (∀ definitions, (resolve graph).outcome.1 = .ok definitions →
      ∀ name ways, ¬Cycle graph name ways) ∧
    ∀ fault member target, (resolve graph).outcome.1 = .error fault →
      fault.circle? = some (member, target) →
        Closes graph member target ∧
        ((∃ name ways, Cycle graph name ways ∧ ∀ way ∈ ways, way = .straight) ∨
          (∃ name ways, Cycle graph name ways ∧ ∀ way ∈ ways, way = .merge) ∨
          ∀ name ways, Cycle graph name ways →
            ∃ way ∈ ways, way = .inner ∨ ∃ member, way = .property member) := by
  refine ⟨fun definitions h => not_cycle_of_resolve h, fun fault member target h circle =>
    ⟨cycle_of_resolve h circle, ?_⟩⟩
  by_cases straight : ∃ name ways, Cycle graph name ways ∧ ∀ way ∈ ways, way = .straight
  · exact .inl straight
  by_cases merge : ∃ name ways, Cycle graph name ways ∧ ∀ way ∈ ways, way = .merge
  · exact .inr (.inl merge)
  refine .inr (.inr fun name ways cycle => ?_)
  rcases cycle.kinds with all | all | other
  · exact absurd ⟨name, ways, cycle, all⟩ straight
  · exact absurd ⟨name, ways, cycle, all⟩ merge
  · exact other

/-! ## A chain of links -/

/-- A list of objects, each with the rest of the list. -/
def chainNode : Node :=
  .array (.at "#/definitions/Chain")
    (some (.object (.at "#/definitions/Chain/items")
      [⟨"rest", .reference (.at "#/definitions/Chain/items/properties/rest") "#/definitions/Chain"
        "Chain", false⟩] [] .undeclared none))

def chainGraph : Graph := ⟨"", "#/definitions", "chains", [("Chain", chainNode)]⟩

theorem eq_property_of_needs {name target : String} {way : Way}
    (h : Needs chainGraph name way target) : way = .property false := by
  obtain ⟨node, found, mem, -⟩ := h
  have there : (name, node) ∈ chainGraph.definitions :=
    (lookup_eq_some_iff_mem (by decide)).mp found
  obtain ⟨-, rfl⟩ := Prod.mk.inj (List.mem_singleton.mp there)
  have links : linksInside chainNode = [(.property false, "Chain")] := by decide +kernel
  rw [links, List.mem_singleton] at mem
  exact (Prod.mk.inj mem).1

theorem eq_property_of_leads {name target : String} {ways : List Way}
    (h : Leads chainGraph name ways target) : ∀ way ∈ ways, way = .property false := by
  induction h with
  | stay => nofun
  | step need _ ih => exact List.forall_mem_cons.mpr ⟨eq_property_of_needs need, ih⟩

/-- A chain is called circular, though every cycle goes through the property of an object. -/
theorem chain_is_circular :
    (resolve chainGraph).outcome.1 = .error
      (.circularReference "Chain" "#/definitions/Chain/items/properties/rest") ∧
    Cycle chainGraph "Chain" [.property false] ∧
    ¬∃ name ways, Cycle chainGraph name ways ∧
      ((∀ way ∈ ways, way = .straight) ∨ ∀ way ∈ ways, way = .merge) := by
  have need : Needs chainGraph "Chain" (.property false) "Chain" :=
    ⟨chainNode, rfl, by decide +kernel, .inr ⟨chainNode, rfl, rfl⟩⟩
  refine ⟨rfl, ⟨nofun, .step need .stay⟩, ?_⟩
  rintro ⟨name, ways, ⟨some, leads⟩, pure⟩
  obtain ⟨way, rest, rfl⟩ := List.exists_cons_of_ne_nil some
  obtain rfl := eq_property_of_leads leads way List.mem_cons_self
  rcases pure with all | all
  · cases all _ List.mem_cons_self
  · cases all _ List.mem_cons_self

end WireModel.Types
