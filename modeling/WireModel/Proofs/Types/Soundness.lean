import WireModel.Proofs.Lists
import WireModel.Proofs.Types.Step

/-!
# What a resolution finds is derived

By induction on the schema, with one case for each form: the result of a successful computation
is related to the schema by `TypeOf`, `FieldsOf`, `VariantsOf` or `MergeOf`. The meaning of a name
is found in the same way by induction on the depth, as no name that is being resolved is asked for
again.
-/

namespace WireModel.Types

open Schema

/-- Whoever asks for the meaning of a name that is not being resolved gets what is known of it
from then on. -/
def SoundMeaning (graph : Graph) (active : List String) (meaning : String → Resolve Definition) :
    Prop :=
  ∀ name, name ∉ active → Sound graph active [] (meaning name) fun known d own =>
    own = [] ∧ known name = some d

variable {scope : Scope}

/-! ## References and unions -/

theorem reference_sound (meaning : SoundMeaning scope.graph scope.active scope.meaning)
    (nullable : Bool) (pointer target location : String) :
    Sound scope.graph scope.active [] (reference scope nullable pointer target location)
      fun known t own => own = [] ∧ Refers scope.graph known nullable target t := by
  unfold reference
  split
  · exact .throw
  · rename_i node found
    split
    · rename_i model
      exact .pure fun known => ⟨rfl, .model found model⟩
    · rename_i other
      have unnamed : isModel node = false := by simpa using other
      split
      · exact .throw
      · rename_i inactive
        refine (meaning target (by simpa using inactive)).bind fun d => ?_
        cases d with
        | type t =>
          refine .pure fun known own p => ?_
          exact ⟨by rw [p.1]; rfl, .named found unnamed p.2⟩
        | object o =>
          refine .pure fun known own p => ?_
          exact ⟨by rw [p.1]; rfl, .object found unnamed p.2⟩

theorem parent_sound (meaning : SoundMeaning scope.graph scope.active scope.meaning)
    (pointer target location : String) :
    Sound scope.graph scope.active [] (parent scope pointer target location)
      fun known o own => own = [] ∧ scope.graph.contains target = true ∧
        known target = some (.object o) := by
  unfold parent
  split
  · exact .throw
  · rename_i there
    split
    · exact .throw
    · rename_i inactive
      refine (meaning target (by simpa using inactive)).bind fun d => ?_
      cases d with
      | type t => exact .throw
      | object o =>
        refine .pure fun known own p => ?_
        exact ⟨by rw [p.1]; rfl, by simpa using there, p.2⟩

/-- The variants of a discriminated union are models. -/
theorem variants_of_names {location : String} :
    ∀ {variants : List WireType} {s s' : Progress} {names : List String},
      Runs (variants.mapM fun
        | .model name => (pure name : Resolve String)
        | _ => throw (.variantNotModel location)) s names s' →
      variants = names.map .model ∧ s = s'
  | [], s, s', names, run => by
    rw [List.mapM_nil, runs_pure_iff] at run
    rw [← run.1]
    exact ⟨rfl, run.2⟩
  | t :: variants, s, s', names, run => by
    simp only [List.mapM_cons, runs_bind_iff, runs_pure_iff] at run
    obtain ⟨name, s₁, first, rest, s₂, tail, rfl, rfl⟩ := run
    obtain ⟨rfl, rfl⟩ := variants_of_names tail
    cases t with
    | model =>
      obtain ⟨rfl, rfl⟩ := runs_pure_iff.mp first
      exact ⟨rfl, rfl⟩
    | _ => exact absurd first not_runs_throw

theorem unionOf_sound {graph : Graph} {active : List String} (notes : Notes) (mode : Combination)
    (discriminator : Option Discriminator) (name : Option String) (variants : List WireType) :
    Sound graph active [] (unionOf notes mode discriminator name variants)
      fun _ t own => own = [] ∧ UnionOf mode name discriminator variants t := by
  unfold unionOf
  split
  · exact .throw
  · exact .pure fun known => ⟨rfl, .single⟩
  · rename_i empty several
    have many : 1 < variants.length := by
      match variants with
      | [] => exact absurd rfl empty
      | [t] => exact absurd rfl (several t)
      | _ :: _ :: rest => simp
    split
    · exact .pure fun known => ⟨rfl, .untagged many⟩
    · rename_i declared
      intro s t s' run
      simp only [unionDiscriminator, runs_bind_iff, runs_pure_iff] at run
      obtain ⟨_, _, ⟨names, _, found, rfl, rfl⟩, rfl, rfl⟩ := run
      obtain ⟨rfl, rfl⟩ := variants_of_names found
      exact ⟨[], [], .idle rfl rfl rfl, fun known _ => ⟨rfl, .tagged (by simpa using many)⟩⟩

/-- Nothing comes of a warning. -/
theorem warnAdditional_sound {graph : Graph} {active pending : List String} {β : Type}
    {Q : Known → β → List ObjectType → Prop} {path : String} {properties : List Property}
    {additional : Additional} {next : Resolve β} (h : Sound graph active pending next Q) :
    Sound graph active pending (warnAdditional path properties additional >>= fun _ => next) Q := by
  unfold warnAdditional
  split
  · split
    · simpa using h
    · exact h.warn
  · simpa using h

/-! ## Schemas -/

mutual

theorem typeOf_sound (meaning : SoundMeaning scope.graph scope.active scope.meaning)
    (owner hint : String) :
    ∀ node, Sound scope.graph scope.active [] (typeOf scope owner hint node)
      fun known t own => TypeOf scope.graph known node t own
  | .reference notes pointer target => by
    rw [typeOf]
    refine (reference_sound meaning _ _ _ _).imp fun known t own h => ?_
    obtain ⟨rfl, refers⟩ := h
    exact .reference refers
  | .primitive notes kind format => by
    rw [typeOf]
    exact .pure fun known => .primitive
  | .enum notes values kind => by
    rw [typeOf]
    split
    · exact .throw
    · rename_i some
      exact .pure fun known => .enum (by simpa using some)
  | .array notes none => by
    rw [typeOf]
    exact .pure fun known => .list
  | .array notes (some items) => by
    rw [typeOf]
    exact (typeOf_sound meaning owner _ items).map fun known element own h => .array h
  | .object notes properties required additional discriminator => by
    rw [typeOf]
    split
    · rename_i bare
      simp only [Bool.and_eq_true, List.isEmpty_iff, Option.isNone_iff_eq_none] at bare
      obtain ⟨rfl, rfl⟩ := bare
      cases additional with
      | schema node =>
        rw [otherType]
        exact (typeOf_sound meaning owner _ node).map fun known value own h => .mapping h
      | undeclared =>
        rw [otherType]
        · exact .pure fun known => .dictionary nofun
        · nofun
      | flag allowed =>
        rw [otherType]
        · exact .pure fun known => .dictionary nofun
        · nofun
    · rename_i proper
      have proper : properties ≠ [] ∨ discriminator ≠ none := by
        simpa [-not_and, Classical.not_and_iff_not_or_not] using proper
      refine .newName fun name => (fieldsOf_sound meaning name properties).bind fun fields => ?_
      refine warnAdditional_sound (.addHoisted (.pure fun known own h => ?_))
      exact .object proper h
  | .composite notes mode members discriminator => by
    obtain ⟨inner, pointer, target, rfl, rfl⟩ | ⟨rfl, proper⟩ | union :=
      composite_cases mode members
    · rw [typeOf]
      refine (reference_sound meaning _ _ _ _).map fun known t own h => ?_
      obtain ⟨rfl, refers⟩ := h
      exact .wrapper refers
    · rw [typeOf_merge proper]
      refine .newName fun name => (mergeOf_sound meaning name _ members).bind fun result => ?_
      refine .addHoisted (.pure fun known own h => ?_)
      exact .merge proper h
    · rw [typeOf_union union]
      refine (variantsOf_sound meaning owner hint 1 members).bind fun result => ?_
      refine (unionOf_sound _ _ _ _ _).bind fun t => .pure fun known own h others h' => ?_
      obtain ⟨rfl, joined⟩ := h
      rw [List.nil_append, List.append_nil]
      exact .union union h' joined

theorem fieldsOf_sound (meaning : SoundMeaning scope.graph scope.active scope.meaning)
    (owner : String) :
    ∀ properties, Sound scope.graph scope.active [] (fieldsOf scope owner properties)
      fun known fields own => FieldsOf scope.graph known properties fields own
  | [] => by
    rw [fieldsOf]
    exact .pure fun known => .nil
  | ⟨name, node, required⟩ :: rest => by
    rw [fieldsOf]
    refine (typeOf_sound meaning owner _ node).bind fun t => ?_
    refine (fieldsOf_sound meaning owner rest).map fun known fields others h own h' => ?_
    exact .cons h' h

theorem variantsOf_sound (meaning : SoundMeaning scope.graph scope.active scope.meaning)
    (owner hint : String) (index : Nat) :
    ∀ members, Sound scope.graph scope.active [] (variantsOf scope owner hint index members)
      fun known result own => VariantsOf scope.graph known members result.1 result.2 own
  | [] => by
    rw [variantsOf]
    exact .pure fun known => .nil
  | node :: rest => by
    rw [variantsOf]
    split
    · rename_i null
      exact (variantsOf_sound meaning owner hint (index + 1) rest).map
        fun known result own h => .null null h
    · rename_i some
      refine (typeOf_sound meaning owner _ node).bind fun t => ?_
      refine (variantsOf_sound meaning owner hint (index + 1) rest).map
        fun known result others h own h' => ?_
      exact .cons (by simpa using some) h' h

theorem mergeOf_sound (meaning : SoundMeaning scope.graph scope.active scope.meaning)
    (name : String) (merge : Merge) :
    ∀ members, Sound scope.graph scope.active [] (mergeOf scope name merge members)
      fun known result own => MergeOf scope.graph known merge members result own
  | [] => by
    rw [mergeOf]
    exact .pure fun known => .nil
  | .reference notes pointer target :: rest => by
    rw [mergeOf]
    refine (parent_sound meaning _ _ _).bind fun o => ?_
    refine (mergeOf_sound meaning name _ rest).imp fun known result others h own found => ?_
    obtain ⟨rfl, there, found⟩ := found
    exact .reference there found h
  | .object notes properties required additional discriminator :: rest => by
    rw [mergeOf]
    refine (fieldsOf_sound meaning name properties).bind fun fields => ?_
    exact (mergeOf_sound meaning name _ rest).imp fun known result others h own h' => .object h' h
  | .composite notes .allOf members discriminator :: rest => by
    rw [mergeOf]
    refine (mergeOf_sound meaning name _ members).bind fun inner => ?_
    exact (mergeOf_sound meaning name _ rest).imp fun known result others h own h' => .nested h' h
  | .composite notes .oneOf members discriminator :: rest => by
    rw [mergeOf]
    · exact .throw
    all_goals nofun
  | .composite notes .anyOf members discriminator :: rest => by
    rw [mergeOf]
    · exact .throw
    all_goals nofun
  | .primitive .. :: rest => by
    rw [mergeOf]
    · exact .throw
    all_goals nofun
  | .array .. :: rest => by
    rw [mergeOf]
    · exact .throw
    all_goals nofun
  | .enum .. :: rest => by
    rw [mergeOf]
    · exact .throw
    all_goals nofun

end

/-! ## Named schemas -/

theorem definitionOf_sound (meaning : SoundMeaning scope.graph scope.active scope.meaning)
    (name : String) (node : Node) :
    Sound scope.graph scope.active [] (definitionOf scope name node)
      fun known d own => DefinitionOf scope.graph known name node d own := by
  unfold definitionOf
  split
  · rename_i model
    split
    · rename_i notes properties required additional discriminator
      refine (fieldsOf_sound meaning name properties).bind fun fields => ?_
      refine warnAdditional_sound (.pure fun known own h => ?_)
      rw [List.append_nil]
      exact .object model h
    · rename_i notes members discriminator
      exact (mergeOf_sound meaning name _ members).map fun known result own h => .merge h
    · rename_i notes mode members discriminator merged
      refine (variantsOf_sound meaning name "" 1 members).bind fun result => ?_
      refine (unionOf_sound _ _ _ _ _).map fun known t own h others h' => ?_
      obtain ⟨rfl, union⟩ := h
      rw [List.append_nil]
      exact .union (merged) model h' union
    · rename_i object merge union
      cases node with
      | object => exact absurd rfl (object _ _ _ _ _)
      | composite => exact absurd rfl (union _ _ _ _)
      | _ => cases model
  · rename_i other
    have unnamed : isModel node = false := by simpa using other
    split
    · split
      · exact .throw
      · rename_i some
        exact .pure fun known => .enum (by simpa using some)
    · rename_i enum
      exact (typeOf_sound meaning name "" node).map fun known t own h => .other unnamed enum h

/-- What a resolution says a name means is what it knows from then on. -/
theorem definition_sound (graph : Graph) (depth : Nat) :
    ∀ active, SoundMeaning graph active (definition graph depth active) := by
  induction depth with
  | zero =>
    intro active name inactive
    rw [definition]
    exact .throw
  | succ depth ih =>
    intro active name inactive s d s' run
    rw [definition] at run
    obtain ⟨_, _, got, run⟩ := runs_bind_iff.mp run
    obtain ⟨rfl, rfl⟩ := runs_get_iff.mp got
    split at run
    · rename_i d' known
      obtain ⟨rfl, rfl⟩ := runs_pure_iff.mp run
      exact ⟨[], [], .idle rfl rfl rfl, fun more includes => ⟨rfl, includes _ _ known⟩⟩
    · exact absurd run not_runs_throw
    · rename_i node unknown found
      simp only [runs_bind_iff, runs_modify_iff, runs_pure_iff] at run
      obtain ⟨d, s₁, first, _, _, rfl, rfl, rfl⟩ := run
      let scope : Scope := ⟨graph, name :: active, definition graph depth (name :: active)⟩
      obtain ⟨own, entries, step, h⟩ := @definitionOf_sound scope (ih _) name node s d s₁ first
      have meaning := h _ fun _ _ h => h
      rw [step.known] at meaning
      have derived : Derived graph active s.known (⟨name, d, own⟩ :: entries) :=
        .cons (step.derived.mono (List.subset_cons_self _ _)) inactive
          (step.derived.unknown List.mem_cons_self unknown) found meaning
      refine ⟨[], ⟨name, d, own⟩ :: entries,
        ⟨derived, ?_, step.hoisted, step.taken, step.distinct⟩, fun known includes => ⟨rfl, ?_⟩⟩
      · rw [step.known]
        rfl
      · exact includes _ _ (by rw [knownIn_cons, if_pos rfl])

/-! ## Documents -/

/-- What a resolution comes to: entries for all named schemas, derived one after another; their
meanings in declaration order, and then the models that were made, whose names are new. -/
structure Resolution (graph : Graph) (definitions : List (String × Definition))
    (entries : List Entry) (hoisted : List ObjectType) : Prop where
  derived : Derived graph [] [] entries
  definitions : ∃ named, definitions = named ++ hoisted.map ObjectType.pair ∧
    List.Forall₂ (fun declared result => result.1 = declared.1 ∧
      knownIn (entries.map Entry.pair) declared.1 = some result.2) graph.definitions named
  made : hoisted.Perm (entries.flatMap Entry.own)
  distinct : (graph.definitions.map Prod.fst).Nodup →
    (hoisted.map ObjectType.name ++ graph.definitions.map Prod.fst).Nodup

/-- The definitions of a graph come from a resolution, whatever was logged before. -/
theorem exists_resolution_of_gives {graph : Graph} {definitions : List (String × Definition)}
    (h : (resolve graph).Gives definitions) :
    ∃ entries hoisted, Resolution graph definitions entries hoisted := by
  obtain ⟨log, log', h⟩ := h
  let start : Progress := { taken := graph.definitions.map (·.1), warnings := log }
  have run : Runs (resolveAll graph) start definitions ((resolveAll graph) start).2 :=
    Prod.ext (congrArg (·.1) (show resolve graph log = (.ok definitions, log') from h)) rfl
  unfold resolveAll at run
  simp only [runs_bind_iff, runs_get_iff, runs_pure_iff] at run
  obtain ⟨named, s, run, _, _, ⟨rfl, rfl⟩, rfl, -⟩ := run
  have sound : Sound graph [] [] (graph.definitions.mapM fun declared => do
      return (declared.1, ← definition graph graph.definitions.length [] declared.1))
      fun known named own => own = [] ∧ List.Forall₂ (fun declared result =>
        result.1 = declared.1 ∧ known declared.1 = some result.2) graph.definitions named := by
    refine .mapM fun declared _ => ?_
    refine (definition_sound graph _ [] declared.1 List.not_mem_nil).map ?_
    rintro known d own ⟨rfl, found⟩
    exact ⟨rfl, rfl, found⟩
  obtain ⟨own, entries, step, h⟩ := sound start named s run
  obtain ⟨rfl, all⟩ := h _ fun _ _ h => h
  have known : s.known = entries.map Entry.pair := by simpa [start] using step.known
  obtain ⟨hoisted, made, eq⟩ := exists_map_of_perm step.hoisted
  refine ⟨entries, hoisted, step.derived, ⟨named, by rw [eq], ?_⟩, made, fun distinct => ?_⟩
  · rwa [known] at all
  · have taken := step.taken
    rw [List.append_nil] at taken
    refine (taken.trans ?_).nodup_iff.mp (step.distinct distinct)
    exact (made.symm.map _).append_right _

theorem exists_resolution {graph : Graph} {definitions : List (String × Definition)}
    (h : (resolve graph).outcome.1 = .ok definitions) :
    ∃ entries hoisted, Resolution graph definitions entries hoisted :=
  exists_resolution_of_gives (Logged.gives_of_outcome h)

end WireModel.Types
