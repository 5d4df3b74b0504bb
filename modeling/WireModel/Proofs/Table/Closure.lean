import WireModel.Proofs.Table.Faults
import WireModel.Proofs.Table.Provenance
import WireModel.Proofs.Types.Closure

/-!
# References of tables

A table is refused for names that its models refer to and that no model has. The definitions of a
resolution are closed, so a type can only refer to models, and what a discriminator adds by itself
are names of models too. What is left are the entries that schemas declare.

* **`refs_cases`**: what a type refers to is a model, or an entry of a declared discriminator leads
  to it.
* **`closed_of_resolve`**: the definitions are closed, and where no model is left out only such an
  entry can lead to a name that is missing.
-/

namespace WireModel

open Types (WireType ObjectType Definition IsModelIn)

/-- An entry of a discriminator that some schema declares leads to a name. -/
def Schema.Graph.LeadsTo (graph : Schema.Graph) (name : String) : Prop :=
  ∃ d, graph.Declares d ∧ name ∈ d.mapping.map Prod.snd

namespace Types

open Schema

variable {graph : Graph} {P : String → Prop}

/-- The targets of a completed discriminator are those that are declared, and the names that it is
completed by. -/
theorem CompletesDeclared.targets_cases {d : Discriminator} {entries : List (String × String)}
    {names : List String} (h : CompletesDeclared graph d entries names) {n : String}
    (mem : n ∈ WireType.targets (some d)) : n ∈ names ∨ graph.LeadsTo n := by
  obtain ⟨declared, declares, sub, rfl⟩ := h
  obtain ⟨entry, there, rfl⟩ := List.mem_map.mp mem
  rcases mem_completed_iff.mp there with own | ⟨-, named, -⟩
  · exact .inr ⟨declared, declares, List.mem_map.mpr ⟨entry, sub.subset own, rfl⟩⟩
  · exact .inl named

/-- By induction on the type. -/
theorem WireType.refs_cases {t : WireType} (names : t.Names P) (stems : t.Stems graph) :
    ∀ n ∈ t.refs, P n ∨ graph.LeadsTo n := by
  induction t using WireType.induct with
  | primitive | enum => nofun
  | model name =>
    intro n mem
    obtain rfl := List.mem_singleton.mp mem
    exact .inl (names_model.mp names)
  | optional t ih => exact ih (names_optional.mp names) (stems_optional.mp stems)
  | nullable t ih => exact ih (names_nullable.mp names) (stems_nullable.mp stems)
  | sequence t ih =>
    exact ih (names_sequence.mp names) fun part inside => stems part (.sequence inside)
  | mapping t ih =>
    exact ih (names_mapping.mp names) fun part inside => stems part (.mapping inside)
  | union name mode discriminator variants ih =>
    intro n mem
    rw [refs, List.mem_append] at mem
    rcases mem with ref | target
    · obtain ⟨t, there, ref⟩ := Table.Building.mem_of_mem_refsOfAll ref
      exact ih t there (names_union.mp names t there)
        (fun part inside => stems part (.variant there inside)) n ref
    · -- a tag leads to a variant of the union, or to where the schema declares
      cases discriminator with
      | none => cases target
      | some d =>
        obtain ⟨entries, variants, rfl, completes⟩ := UnionTagged.completes (stems _ .refl)
        refine (completes.targets_cases target).imp_left fun variant => ?_
        exact names_model.mp (names_union.mp names _ (List.mem_map.mpr ⟨n, variant, rfl⟩))

/-- An object among the definitions of a resolution has the name that it is there for. -/
theorem Resolution.name_eq {definitions : List (String × Definition)} {entries : List Entry}
    {hoisted : List ObjectType} (r : Resolution graph definitions entries hoisted) {name : String}
    {o : ObjectType} (mem : (name, .object o) ∈ definitions) : o.name = name := by
  rcases r.mem_cases mem with ⟨e, there, same⟩ | ⟨e, there, p, own, same⟩
  · obtain ⟨node, known, -, meaning, -⟩ := r.derived.exists_definition there
    obtain ⟨rfl, meant⟩ := Prod.mk.inj same
    rw [meant] at meaning
    cases meaning with
    | object | merge => rfl
  · cases same
    rfl

/-- Whatever extends a schema is a model. -/
theorem Descends.exists_isModel {n name : String} (h : Descends graph n name) :
    ∃ node, graph.get? n = some node ∧ isModel node = true := by
  obtain ⟨parent, ⟨_, _, _, _, _, found, -, -⟩, -⟩ := Relation.TransGen.head'_iff.mp h
  exact ⟨_, found, rfl⟩

/-- What the discriminator of an object leads to is a model of its family, or declared. -/
theorem Closed.family_cases {definitions : List (String × Definition)} {hoisted : List ObjectType}
    (closed : Closed graph definitions hoisted) {entries : List Entry}
    (r : Resolution graph definitions entries hoisted)
    (distinct : (graph.definitions.map Prod.fst).Nodup) {name : String} {o : ObjectType}
    (mem : (name, .object o) ∈ definitions) :
    ∀ n ∈ WireType.targets o.discriminator, IsModelIn definitions n ∨ graph.LeadsTo n := by
  intro n target
  cases tagged : o.discriminator with
  | none =>
    rw [tagged] at target
    cases target
  | some d =>
    rw [tagged] at target
    have family : familyDiscriminator graph o.name = some d := by
      rcases (r.stems _ mem).discriminator with none | same
      · rw [tagged] at none
        cases none
      · rw [← same, tagged]
    obtain ⟨entries, completes⟩ := completes_of_familyDiscriminator family
    refine (completes.targets_cases target).imp_left fun member => ?_
    rcases (mem_family_iff distinct).mp member with rfl | descends
    · exact ⟨_, r.name_eq mem ▸ mem, .object⟩
    · obtain ⟨node, found, model⟩ := descends.exists_isModel
      exact closed.models n node found model

end Types

namespace Table

variable {options : Options} {definitions : List (String × Definition)}

/-! ## Faults -/

/-- A fault that is not about names that are missing. -/
def Fault.IsOther : Fault → Prop
  | .unresolved _ => False
  | _ => True

theorem ofOption_errsOther {α : Type} (result : Except Options.Misuse α) :
    ErrsOnly (ofOption result) Fault.IsOther := ofOption_errs (.inr fun _ => trivial)

/-- Names are missing only if all definitions have models, and these refer to them. -/
theorem unresolved_of_build {names : List String}
    (h : build options definitions = .error (.unresolved names)) :
    ∃ ignored models, options.ignoredClasses = .ok ignored ∧
      AreModelsOf options ignored definitions models ∧
      names = Text.sortedDistinct (missingNames models) := by
  unfold build at h
  rcases bind_eq_error.mp h with other | ⟨ignored, hignored, h⟩
  · exact (ofOption_errsOther _ _ other).elim
  rcases bind_eq_error.mp h with other | ⟨models, hmodels, h⟩
  · have made (d : String × Definition) : ErrsOnly (modelOf options d.1 d.2) Fault.IsOther :=
      modelOf_errs (fun _ => ofOption_errsOther _) (fun _ _ => trivial) fun _ _ => trivial
    exact (ErrsOnly.filterMapM (fun d _ => made d) _ other).elim
  refine ⟨ignored, models, mapError_eq_ok.mp hignored, filterMapM_eq_ok hmodels, ?_⟩
  dsimp only at h
  split at h
  · rcases bind_eq_error.mp h with other | ⟨_, -, h⟩
    · have checked (m : Model) : ErrsOnly (checkDiscriminator models m) Fault.IsOther :=
        checkDiscriminator_errs (fun _ _ => trivial) fun _ _ _ => trivial
      exact (ErrsOnly.forM (fun m _ => checked m) _ other).elim
    rcases bind_eq_error.mp h with other | ⟨first, -, h⟩
    · exact (ofOption_errsOther _ _ other).elim
    · cases h
  · cases h
    rfl

/-! ## Models -/

section

variable {graph : Schema.Graph} {entries : List Types.Entry} {hoisted : List ObjectType}
  (closed : Types.Closed graph definitions hoisted)
  (r : Types.Resolution graph definitions entries hoisted)
  (distinct : (graph.definitions.map Prod.fst).Nodup)

include closed r distinct

/-- What a model of a table refers to is a model among the definitions, or declared. -/
theorem refs_cases_of_modelOf {p : String × Definition} (mem : p ∈ definitions) {m : Model}
    (made : modelOf options p.1 p.2 = .ok (some m)) :
    ∀ n ∈ m.refs, IsModelIn definitions n ∨ graph.LeadsTo n := by
  have names := closed.refs p mem
  have stems := r.stems p mem
  intro n ref
  rw [Model.refs, List.mem_append, List.mem_append] at ref
  cases m with
  | record record =>
    obtain ⟨o, same, recorded⟩ := modelOf_record made
    rw [same] at names stems
    rcases ref with (field | none) | target
    · obtain ⟨g, own, ref⟩ := List.mem_flatMap.mp field
      obtain ⟨f, there, rfl⟩ := recordOf_fields recorded g own
      exact WireType.refs_cases (WireType.names_strip.mpr (names f there))
        (WireType.stems_strip.mpr (stems.fields f there).type) n ref
    · cases none
    · obtain ⟨-, rfl, -⟩ := recordOf_eq recorded
      exact closed.family_cases r distinct (same ▸ mem : (p.1, .object o) ∈ definitions) n target
  | union union =>
    obtain ⟨-, name, same⟩ := modelOf_union made
    rw [same] at names stems
    refine WireType.refs_cases names stems n ?_
    rw [WireType.refs, List.mem_append]
    rcases ref with (none | variant) | target
    · cases none
    · obtain ⟨t, there, ref⟩ := List.mem_flatMap.mp variant
      exact .inl (Building.mem_refsOfAll there ref)
    · exact .inr target

end

/-- A model among the definitions is one of the table, if none is left out. -/
theorem mem_names_of_isModelIn {models : List Model}
    (made : AreModelsOf options [] definitions models) {name : String}
    (h : IsModelIn definitions name) : name ∈ models.map Model.name := by
  obtain ⟨d, mem, model⟩ := h
  rw [made.map_name]
  refine List.mem_map.mpr ⟨(name, d), List.mem_filter.mpr ⟨mem, ?_⟩, rfl⟩
  cases model with
  | object | union => rfl

/-- **The definitions of a resolution are closed.** Their names are the declared ones, in order, and
those of the models added, all of them distinct. Every model added is made of a schema inside of a
named one, each at a place of its own. A declared schema is a model exactly if it is defined to be
one, and whatever type refers to a model refers to one of these.

So if no model is left out, a table is refused for a missing name only where a declared
discriminator has an entry that leads to it. -/
theorem closed_of_resolve {graph : Schema.Graph} {definitions : List (String × Definition)}
    (distinct : (graph.definitions.map Prod.fst).Nodup)
    (resolves : (Types.resolve graph).outcome.1 = .ok definitions) :
    ∃ hoisted, Types.Closed graph definitions hoisted ∧
      ∀ options names, options.ignoredClasses = .ok [] →
        build options definitions = .error (.unresolved names) →
        ∀ n ∈ names, ¬IsModelIn definitions n ∧ graph.LeadsTo n := by
  obtain ⟨entries, hoisted, r⟩ := Types.exists_resolution resolves
  have closed := r.closed distinct
  refine ⟨hoisted, closed, fun options names none fails n listed => ?_⟩
  obtain ⟨ignored, models, skipped, made, rfl⟩ := unresolved_of_build fails
  obtain rfl : [] = ignored := Except.ok.inj (none.symm.trans skipped)
  rw [Text.sortedDistinct, List.mem_mergeSort, List.mem_eraseDups] at listed
  obtain ⟨⟨m, mem, ref⟩, absent⟩ := mem_missingNames_iff.mp listed
  have missing : ¬IsModelIn definitions n :=
    fun model => absent (mem_names_of_isModelIn made model)
  obtain ⟨p, there, -, model⟩ := made.exists_definition mem
  refine ⟨missing, ?_⟩
  exact (refs_cases_of_modelOf closed r distinct there model n ref).resolve_left missing

/-! ## An entry that leads nowhere -/

/-- Why there is no table. -/
def faultOf? : Except Fault Table → Option Fault
  | .error fault => some fault
  | .ok _ => none

theorem faultOf?_eq_some {x : Except Fault Table} {fault : Fault} :
    faultOf? x = some fault ↔ x = .error fault := by
  cases x <;> simp [faultOf?]

/-- A schema whose discriminator leads to nobody, beside one with an object inside. -/
theorem nobody_is_missing : ((Types.inOrder "Nobody").definitions.map Prod.fst).Nodup ∧
    ∃ definitions hoisted, (Types.resolve (Types.inOrder "Nobody")).outcome.1 = .ok definitions ∧
      Types.Closed (Types.inOrder "Nobody") definitions hoisted ∧
      build {} definitions = .error (.unresolved ["Nobody"]) ∧
      ¬IsModelIn definitions "Nobody" ∧ (Types.inOrder "Nobody").LeadsTo "Nobody" := by
  have distinct : ((Types.inOrder "Nobody").definitions.map Prod.fst).Nodup := by decide
  have resolves : (Types.resolve (Types.inOrder "Nobody")).outcome.1 =
      .ok (Types.resolvedInOrder "Nobody") := rfl
  have fails : build {} (Types.resolvedInOrder "Nobody") = .error (.unresolved ["Nobody"]) := by
    have same : faultOf? (build {} (Types.resolvedInOrder "Nobody")) =
        some (.unresolved ["Nobody"]) := by decide +kernel
    exact faultOf?_eq_some.mp same
  obtain ⟨hoisted, closed, missing⟩ := closed_of_resolve distinct resolves
  obtain ⟨absent, leads⟩ := missing {} ["Nobody"] rfl fails "Nobody" List.mem_cons_self
  exact ⟨distinct, _, hoisted, resolves, closed, fails, absent, leads⟩

end Table
end WireModel
