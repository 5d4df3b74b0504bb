import WireModel.Proofs.Table.Closure

/-!
# Names that are missing

A table is refused once, for all the names that are missing: those that its models refer to and
that no model has. What a model refers to is read off its definition, without the fields that the
options leave out.

* **`WireType.mem_refs_iff`**: the walk over a type meets every model inside of it, and whatever a
  discriminator inside of it leads to.
* **`unresolved_iff_isMissing`**: if all models can be filled in, a table is refused for names
  exactly if some are missing, and then it names all of them, in order and once.
-/

namespace WireModel

open Types (WireType ObjectType Definition)

namespace Types

/-! ## What types and definitions refer to -/

/-- A type refers to a name: the model of that name is the type or inside of it, or the
discriminator of a union there leads to it. -/
def WireType.RefersTo (t : WireType) (n : String) : Prop :=
  (WireType.model n).Part t ∨ ∃ name mode d variants,
    (WireType.union name mode (some d) variants).Part t ∧ n ∈ d.mapping.map Prod.snd

namespace WireType

variable {n : String}

theorem refs_strip : ∀ t : WireType, t.strip.refs = t.refs
  | .optional t => by rw [strip, refs, refs_strip t]
  | .nullable t => by rw [strip, refs, refs_strip t]
  | .primitive .. | .sequence _ | .mapping _ | .enum .. | .model _ | .union .. => rfl

theorem refsOfAll_eq_flatMap (variants : List WireType) :
    refsOfAll variants = variants.flatMap refs := by
  induction variants with
  | nil => rfl
  | cons t rest ih => rw [refsOfAll, List.flatMap_cons, ih]

theorem refersTo_iff_inside {t : WireType} : t.RefersTo n ↔
    t = .model n ∨ (∃ name mode d variants, t = .union name mode (some d) variants ∧
      n ∈ d.mapping.map Prod.snd) ∨ ∃ u ∈ t.inside, u.RefersTo n := by
  constructor
  · rintro (part | ⟨name, mode, d, variants, part, leads⟩)
    · rcases eq_or_inside_of_part part with same | ⟨u, mem, part⟩
      · exact .inl same.symm
      · exact .inr (.inr ⟨u, mem, .inl part⟩)
    · rcases eq_or_inside_of_part part with same | ⟨u, mem, part⟩
      · exact .inr (.inl ⟨name, mode, d, variants, same.symm, leads⟩)
      · exact .inr (.inr ⟨u, mem, .inr ⟨name, mode, d, variants, part, leads⟩⟩)
  · rintro (rfl | ⟨name, mode, d, variants, rfl, leads⟩ |
      ⟨u, mem, part | ⟨name, mode, d, variants, part, leads⟩⟩)
    · exact .inl .refl
    · exact .inr ⟨name, mode, d, variants, .refl, leads⟩
    · exact .inl (part_of_inside mem part)
    · exact .inr ⟨name, mode, d, variants, part_of_inside mem part, leads⟩

/-- The walk over a type meets exactly the names that it refers to. By induction on the type. -/
theorem mem_refs_iff {t : WireType} : n ∈ t.refs ↔ t.RefersTo n := by
  rw [refersTo_iff_inside]
  induction t using WireType.induct with
  | primitive | enum => simp [refs, inside]
  | model name => simp [refs, inside, eq_comm]
  | optional inner ih | nullable inner ih | sequence inner ih | mapping inner ih =>
    simpa [refs, inside] using ih.trans refersTo_iff_inside.symm
  | union name mode discriminator variants ih =>
    have inner : n ∈ refsOfAll variants ↔ ∃ u ∈ variants, u.RefersTo n := by
      constructor
      · intro ref
        obtain ⟨u, mem, ref⟩ := Table.Building.mem_of_mem_refsOfAll ref
        exact ⟨u, mem, refersTo_iff_inside.mpr ((ih u mem).mp ref)⟩
      · rintro ⟨u, mem, refers⟩
        exact Table.Building.mem_refsOfAll mem ((ih u mem).mpr (refersTo_iff_inside.mp refers))
    rw [refs, List.mem_append, inner]
    cases discriminator with
    | none => simp [targets, inside]
    | some d => simp [targets, inside, or_comm]

end WireType

/-- The definition of a model refers to a name: a field that the options do not leave out does, the
discriminator of an object leads there, or a union does, with an alternative or its own
discriminator. -/
inductive Definition.RefersTo (options : Options) (n : String) : Definition → Prop
  | field {o : ObjectType} {f : Field} : f ∈ o.fields → options.ignoresField f.name = .ok false →
      f.type.RefersTo n → RefersTo options n (.object o)
  | target {o : ObjectType} {d : Schema.Discriminator} : o.discriminator = some d →
      n ∈ d.mapping.map Prod.snd → RefersTo options n (.object o)
  | union {name mode discriminator variants} :
      (WireType.union name mode discriminator variants).RefersTo n →
      RefersTo options n (.type (.union name mode discriminator variants))

theorem Definition.RefersTo.isModel {options : Options} {n : String} {definition : Definition}
    (h : definition.RefersTo options n) : definition.isModel = true := by
  cases h <;> rfl

end Types

namespace Table

variable {options : Options} {definitions : List (String × Definition)} {n : String}

/-- The models of all definitions that are not left out. -/
def fill (options : Options) (definitions : List (String × Definition)) :
    Except Fault (List Model) := do
  let ignored ← ofOption options.ignoredClasses
  (keptOf ignored definitions).filterMapM fun (name, definition) => modelOf options name definition

/-- A name is missing: the definition of a model that is not left out refers to it, and it is the
name of no such model. -/
def IsMissing (options : Options) (definitions : List (String × Definition)) (n : String) : Prop :=
  ∃ ignored, options.ignoredClasses = .ok ignored ∧
    (∃ p ∈ definitions, p.1 ∉ ignored ∧ p.2.RefersTo options n) ∧
    ¬∃ p ∈ definitions, p.1 = n ∧ p.1 ∉ ignored ∧ p.2.isModel = true

/-! ## What models refer to -/

/-- The fields of a record refer to what the fields of its object do, but for those left out. -/
theorem mem_refs_record_iff {name : String} {o : ObjectType} {r : RecordModel}
    (made : recordOf options name o = .ok r) :
    n ∈ (Model.record r).refs ↔ (Definition.object o).RefersTo options n := by
  obtain ⟨known, rfl, -⟩ := recordOf_eq made
  have field : n ∈ ((o.fields.filter fun f => !skips options f.name).map fieldOf).flatMap
      (·.type.refs) ↔ ∃ f ∈ o.fields, options.ignoresField f.name = .ok false ∧
        f.type.RefersTo n := by
    rw [List.flatMap_map]
    simp only [List.mem_flatMap, List.mem_filter, Bool.not_eq_true', and_assoc]
    refine exists_congr fun f => and_congr_right fun mem => ?_
    have stripped : (fieldOf f).type.refs = f.type.refs := WireType.refs_strip f.type
    rw [known f mem, stripped, WireType.mem_refs_iff, Except.ok.injEq]
  rw [Model.refs, List.mem_append, List.mem_append, Model.fields, field]
  constructor
  · rintro ((⟨f, mem, used, refers⟩ | none) | target)
    · exact .field mem used refers
    · cases none
    · change n ∈ WireType.targets o.discriminator at target
      cases tagged : o.discriminator with
      | none =>
        rw [tagged] at target
        cases target
      | some d =>
        rw [tagged] at target
        exact .target tagged target
  · rintro (⟨mem, used, refers⟩ | ⟨tagged, leads⟩)
    · exact .inl (.inl ⟨_, mem, used, refers⟩)
    · refine .inr ?_
      change n ∈ WireType.targets o.discriminator
      rw [tagged]
      exact leads

/-- A model refers to what its definition does. -/
theorem mem_refs_iff_of_modelOf {name : String} {definition : Definition} {m : Model}
    (made : modelOf options name definition = .ok (some m)) :
    n ∈ m.refs ↔ definition.RefersTo options n := by
  cases m with
  | record r =>
    obtain ⟨o, rfl, recorded⟩ := modelOf_record made
    exact mem_refs_record_iff recorded
  | union u =>
    obtain ⟨-, title, rfl⟩ := modelOf_union made
    have same : (Model.union u).refs =
        (WireType.union title u.mode u.discriminator u.variants).refs := by
      rw [Model.refs, WireType.refs, WireType.refsOfAll_eq_flatMap]
      rfl
    rw [same, WireType.mem_refs_iff]
    constructor
    · exact .union
    · rintro (_ | _ | refers)
      exact refers

/-- A definition of a model that is not left out has its model. -/
theorem AreModelsOf.exists_model {ignored : List String} {models : List Model}
    (made : AreModelsOf options ignored definitions models) {p : String × Definition}
    (mem : p ∈ definitions) (used : p.1 ∉ ignored) (model : p.2.isModel = true) :
    ∃ m ∈ models, modelOf options p.1 p.2 = .ok (some m) := by
  obtain ⟨os, all, rfl⟩ := made
  have kept : p ∈ keptOf ignored definitions := List.mem_filter.mpr ⟨mem, by simpa using used⟩
  obtain ⟨o, there, made⟩ := exists_right_of_forall₂ all kept
  have some := modelOf_isSome made
  rw [model, if_pos rfl] at some
  obtain ⟨m, rfl, -⟩ := Option.map_eq_some_iff.mp some
  exact ⟨m, List.mem_filterMap.mpr ⟨_, there, rfl⟩, made⟩

/-- The names that the models of some definitions lack are those that are missing. -/
theorem mem_missingNames_iff_isMissing {ignored : List String} {models : List Model}
    (skipped : options.ignoredClasses = .ok ignored)
    (made : AreModelsOf options ignored definitions models) :
    n ∈ missingNames models ↔ IsMissing options definitions n := by
  have refers : (∃ m ∈ models, n ∈ m.refs) ↔
      ∃ p ∈ definitions, p.1 ∉ ignored ∧ p.2.RefersTo options n := by
    constructor
    · rintro ⟨m, mem, ref⟩
      obtain ⟨p, there, used, model⟩ := made.exists_definition mem
      exact ⟨p, there, used, (mem_refs_iff_of_modelOf model).mp ref⟩
    · rintro ⟨p, there, used, refers⟩
      obtain ⟨m, mem, model⟩ := made.exists_model there used (refers.isModel)
      exact ⟨m, mem, (mem_refs_iff_of_modelOf model).mpr refers⟩
  have named : n ∈ models.map Model.name ↔
      ∃ p ∈ definitions, p.1 = n ∧ p.1 ∉ ignored ∧ p.2.isModel = true := by
    rw [made.map_name, modelNames]
    simp only [List.mem_map, List.mem_filter, Bool.and_eq_true, Bool.not_eq_true',
      List.contains_eq_mem, decide_eq_false_iff_not]
    exact exists_congr fun p => by tauto
  rw [mem_missingNames_iff, refers, named]
  constructor
  · rintro ⟨used, absent⟩
    exact ⟨ignored, skipped, used, absent⟩
  · rintro ⟨others, skipped', used, absent⟩
    obtain rfl := Except.ok.inj (skipped.symm.trans skipped')
    exact ⟨used, absent⟩

/-! ## The report -/

theorem mem_sortedDistinct {texts : List String} {n : String} :
    n ∈ Text.sortedDistinct texts ↔ n ∈ texts := by
  rw [Text.sortedDistinct, List.mem_mergeSort, List.mem_eraseDups]

theorem fill_eq_ok {models : List Model} (filled : fill options definitions = .ok models) :
    ∃ ignored, options.ignoredClasses = .ok ignored ∧
      AreModelsOf options ignored definitions models := by
  obtain ⟨ignored, skipped, filled⟩ := bind_eq_ok.mp filled
  exact ⟨ignored, mapError_eq_ok.mp skipped, filterMapM_eq_ok filled⟩

/-- Nothing else is looked at before the names that are missing. -/
theorem build_of_fill {models : List Model} (filled : fill options definitions = .ok models)
    (missing : missingNames models ≠ []) :
    build options definitions =
      .error (.unresolved (Text.sortedDistinct (missingNames models))) := by
  obtain ⟨ignored, skipped, filled⟩ := bind_eq_ok.mp filled
  have listed : (Text.sortedDistinct (missingNames models)).isEmpty = false := by
    obtain ⟨n, mem⟩ := List.exists_mem_of_ne_nil _ missing
    rw [List.isEmpty_eq_false_iff_exists_mem]
    exact ⟨n, mem_sortedDistinct.mpr mem⟩
  unfold build
  refine bind_eq_error.mpr (.inr ⟨ignored, skipped, bind_eq_error.mpr (.inr ⟨models, filled, ?_⟩)⟩)
  dsimp only
  rw [listed]
  rfl

/-- A fault of a model comes before all that are missing. -/
theorem build_of_fill_error {fault : Fault} (failed : fill options definitions = .error fault) :
    build options definitions = .error fault := by
  rcases bind_eq_error.mp failed with failed | ⟨ignored, skipped, failed⟩
  · exact bind_eq_error.mpr (.inl failed)
  · exact bind_eq_error.mpr (.inr ⟨ignored, skipped, bind_eq_error.mpr (.inl failed)⟩)

/-- Filling in the models is refused for other reasons. -/
theorem fill_errsOther : ErrsOnly (fill options definitions) Fault.IsOther :=
  (ofOption_errsOther _).bind fun _ => .filterMapM fun _ _ =>
    modelOf_errs (fun _ => ofOption_errsOther _) (fun _ _ => trivial) fun _ _ => trivial

/-- If no name is missing, building is refused for other reasons. -/
theorem build_errsOther {models : List Model} (filled : fill options definitions = .ok models)
    (none : missingNames models = []) : ErrsOnly (build options definitions) Fault.IsOther := by
  have checked (m : Model) : ErrsOnly (checkDiscriminator models m) Fault.IsOther :=
    checkDiscriminator_errs (fun _ _ => trivial) fun _ _ _ => trivial
  obtain ⟨ignored, skipped, filled⟩ := bind_eq_ok.mp filled
  intro fault refused
  unfold build at refused
  rcases bind_eq_error.mp refused with failed | ⟨ignored', skipped', refused⟩
  · exact ofOption_errsOther _ _ failed
  obtain rfl := Except.ok.inj (skipped.symm.trans skipped')
  rcases bind_eq_error.mp refused with failed | ⟨models', filled', refused⟩
  · exact absurd (filled.symm.trans failed) nofun
  obtain rfl := Except.ok.inj (filled.symm.trans filled')
  have empty : (Text.sortedDistinct []).isEmpty = true := by simp [Text.sortedDistinct]
  dsimp only at refused
  rw [none, if_pos empty] at refused
  refine (ErrsOnly.forM fun m _ => checked m).bind (fun _ => ?_) fault refused
  exact (ofOption_errsOther _).bind fun _ => .ok

/-- Names are missing only after all models are filled in. -/
theorem exists_fill_of_unresolved {names : List String}
    (refused : build options definitions = .error (.unresolved names)) :
    ∃ models, fill options definitions = .ok models ∧ missingNames models ≠ [] := by
  cases filled : fill options definitions with
  | error fault =>
    rw [build_of_fill_error filled] at refused
    obtain rfl := Except.error.inj refused
    exact (fill_errsOther _ filled).elim
  | ok models => exact ⟨models, rfl, fun none => (build_errsOther filled none _ refused).elim⟩

theorem sortedDistinct_pairwise (texts : List String) :
    (Text.sortedDistinct texts).Pairwise (· < ·) := by
  have sorted : (Text.sortedDistinct texts).Pairwise fun a b => decide (a ≤ b) = true :=
    List.pairwise_mergeSort (fun a b c => by simpa using String.le_trans)
      (fun a b => by simpa using String.le_total a b) texts.eraseDups
  have distinct : (Text.sortedDistinct texts).Nodup :=
    (List.mergeSort_perm _ _).nodup_iff.mpr (nodup_eraseDups texts)
  refine (sorted.and distinct).imp fun {a b} h => ?_
  exact Std.lt_of_le_of_ne (of_decide_eq_true h.1) h.2

/-- **Missing names are reported exactly and completely.** A table is refused for names exactly if
all its models can be filled in and some name is missing, and then it names all of them, in order
and each of them once. -/
theorem unresolved_iff_isMissing :
    ((∃ names, build options definitions = .error (.unresolved names)) ↔
      (∃ models, fill options definitions = .ok models) ∧ ∃ n, IsMissing options definitions n) ∧
    ∀ names, build options definitions = .error (.unresolved names) →
      names.Pairwise (· < ·) ∧ ∀ n, n ∈ names ↔ IsMissing options definitions n := by
  refine ⟨⟨?_, ?_⟩, ?_⟩
  · rintro ⟨names, refused⟩
    obtain ⟨models, filled, missing⟩ := exists_fill_of_unresolved refused
    obtain ⟨ignored, skipped, made⟩ := fill_eq_ok filled
    obtain ⟨n, listed⟩ := List.exists_mem_of_ne_nil _ missing
    exact ⟨⟨models, filled⟩, n, (mem_missingNames_iff_isMissing skipped made).mp listed⟩
  · rintro ⟨⟨models, filled⟩, n, missing⟩
    obtain ⟨ignored, skipped, made⟩ := fill_eq_ok filled
    have listed := (mem_missingNames_iff_isMissing skipped made).mpr missing
    exact ⟨_, build_of_fill filled (List.ne_nil_of_mem listed)⟩
  · intro names refused
    obtain ⟨ignored, models, skipped, made, rfl⟩ := unresolved_of_build refused
    refine ⟨sortedDistinct_pairwise _, fun n => ?_⟩
    rw [mem_sortedDistinct]
    exact mem_missingNames_iff_isMissing skipped made

/-- A model left out, one that refers to it, to three names that nothing has and, in a field that is
left out, to a fourth, and a union whose discriminator leads to one of them. -/
def unfinished : List (String × Definition) :=
  let field (name : String) (t : WireType) : Types.Field := ⟨name, t, none, none⟩
  let object (name : String) (fields : List Types.Field) (d : Option Schema.Discriminator) :=
    (name, Definition.object ⟨name, fields, [], d, none⟩)
  let tagged (target : String) (variants : List WireType) : WireType :=
    .union none .oneOf (some ⟨"kind", [("k", target)]⟩) variants
  [object "Hidden" [field "x" (.model "Never")] none,
    object "A" [field "hidden" (.optional (.sequence (.model "Hidden"))),
      field "tagged" (.mapping (.nullable (tagged "Lost" [.model "A", .model "Zero"]))),
      field "skipped" (.model "Unseen")] (some ⟨"kind", [("a", "A"), ("m", "Moved")]⟩),
    ("U", .type (tagged "Lost" [.model "A"]))]

theorem unfinished_is_refused :
    let options : Options :=
      { ignoreClasses := some (.list [.str "Hidden"]), ignoreFields := some (.list [.str "skipped"]) }
    let names := ["Hidden", "Lost", "Moved", "Zero"]
    build options unfinished = .error (.unresolved names) ∧ names.Pairwise (· < ·) ∧
      IsMissing options unfinished "Lost" ∧ ¬IsMissing options unfinished "Unseen" ∧
      ¬IsMissing options unfinished "Never" := by
  intro options names
  have fails : build options unfinished = .error (.unresolved names) := by
    have found : (fill options unfinished).toOption.map missingNames =
        some ["Hidden", "Zero", "Lost", "Moved", "Lost"] := by decide +kernel
    cases filled : fill options unfinished with
    | error fault =>
      rw [filled] at found
      cases found
    | ok models =>
      rw [filled] at found
      have missing : missingNames models = _ := Option.some.inj found
      rw [build_of_fill filled (by rw [missing]; nofun), missing]
      simp [names, Text.sortedDistinct, List.eraseDups_cons, List.mergeSort]
  obtain ⟨sorted, exact⟩ := unresolved_iff_isMissing.2 names fails
  exact ⟨fails, sorted, (exact "Lost").mp (by decide), fun h => absurd ((exact _).mpr h) (by decide),
    fun h => absurd ((exact _).mpr h) (by decide)⟩

end Table
end WireModel
