import WireModel.Proofs.Lists
import WireModel.Proofs.Success
import WireModel.Table.Build

/-!
# Tables are well-formed

What building a table guarantees: the fields of a record have distinct attributes and distinct
wire names, and a discriminator of a model leads to records. The order that options ask for
changes no answer of the table.
-/

namespace WireModel.Table

open Types (WireType ObjectType Definition)

/-- What every table that is built satisfies. -/
structure WellFormed (table : Table) : Prop where
  attributes : ∀ {r}, .record r ∈ table.models → (r.fields.map Field.attributeName).Nodup
  wireNames : ∀ {r}, .record r ∈ table.models → (r.fields.map Field.wireName).Nodup
  targets : ∀ {m d entry}, m ∈ table.models → m.discriminator = some d → entry ∈ d.mapping →
    ∃ r, table.get? entry.2 = some (.record r)

/-! ## Fields -/

/-- Fields with distinct attributes and distinct wire names. -/
def Distinct (fields : List Field) : Prop :=
  (fields.map Field.attributeName).Nodup ∧ (fields.map Field.wireName).Nodup

/-- A field of an object as a field of a record. -/
def fieldOf (f : Types.Field) : Field :=
  ⟨Naming.attributeName f.name, f.name, f.type.strip, f.required && !(f.required && f.default.isSome),
    f.nullable, f.default, f.description⟩

/-- Whether options leave a field out of every model. -/
def skips (options : Options) (name : String) : Bool :=
  match options.ignoresField name with
  | .ok skipped => skipped
  | .error _ => false

/-- A field is left out, or added if no other field has its names. -/
theorem addField_cases {options : Options} {model : String} {fields result : List Field}
    {f : Types.Field} (h : addField options model fields f = .ok result) :
    options.ignoresField f.name = .ok (skips options f.name) ∧
      (skips options f.name = true ∧ result = fields ∨
        skips options f.name = false ∧ result = fields ++ [fieldOf f] ∧ ∀ g ∈ fields,
          g.attributeName ≠ (fieldOf f).attributeName ∧ g.wireName ≠ (fieldOf f).wireName) := by
  unfold addField at h
  obtain ⟨ignored, found, h⟩ := bind_eq_ok.mp h
  have found : options.ignoresField f.name = .ok ignored := mapError_eq_ok.mp found
  have same : skips options f.name = ignored := by
    rw [skips, found]
  rw [same]
  refine ⟨found, ?_⟩
  split at h
  · rename_i left
    exact .inl ⟨left, (pure_eq_ok.mp h).symm⟩
  · rename_i kept
    dsimp only at h
    split at h
    · cases h
    · split at h
      · cases h
      · rename_i unique
        refine .inr ⟨by simpa using kept, (pure_eq_ok.mp h).symm, fun g hg => ?_⟩
        simp only [List.any_eq_true, Bool.or_eq_true, beq_iff_eq, not_exists, not_and,
          not_or] at unique
        exact ⟨(unique g hg).2, (unique g hg).1⟩

theorem addField_distinct {options : Options} {model : String} {fields result : List Field}
    {f : Types.Field} (distinct : Distinct fields)
    (h : addField options model fields f = .ok result) : Distinct result := by
  obtain ⟨-, ⟨-, rfl⟩ | ⟨-, rfl, apart⟩⟩ := addField_cases h
  · exact distinct
  · simp only [Distinct, List.map_append, List.map_cons, List.map_nil, List.nodup_append,
      List.mem_map, List.mem_singleton] at distinct ⊢
    refine ⟨⟨distinct.1, by simp, ?_⟩, distinct.2, by simp, ?_⟩
    · rintro _ ⟨g, hg, rfl⟩ _ rfl
      exact (apart g hg).1
    · rintro _ ⟨g, hg, rfl⟩ _ rfl
      exact (apart g hg).2

/-- The fields that are not left out are added in their order. -/
theorem addFields_eq {options : Options} {model : String} :
    ∀ {fs : List Types.Field} {fields result : List Field},
      fs.foldlM (addField options model) fields = .ok result →
        (∀ f ∈ fs, options.ignoresField f.name = .ok (skips options f.name)) ∧
          result = fields ++ (fs.filter fun f => !skips options f.name).map fieldOf
  | [], fields, result, h => by
    rw [List.foldlM_nil, pure_eq_ok] at h
    exact ⟨nofun, by rw [← h, List.filter_nil, List.map_nil, List.append_nil]⟩
  | f :: fs, fields, result, h => by
    rw [List.foldlM_cons] at h
    obtain ⟨middle, added, h⟩ := bind_eq_ok.mp h
    obtain ⟨known, rfl⟩ := addFields_eq h
    obtain ⟨here, cases⟩ := addField_cases added
    refine ⟨List.forall_mem_cons.mpr ⟨here, known⟩, ?_⟩
    rcases cases with ⟨left, rfl⟩ | ⟨kept, rfl, -⟩
    · simp [left]
    · simp [kept]

/-- The record of an object has its fields but for those that are left out, with names of their
own. -/
theorem recordOf_eq {options : Options} {name : String} {o : ObjectType} {r : RecordModel}
    (h : recordOf options name o = .ok r) :
    (∀ f ∈ o.fields, options.ignoresField f.name = .ok (skips options f.name)) ∧
      r = ⟨name, (o.fields.filter fun f => !skips options f.name).map fieldOf, o.discriminator,
        o.parents, o.description⟩ ∧ Distinct r.fields := by
  unfold recordOf at h
  obtain ⟨fields, hfields, h⟩ := bind_eq_ok.mp h
  obtain ⟨known, eq⟩ := addFields_eq hfields
  have made := pure_eq_ok.mp h
  rw [List.nil_append] at eq
  subst eq
  refine ⟨known, made.symm, ?_⟩
  rw [← made]
  have start : Distinct [] := ⟨.nil, .nil⟩
  exact foldlM_invariant (fun _ _ _ _ => addField_distinct) start hfields

/-- A required field that is not left out has no default, unless the options make such fields
optional. -/
theorem default_eq_none_of_recordOf {options : Options} {name : String} {o : ObjectType}
    {r : RecordModel} (h : recordOf options name o = .ok r)
    (strict : options.requiredWithDefault.isText "optional" = false) {f : Types.Field}
    (mem : f ∈ o.fields) (kept : skips options f.name = false) (required : f.required = true) :
    f.default = none := by
  unfold recordOf at h
  obtain ⟨fields, hfields, -⟩ := bind_eq_ok.mp h
  obtain ⟨before, after, added⟩ := exists_of_foldlM_eq_ok hfields f mem
  obtain ⟨here, -⟩ := addField_cases added
  unfold addField at added
  rw [here, kept] at added
  cases default : f.default with
  | none => rfl
  | some d =>
    rw [required, default, strict] at added
    cases added

/-! ## Order -/

theorem find?_filterMap_find? (models : List Model) (name : String) (names : List String) :
    (names.filterMap fun n => models.find? (·.name == n)).find? (·.name == name) =
      if name ∈ names then models.find? (·.name == name) else none := by
  induction names with
  | nil => rfl
  | cons n rest ih =>
    rw [List.filterMap_cons]
    cases found : models.find? (·.name == n) with
    | none =>
      simp only [ih, List.mem_cons]
      by_cases same : name = n
      · subst same
        simp [found]
      · simp [same]
    | some m =>
      have hm : m.name = n := by simpa using List.find?_some found
      simp only [List.find?_cons, ih, List.mem_cons]
      by_cases same : name = n
      · subst same
        simp [hm, found]
      · have other : (n == name) = false := by simpa using Ne.symm same
        simp [hm, same, other]

/-- Models that options put first are found as they are without. -/
theorem find?_ordered (first : List String) (models : List Model) (name : String) :
    (ordered first models).find? (·.name == name) = models.find? (·.name == name) := by
  simp only [ordered, List.find?_append, find?_filterMap_find?, List.mem_eraseDups,
    List.find?_filter]
  by_cases mem : name ∈ first
  · simp only [mem, if_true]
    cases found : models.find? (·.name == name) with
    | some m => rfl
    | none =>
      rw [Option.none_or, List.find?_eq_none]
      intro m hm both
      have := List.find?_eq_none.mp found m hm
      simp_all
  · rw [if_neg mem, Option.none_or]
    congr 1
    funext m
    by_cases same : m.name = name
    · simp [same, mem]
    · simp [same]

theorem mem_ordered {first : List String} {models : List Model} {m : Model}
    (h : m ∈ ordered first models) : m ∈ models := by
  simp only [ordered, List.mem_append, List.mem_filterMap, List.mem_filter] at h
  rcases h with ⟨name, -, found⟩ | ⟨mem, -⟩
  · exact List.mem_of_find?_eq_some found
  · exact mem

/-! ## Building -/

theorem checkTarget_ok {models : List Model} {model : String} {d : Schema.Discriminator}
    {target : String} {u : Unit} (h : checkTarget models model d target = .ok u) :
    ∃ r, models.find? (·.name == target) = some (.record r) := by
  unfold checkTarget at h
  split at h
  · rename_i r found
    exact ⟨r, found⟩
  · cases h

theorem checkDiscriminator_ok {models : List Model} {m : Model} {d : Schema.Discriminator}
    (h : checkDiscriminator models m = .ok ()) (hd : m.discriminator = some d)
    {entry : String × String} (mem : entry ∈ d.mapping) :
    ∃ r, models.find? (·.name == entry.2) = some (.record r) := by
  unfold checkDiscriminator at h
  rw [hd] at h
  exact checkTarget_ok (ok_of_forM_eq_ok h entry mem)

theorem modelOf_record {options : Options} {name : String} {definition : Definition}
    {r : RecordModel} (h : modelOf options name definition = .ok (some (.record r))) :
    ∃ o, definition = .object o ∧ recordOf options name o = .ok r := by
  unfold modelOf at h
  split at h
  · obtain ⟨r', hr', same⟩ := map_eq_ok.mp h
    cases same
    exact ⟨_, rfl, hr'⟩
  · cases h
  · cases h

theorem modelOf_union {options : Options} {name : String} {definition : Definition}
    {u : UnionModel} (h : modelOf options name definition = .ok (some (.union u))) :
    u.name = name ∧ ∃ n, definition = .type (.union n u.mode u.discriminator u.variants) := by
  unfold modelOf at h
  split at h
  · obtain ⟨r, -, same⟩ := map_eq_ok.mp h
    cases same
  · cases h
    exact ⟨rfl, _, rfl⟩
  · cases h

/-- The definitions that a table is made of: those that are not left out. -/
def keptOf (ignored : List String) (definitions : List (String × Definition)) :
    List (String × Definition) :=
  definitions.filter fun d => !ignored.contains d.1

/-- The models of the definitions that are not left out, in their order. -/
def AreModelsOf (options : Options) (ignored : List String) (definitions : List (String × Definition))
    (models : List Model) : Prop :=
  ∃ os, List.Forall₂ (fun d o => modelOf options d.1 d.2 = .ok o) (keptOf ignored definitions) os ∧
    models = os.filterMap id

/-- A model comes from a definition that is not left out. -/
theorem AreModelsOf.exists_definition {options : Options} {ignored : List String}
    {definitions : List (String × Definition)} {models : List Model}
    (h : AreModelsOf options ignored definitions models) {m : Model} (mem : m ∈ models) :
    ∃ d ∈ definitions, d.1 ∉ ignored ∧ modelOf options d.1 d.2 = .ok (some m) := by
  obtain ⟨os, all, rfl⟩ := h
  obtain ⟨o, there, same⟩ := List.mem_filterMap.mp mem
  obtain ⟨d, kept, made⟩ := exists_left_of_forall₂ all there
  obtain ⟨mem, used⟩ := List.mem_filter.mp kept
  refine ⟨d, mem, by simpa using used, ?_⟩
  rw [made, ← same]
  rfl

/-- The steps of building a table, with the names left out, the models in the order of their
definitions and the names that come first. -/
structure Building (options : Options) (definitions : List (String × Definition)) (table : Table)
    (ignored : List String) (models : List Model) (first : List String) : Prop where
  skipped : options.ignoredClasses = .ok ignored
  made : ∃ os, List.Forall₂ (fun d o => modelOf options d.1 d.2 = .ok o)
    (keptOf ignored definitions) os ∧ models = os.filterMap id
  closed : missingNames models = []
  checked : ∀ m ∈ models, checkDiscriminator models m = .ok ()
  front : options.firstClasses = .ok first
  result : table = ⟨ordered first models,
    (keptOf ignored definitions).filterMap fun d => enumOf d.1 d.2⟩

theorem exists_building {options : Options} {definitions : List (String × Definition)}
    {table : Table} (h : build options definitions = .ok table) :
    ∃ ignored models first, Building options definitions table ignored models first := by
  unfold build at h
  obtain ⟨ignored, hignored, h⟩ := bind_eq_ok.mp h
  obtain ⟨models, hmodels, h⟩ := bind_eq_ok.mp h
  dsimp only at h
  split at h
  · rename_i none
    obtain ⟨_, checked, h⟩ := bind_eq_ok.mp h
    obtain ⟨first, hfirst, h⟩ := bind_eq_ok.mp h
    refine ⟨ignored, models, first, mapError_eq_ok.mp hignored, filterMapM_eq_ok hmodels, ?_,
      ok_of_forM_eq_ok checked, mapError_eq_ok.mp hfirst, (pure_eq_ok.mp h).symm⟩
    refine List.eq_nil_iff_forall_not_mem.mpr fun name mem => ?_
    have listed : name ∈ Text.sortedDistinct (missingNames models) := by
      rwa [Text.sortedDistinct, List.mem_mergeSort, List.mem_eraseDups]
    rw [List.isEmpty_iff.mp none] at listed
    cases listed
  · cases h

namespace Building

variable {options : Options} {definitions : List (String × Definition)} {table : Table}
  {ignored : List String} {models : List Model} {first : List String}

theorem mem_models (b : Building options definitions table ignored models first) {m : Model}
    (mem : m ∈ table.models) : m ∈ models := by
  rw [b.result] at mem
  exact mem_ordered mem

theorem get?_eq (b : Building options definitions table ignored models first) (name : String) :
    table.get? name = models.find? (·.name == name) := by
  rw [b.result]
  exact find?_ordered first models name

/-- A model comes from a definition that is not left out. -/
theorem exists_definition (b : Building options definitions table ignored models first) {m : Model}
    (mem : m ∈ models) : ∃ d ∈ definitions, d.1 ∉ ignored ∧
      modelOf options d.1 d.2 = .ok (some m) :=
  AreModelsOf.exists_definition b.made mem

end Building

theorem build_wellFormed {options : Options} {definitions : List (String × Definition)}
    {table : Table} (h : build options definitions = .ok table) : table.WellFormed := by
  obtain ⟨ignored, models, first, b⟩ := exists_building h
  have distinct : ∀ {r}, .record r ∈ table.models → Distinct r.fields := by
    intro r mem
    obtain ⟨p, -, -, made⟩ := b.exists_definition (b.mem_models mem)
    obtain ⟨o, -, recorded⟩ := modelOf_record made
    exact (recordOf_eq recorded).2.2
  refine ⟨fun mem => (distinct mem).1, fun mem => (distinct mem).2, ?_⟩
  intro m d entry mem hd hentry
  obtain ⟨r, found⟩ := checkDiscriminator_ok (b.checked m (b.mem_models mem)) hd hentry
  exact ⟨r, by rw [b.get?_eq, found]⟩

end WireModel.Table
