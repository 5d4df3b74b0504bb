import WireModel.Proofs.Table.Alike
import WireModel.Proofs.Table.Invariants
import WireModel.Proofs.Types.Enums
import WireModel.Proofs.Types.ExtractedResolution

/-!
# The table where a schema has a name

The tables of two documents, one of which has a name for the schema of a property, differ in names
only, if no discriminator leads to a model that changes its name. What a renaming of definitions
takes to each other becomes alike in the tables (`alike_of_follows`), because whatever a model
refers to is in its table. At the property a union has a name in one table only.
-/

namespace WireModel.Table

open Types (WireType ObjectType Definition IsNaming Stands KeepsTargets)

variable {ρ : String → String} {names : List String} {left right : Table}

/-- Two names for one thing: a name of the one document and its new name, and both tables have a
model for it, or none has. -/
structure Paired (ρ : String → String) (names : List String) (left right : Table) (a b : String) :
    Prop where
  known : a ∈ names
  renamed : ρ a = b
  there : a ∈ left.names ↔ b ∈ right.names

/-! ## Types -/

theorem refs_of_part {s t : WireType} (h : s.Part t) {n : String} (ref : n ∈ s.refs) :
    n ∈ t.refs := by
  induction h with
  | refl => exact ref
  | optional _ ih | nullable _ ih | sequence _ ih | mapping _ ih => exact ih
  | variant mem _ ih =>
    rw [WireType.refs, List.mem_append]
    exact .inl (Building.mem_refsOfAll mem ih)

theorem part_trans {s t w : WireType} (h : s.Part t) (h' : t.Part w) : s.Part w := by
  induction h' with
  | refl => exact h
  | optional _ ih => exact .optional ih
  | nullable _ ih => exact .nullable ih
  | sequence _ ih => exact .sequence ih
  | mapping _ ih => exact .mapping ih
  | variant mem _ ih => exact .variant mem ih

theorem strip_part : ∀ t : WireType, t.strip.Part t
  | .optional inner => .optional (strip_part inner)
  | .nullable inner => .nullable (strip_part inner)
  | .primitive .. | .sequence _ | .mapping _ | .enum .. | .model _ | .union .. => .refl

/-- The models that the discriminators in a type lead to keep their names. -/
def KeepsNames (ρ : String → String) (t : WireType) : Prop :=
  ∀ name mode d variants, (WireType.union name mode (some d) variants).Part t →
    ∀ entry ∈ d.mapping, ρ entry.2 = entry.2

theorem KeepsNames.part {s t : WireType} (h : KeepsNames ρ t) (part : s.Part t) : KeepsNames ρ s :=
  fun name mode d variants inside => h name mode d variants (part_trans inside part)

/-- A discriminator that completes the same entries is the same if the models that it leads to keep
their names. -/
theorem eq_of_completed {d e : Option Schema.Discriminator}
    (h : Types.Completed (fun a b => ρ a = b) d e)
    (fixed : ∀ target ∈ WireType.targets d, ρ target = target) : e = d := by
  cases d with
  | some d =>
    exact h.eq_of_fixed fun entry mem => fixed entry.2 (List.mem_map.mpr ⟨entry, mem, rfl⟩)
  | none =>
    cases h
    rfl

theorem KeepsNames.targets {name : Option String} {mode : Schema.Combination}
    {d : Option Schema.Discriminator} {variants : List WireType}
    (h : KeepsNames ρ (.union name mode d variants)) :
    ∀ target ∈ WireType.targets d, ρ target = target := by
  intro target mem
  cases d with
  | none => cases mem
  | some d =>
    obtain ⟨entry, there, rfl⟩ := List.mem_map.mp mem
    exact h name mode d variants .refl entry there

/-- What a type refers to is referred to by its new name. -/
theorem refs_of_follows {t u : WireType} (h : t.Follows ρ u) (keeps : KeepsNames ρ t) {n : String}
    (ref : n ∈ t.refs) : ρ n ∈ u.refs := by
  induction h with
  | primitive | enum => cases ref
  | optional _ ih => exact ih (keeps.part (.optional .refl)) ref
  | nullable _ ih => exact ih (keeps.part (.nullable .refl)) ref
  | sequence _ ih => exact ih (keeps.part (.sequence .refl)) ref
  | mapping _ ih => exact ih (keeps.part (.mapping .refl)) ref
  | model same =>
    rw [WireType.refs, List.mem_singleton] at ref ⊢
    rw [ref, same]
  | union completed same _ ih =>
    rw [WireType.refs, List.mem_append] at ref ⊢
    rcases ref with ref | target
    · obtain ⟨t, mem, ref⟩ := Building.mem_of_mem_refsOfAll ref
      obtain ⟨u, pair⟩ := exists_zip_of_mem_left same mem
      have inside := ih _ pair (keeps.part (.variant mem .refl)) ref
      exact .inl (Building.mem_refsOfAll (List.of_mem_zip pair).2 inside)
    · rw [keeps.targets n target, eq_of_completed completed keeps.targets]
      exact .inr target

/-- Renamed types are alike if the names in them are paired. -/
theorem alike_of_follows {t u : WireType} (h : t.Follows ρ u) (keeps : KeepsNames ρ t)
    (plain : t.EnumsPlain) (paired : ∀ n ∈ t.refs, Paired ρ names left right n (ρ n)) :
    Alike (Paired ρ names left right) left right t u := by
  induction h with
  | primitive => exact .primitive
  | enum => exact .enum (WireType.enumsPlain_enum.mp plain)
  | optional _ ih =>
    exact .optional (ih (keeps.part (.optional .refl)) (WireType.enumsPlain_optional.mp plain) paired)
  | nullable _ ih =>
    exact .nullable (ih (keeps.part (.nullable .refl)) (WireType.enumsPlain_nullable.mp plain) paired)
  | sequence _ ih =>
    exact .sequence (ih (keeps.part (.sequence .refl)) (WireType.enumsPlain_sequence.mp plain) paired)
  | mapping _ ih =>
    exact .mapping (ih (keeps.part (.mapping .refl)) (WireType.enumsPlain_mapping.mp plain) paired)
  | model same => exact .model (same ▸ paired _ List.mem_cons_self)
  | @union _ _ _ _ variants _ completed same _ ih =>
    rw [eq_of_completed completed keeps.targets]
    refine .union (fun target mem => ?_) same fun p mem => ?_
    · have pair := paired target (List.mem_append_right _ mem)
      rwa [keeps.targets target mem] at pair
    · have mem := (List.of_mem_zip mem).1
      refine ih p ‹_› (keeps.part (.variant mem .refl)) (WireType.enumsPlain_union.mp plain _ mem)
        fun n ref => paired n ?_
      exact refs_of_part (.variant mem .refl) ref

/-! ## Tables that are built -/

section

variable {options : Options} {definitions others : List (String × Definition)}
  {ignored ignored' : List String} {models models' : List Model} {first first' : List String}

/-- A model that is found is made of the definition of its name. -/
theorem Building.modelOf_of_get? (b : Building options definitions left ignored models first)
    (distinct : (definitions.map Prod.fst).Nodup) {n : String} {d : Definition} {m : Model}
    (mem : (n, d) ∈ definitions) (found : left.get? n = some m) :
    modelOf options n d = .ok (some m) := by
  obtain ⟨p, there, -, made⟩ := b.exists_definition (b.mem_models (mem_of_get? found))
  have named := modelOf_isSome made
  have same : p.1 = n := by
    rw [← name_of_get? found]
    split at named <;> simp_all
  obtain rfl : p = (n, d) := List.inj_on_of_nodup_map distinct there mem same
  exact made

theorem Building.mem_definitions (b : Building options definitions left ignored models first)
    {n : String} (mem : n ∈ left.names) : n ∈ definitions.map Prod.fst := by
  rw [b.names_eq, mem_arranged, modelNames] at mem
  obtain ⟨p, there, rfl⟩ := List.mem_map.mp mem
  exact List.mem_map.mpr ⟨p, List.mem_of_mem_filter there, rfl⟩

/-! ## The property -/

section

variable (b : Building options definitions left ignored models first)
include b

/-- The names in types of two tables are paired, because what the types refer to is there. -/
theorem alike_of_refs {t u : WireType} (h : t.Follows ρ u) (keeps : KeepsNames ρ t)
    (plain : t.EnumsPlain) (here : ∀ n ∈ t.refs, n ∈ left.names)
    (there : ∀ n ∈ u.refs, n ∈ right.names) :
    Alike (Paired ρ (definitions.map Prod.fst) left right) left right t u :=
  alike_of_follows h keeps plain fun n ref =>
    ⟨b.mem_definitions (here n ref), rfl,
      ⟨fun _ => there _ (refs_of_follows h keeps ref), fun _ => here n ref⟩⟩

end

/-- Unions are alike under any names. -/
theorem Alike.under {R : String → String → Prop} {n n' m m' : Option String}
    {mode mode' : Schema.Combination} {d d' : Option Schema.Discriminator}
    {variants others : List WireType}
    (h : Alike R left right (.union n mode d variants) (.union n' mode' d' others)) :
    Alike R left right (.union m mode d variants) (.union m' mode' d' others) := by
  cases h with
  | union targets same all => exact .union targets same all

/-- The alternatives under a name, and where they stand themselves. -/
theorem Alike.of_named {R : String → String → Prop} {n n' : Option String}
    {mode mode' : Schema.Combination} {d : Option Schema.Discriminator} {variants : List WireType}
    {name : String} {u : UnionModel} (found : right.get? name = some (.union u))
    (h : Alike R left right (.union n mode d variants)
      (.union n' mode' u.discriminator u.variants)) :
    Alike R left right (.union n mode d variants) (.model name) := by
  generalize discriminator : u.discriminator = d' at h
  cases h with
  | union targets same all =>
    subst discriminator
    exact .namedRight found targets same all

variable {property name : String} {d : Definition} {lost : List ObjectType}
  {F : Types.Field → Types.Field → Prop} {graph : Schema.Graph}
  (naming : IsNaming graph definitions others ρ F name d lost)
  (b : Building options definitions left ignored models first)
  (b' : Building options others right ignored' models' first')
  (distinct' : (others.map Prod.fst).Nodup)
include naming b b' distinct'

/-- The type of a property and that of a reference to its schema. -/
theorem alike_of_stands {t u v : WireType} (stands : Stands name t u d lost) (h : u.Follows ρ v)
    (keeps : KeepsNames ρ t) (plain : t.EnumsPlain) (here : ∀ n ∈ t.strip.refs, n ∈ left.names)
    (there : ∀ n ∈ v.strip.refs, n ∈ right.names) :
    Alike (Paired ρ (definitions.map Prod.fst) left right) left right t.strip v.strip := by
  have stripped := h.strip
  have keeps := keeps.part (strip_part t)
  have plain := WireType.enumsPlain_strip.mpr plain
  cases stands with
  | followed => exact alike_of_refs b stripped keeps plain here there
  | enum =>
    rw [WireType.strip_orNullIf] at stripped plain ⊢
    generalize v.strip = w at stripped ⊢
    cases stripped
    exact .enum (WireType.enumsPlain_enum.mp plain)
  | @object o =>
    rw [WireType.strip_orNullIf] at stripped here ⊢
    generalize v.strip = w at stripped there ⊢
    cases stripped with
    | model same =>
      rw [naming.kept] at same
      subst same
      have mem : o.name ∈ left.names := here _ List.mem_cons_self
      have mem' : name ∈ right.names := there _ List.mem_cons_self
      exact .model ⟨b.mem_definitions mem, naming.lost o List.mem_cons_self, iff_of_true mem mem'⟩
  | @union mode disc variants =>
    rw [WireType.strip_orNullIf] at stripped here keeps plain ⊢
    generalize v.strip = w at stripped there ⊢
    cases stripped with
    | model same =>
      rw [naming.kept] at same
      subst same
      obtain ⟨m, found⟩ := mem_names_iff.mp (there _ List.mem_cons_self)
      obtain ⟨e, mem, follows⟩ := naming.named
      have made := b'.modelOf_of_get? distinct' mem found
      cases follows with
      | type follows =>
        cases follows with
        | union completed same all =>
          cases made
          refine .of_named found (alike_of_refs b (.union completed same all) keeps plain here ?_)
          intro n ref
          exact b'.refs_mem_of_occurs (.of_get? found) n (by rwa [UnionModel.type, WireType.refs])

/-- The type of a field, which may be that of the property. -/
theorem alike_of_moved {t u v w x : WireType} (stands : Stands name t u d lost)
    (moved : WireType.Moved t u v x) (h : x.Follows ρ w) (keeps : KeepsNames ρ v)
    (plain : v.EnumsPlain) (here : ∀ n ∈ v.strip.refs, n ∈ left.names)
    (there : ∀ n ∈ w.strip.refs, n ∈ right.names) :
    Alike (Paired ρ (definitions.map Prod.fst) left right) left right v.strip w.strip := by
  cases moved with
  | same =>
    exact alike_of_refs b h.strip (keeps.part (strip_part v)) (WireType.enumsPlain_strip.mpr plain)
      here there
  | here => exact alike_of_stands naming b b' distinct' stands h keeps plain here there
  | optional =>
    cases h with
    | @optional _ w h =>
      have inner : Alike (Paired ρ (definitions.map Prod.fst) left right) left right t.strip w.strip :=
        alike_of_stands naming b b' distinct' stands h (keeps.part (.optional .refl))
          (WireType.enumsPlain_optional.mp plain) here there
      exact inner

/-- The field of a record, which may be that of the property. A default of the schema is lost, and
then a required field without one has to be given. -/
theorem fieldsAlike {schema : Schema.Node} {t : WireType}
    (stands : Stands name t (Types.namedType name schema t) d lost) {f g : Types.Field}
    (h : Types.Field.Follows (Types.Field.Named property name schema t) ρ f g)
    (keeps : KeepsNames ρ f.type) (plain : f.type.EnumsPlain)
    (spared : f.name = property → f.required = true → f.default = schema.notes.default →
      f.default = none)
    (here : ∀ n ∈ (fieldOf f).type.refs, n ∈ left.names)
    (there : ∀ n ∈ (fieldOf g).type.refs, n ∈ right.names) :
    FieldsAlike (Paired ρ (definitions.map Prod.fst) left right) left right (fieldOf f)
      (fieldOf g) := by
  obtain ⟨f', moved, same⟩ := h
  have names : g.name = f.name := same.name.trans moved.name
  have type := alike_of_moved naming b b' distinct' stands moved.type same.type keeps plain here there
  have required : g.required = f.required := by
    rw [Types.Field.required, Types.Field.required, same.type.isOptional_eq,
      moved.type.isOptional_eq stands.isOptional_eq]
  have nullable : g.nullable = f.nullable := by
    rw [Types.Field.nullable, Types.Field.nullable, same.type.isNullable_eq,
      moved.type.isNullable_eq stands.isNullable_eq]
  -- only the property itself can lose a default, that of its schema
  have given : f.required = true → g.default.isSome = f.default.isSome := by
    intro needed
    rw [same.default]
    rcases moved.default with kept | ⟨own, before, after⟩
    · rw [kept]
    · rw [after, spared (by rw [own]) needed before]
  refine ⟨congrArg Naming.attributeName names, names, ?_, nullable, type⟩
  change (g.required && !(g.required && g.default.isSome)) =
    (f.required && !(f.required && f.default.isSome))
  rw [required]
  cases needed : f.required with
  | false => rfl
  | true => rw [given needed]

end

/-! ## Models -/

section

variable {options : Options} {definitions others : List (String × Definition)}
  {ignored ignored' : List String} {models models' : List Model} {first first' : List String}

theorem Building.target_mem (b : Building options definitions left ignored models first) {m : Model}
    (mem : m ∈ left.models) {target : String} (leads : target ∈ WireType.targets m.discriminator) :
    target ∈ left.names := by
  refine b.refs_mem (b.mem_models mem) ?_
  rw [Model.refs, List.mem_append]
  exact .inr leads

theorem targets_kept (keeps : KeepsTargets ρ definitions) {n : String} {o : ObjectType}
    (mem : (n, .object o) ∈ definitions) :
    ∀ target ∈ WireType.targets o.discriminator, ρ target = target := by
  intro target leads
  cases own : o.discriminator with
  | none =>
    rw [own] at leads
    cases leads
  | some c =>
    rw [own] at leads
    obtain ⟨entry, there, rfl⟩ := List.mem_map.mp leads
    exact keeps _ mem c (.inl own) entry there

/-- Where options make required fields with a default optional, no such field of a name has the
default of a schema. -/
def SparesDefault (options : Options) (definitions : List (String × Definition)) (property : String)
    (default : Option Value) : Prop :=
  options.requiredWithDefault.isText "optional" = true →
    ∀ n o, (n, .object o) ∈ definitions → ∀ f ∈ o.fields, f.name = property → f.required = true →
      f.default = default → f.default = none

theorem SparesDefault.default_eq_none {definitions : List (String × Definition)} {property : String}
    {default : Option Value} (spares : SparesDefault options definitions property default)
    {n : String} {o : ObjectType} (mem : (n, .object o) ∈ definitions) {r : RecordModel}
    (made : recordOf options n o = .ok r) {f : Types.Field} (own : f ∈ o.fields)
    (kept : skips options f.name = false) (named : f.name = property) (required : f.required = true)
    (same : f.default = default) : f.default = none := by
  cases optional : options.requiredWithDefault.isText "optional" with
  | false => exact default_eq_none_of_recordOf made optional own kept required
  | true => exact spares optional n o mem f own named required same

variable {property name : String} {d : Definition} {lost : List ObjectType} {schema : Schema.Node}
  {t : WireType} {graph : Schema.Graph}
  (stands : Stands name t (Types.namedType name schema t) d lost)
  (naming : IsNaming graph definitions others ρ (Types.Field.Named property name schema t) name d lost)
  (b : Building options definitions left ignored models first)
  (b' : Building options others right ignored' models' first')
  (distinct' : (others.map Prod.fst).Nodup)
  (keeps : KeepsTargets ρ definitions) (plain : ∀ p ∈ definitions, p.2.EnumsPlain)
  (spares : SparesDefault options definitions property schema.notes.default)
include stands naming b b' distinct' keeps plain spares

/-- The records of an object and of the renamed one. -/
theorem recordsAlike {n : String} {o o' : ObjectType} (mem : (n, .object o) ∈ definitions)
    (fields : List.Forall₂ (Types.Field.Follows (Types.Field.Named property name schema t) ρ)
      o.fields o'.fields)
    (completed : Types.Completed (fun a b => ρ a = b) o.discriminator o'.discriminator)
    {r s : RecordModel} (made : recordOf options n o = .ok r)
    (made' : recordOf options (ρ n) o' = .ok s) (found : left.get? n = some (.record r))
    (found' : right.get? (ρ n) = some (.record s)) :
    RecordsAlike (Paired ρ (definitions.map Prod.fst) left right) left right r s := by
  have there := mem_of_get? found
  have there' := mem_of_get? found'
  obtain ⟨-, rfl, -⟩ := recordOf_eq made
  obtain ⟨-, rfl, -⟩ := recordOf_eq made'
  have fixed := targets_kept keeps mem
  have same := eq_of_completed completed fixed
  -- a field has the same name in both, so the same ones are left out
  have filtered : List.Forall₂ _ (o.fields.filter fun f => !skips options f.name)
      (o'.fields.filter fun f => !skips options f.name) :=
    List.rel_filter (fun f g follows => by
      obtain ⟨f', moved, matched⟩ := follows
      simp only [matched.name, moved.name]) fields
  refine ⟨⟨List.mem_map.mpr ⟨_, mem, rfl⟩, rfl, ?_⟩, same, fun target leads => ?_, ?_⟩
  · exact iff_of_true (mem_names_iff.mpr ⟨_, found⟩) (mem_names_iff.mpr ⟨_, found'⟩)
  · have leads' : target ∈ WireType.targets o'.discriminator := by rwa [same]
    have mem := b.target_mem there leads
    exact ⟨b.mem_definitions mem, fixed target leads, iff_of_true mem (b'.target_mem there' leads')⟩
  · refine List.forall₂_map_left_iff.mpr (List.forall₂_map_right_iff.mpr ?_)
    refine forall₂_of_zip filtered.length_eq fun p pair => ?_
    obtain ⟨own, own'⟩ := List.of_mem_zip pair
    obtain ⟨inside, kept⟩ := List.mem_filter.mp own
    refine fieldsAlike naming b b' distinct' stands (zip_of_forall₂ filtered p pair)
      (fun _ _ c _ part => keeps _ mem c (.inr ⟨_, inside, _, _, _, part⟩)) (plain _ mem _ inside)
      (spares.default_eq_none mem made inside (by simpa using kept)) ?_ ?_
    · exact b.refs_mem_of_occurs (.field there (List.mem_map.mpr ⟨_, own, rfl⟩))
    · exact b'.refs_mem_of_occurs (.field there' (List.mem_map.mpr ⟨_, own', rfl⟩))

/-- The tables differ in names only. -/
theorem tablesAlike (distinct : (definitions.map Prod.fst).Nodup) :
    TablesAlike (Paired ρ (definitions.map Prod.fst) left right) left right where
  functional a b b' := fun h h' => h.renamed.symm.trans h'.renamed
  injective a a' b := fun h h' => naming.injective h.known h'.known (h.renamed.trans h'.renamed.symm)
  models n n' := by
    rintro ⟨known, rfl, there⟩
    obtain ⟨⟨n, definition⟩, mem, rfl⟩ := List.mem_map.mp known
    obtain ⟨e, mem', follows⟩ := naming.definitions _ mem
    rw [mem_names_iff, mem_names_iff] at there
    dsimp only at there ⊢
    -- what is missing in one table is missing in the other one
    cases found : left.get? n with
    | none =>
      cases found' : right.get? (ρ n) with
      | none => exact .none
      | some m' =>
        obtain ⟨m, found⟩ := there.mpr ⟨m', found'⟩
        simp_all
    | some m =>
      obtain ⟨m', found'⟩ := there.mp ⟨m, found⟩
      rw [found']
      have made := b.modelOf_of_get? distinct mem found
      have made' := b'.modelOf_of_get? distinct' mem' found'
      cases follows with
      | object fields completed =>
        obtain ⟨r, record, same⟩ := map_eq_ok.mp made
        obtain ⟨s, record', same'⟩ := map_eq_ok.mp made'
        cases same
        cases same'
        exact .record (recordsAlike stands naming b b' distinct' keeps plain spares mem fields
          completed record record' found found')
      | type follows =>
        cases follows with
        | union completed same all =>
          cases made
          cases made'
          refine .union (Alike.under (alike_of_refs b (.union completed same all)
            (fun _ _ c _ part => keeps _ mem c ⟨_, _, _, part⟩) (plain _ mem) ?_ ?_))
          · intro n ref
            exact b.refs_mem_of_occurs (.of_get? found) n (by rwa [UnionModel.type, WireType.refs])
          · intro n ref
            exact b'.refs_mem_of_occurs (.of_get? found') n (by rwa [UnionModel.type, WireType.refs])
        | _ => cases made

end

/-! ## Names of schemas -/

section

variable {options : Options} {definitions others : List (String × Definition)}
  {ignored : List String} {models models' : List Model} {first first' : List String}

theorem isModel_of_follows {F : Types.Field → Types.Field → Prop} {d e : Definition}
    (h : d.Follows F ρ e) : e.isModel = d.isModel := by
  cases h with
  | object => rfl
  | type h => cases h <;> rfl

/-- The definitions of models that are not left out are in the table. -/
theorem Building.mem_names_iff (b : Building options definitions left ignored models first)
    (distinct : (definitions.map Prod.fst).Nodup) {n : String} {d : Definition}
    (mem : (n, d) ∈ definitions) : n ∈ left.names ↔ d.isModel = true ∧ n ∉ ignored := by
  rw [b.names_eq, mem_arranged, modelNames, List.mem_map]
  simp only [List.mem_filter, Bool.and_eq_true, Bool.not_eq_true', ← Bool.not_eq_true,
    List.contains_iff_mem]
  constructor
  · rintro ⟨⟨n, e⟩, ⟨there, model⟩, rfl⟩
    obtain ⟨-, rfl⟩ := Prod.mk.inj (List.inj_on_of_nodup_map distinct there mem rfl)
    exact model
  · exact fun model => ⟨(n, d), ⟨mem, model⟩, rfl⟩

/-- A name that stays is paired with itself. -/
theorem paired_of_fixed {graph : Schema.Graph} {F : Types.Field → Types.Field → Prop} {name : String}
    {d : Definition} {lost : List ObjectType}
    (naming : IsNaming graph definitions others ρ F name d lost)
    (b : Building options definitions left ignored models first)
    (b' : Building options others right ignored models' first')
    (distinct : (definitions.map Prod.fst).Nodup) (distinct' : (others.map Prod.fst).Nodup)
    {n : String} (known : n ∈ definitions.map Prod.fst) (fixed : ρ n = n) :
    Paired ρ (definitions.map Prod.fst) left right n n := by
  refine ⟨known, fixed, ?_⟩
  obtain ⟨⟨n, d⟩, mem, rfl⟩ := List.mem_map.mp known
  obtain ⟨e, mem', follows⟩ := naming.definitions _ mem
  dsimp only at fixed mem'
  rw [fixed] at mem'
  rw [b.mem_names_iff distinct mem, b'.mem_names_iff distinct' mem', isModel_of_follows follows]

end

end WireModel.Table
