import WireModel.Proofs.Types.ExtractedEntries

/-!
# The resolution where a schema has a name

Two resolutions are compared: of the schemas of a document, and of those where the schema of a
property has a name. The entries of the first one become entries for the other document, with the
names that models had before (`Derived.extracted`), and derivations for one document differ by names
only (`Derived.determined`). So there is a renaming of synthesized models that takes each definition
to one that is the same but for the fields of the property (`IsNaming`); the model that was made at
the property, if there was one, takes the name of the schema.
-/

namespace WireModel.Types

open Schema

/-! ## Definitions -/

/-- The same types under a renaming, where discriminators complete the same entries. -/
abbrev WireType.Follows (ρ : String → String) : WireType → WireType → Prop :=
  WireType.Matches (fun a b => ρ a = b) (Completed fun a b => ρ a = b)

/-- A field with another type, renamed. -/
def Field.Follows (F : Field → Field → Prop) (ρ : String → String) (f g : Field) : Prop :=
  ∃ h, F f h ∧ h.Matches (fun a b => ρ a = b) (Completed fun a b => ρ a = b) g

/-- A definition whose fields may have other types, renamed. -/
inductive Definition.Follows (F : Field → Field → Prop) (ρ : String → String) :
    Definition → Definition → Prop
  | object {o p} : List.Forall₂ (Field.Follows F ρ) o.fields p.fields →
      Completed (fun a b => ρ a = b) o.discriminator p.discriminator →
      Follows F ρ (.object o) (.object p)
  | type {t u} : t.Follows ρ u → Follows F ρ (.type t) (.type u)

/-- A renaming that takes the definitions of one document to those of another one in which a
schema has the name `name` and the meaning `d`. It keeps the names of schemas, and gives the new name
to the models that are lost. -/
structure IsNaming (graph : Graph) (definitions others : List (String × Definition))
    (ρ : String → String) (F : Field → Field → Prop) (name : String) (d : Definition)
    (lost : List ObjectType) : Prop where
  fixed : ∀ n, graph.contains n = true → ρ n = n
  kept : ρ name = name
  injective : Set.InjOn ρ {n | n ∈ definitions.map Prod.fst}
  definitions : ∀ p ∈ definitions, ∃ e, (ρ p.1, e) ∈ others ∧ p.2.Follows F ρ e
  named : ∃ e, (name, e) ∈ others ∧ d.Follows F ρ e
  lost : ∀ o ∈ lost, ρ o.name = name

variable {F : Field → Field → Prop} {ρ : String → String}

theorem Definition.Follows.of_object {o o' p : ObjectType} {R : String → String → Prop}
    (fields : List.Forall₂ F o.fields o'.fields) (discriminator : o'.discriminator = o.discriminator)
    (h : o'.Matches R (Completed R) p) (names : ∀ a b, R a b → ρ a = b) :
    (Definition.object o).Follows F ρ (.object p) := by
  have renamed := h.imp names fun _ _ same => same.imp names
  refine .object (forall₂_comp fields renamed.fields) ?_
  rw [← discriminator]
  exact renamed.discriminator

theorem Definition.Retyped.follows {d d' e : Definition} {R : String → String → Prop}
    (h : d.Retyped F d') (h' : d'.Matches R (Completed R) e) (names : ∀ a b, R a b → ρ a = b) :
    d.Follows F ρ e := by
  cases h with
  | object h =>
    cases h' with
    | object h' => exact .of_object h.fields h.discriminator h' names
  | type =>
    cases h' with
    | type h' => exact .type (h'.imp names fun _ _ same => same.imp names)

/-! ## Derivations for one document -/

/-- Declared names stay, and models that are made at the same places are counterparts. -/
def Counterparts (graph : Graph) (entries others : List Entry) (a b : String) : Prop :=
  graph.contains a = true ∧ a = b ∨ (a, b) ∈ counterparts entries others

theorem Derived.exists_counterpart {graph : Graph} {definitions : List (String × Definition)}
    {entries others : List Entry} {hoisted : List ObjectType}
    (distinct : (graph.definitions.map Prod.fst).Nodup) (derived : Derived graph [] [] entries)
    (r : Resolution graph definitions others hoisted) :
    ∀ e ∈ entries, ∃ f ∈ others, f.name = e.name ∧
      e.Matches (Counterparts graph entries others) (Completed (Counterparts graph entries others))
        f := by
  have agreement : Agreement graph graph (Counterparts graph entries others)
      (Completed (Counterparts graph entries others)) :=
    ⟨⟨.refl _, distinct⟩, fun _ there => .inl ⟨there, rfl⟩, .same, fun _ _ _ _ all => .present all,
      fun _ _ => .same⟩
  intro e mem
  obtain ⟨f, mem', same⟩ := r.exists_entry (derived.declared e mem)
  refine ⟨f, mem', same, derived.determined agreement r.derived ?_ e mem f mem' same⟩
  intro e mem f mem' same counted
  refine List.forall₂_iff_zip.mpr ⟨counted, fun pair => .inr ?_⟩
  exact mem_counterparts r.derived.names_nodup mem mem' same pair

/-! ## The renaming -/

section

variable {graph other : Graph} {owner property name : String} {schema : Node} {d : Definition}
  {definitions others : List (String × Definition)} {entries entries' entries₂ : List Entry}
  {lost hoisted hoisted₂ : List ObjectType}

/-- The names of the models at the same places; those that are lost take the name of the schema. -/
def namingPairs (name : String) (entries' entries₂ : List Entry) (lost : List ObjectType) :
    List (String × String) :=
  counterparts entries' entries₂ ++ lost.map fun o => (o.name, name)

theorem Rederived.names_perm (red : Rederived F other name d entries entries' lost)
    (h : graph.Extracts other owner property name schema)
    (complete : ∀ n ∈ graph.definitions.map Prod.fst, ∃ e ∈ entries, e.name = n) :
    (entries'.map Entry.name).Perm (other.definitions.map Prod.fst) := by
  refine (List.perm_ext_iff_of_nodup red.derived.names_nodup h.distinct_other).mpr fun n => ?_
  constructor
  · intro mem
    obtain ⟨e, there, rfl⟩ := List.mem_map.mp mem
    exact red.derived.declared e there
  · intro mem
    rcases List.mem_cons.mp (h.names_perm.mem_iff.mp mem) with rfl | mem
    · obtain ⟨e', there, same, -⟩ := red.named
      exact List.mem_map.mpr ⟨e', there, same⟩
    · obtain ⟨e, there, rfl⟩ := complete n mem
      obtain ⟨e', there', same, -⟩ := red.meaning e there
      exact List.mem_map.mpr ⟨e', there', same⟩

theorem Rederived.naming_perm (red : Rederived F other name d entries entries' lost)
    (distinct : (other.definitions.map Prod.fst).Nodup)
    (names : (entries'.map Entry.name).Perm (other.definitions.map Prod.fst))
    (r' : Resolution other others entries₂ hoisted₂) :
    ((namingPairs name entries' entries₂ lost).map Prod.fst).Perm
        ((entries.flatMap Entry.own).map ObjectType.name) ∧
      ((namingPairs name entries' entries₂ lost).map Prod.snd).Perm
        ((entries₂.flatMap Entry.own).map ObjectType.name ++ lost.map fun _ => name) := by
  have counted : ∀ e ∈ entries', e.own.length = (ownIn entries₂ e.name).length := by
    intro e mem
    obtain ⟨f, mem', same, matched⟩ := red.derived.exists_counterpart distinct r' e mem
    rw [← same, ownIn_of_mem r'.derived.names_nodup mem', matched.own.length_eq]
  obtain ⟨first, second⟩ := counterparts_unzip r'.derived.names_nodup
    (names.trans (r'.names_perm distinct).symm) counted
  obtain ⟨kept, perm, retyped⟩ := red.own
  have keptNames : kept.map ObjectType.name = (entries'.flatMap Entry.own).map ObjectType.name :=
    map_eq_map_of_forall₂ retyped fun _ _ same => same.name.symm
  rw [namingPairs, List.map_append, List.map_append, List.map_map, List.map_map]
  constructor
  · rw [first, ← keptNames]
    refine .trans (.of_eq ?_) (perm.map _).symm
    rw [List.map_append]
    rfl
  · exact second.append_right _

theorem Stands.nodup_lost {t u : WireType} (h : Stands name t u d lost) :
    (lost.map fun _ => name).Nodup := by
  cases h <;> simp

/-- A model that is lost has the fields of the schema under its name. -/
theorem Stands.eq_of_mem_lost {t u : WireType} {o : ObjectType} (h : Stands name t u d lost)
    (mem : o ∈ lost) : d = .object { o with name := name } := by
  cases h with
  | object =>
    rw [List.mem_singleton.mp mem]
  | _ => cases mem

/-- Every definition of the first resolution is there in the second one. -/
theorem Rederived.exists_definition (red : Rederived F other name d entries entries' lost)
    (distinct : (other.definitions.map Prod.fst).Nodup)
    (r : Resolution graph definitions entries hoisted)
    (r' : Resolution other others entries₂ hoisted₂)
    (names : ∀ a b, Counterparts other entries' entries₂ a b → ρ a = b)
    (fixed : ∀ n, graph.contains n = true → ρ n = n)
    (others' : ∀ o ∈ lost, ∃ e, (ρ o.name, e) ∈ others ∧ (Definition.object o).Follows F ρ e) :
    ∀ p ∈ definitions, ∃ e, (ρ p.1, e) ∈ others ∧ p.2.Follows F ρ e := by
  have all := red.derived.exists_counterpart distinct r'
  intro p mem
  rcases r.mem_cases mem with ⟨e, there, rfl⟩ | ⟨e, there, o, own, rfl⟩
  · obtain ⟨e', there', same, retyped⟩ := red.meaning e there
    obtain ⟨f, mem', same', matched⟩ := all e' there'
    refine ⟨f.meaning, ?_, retyped.follows matched.meaning names⟩
    have declared := fixed e.name (contains_iff.mpr (r.derived.declared e there))
    have found := r'.pair_mem mem'
    rw [Entry.pair, same', same, ← declared] at found
    exact found
  · obtain ⟨kept, perm, retyped⟩ := red.own
    have mem := perm.mem_iff.mp (List.mem_flatMap.mpr ⟨e, there, own⟩)
    rcases List.mem_append.mp mem with mem | mem
    · obtain ⟨o', there', same⟩ := exists_right_of_forall₂ retyped mem
      obtain ⟨e', mem', own'⟩ := List.mem_flatMap.mp there'
      obtain ⟨f, there, -, matched⟩ := all e' mem'
      obtain ⟨p, own, matched⟩ := exists_right_of_forall₂ matched.own own'
      refine ⟨.object p, ?_, .of_object same.fields same.discriminator matched names⟩
      have found := r'.own_mem there own
      rw [ObjectType.pair, ← names _ _ matched.name, same.name] at found
      exact found
    · exact others' o mem

/-- What a schema is under its name is there in the second resolution. -/
theorem Rederived.exists_named (red : Rederived F other name d entries entries' lost)
    (distinct : (other.definitions.map Prod.fst).Nodup)
    (r' : Resolution other others entries₂ hoisted₂)
    (names : ∀ a b, Counterparts other entries' entries₂ a b → ρ a = b) :
    ∃ e, (name, e) ∈ others ∧ d.Follows F ρ e := by
  obtain ⟨e', there, same, retyped⟩ := red.named
  obtain ⟨f, mem, same', matched⟩ := red.derived.exists_counterpart distinct r' e' there
  refine ⟨f.meaning, ?_, retyped.follows matched.meaning names⟩
  have found := r'.pair_mem mem
  rwa [Entry.pair, same', same] at found

theorem Definition.Follows.congr {o p : ObjectType} {e : Definition}
    (h : (Definition.object o).Follows F ρ e) (fields : p.fields = o.fields)
    (discriminator : p.discriminator = o.discriminator) :
    (Definition.object p).Follows F ρ e := by
  cases h with
  | object all same => exact .object (fields ▸ all) (discriminator ▸ same)

/-- The models that two resolutions make at the same places are named after each other. -/
theorem Resolution.exists_naming (h : graph.Extracts other owner property name schema)
    (nameable : Nameable graph schema) (r : Resolution graph definitions entries hoisted)
    (r' : Resolution other others entries₂ hoisted₂) (unused : name ∉ definitions.map Prod.fst) :
    ∃ ρ t d lost, Stands name t (namedType name schema t) d lost ∧
      IsNaming graph definitions others ρ (Field.Named property name schema t) name d lost := by
  have complete : ∀ n ∈ graph.definitions.map Prod.fst, ∃ e ∈ entries, e.name = n :=
    fun n there => r.exists_entry there
  obtain ⟨t, d, lost, entries', stands, red⟩ := r.derived.extracted h nameable complete
  have added : ∀ n ∈ (entries.flatMap Entry.own).map ObjectType.name,
      n ∈ synthesized graph definitions := fun n => (r.mem_synthesized_iff h.distinct).mpr
  have added' : ∀ n ∈ (entries₂.flatMap Entry.own).map ObjectType.name,
      n ∈ synthesized other others := fun n => (r'.mem_synthesized_iff h.distinct_other).mpr
  obtain ⟨first, second⟩ := red.naming_perm h.distinct_other (red.names_perm h complete) r'
  have firsts := first.nodup_iff.mpr (r.own_nodup h.distinct)
  have seconds : ((namingPairs name entries' entries₂ lost).map Prod.snd).Nodup := by
    refine second.nodup_iff.mpr (List.nodup_append.mpr
      ⟨r'.own_nodup h.distinct_other, stands.nodup_lost, ?_⟩)
    rintro a own b mem rfl
    obtain ⟨o, -, rfl⟩ := List.mem_map.mp mem
    exact (added' _ own).2 (h.names_perm.mem_iff.mpr List.mem_cons_self)
  have fixed : ∀ n, graph.contains n = true →
      follow (namingPairs name entries' entries₂ lost) n = n := fun n there =>
    follow_of_not_mem fun mem => (added n (first.mem_iff.mp mem)).2 (contains_iff.mp there)
  have kept : follow (namingPairs name entries' entries₂ lost) name = name :=
    follow_of_not_mem fun mem => unused (added name (first.mem_iff.mp mem)).1
  have names : ∀ a b, Counterparts other entries' entries₂ a b →
      follow (namingPairs name entries' entries₂ lost) a = b := by
    rintro a b (⟨there, rfl⟩ | pair)
    · rcases h.contains_other_iff.mp there with rfl | there
      · exact kept
      · exact fixed a there
    · exact follow_of_mem firsts (List.mem_append_left _ pair)
  have takes : ∀ o ∈ lost, follow (namingPairs name entries' entries₂ lost) o.name = name :=
    fun o mem => follow_of_mem firsts (List.mem_append_right _ (List.mem_map.mpr ⟨o, mem, rfl⟩))
  have named := red.exists_named h.distinct_other r' names
  refine ⟨follow (namingPairs name entries' entries₂ lost), t, d, lost, stands, fixed, kept,
    injOn_follow firsts seconds ?_, ?_, named, takes⟩
  · intro n mem absent there
    rcases List.mem_append.mp (second.mem_iff.mp there) with own | lost
    · refine (added' n own).2 (h.names_perm.mem_iff.mpr (List.mem_cons_of_mem _ ?_))
      by_contra synthesized
      exact absent (first.mem_iff.mpr ((r.mem_synthesized_iff h.distinct).mp ⟨mem, synthesized⟩))
    · obtain ⟨o, -, rfl⟩ := List.mem_map.mp lost
      exact unused mem
  · refine red.exists_definition h.distinct_other r r' names fixed fun o mem => ?_
    obtain ⟨e, there, follows⟩ := named
    rw [takes o mem]
    refine ⟨e, there, ?_⟩
    rw [stands.eq_of_mem_lost mem] at follows
    exact follows.congr rfl rfl

end

end WireModel.Types
