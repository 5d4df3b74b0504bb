import Mathlib.Data.List.Flatten
import WireModel.Proofs.Types.Completeness
import WireModel.Proofs.Types.Determinism

/-!
# Resolutions in two orders

Schemas that are declared in another order resolve to the same types, names of synthesized models
aside. Which of two models gets a name without a suffix depends on the order, so the renaming is
not a matter of names: it pairs the models that are made at the same places of the same schemas.

Two resolutions are compared by their entries, which need not be in the same order. Each entry is
derived from those behind it, so this is an induction on one list, with the whole other list at
hand.
-/

namespace WireModel.Types

open Schema

/-! ## Entries with the same name -/

/-- An entry has its meaning by the meanings of other entries. -/
theorem Derived.exists_definition {graph : Graph} {active : List String} {entries : List Entry}
    (h : Derived graph active [] entries) {e : Entry} (mem : e ∈ entries) :
    ∃ node known, graph.get? e.name = some node ∧
      DefinitionOf graph known e.name node e.meaning e.own ∧
      ∀ name d, known name = some d → ∃ f ∈ entries, f.name = name ∧ f.meaning = d := by
  induction h with
  | nil => cases mem
  | @cons first node entries _ _ _ found meaning ih =>
    rcases List.mem_cons.mp mem with rfl | mem
    · refine ⟨node, _, found, meaning, fun name d known => ?_⟩
      rw [List.append_nil] at known
      obtain ⟨f, there, eq⟩ := exists_entry_of_knownIn known
      exact ⟨f, List.mem_cons_of_mem _ there, eq⟩
    · obtain ⟨node, known, found, meaning, others⟩ := ih mem
      refine ⟨node, known, found, meaning, fun name d known => ?_⟩
      obtain ⟨f, there, eq⟩ := others name d known
      exact ⟨f, List.mem_cons_of_mem _ there, eq⟩

/-- What two resolutions say of a schema, where names of models are related by `R`. -/
structure Entry.Matches (R : String → String → Prop) (D : DiscriminatorRel) (e f : Entry) :
    Prop where
  meaning : e.meaning.Matches R D f.meaning
  own : List.Forall₂ (ObjectType.Matches R D) e.own f.own

/-- Entries with the same name match if `R` relates the models at the same places. -/
theorem Derived.determined {graph other : Graph} {entries others : List Entry}
    {R : String → String → Prop} {D : DiscriminatorRel} (agreement : Agreement graph other R D)
    (derived : Derived graph [] [] entries) (derived' : Derived other [] [] others)
    (places : ∀ e ∈ entries, ∀ f ∈ others, f.name = e.name → e.own.length = f.own.length →
      List.Forall₂ (fun o p => R o.name p.name) e.own f.own) :
    ∀ e ∈ entries, ∀ f ∈ others, f.name = e.name → e.Matches R D f := by
  induction derived with
  | nil => nofun
  | @cons e node entries _ _ _ found meaning ih =>
    obtain ⟨here, places⟩ := List.forall_mem_cons.mp places
    have ih := ih places
    refine List.forall_mem_cons.mpr ⟨fun f mem same => ?_, ih⟩
    obtain ⟨node', known, found', meaning', others⟩ := derived'.exists_definition mem
    rw [same, agreement.reorders.get?_eq, found] at found'
    cases found'
    rw [same] at meaning'
    have rel : Related graph other (knownIn (entries.map Entry.pair ++ [])) known R D := by
      refine ⟨agreement, fun name d d' meant meant' => ?_⟩
      rw [List.append_nil] at meant
      obtain ⟨g, there, rfl, rfl⟩ := exists_entry_of_knownIn meant
      obtain ⟨g', there', eq, rfl⟩ := others _ _ meant'
      exact (ih g there g' there' eq).meaning
    have there : graph.contains e.name = true := by
      rw [Graph.contains, found]
      rfl
    obtain ⟨same', all⟩ := meaning.determined rel there meaning'
    obtain ⟨meanings, own⟩ := all (here f mem same same')
    exact ⟨meanings, own⟩

/-! ## What a resolution holds -/

/-- The names that a resolution adds to those of the schemas. -/
def synthesized (graph : Graph) (definitions : List (String × Definition)) : Set String :=
  {name | name ∈ definitions.map Prod.fst ∧ name ∉ graph.definitions.map Prod.fst}

namespace Resolution

variable {graph : Graph} {definitions : List (String × Definition)} {entries : List Entry}
  {hoisted : List ObjectType}

theorem exists_entry (r : Resolution graph definitions entries hoisted) {name : String}
    (declared : name ∈ graph.definitions.map Prod.fst) : ∃ e ∈ entries, e.name = name := by
  obtain ⟨named, -, all⟩ := r.definitions
  obtain ⟨p, mem, rfl⟩ := List.mem_map.mp declared
  obtain ⟨result, -, -, known⟩ := exists_right_of_forall₂ all mem
  obtain ⟨e, there, same, -⟩ := exists_entry_of_knownIn known
  exact ⟨e, there, same⟩

theorem names_perm (r : Resolution graph definitions entries hoisted)
    (distinct : (graph.definitions.map Prod.fst).Nodup) :
    (entries.map Entry.name).Perm (graph.definitions.map Prod.fst) := by
  refine (List.perm_ext_iff_of_nodup r.derived.names_nodup distinct).mpr fun name => ⟨?_, ?_⟩
  · intro mem
    obtain ⟨e, there, rfl⟩ := List.mem_map.mp mem
    exact r.derived.declared e there
  · intro mem
    obtain ⟨e, there, rfl⟩ := r.exists_entry mem
    exact List.mem_map.mpr ⟨e, there, rfl⟩

theorem map_fst (r : Resolution graph definitions entries hoisted) :
    definitions.map Prod.fst =
      graph.definitions.map Prod.fst ++ hoisted.map ObjectType.name := by
  obtain ⟨named, eq, all⟩ := r.definitions
  have names : graph.definitions.map Prod.fst = named.map Prod.fst :=
    map_eq_map_of_forall₂ all fun _ _ same => same.1.symm
  rw [eq, List.map_append, List.map_map, names]
  rfl

theorem nodup (r : Resolution graph definitions entries hoisted)
    (distinct : (graph.definitions.map Prod.fst).Nodup) : (definitions.map Prod.fst).Nodup := by
  rw [r.map_fst]
  exact List.nodup_append_comm.mp (r.distinct distinct)

theorem own_perm (r : Resolution graph definitions entries hoisted) :
    (hoisted.map ObjectType.name).Perm ((entries.flatMap Entry.own).map ObjectType.name) :=
  r.made.map _

theorem mem_synthesized_iff (r : Resolution graph definitions entries hoisted)
    (distinct : (graph.definitions.map Prod.fst).Nodup) {name : String} :
    name ∈ synthesized graph definitions ↔
      name ∈ (entries.flatMap Entry.own).map ObjectType.name := by
  change name ∈ definitions.map Prod.fst ∧ name ∉ graph.definitions.map Prod.fst ↔ _
  rw [r.map_fst, List.mem_append, ← r.own_perm.mem_iff]
  refine ⟨fun h => h.1.resolve_left h.2, fun mem => ⟨.inr mem, fun declared => ?_⟩⟩
  exact (List.nodup_append.mp (r.distinct distinct)).2.2 name mem name declared rfl

theorem own_nodup (r : Resolution graph definitions entries hoisted)
    (distinct : (graph.definitions.map Prod.fst).Nodup) :
    ((entries.flatMap Entry.own).map ObjectType.name).Nodup :=
  r.own_perm.nodup_iff.mp (List.nodup_append.mp (r.distinct distinct)).1

theorem pair_mem (r : Resolution graph definitions entries hoisted) {e : Entry}
    (mem : e ∈ entries) : e.pair ∈ definitions := by
  obtain ⟨named, eq, all⟩ := r.definitions
  obtain ⟨p, there, same⟩ := List.mem_map.mp (r.derived.declared e mem)
  obtain ⟨result, found, name, known⟩ := exists_right_of_forall₂ all there
  have distinct : ((entries.map Entry.pair).map Prod.fst).Nodup := by
    rw [List.map_map]
    exact r.derived.names_nodup
  have meant := (lookup_eq_some_iff_mem distinct).mpr (List.mem_map.mpr ⟨e, mem, rfl⟩)
  rw [knownIn, same, meant] at known
  have whole : result = e.pair := Prod.ext (name.trans same) (Option.some.inj known).symm
  rw [eq, ← whole]
  exact List.mem_append_left _ found

theorem own_mem (r : Resolution graph definitions entries hoisted) {e : Entry}
    (mem : e ∈ entries) {o : ObjectType} (own : o ∈ e.own) : o.pair ∈ definitions := by
  obtain ⟨named, eq, -⟩ := r.definitions
  rw [eq]
  refine List.mem_append_right _ (List.mem_map.mpr ⟨o, ?_, rfl⟩)
  exact r.made.mem_iff.mpr (List.mem_flatMap.mpr ⟨e, mem, own⟩)

theorem mem_cases (r : Resolution graph definitions entries hoisted) {p : String × Definition}
    (mem : p ∈ definitions) :
    (∃ e ∈ entries, e.pair = p) ∨ ∃ e ∈ entries, ∃ o ∈ e.own, o.pair = p := by
  obtain ⟨named, eq, all⟩ := r.definitions
  rw [eq] at mem
  rcases List.mem_append.mp mem with named | added
  · obtain ⟨q, -, name, known⟩ := exists_left_of_forall₂ all named
    obtain ⟨e, there, same, meaning⟩ := exists_entry_of_knownIn known
    refine .inl ⟨e, there, ?_⟩
    rw [Entry.pair, same, meaning, ← name]
  · obtain ⟨o, made, rfl⟩ := List.mem_map.mp added
    obtain ⟨e, there, own⟩ := List.mem_flatMap.mp (r.made.mem_iff.mp made)
    exact .inr ⟨e, there, o, own, rfl⟩

end Resolution

/-! ## The renaming -/

/-- The models made inside of a named schema. -/
def ownIn (entries : List Entry) (name : String) : List ObjectType :=
  ((entries.find? (·.name == name)).map Entry.own).getD []

/-- The names of models that are made at the same places. -/
def counterparts (entries others : List Entry) : List (String × String) :=
  entries.flatMap fun e =>
    (e.own.map ObjectType.name).zip ((ownIn others e.name).map ObjectType.name)

theorem ownIn_of_mem {entries : List Entry} (distinct : (entries.map Entry.name).Nodup)
    {e : Entry} (mem : e ∈ entries) : ownIn entries e.name = e.own := by
  have there : (entries.find? (·.name == e.name)).isSome :=
    List.find?_isSome.mpr ⟨e, mem, beq_self_eq_true _⟩
  obtain ⟨f, found⟩ := Option.isSome_iff_exists.mp there
  have same : f = e :=
    List.inj_on_of_nodup_map distinct (List.mem_of_find?_eq_some found) mem
      (by simpa using List.find?_some found)
  rw [ownIn, found, same]
  rfl

theorem counterparts_firsts {entries others : List Entry} :
    ((counterparts entries others).map Prod.fst).Sublist
      ((entries.flatMap Entry.own).map ObjectType.name) := by
  rw [counterparts, List.map_flatMap, List.map_flatMap]
  exact List.Sublist.flatMap_right _ fun _ _ => map_fst_zip_sublist

/-- Models at the same place of the same schema are counterparts. -/
theorem mem_counterparts {entries others : List Entry}
    (distinct : (others.map Entry.name).Nodup) {e f : Entry} (mem : e ∈ entries)
    (mem' : f ∈ others) (name : f.name = e.name) {o p : ObjectType}
    (pair : (o, p) ∈ e.own.zip f.own) : (o.name, p.name) ∈ counterparts entries others := by
  refine List.mem_flatMap.mpr ⟨e, mem, ?_⟩
  rw [← name, ownIn_of_mem distinct mem', List.zip_map]
  exact List.mem_map.mpr ⟨(o, p), pair, rfl⟩

/-- If as many models are made on both sides, each has a counterpart. -/
theorem counterparts_unzip {entries others : List Entry}
    (distinct : (others.map Entry.name).Nodup)
    (names : (entries.map Entry.name).Perm (others.map Entry.name))
    (same : ∀ e ∈ entries, e.own.length = (ownIn others e.name).length) :
    (counterparts entries others).map Prod.fst =
        (entries.flatMap Entry.own).map ObjectType.name ∧
      ((counterparts entries others).map Prod.snd).Perm
        ((others.flatMap Entry.own).map ObjectType.name) := by
  have all : others.flatMap Entry.own = (others.map Entry.name).flatMap (ownIn others) := by
    rw [List.flatMap_map]
    exact List.flatMap_congr fun f mem => (ownIn_of_mem distinct mem).symm
  rw [counterparts, List.map_flatMap, List.map_flatMap, List.map_flatMap]
  constructor
  · refine List.flatMap_congr fun e mem => List.map_fst_zip ?_
    rw [List.length_map, List.length_map, same e mem]
  · refine .trans ?_ ((names.flatMap_right (ownIn others)).map _ |>.trans (by rw [all]))
    rw [List.flatMap_map, List.map_flatMap]
    refine .of_eq (List.flatMap_congr fun e mem => List.map_snd_zip ?_)
    rw [List.length_map, List.length_map, same e mem]

/-- A renaming of the models that a resolution of certain schemas adds, one to one and of nothing
else, which takes each definition of this resolution to a related one of another resolution. -/
structure IsRenaming (graph : Graph) (definitions others : List (String × Definition))
    (ρ : String → String) (Same : Definition → Definition → Prop) : Prop where
  fixed : ∀ name ∉ synthesized graph definitions, ρ name = name
  bijective : Set.BijOn ρ (synthesized graph definitions) (synthesized graph others)
  definitions : ∀ p ∈ definitions, ∃ d, (ρ p.1, d) ∈ others ∧ Same p.2 d

theorem Reorders.synthesized_eq {graph other : Graph} (h : Reorders graph other) :
    synthesized other = synthesized graph := by
  funext definitions
  ext name
  change _ ∧ name ∉ _ ↔ _ ∧ name ∉ _
  rw [(h.perm.map Prod.fst).mem_iff]

/-- Where as many models are made of each schema, the models of two orders correspond one to one. -/
theorem Resolution.follow_bijOn {graph other : Graph}
    {definitions others : List (String × Definition)} {entries entries' : List Entry}
    {hoisted hoisted' : List ObjectType} (h : Reorders graph other)
    (r : Resolution graph definitions entries hoisted)
    (r' : Resolution other others entries' hoisted')
    (same : ∀ e ∈ entries, e.own.length = (ownIn entries' e.name).length) :
    Set.BijOn (follow (counterparts entries entries')) (synthesized graph definitions)
      (synthesized graph others) := by
  have names := (r.names_perm h.distinct).trans
    ((h.perm.map Prod.fst).symm.trans (r'.names_perm h.distinct_other).symm)
  obtain ⟨first, second⟩ := counterparts_unzip r'.derived.names_nodup names same
  have bijective := WireModel.follow_bijOn
    ((r.own_nodup h.distinct).sublist counterparts_firsts)
    (second.nodup_iff.mpr (r'.own_nodup h.distinct_other))
  have domain : synthesized graph definitions =
      {a | a ∈ (counterparts entries entries').map Prod.fst} := by
    ext name
    rw [r.mem_synthesized_iff h.distinct, ← first]
    rfl
  have range : synthesized graph others =
      {b | b ∈ (counterparts entries entries').map Prod.snd} := by
    ext name
    rw [← h.synthesized_eq, r'.mem_synthesized_iff h.distinct_other, ← second.mem_iff]
    rfl
  rwa [domain, range]

/-- The renaming takes each model to the one at the same place. Two derivations of one schema make
their models in the same order, so places are positions. -/
theorem Resolution.isRenaming {graph other : Graph} {definitions others : List (String × Definition)}
    {entries entries' : List Entry} {hoisted hoisted' : List ObjectType} (h : Reorders graph other)
    (r : Resolution graph definitions entries hoisted)
    (r' : Resolution other others entries' hoisted') {ρ : String → String}
    (hρ : ρ = follow (counterparts entries entries')) :
    IsRenaming graph definitions others ρ
      (Definition.Matches (fun a b => ρ a = b) (Completions fun a b => ρ a = b)) := by
  have firsts : ((counterparts entries entries').map Prod.fst).Nodup :=
    (r.own_nodup h.distinct).sublist counterparts_firsts
  have fixed : ∀ name ∉ synthesized graph definitions, ρ name = name := by
    intro name absent
    rw [hρ]
    refine follow_of_not_mem fun mem => absent ?_
    exact (r.mem_synthesized_iff h.distinct).mpr (counterparts_firsts.subset mem)
  have declared : ∀ name ∈ graph.definitions.map Prod.fst, ρ name = name :=
    fun name there => fixed name fun added => added.2 there
  have distinct' := r'.derived.names_nodup
  have places : ∀ e ∈ entries, ∀ f ∈ entries', f.name = e.name → e.own.length = f.own.length →
      List.Forall₂ (fun o p => ρ o.name = p.name) e.own f.own := by
    intro e mem f mem' name same
    refine List.forall₂_iff_zip.mpr ⟨same, fun {o p} pair => ?_⟩
    rw [hρ]
    exact follow_of_mem firsts (mem_counterparts distinct' mem mem' name pair)
  have all : ∀ e ∈ entries, ∃ f ∈ entries', f.name = e.name ∧
      e.Matches (fun a b => ρ a = b) (Completions fun a b => ρ a = b) f := by
    intro e mem
    have there := (h.perm.map Prod.fst).mem_iff.mpr (r.derived.declared e mem)
    obtain ⟨f, mem', same⟩ := r'.exists_entry there
    refine ⟨f, mem', same, ?_⟩
    have agreement := Completions.agreement (R := fun a b => ρ a = b) h fun n here =>
      declared n (contains_iff.mp here)
    exact r.derived.determined agreement r'.derived places e mem f mem' same
  refine ⟨fixed, ?_, fun p mem => ?_⟩
  · have same : ∀ e ∈ entries, e.own.length = (ownIn entries' e.name).length := by
      intro e mem
      obtain ⟨f, mem', name, matched⟩ := all e mem
      rw [← name, ownIn_of_mem distinct' mem', matched.own.length_eq]
    rw [hρ]
    exact r.follow_bijOn h r' same
  · rcases r.mem_cases mem with ⟨e, there, rfl⟩ | ⟨e, there, o, own, rfl⟩
    · obtain ⟨f, mem', name, matched⟩ := all e there
      refine ⟨f.meaning, ?_, matched.meaning⟩
      have here := declared e.name (r.derived.declared e there)
      have found := r'.pair_mem mem'
      rwa [Entry.pair, name, ← here] at found
    · obtain ⟨f, mem', -, matched⟩ := all e there
      obtain ⟨p, mem'', same⟩ := exists_right_of_forall₂ matched.own own
      refine ⟨.object p, ?_, .object same⟩
      have found := r'.own_mem mem' mem''
      rwa [ObjectType.pair, ← same.name] at found

/-! ## Declaration orders -/

/-- The models that discriminators lead to keep their names. -/
def KeepsTargets (ρ : String → String) (definitions : List (String × Definition)) : Prop :=
  ∀ p ∈ definitions, ∀ d, p.2.Carries d → ∀ entry ∈ d.mapping, ρ entry.2 = entry.2

/-- Every discriminator has each of its tags once. -/
def TagsDistinct (definitions : List (String × Definition)) : Prop :=
  ∀ p ∈ definitions, ∀ d, p.2.Carries d → (d.mapping.map Prod.fst).Nodup

/-- Resolution succeeds in all orders of the schemas or in none. Its results in two orders differ
by a renaming of synthesized models, where a discriminator holds the same declared entries in both
and completes them by names that correspond. They are the same up to this renaming where it keeps
the models that discriminators lead to; and if every tag stands once, only there. -/
theorem resolve_of_reorders {graph other : Graph} (h : Reorders graph other) :
    (resolve other).outcome.1.isOk = (resolve graph).outcome.1.isOk ∧
      ∀ definitions others, (resolve graph).outcome.1 = .ok definitions →
        (resolve other).outcome.1 = .ok others → ∃ ρ : String → String,
          IsRenaming graph definitions others ρ
              (Definition.Matches (fun a b => ρ a = b) (Completions fun a b => ρ a = b)) ∧
            (KeepsTargets ρ definitions →
              IsRenaming graph definitions others ρ (Definition.Renamed ρ)) ∧
            (TagsDistinct definitions →
              IsRenaming graph definitions others ρ (Definition.Renamed ρ) →
                KeepsTargets ρ definitions) := by
  refine ⟨?_, fun definitions others ok ok' => ?_⟩
  · rw [Bool.eq_iff_iff]
    constructor
    · intro succeeds
      obtain ⟨others, ok⟩ := exists_of_isOk succeeds
      obtain ⟨definitions, ok'⟩ := exists_resolve_ok h.symm ok
      rw [ok']
      rfl
    · intro succeeds
      obtain ⟨definitions, ok⟩ := exists_of_isOk succeeds
      obtain ⟨others, ok'⟩ := exists_resolve_ok h ok
      rw [ok']
      rfl
  · obtain ⟨entries, hoisted, r⟩ := exists_resolution ok
    obtain ⟨entries', hoisted', r'⟩ := exists_resolution ok'
    have completed := r.isRenaming h r' rfl
    refine ⟨_, completed, fun keeps => ?_, fun distinct renamed p mem => ?_⟩
    · refine ⟨completed.fixed, completed.bijective, fun p mem => ?_⟩
      obtain ⟨d, there, same⟩ := completed.definitions p mem
      exact ⟨d, there, same.renamed (keeps p mem)⟩
    · obtain ⟨d, there, same⟩ := completed.definitions p mem
      obtain ⟨e, there', same'⟩ := renamed.definitions p mem
      have one : (_, d) = (_, e) :=
        List.inj_on_of_nodup_map (r'.nodup h.distinct_other) there there' rfl
      obtain rfl : d = e := congrArg Prod.snd one
      exact same.fixed same' (distinct p mem)

/-! ### Two objects for one name

The objects inside of `AB` and of `A` are both to be called `ABC`; the first of them gets the name.
-/

/-- A schema with an object at a property. -/
def holder (name property field : String) : String × Node :=
  let notes := Notes.at ("#/definitions/" ++ name)
  let inner := Node.object notes
    [⟨"kind", .primitive notes .string none, true⟩, ⟨field, .primitive notes .string none, false⟩]
    ["kind"] .undeclared none
  (name, .object notes [⟨property, inner, false⟩] [] .undeclared none)

/-- A schema with a discriminator that leads to some model. -/
def leader (target : String) : String × Node :=
  let notes := Notes.at "#/definitions/R"
  ("R", .object notes [⟨"kind", .primitive notes .string none, true⟩] ["kind"] .undeclared
    (some ⟨"kind", [("v", target)]⟩))

def inOrder (target : String) : Graph :=
  ⟨"", "#/definitions", "", [holder "AB" "c" "x", holder "A" "bC" "y", leader target]⟩

def swapped (target : String) : Graph :=
  ⟨"", "#/definitions", "", [holder "A" "bC" "y", holder "AB" "c" "x", leader target]⟩

theorem reorders_swapped (target : String) : Reorders (inOrder target) (swapped target) :=
  ⟨.swap _ _ _, by simp [inOrder, holder, leader]⟩

/-- What a holder resolves to. -/
def held (name property target : String) : String × Definition :=
  (name, .object ⟨name, [⟨property, .optional (.model target), none, none⟩], [], none, none⟩)

/-- What a leader resolves to. -/
def told (target : String) : String × Definition :=
  ("R", .object ⟨"R", [⟨"kind", .primitive .string none, none, none⟩], [],
    some ⟨"kind", [("v", target), ("R", "R")]⟩, none⟩)

/-- What the object at a property resolves to. -/
def made (name field : String) : String × Definition :=
  (name, .object ⟨name, [⟨"kind", .primitive .string none, none, none⟩,
    ⟨field, .optional (.primitive .string none), none, none⟩], [], none, none⟩)

def resolvedInOrder (target : String) : List (String × Definition) :=
  [held "AB" "c" "ABC", held "A" "bC" "ABC2", told target, made "ABC" "x", made "ABC2" "y"]

def resolvedSwapped (target : String) : List (String × Definition) :=
  [held "A" "bC" "ABC", held "AB" "c" "ABC2", told target, made "ABC" "y", made "ABC2" "x"]

/-- Whatever leads to the object inside of `AB`, its name is another one when the order is. -/
theorem IsRenaming.swaps {target : String} {ρ : String → String} {D : DiscriminatorRel}
    (h : IsRenaming (inOrder target) (resolvedInOrder target) (resolvedSwapped target) ρ
      (Definition.Matches (fun a b => ρ a = b) D)) : ρ "ABC" = "ABC2" := by
  have kept : ρ "AB" = "AB" := h.fixed "AB" fun added => added.2 List.mem_cons_self
  obtain ⟨d, there, same⟩ := h.definitions (held "AB" "c" "ABC") List.mem_cons_self
  have there : ("AB", d) ∈ resolvedSwapped target := kept ▸ there
  obtain rfl : d = (held "AB" "c" "ABC2").2 := by
    simpa [resolvedSwapped, held, told, made] using there
  cases same with
  | object same =>
    cases (List.forall₂_cons.mp same.fields).1.type with
    | optional same =>
      cases same with
      | model named => exact named

theorem not_carries_held {name property target : String} {d : Discriminator} :
    ¬ (held name property target).2.Carries d := by
  rintro (own | ⟨f, mem, _, _, _, part⟩)
  · cases own
  · obtain rfl := List.mem_singleton.mp mem
    cases part with
    | optional part => cases part

theorem not_carries_made {name field : String} {d : Discriminator} :
    ¬ (made name field).2.Carries d := by
  rintro (own | ⟨f, mem, _, _, _, part⟩)
  · cases own
  · rcases List.mem_pair.mp mem with rfl | rfl
    · cases part
    · cases part with
      | optional part => cases part

theorem eq_of_carries_told {target : String} {d : Discriminator}
    (carries : (told target).2.Carries d) : d = ⟨"kind", [("v", target), ("R", "R")]⟩ := by
  rcases carries with own | ⟨f, mem, _, _, _, part⟩
  · exact (Option.some.inj own).symm
  · obtain rfl := List.mem_singleton.mp mem
    cases part

/-- A discriminator that leads to a schema keeps its target, so all is the same but for the names
of the two objects. -/
theorem objects_swap_names : ∃ ρ : String → String, ρ "ABC" = "ABC2" ∧
    IsRenaming (inOrder "A") (resolvedInOrder "A") (resolvedSwapped "A") ρ
      (Definition.Renamed ρ) := by
  obtain ⟨-, all⟩ := resolve_of_reorders (reorders_swapped "A")
  obtain ⟨ρ, completed, same, -⟩ := all (resolvedInOrder "A") (resolvedSwapped "A") rfl rfl
  refine ⟨ρ, completed.swaps, same fun p mem d carries entry leads => ?_⟩
  have declared : entry.2 ∈ (inOrder "A").definitions.map Prod.fst := by
    simp only [resolvedInOrder, List.mem_cons, List.not_mem_nil, or_false] at mem
    rcases mem with rfl | rfl | rfl | rfl | rfl
    · exact absurd carries not_carries_held
    · exact absurd carries not_carries_held
    · rw [eq_of_carries_told carries] at leads
      rcases List.mem_pair.mp leads with rfl | rfl <;> simp [inOrder, holder, leader]
    · exact absurd carries not_carries_made
    · exact absurd carries not_carries_made
  exact completed.fixed _ fun added => added.2 declared

/-- A discriminator that leads to one of the two objects still leads to the same name. -/
theorem target_is_swapped : ∃ definitions others,
    Reorders (inOrder "ABC") (swapped "ABC") ∧
      (resolve (inOrder "ABC")).outcome.1 = .ok definitions ∧
      (resolve (swapped "ABC")).outcome.1 = .ok others ∧
      ∀ ρ, ¬ IsRenaming (inOrder "ABC") definitions others ρ (Definition.Renamed ρ) := by
  refine ⟨resolvedInOrder "ABC", resolvedSwapped "ABC", reorders_swapped "ABC", rfl, rfl, ?_⟩
  intro ρ h
  have kept : ρ "R" = "R" := h.fixed "R" fun added => added.2 (by simp [inOrder, holder, leader])
  obtain ⟨d, there, same⟩ := h.definitions (told "ABC") (by simp [resolvedInOrder])
  have there : ("R", d) ∈ resolvedSwapped "ABC" := kept ▸ there
  obtain rfl : d = (told "ABC").2 := by
    simpa [resolvedSwapped, held, told, made] using there
  cases same with
  | object same =>
    cases same.discriminator with
    | present entries =>
      have named := entries.mem_iff.mp (List.mem_cons_self (a := ("v", "ABC")))
      rw [List.map_cons, h.swaps] at named
      simp at named

end WireModel.Types
