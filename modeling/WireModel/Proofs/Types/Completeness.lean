import WireModel.Proofs.Types.Families
import WireModel.Proofs.Types.Soundness

/-!
# What is derived is found

If the schemas of a graph have a derivation, their resolution succeeds, in whatever order they are
declared. A derivation never asks for the meaning of a name before it has one, so neither a cycle
nor the end of the depth is met: by induction on the derivation, with the names still to come
above those that are being resolved.

Of the meanings found on the way only little matters to success: whether a name is that of an
object, and whether a type is a reference to a model.
-/

namespace WireModel.Types

open Schema

/-- Whether a type, its wrappers aside, is a reference to a model. -/
def WireType.isReference (t : WireType) : Bool :=
  match t.strip with
  | .model _ => true
  | _ => false

/-- Two definitions are the same as far as success depends on them. -/
def Definition.Agrees : Definition → Definition → Prop
  | .object _, .object _ => True
  | .type t, .type u => u.isReference = t.isReference
  | _, _ => False

/-- All that a state knows agrees with what is derived. -/
def Compatible (derived : Known) (s : Progress) : Prop :=
  ∀ name found, knownIn s.known name = some found →
    ∃ d, derived name = some d ∧ d.Agrees found

/-- A computation succeeds in all states that agree with what is derived, and leaves such. -/
def Completes {α : Type} (derived : Known) (computation : Resolve α) (P : α → Prop) : Prop :=
  ∀ s, Compatible derived s → ∃ a s', Runs computation s a s' ∧ Compatible derived s' ∧ P a

namespace Completes

variable {α β : Type} {derived : Known} {P : α → Prop} {Q : β → Prop}

theorem pure {a : α} (h : P a) : Completes derived (Pure.pure a) P :=
  fun s compatible => ⟨a, s, runs_pure_iff.mpr ⟨rfl, rfl⟩, compatible, h⟩

theorem bind {computation : Resolve α} {next : α → Resolve β} (h : Completes derived computation P)
    (h' : ∀ a, P a → Completes derived (next a) Q) : Completes derived (computation >>= next) Q := by
  intro s compatible
  obtain ⟨a, s', first, compatible, p⟩ := h s compatible
  obtain ⟨b, s'', rest, compatible, q⟩ := h' a p s' compatible
  exact ⟨b, s'', runs_bind_iff.mpr ⟨a, s', first, rest⟩, compatible, q⟩

theorem map {computation : Resolve α} {f : α → β} (h : Completes derived computation P)
    (h' : ∀ a, P a → Q (f a)) : Completes derived (do let a ← computation; Pure.pure (f a)) Q :=
  h.bind fun a p => .pure (h' a p)

theorem mapM {f : α → Resolve β} :
    ∀ {l : List α}, (∀ a ∈ l, Completes derived (f a) fun _ => True) →
      Completes derived (l.mapM f) fun _ => True
  | [], _ => by
    rw [List.mapM_nil]
    exact .pure trivial
  | a :: l, h => by
    rw [List.mapM_cons]
    refine (h a List.mem_cons_self).bind fun b _ => ?_
    exact (mapM fun a mem => h a (List.mem_cons_of_mem _ mem)).map fun _ _ => trivial

/-- A computation that leaves what is known as it was completes. -/
theorem of_known {computation : Resolve α}
    (h : ∀ s, ∃ a s', Runs computation s a s' ∧ s'.known = s.known ∧ P a) :
    Completes derived computation P := by
  intro s compatible
  obtain ⟨a, s', run, same, p⟩ := h s
  refine ⟨a, s', run, fun name found known => compatible name found ?_, p⟩
  rwa [same] at known

theorem newName {base : String} : Completes derived (Types.newName base) fun _ => True :=
  of_known fun _ => ⟨_, _, rfl, rfl, trivial⟩

theorem addHoisted {o : ObjectType} : Completes derived (Types.addHoisted o) fun _ => True :=
  of_known fun _ => ⟨_, _, rfl, rfl, trivial⟩

theorem warnAdditional {path : String} {properties : List Property} {additional : Additional} :
    Completes derived (Types.warnAdditional path properties additional) fun _ => True := by
  unfold Types.warnAdditional
  split
  · split
    · exact .pure trivial
    · exact of_known fun _ => ⟨_, _, rfl, rfl, trivial⟩
  · exact .pure trivial

end Completes

/-! ## References and unions -/

namespace WireType

theorem isReference_orNullIf {allowed : Bool} {t : WireType} :
    (t.orNullIf allowed).isReference = t.isReference := by
  cases allowed with
  | false => rfl
  | true => rw [isReference, isReference, orNullIf, if_pos rfl, strip_orNull]

/-- Null that is allowed or not makes no difference to what is a reference. -/
theorem isReference_orNullIf_congr {allowed permitted : Bool} {t u : WireType}
    (same : u.isReference = t.isReference) :
    (u.orNullIf allowed).isReference = (t.orNullIf permitted).isReference := by
  rw [isReference_orNullIf, isReference_orNullIf, same]

theorem strip_strip : ∀ {t : WireType}, t.strip.strip = t.strip
  | .optional t | .nullable t => strip_strip (t := t)
  | .primitive .. | .sequence _ | .mapping _ | .enum .. | .model _ | .union .. => rfl

theorem isReference_strip {t : WireType} : t.strip.isReference = t.isReference := by
  rw [isReference, isReference, strip_strip]

/-- A reference without wrappers names a model. -/
theorem exists_model {t : WireType} (reference : t.isReference = true) (bare : t.strip = t) :
    ∃ name, t = .model name := by
  rw [isReference, bare] at reference
  cases t <;> first | exact ⟨_, rfl⟩ | cases reference

end WireType

/-- A scope whose names mean what is derived, and where nothing known is being resolved. -/
structure Follows (scope : Scope) (graph : Graph) (known derived : Known) : Prop where
  same : ∀ name, scope.graph.get? name = graph.get? name
  inactive : ∀ name d, known name = some d → name ∉ scope.active
  meaning : ∀ name d, known name = some d → Completes derived (scope.meaning name) d.Agrees

variable {scope : Scope} {graph : Graph} {known derived : Known}

theorem reference_completes (follows : Follows scope graph known derived) {nullable : Bool}
    {target : String} {t : WireType} (h : Refers graph known nullable target t)
    (pointer location : String) :
    Completes derived (reference scope nullable pointer target location)
      fun u => u.isReference = t.isReference := by
  unfold reference
  rw [follows.same]
  cases h with
  | model found model =>
    simp only [found, model, if_true]
    exact .pure rfl
  | named found other meant =>
    have inactive : scope.active.contains target = false := by
      simpa using follows.inactive _ _ meant
    simp only [found, other, inactive, Bool.false_eq_true, if_false]
    refine (follows.meaning _ _ meant).bind fun d agrees => ?_
    cases d with
    | object o => cases agrees
    | type u => exact .pure (WireType.isReference_orNullIf_congr agrees)
  | object found other meant =>
    have inactive : scope.active.contains target = false := by
      simpa using follows.inactive _ _ meant
    simp only [found, other, inactive, Bool.false_eq_true, if_false]
    refine (follows.meaning _ _ meant).bind fun d agrees => ?_
    cases d with
    | object o => exact .pure (WireType.isReference_orNullIf_congr rfl)
    | type u => cases agrees

theorem parent_completes (follows : Follows scope graph known derived) {target : String}
    {o : ObjectType} (there : graph.contains target = true)
    (meant : known target = some (.object o)) (pointer location : String) :
    Completes derived (parent scope pointer target location) fun _ => True := by
  unfold parent
  have inactive : scope.active.contains target = false := by
    simpa using follows.inactive _ _ meant
  have there : scope.graph.contains target = true := by
    rwa [Graph.contains, follows.same]
  simp only [there, inactive, Bool.not_true, Bool.false_eq_true, if_false]
  refine (follows.meaning _ _ meant).bind fun d agrees => ?_
  cases d with
  | object o => exact .pure trivial
  | type u => cases agrees

theorem exists_names (location : String) : ∀ {variants : List WireType},
    (∀ t ∈ variants, t.isReference = true ∧ t.strip = t) → ∀ s : Progress,
      ∃ names, Runs (variants.mapM fun
        | .model name => (pure name : Resolve String)
        | _ => throw (.variantNotModel location)) s names s
  | [], _, s => ⟨[], rfl⟩
  | t :: variants, models, s => by
    obtain ⟨name, rfl⟩ :=
      WireType.exists_model (models t List.mem_cons_self).1 (models t List.mem_cons_self).2
    obtain ⟨names, run⟩ :=
      exists_names location (fun t mem => models t (List.mem_cons_of_mem _ mem)) s
    refine ⟨name :: names, ?_⟩
    simp only [List.mapM_cons, runs_bind_iff, runs_pure_iff]
    exact ⟨name, s, ⟨rfl, rfl⟩, names, s, run, rfl, rfl⟩

/-- A union of variants that agree with those of a derivation. -/
theorem unionOf_completes {notes : Notes} {mode : Combination}
    {discriminator : Option Discriminator} {name : Option String}
    {variants others : List WireType} {t : WireType}
    (h : UnionOf mode name discriminator variants t)
    (agree : others.map WireType.isReference = variants.map WireType.isReference)
    (bare : ∀ u ∈ others, u.strip = u) :
    Completes derived (unionOf notes mode discriminator name others)
      fun u => u.isReference = t.isReference := by
  have length : others.length = variants.length := by
    simpa using congrArg List.length agree
  unfold unionOf
  cases h with
  | single =>
    match others, length with
    | [u], _ => exact .pure (by simpa using agree)
  | untagged many =>
    match others, length ▸ many with
    | _ :: _ :: _, _ => exact .pure rfl
  | @tagged declared names many =>
    have many : 1 < others.length := by rw [length]; simpa using many
    have models : ∀ u ∈ others, u.isReference = true ∧ u.strip = u := by
      intro u mem
      have : u.isReference ∈ (names.map WireType.model).map WireType.isReference :=
        agree ▸ List.mem_map.mpr ⟨u, mem, rfl⟩
      refine ⟨?_, bare u mem⟩
      simp only [List.map_map, List.mem_map] at this
      obtain ⟨n, -, same⟩ := this
      exact same.symm
    match others, many with
    | u :: v :: rest, _ =>
      refine Completes.bind (P := fun _ => True) (.of_known fun s => ?_) fun d _ => .pure rfl
      obtain ⟨found, run⟩ := exists_names notes.path models s
      refine ⟨⟨declared.property, completed declared.mapping found⟩, s, ?_, rfl, trivial⟩
      simp only [unionDiscriminator, runs_bind_iff, runs_pure_iff]
      exact ⟨found, s, run, rfl, rfl⟩

/-! ## Schemas -/

mutual

theorem TypeOf.completes (follows : Follows scope graph known derived) :
    ∀ {node t own}, TypeOf graph known node t own → ∀ owner hint,
      Completes derived (typeOf scope owner hint node) fun u => u.isReference = t.isReference
  | _, _, _, .reference h, owner, hint => by
    rw [typeOf]
    exact reference_completes follows h _ _
  | _, _, _, .primitive, owner, hint => by
    rw [typeOf]
    exact .pure rfl
  | _, _, _, .enum full, owner, hint => by
    rw [typeOf, if_neg (by simpa using full)]
    exact .pure rfl
  | _, _, _, .list, owner, hint => by
    rw [typeOf]
    exact .pure rfl
  | _, _, _, .array h, owner, hint => by
    rw [typeOf]
    exact (h.completes follows owner _).map fun u _ => WireType.isReference_orNullIf_congr rfl
  | _, _, _, .dictionary other, owner, hint => by
    simp only [typeOf, List.isEmpty_nil, Option.isNone_none, Bool.and_self, if_true]
    rw [otherType]
    · exact .pure rfl
    · exact other
  | _, _, _, .mapping h, owner, hint => by
    simp only [typeOf, List.isEmpty_nil, Option.isNone_none, Bool.and_self, if_true, otherType]
    exact (h.completes follows owner _).map fun u _ => WireType.isReference_orNullIf_congr rfl
  | _, _, _, .object proper h, owner, hint => by
    rw [typeOf, if_neg (by simpa [imp_iff_not_or] using proper)]
    refine Completes.newName.bind fun name _ => ?_
    refine (h.completes follows name).bind fun fields _ => ?_
    exact Completes.warnAdditional.bind fun _ _ => Completes.addHoisted.bind fun _ _ =>
      .pure (WireType.isReference_orNullIf_congr rfl)
  | _, _, _, .wrapper h, owner, hint => by
    rw [typeOf]
    exact (reference_completes follows h _ _).map fun u same =>
      WireType.isReference_orNullIf_congr same
  | _, _, _, .merge proper h, owner, hint => by
    rw [typeOf_merge proper]
    refine Completes.newName.bind fun name _ => ?_
    refine (h.completes follows name _).bind fun result _ => ?_
    exact Completes.addHoisted.bind fun _ _ => .pure (WireType.isReference_orNullIf_congr rfl)
  | _, _, _, .union other h union, owner, hint => by
    rw [typeOf_union other]
    refine (h.completes follows owner hint 1).bind fun result agree => ?_
    exact (unionOf_completes union agree.1 agree.2).map fun u same =>
      WireType.isReference_orNullIf_congr same

theorem FieldsOf.completes (follows : Follows scope graph known derived) :
    ∀ {properties fields own}, FieldsOf graph known properties fields own → ∀ owner,
      Completes derived (fieldsOf scope owner properties) fun _ => True
  | _, _, _, .nil, owner => by
    rw [fieldsOf]
    exact .pure trivial
  | _, _, _, .cons h rest, owner => by
    rw [fieldsOf]
    refine (h.completes follows owner _).bind fun t _ => ?_
    exact (rest.completes follows owner).map fun _ _ => trivial

theorem VariantsOf.completes (follows : Follows scope graph known derived) :
    ∀ {members variants nullable own}, VariantsOf graph known members variants nullable own →
      ∀ owner hint index, Completes derived (variantsOf scope owner hint index members) fun found =>
        found.1.map WireType.isReference = variants.map WireType.isReference ∧
          ∀ u ∈ found.1, u.strip = u
  | _, _, _, _, .nil, owner, hint, index => by
    rw [variantsOf]
    exact .pure ⟨rfl, nofun⟩
  | _, _, _, _, .null null rest, owner, hint, index => by
    rw [variantsOf, if_pos null]
    exact (rest.completes follows owner hint (index + 1)).map fun _ agree => agree
  | _, _, _, _, .cons proper h rest, owner, hint, index => by
    rw [variantsOf, if_neg (by simpa using proper)]
    refine (h.completes follows owner _).bind fun t same => ?_
    refine (rest.completes follows owner hint (index + 1)).map fun found agree => ⟨?_, ?_⟩
    · simp only [List.map_cons, agree.1, WireType.isReference_strip, same]
    · exact List.forall_mem_cons.mpr ⟨WireType.strip_strip, agree.2⟩

theorem MergeOf.completes (follows : Follows scope graph known derived) :
    ∀ {merge members result own}, MergeOf graph known merge members result own →
      ∀ name merge', Completes derived (mergeOf scope name merge' members) fun _ => True
  | _, _, _, _, .nil, name, merge' => by
    rw [mergeOf]
    exact .pure trivial
  | _, _, _, _, .reference there meant rest, name, merge' => by
    rw [mergeOf]
    exact (parent_completes follows there meant _ _).bind fun o _ => rest.completes follows name _
  | _, _, _, _, .object h rest, name, merge' => by
    rw [mergeOf]
    exact (h.completes follows name).bind fun fields _ => rest.completes follows name _
  | _, _, _, _, .nested h rest, name, merge' => by
    rw [mergeOf]
    exact (h.completes follows name _).bind fun inner _ => rest.completes follows name _

end

/-! ## Named schemas -/

theorem DefinitionOf.completes (follows : Follows scope graph known derived) {name : String}
    {node : Node} {d : Definition} {own : List ObjectType}
    (h : DefinitionOf graph known name node d own) :
    Completes derived (definitionOf scope name node) d.Agrees := by
  unfold definitionOf
  cases h with
  | object model h =>
    rw [if_pos model]
    exact (h.completes follows name).bind fun fields _ =>
      Completes.warnAdditional.map fun _ _ => trivial
  | @merge notes members discriminator result own h =>
    have model : isModel (.composite notes .allOf members discriminator) = true := rfl
    rw [if_pos model]
    exact (h.completes follows name _).map fun result _ => trivial
  | @union notes mode members discriminator variants nullable t own other model h union =>
    rw [if_pos model]
    split
    · rename_i same
      cases same
    · rename_i same
      cases same
      exact absurd rfl other
    · rename_i same
      cases same
      refine (h.completes follows name "" 1).bind fun result agree => ?_
      exact (unionOf_completes union agree.1 agree.2).map fun u same => same
    · rename_i proper
      exact absurd rfl (proper _ _ _ _)
  | enum full =>
    rw [if_neg (by simp [isModel])]
    dsimp only
    rw [if_neg (by simpa using full)]
    exact .pure rfl
  | other unnamed enum h =>
    rw [if_neg (by simpa using unnamed)]
    split
    · exact absurd rfl (enum _ _ _)
    · exact (h.completes follows name "").map fun u same => same

theorem exists_entry_of_knownIn {entries : List Entry} {name : String} {d : Definition}
    (h : knownIn (entries.map Entry.pair) name = some d) :
    ∃ e ∈ entries, e.name = name ∧ e.meaning = d := by
  obtain ⟨e, there, eq⟩ := List.mem_map.mp (mem_of_lookup_eq_some h)
  cases eq
  exact ⟨e, there, rfl, rfl⟩

theorem name_ne_of_unknown {entries : List Entry} {name : String}
    (h : knownIn (entries.map Entry.pair) name = none) : ∀ e ∈ entries, e.name ≠ name := by
  rintro e mem rfl
  have := List.lookup_eq_none_iff.mp h _ (List.mem_map.mpr ⟨e, mem, rfl⟩)
  simp [Entry.pair] at this

/-- A name is resolved if its schema is, one level deeper; what is known already agrees anyway. -/
theorem Completes.definition {graph other : Graph} {name : String} {node : Node} {d : Definition}
    {derived : Known} {depth : Nat} {active : List String}
    (same : other.get? name = graph.get? name) (found : graph.get? name = some node)
    (meant : derived name = some d)
    (completes : Completes derived (definitionOf
      ⟨other, name :: active, Types.definition other depth (name :: active)⟩ name node) d.Agrees) :
    Completes derived (Types.definition other (depth + 1) active name) d.Agrees := by
  intro s compatible
  rw [Types.definition]
  simp only [runs_bind_iff, runs_get_iff]
  cases known : s.known.lookup name with
  | some d' =>
    obtain ⟨_, derivedAs, agrees⟩ := compatible _ _ known
    rw [meant] at derivedAs
    cases derivedAs
    exact ⟨d', s, ⟨s, s, ⟨rfl, rfl⟩, by rw [known]; exact runs_pure_iff.mpr ⟨rfl, rfl⟩⟩,
      compatible, agrees⟩
  | none =>
    obtain ⟨d', s', run, compatible, agrees⟩ := completes s compatible
    refine ⟨d', { s' with known := (name, d') :: s'.known }, ⟨s, s, ⟨rfl, rfl⟩, ?_⟩, ?_, agrees⟩
    · rw [known, same, found]
      simp only [runs_bind_iff, runs_modify_iff, runs_pure_iff]
      exact ⟨d', s', run, ⟨⟩, _, rfl, rfl, rfl⟩
    · -- the meaning that is remembered now agrees too
      intro n f knows
      rw [knownIn_cons] at knows
      split at knows
      · rename_i eq
        cases knows
        exact ⟨d, eq ▸ meant, agrees⟩
      · exact compatible n f knows

/-- The meaning of a derived name is found if the depth is enough for the entries up to it, and
none of these is being resolved. -/
theorem definition_completes {graph other : Graph} {entries : List Entry}
    (same : ∀ name, other.get? name = graph.get? name) (h : Derived graph [] [] entries)
    {derived : Known} (all : derived.Includes (knownIn (entries.map Entry.pair))) :
    ∀ {depth active name d}, entries.length ≤ depth → (∀ e ∈ entries, e.name ∉ active) →
      knownIn (entries.map Entry.pair) name = some d →
      Completes derived (definition other depth active name) d.Agrees := by
  induction h with
  | nil => nofun
  | @cons e node entries h _ fresh found meaning ih =>
    intro depth active name d enough inactive meant
    rw [List.append_nil] at fresh meaning
    have apart := name_ne_of_unknown fresh
    have fewer : derived.Includes (knownIn (entries.map Entry.pair)) := by
      intro n d known
      obtain ⟨e', mem', rfl, -⟩ := exists_entry_of_knownIn known
      refine all _ d ?_
      rw [List.map_cons, Entry.pair, knownIn_cons, if_neg (apart e' mem'), known]
    obtain ⟨inactive, others⟩ := List.forall_mem_cons.mp inactive
    rw [List.length_cons] at enough
    by_cases first : name = e.name
    · subst first
      obtain rfl : e.meaning = d := by
        rw [List.map_cons, Entry.pair, knownIn_cons, if_pos rfl] at meant
        exact Option.some.inj meant
      obtain ⟨depth, rfl⟩ : ∃ n, depth = n + 1 := ⟨depth - 1, by omega⟩
      refine .definition (same _) found (all _ _ meant) (meaning.completes ?_)
      -- what the schema refers to has its entry before this one, and none of them is resolved
      have apartFrom : ∀ e' ∈ entries, e'.name ∉ e.name :: active := by
        intro e' mem' mem
        rcases List.mem_cons.mp mem with eq | mem
        · exact apart e' mem' eq
        · exact others e' mem' mem
      refine ⟨same, fun n d known mem => ?_, fun n d known => ?_⟩
      · obtain ⟨e', mem', rfl, rfl⟩ := exists_entry_of_knownIn known
        exact apartFrom e' mem' mem
      · exact ih fewer (by omega) apartFrom known
    · refine ih fewer (by omega) others ?_
      rwa [List.map_cons, Entry.pair, knownIn_cons, if_neg first] at meant

/-! ## Documents -/

theorem Derived.names_nodup {graph : Graph} {active : List String} {entries : List Entry}
    (h : Derived graph active [] entries) : (entries.map Entry.name).Nodup := by
  induction h with
  | nil => exact .nil
  | cons _ _ fresh _ _ ih =>
    rw [List.append_nil] at fresh
    refine List.nodup_cons.mpr ⟨fun mem => ?_, ih⟩
    obtain ⟨e, mem, eq⟩ := List.mem_map.mp mem
    exact name_ne_of_unknown fresh e mem eq

theorem Derived.declared {graph : Graph} {active : List String} {entries : List Entry}
    (h : Derived graph active [] entries) :
    ∀ e ∈ entries, e.name ∈ graph.definitions.map Prod.fst := by
  induction h with
  | nil => nofun
  | cons _ _ _ found _ ih =>
    exact List.forall_mem_cons.mpr ⟨contains_iff.mp (contains_of_get? found), ih⟩

/-- Resolution succeeds in any order of the schemas if it does in one. -/
theorem exists_resolve_ok {graph other : Graph} (h : Reorders graph other)
    {definitions : List (String × Definition)}
    (ok : (resolve graph).outcome.1 = .ok definitions) :
    ∃ others, (resolve other).outcome.1 = .ok others := by
  obtain ⟨entries, hoisted, resolution⟩ := exists_resolution ok
  obtain ⟨named, -, all⟩ := resolution.definitions
  have enough : entries.length ≤ other.definitions.length := by
    have sub : entries.map Entry.name ⊆ graph.definitions.map Prod.fst := fun name mem => by
      obtain ⟨e, there, rfl⟩ := List.mem_map.mp mem
      exact resolution.derived.declared e there
    have := (List.subperm_of_subset resolution.derived.names_nodup sub).length_le
    simpa [h.perm.length_eq] using this
  have completes : Completes (knownIn (entries.map Entry.pair)) (resolveAll other)
      fun _ => True := by
    unfold resolveAll
    refine (Completes.mapM fun declared mem => ?_).bind fun named _ =>
      .of_known fun s => ⟨named ++ s.hoisted, s, rfl, rfl, trivial⟩
    obtain ⟨result, -, -, meant⟩ := exists_right_of_forall₂ all (h.perm.mem_iff.mp mem)
    exact (definition_completes h.get?_eq resolution.derived (fun _ _ known => known) enough
      (fun _ _ => List.not_mem_nil) meant).map fun _ _ => trivial
  obtain ⟨others, s', run, -⟩ := completes
    { taken := other.definitions.map (·.1), warnings := [] } nofun
  exact ⟨others, congrArg Prod.fst run⟩

end WireModel.Types
