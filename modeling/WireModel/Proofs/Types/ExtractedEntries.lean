import Mathlib.Algebra.Order.Group.Multiset
import Mathlib.Tactic.Abel
import WireModel.Proofs.Types.Extraction

/-!
# A derivation where a schema has a name

A derivation for the schemas of a document becomes one for the schemas where the schema of a
property has a name of its own. Up to the owner of the property it is the same; then comes the
schema under its name, then the owner with a reference, and then the others again. The field of the
property may have another type, and it loses a default of the schema; so it does in all schemas that
extend the owner (`Field.Moved`).
-/

namespace WireModel.Types

open Schema

/-! ## The field of the property -/

/-- The type of a field: the same, or `u` where `t` was. -/
inductive WireType.Moved (t u : WireType) : WireType → WireType → Prop
  | same {w} : Moved t u w w
  | here : Moved t u t u
  | optional : Moved t u (.optional t) (.optional u)

/-- A field that stays the same, or one of the property: it may have `u` in place of `t` as its
type, and lose the default of the schema. -/
structure Field.Moved (property : String) (default : Option Value) (t u : WireType) (f g : Field) :
    Prop where
  name : g.name = f.name
  type : WireType.Moved t u f.type g.type
  default : g.default = f.default ∨ f.name = property ∧ f.default = default ∧ g.default = none

/-- Types of which both or none are made required by a list of names. -/
def WireType.Even (t u : WireType) : Prop :=
  t = u ∨ (∀ w, t ≠ .optional w) ∧ ∀ w, u ≠ .optional w

/-- The field of a property whose schema, of the type `t`, has a name. -/
abbrev Field.Named (property name : String) (schema : Node) (t : WireType) :
    Field → Field → Prop :=
  Field.Moved property schema.notes.default t (namedType name schema t)

section

variable {property : String} {default : Option Value} {t u : WireType}

theorem WireType.Moved.require (even : t.Even u) {v w : WireType} (h : WireType.Moved t u v w) :
    v = w ∨ (∃ inner inner', v = .optional inner ∧ w = .optional inner' ∧
        WireType.Moved t u inner inner') ∨ (∀ x, v ≠ .optional x) ∧ ∀ x, w ≠ .optional x := by
  cases h with
  | same => exact .inl rfl
  | here =>
    rcases even with same | neither
    · exact .inl same
    · exact .inr (.inr neither)
  | optional => exact .inr (.inl ⟨t, u, rfl, rfl, .here⟩)

/-- What makes a field required: its type is that without `optional`. -/
theorem require_eq (names : List String) (fields : List Field) :
    require names fields = fields.map fun f => { f with
      type := match f.type with
        | .optional inner => if names.contains f.name then inner else .optional inner
        | t => t } := by
  refine List.map_congr_left fun f _ => ?_
  obtain ⟨name, type, default, description⟩ := f
  cases type <;> try rfl
  dsimp only
  split <;> rfl

theorem Field.Moved.inherited (even : t.Even u) :
    Field.Inherited (Field.Moved property default t u) where
  refl _ := ⟨rfl, .same, .inl rfl⟩
  name _ _ h := h.name
  require names fs gs all := by
    rw [require_eq, require_eq]
    refine List.forall₂_map_left_iff.mpr (List.forall₂_map_right_iff.mpr (all.imp ?_))
    intro f g moved
    refine ⟨moved.name, ?_, moved.default⟩
    rw [moved.name]
    dsimp only
    rcases moved.type.require even with same | ⟨inner, inner', ft, gt, inside⟩ | ⟨ft, gt⟩
    · rw [same]
      exact .same
    · rw [ft, gt]
      dsimp only
      split
      · exact inside
      · have type := moved.type
        rwa [ft, gt] at type
    · have type := moved.type
      split
      · rename_i inner same
        exact absurd same (ft inner)
      · exact type

theorem Field.Moved.fieldOf (required : Bool) (notes : Notes) (place : String) :
    Field.Moved property notes.default t u (fieldOf property required notes t)
      (fieldOf property required (.at place) u) := by
  refine ⟨rfl, ?_, .inr ⟨rfl, rfl, rfl⟩⟩
  cases required with
  | true => exact .here
  | false => exact .optional

theorem Stands.even {name : String} {d : Definition} {lost : List ObjectType}
    (h : Stands name t u d lost) : t.Even u := by
  cases h with
  | followed => exact .inl rfl
  | @enum _ _ allowed | @object _ allowed | @union _ _ _ allowed =>
    cases allowed <;> exact .inr ⟨nofun, nofun⟩

theorem WireType.Moved.isOptional_eq {v w : WireType} (h : WireType.Moved t u v w)
    (same : u.isOptional = t.isOptional) : w.isOptional = v.isOptional := by
  cases h with
  | here => exact same
  | same | optional => rfl

theorem WireType.Moved.isNullable_eq {v w : WireType} (h : WireType.Moved t u v w)
    (same : u.isNullable = t.isNullable) : w.isNullable = v.isNullable := by
  cases h with
  | here | optional => exact same
  | same => rfl

theorem Stands.isOptional_eq {name : String} {d : Definition} {lost : List ObjectType}
    (h : Stands name t u d lost) : u.isOptional = t.isOptional := by
  cases h <;> simp [WireType.isOptional]

theorem Stands.isNullable_eq {name : String} {d : Definition} {lost : List ObjectType}
    (h : Stands name t u d lost) : u.isNullable = t.isNullable := by
  cases h <;> simp [WireType.isNullable]

end

/-! ## Schemas that are changed -/

section

variable {graph : Graph} {known : Known} {property name : String} {schema : Node}

theorem isModel_extracts {node node' : Node} (h : Node.Extracts property name schema node node') :
    isModel node' = isModel node := by
  cases h with
  | property =>
    simp only [isModel, List.isEmpty_eq_false_iff.mpr (List.append_ne_nil_of_right_ne_nil _
      (List.cons_ne_nil _ _))]
  | member => rfl

theorem declaresNull_extracts {node node' : Node}
    (h : Node.Extracts property name schema node node') :
    declaresNull node' = declaresNull node := by
  cases h <;> rfl

theorem MergeOf.references : ∀ {members : List Node} {merge result : Merge}
    {own : List ObjectType}, MergeOf graph known merge members result own →
      ∀ inner pointer target, .reference inner pointer target ∈ members →
        graph.contains target = true
  | [], _, _, _, _, _, _, _, mem => nomatch mem
  | _ :: _, _, _, _, .reference there _ rest, inner, pointer, target, mem => by
    rcases List.mem_cons.mp mem with same | mem
    · cases same
      exact there
    · exact rest.references inner pointer target mem
  | _ :: _, _, _, _, .object _ rest, inner, pointer, target, mem =>
    rest.references inner pointer target ((List.mem_cons.mp mem).resolve_left nofun)
  | _ :: _, _, _, _, .nested _ rest, inner, pointer, target, mem =>
    rest.references inner pointer target ((List.mem_cons.mp mem).resolve_left nofun)

/-- A schema that has a type refers to declared parents. -/
theorem TypeOf.parentsDeclared {node : Node} {t : WireType} {own : List ObjectType}
    (h : TypeOf graph known node t own) : ParentsDeclared graph node := by
  rintro notes members discriminator rfl inner pointer target mem
  cases h with
  | wrapper refers =>
    obtain same := List.mem_singleton.mp mem
    cases same
    obtain ⟨node, found, -⟩ := refers.exists_node
    rw [Graph.contains, found]
    rfl
  | merge _ h => exact h.references inner pointer target mem
  | union merged => exact absurd rfl merged

/-- A schema that has a meaning refers to declared parents. -/
theorem DefinitionOf.parentsDeclared {n : String} {node : Node} {d : Definition}
    {own : List ObjectType} (h : DefinitionOf graph known n node d own) :
    ParentsDeclared graph node := by
  rintro notes members discriminator rfl inner pointer target mem
  cases h with
  | merge h => exact h.references inner pointer target mem
  | union merged => exact absurd rfl merged
  | other unnamed => cases unnamed

theorem Nameable.unled (nameable : Nameable graph schema) : Unled graph schema := by
  cases nameable with
  | merge _ _ unled => exact unled
  | @union _ mode =>
    intro parent mem
    cases mode with
    | allOf => contradiction
    | _ => cases mem
  | _ => exact nofun

/-- A nameable schema of an object declares no discriminator. -/
theorem Nameable.declaredIn_eq (nameable : Nameable graph schema) {d : Definition}
    {own : List ObjectType} :
    DefinitionOf graph known name schema d own → (∀ t, d ≠ .type t) →
      declaredIn schema = none := by
  cases nameable with
  | merge _ plain => exact fun _ _ => plain
  | union merged =>
    intro h object
    cases h with
    | merge => exact absurd rfl merged
    | union => exact absurd rfl (object _)
    | other => exact absurd rfl (object _)
  | _ => exact fun _ _ => rfl

/-- A reference to a schema has the type that the schema stands for. -/
theorem refers_namedType {F : Field → Field → Prop} {other : Graph} {known' : Known}
    {t : WireType} {node' : Node} {d d' : Definition}
    (followed : isModel schema = false → d = .type (namedType name schema t))
    (found : other.get? name = some node') (model : isModel node' = isModel schema)
    (null : declaresNull node' = declaresNull schema) (meaning : known' name = some d')
    (same : d.Retyped F d') : Refers other known' false name (namedType name schema t) := by
  cases here : isModel schema with
  | true =>
    rw [namedType_of_isModel here, ← null]
    exact .model found (model.trans here)
  | false =>
    rw [followed here] at same
    cases same
    exact .named found (model.trans here) meaning

end

/-! ## Entries -/

theorem knownIn_eq_none {entries : List Entry} {name : String}
    (absent : ∀ e ∈ entries, e.name ≠ name) : knownIn (entries.map Entry.pair ++ []) name = none := by
  rw [List.append_nil]
  refine List.lookup_eq_none_iff.mpr fun p there => ?_
  obtain ⟨e, mem, rfl⟩ := List.mem_map.mp there
  simpa [Entry.pair] using (absent e mem).symm

/-- The later ones of some entries are derived from the others. -/
theorem Derived.split {graph : Graph} {active : List String} {known : List (String × Definition)}
    {entries more : List Entry} (h : Derived graph active known (more ++ entries)) :
    Derived graph active known entries ∧
      Derived graph active (entries.map Entry.pair ++ known) more := by
  induction more with
  | nil => exact ⟨h, .nil⟩
  | cons e more ih =>
    cases h with
    | cons h inactive fresh found meaning =>
      obtain ⟨first, rest⟩ := ih h
      rw [List.append_eq, List.map_append, List.append_assoc] at fresh meaning
      exact ⟨first, .cons rest inactive fresh found meaning⟩

/-- Entries for a document where a schema has the name `name` and the meaning `d`, in place of
entries for a document where it does not: all meanings are the same but for fields, and so are the
models made, without those that are lost. -/
structure Rederived (F : Field → Field → Prop) (other : Graph) (name : String) (d : Definition)
    (entries entries' : List Entry) (lost : List ObjectType) : Prop where
  derived : Derived other [] [] entries'
  meaning : ∀ e ∈ entries, ∃ e' ∈ entries', e'.name = e.name ∧ e.meaning.Retyped F e'.meaning
  named : ∃ e' ∈ entries', e'.name = name ∧ d.Retyped F e'.meaning
  own : ∃ kept, (entries.flatMap Entry.own).Perm (kept ++ lost) ∧
    List.Forall₂ (ObjectType.Retyped F) kept (entries'.flatMap Entry.own)

/-- Entries that are the same but for fields on both sides of the owner, which has become two: its
own with a reference, and that of the schema under its name. -/
theorem Rederived.around {F : Field → Field → Prop} {other : Graph} {owner name : String}
    {front back front' back' : List Entry} {meaning meaning' d d' : Definition}
    {made made' inside' kept lost : List ObjectType}
    (sameFront : List.Forall₂ (Entry.Retyped F) front front')
    (sameBack : List.Forall₂ (Entry.Retyped F) back back')
    (sameOwner : meaning.Retyped F meaning') (same : d.Retyped F d')
    (perm : made.Perm (kept ++ lost))
    (sameMade : List.Forall₂ (ObjectType.Retyped F) kept (made' ++ inside'))
    (derived : Derived other [] []
      (front' ++ ([⟨owner, meaning', made'⟩, ⟨name, d', inside'⟩] ++ back'))) :
    Rederived F other name d (front ++ ⟨owner, meaning, made⟩ :: back)
      (front' ++ ([⟨owner, meaning', made'⟩, ⟨name, d', inside'⟩] ++ back')) lost := by
  have own : ∀ {entries entries' : List Entry}, List.Forall₂ (Entry.Retyped F) entries entries' →
      List.Forall₂ (ObjectType.Retyped F) (entries.flatMap Entry.own)
        (entries'.flatMap Entry.own) :=
    fun all => List.rel_flatMap all fun _ _ same => same.own
  refine ⟨derived, ?_, ?_, front.flatMap Entry.own ++ (kept ++ back.flatMap Entry.own), ?_, ?_⟩
  · intro e mem
    rcases List.mem_append.mp mem with before | mem
    · obtain ⟨e', there, same⟩ := exists_right_of_forall₂ sameFront before
      exact ⟨e', List.mem_append_left _ there, same.name, same.meaning⟩
    · rcases List.mem_cons.mp mem with rfl | behind
      · exact ⟨_, List.mem_append_right _ List.mem_cons_self, rfl, sameOwner⟩
      · obtain ⟨e', there, same⟩ := exists_right_of_forall₂ sameBack behind
        have there := List.mem_append_right front' (List.mem_append_right
          [⟨owner, meaning', made'⟩, ⟨name, d', inside'⟩] there)
        exact ⟨e', there, same.name, same.meaning⟩
  · exact ⟨_, List.mem_append_right _ (List.mem_cons_of_mem _ List.mem_cons_self), rfl, same⟩
  · -- only the models of the owner are fewer; where they stand does not matter
    rw [List.flatMap_append, List.flatMap_cons]
    rw [← Multiset.coe_eq_coe] at perm ⊢
    simp only [← Multiset.coe_add] at perm ⊢
    rw [perm]
    abel
  · rw [List.flatMap_append, List.flatMap_append]
    refine List.rel_append (own sameFront) (List.rel_append ?_ (own sameBack))
    simpa using sameMade

/-- The entries around an entry have other names. -/
theorem Derived.names_apart {graph : Graph} {front back : List Entry} {e : Entry}
    (derived : Derived graph [] [] (front ++ e :: back)) :
    ∀ f ∈ front ++ back, f.name ≠ e.name := by
  intro f there same
  have distinct := derived.names_nodup
  rw [List.map_append, List.map_cons] at distinct
  have fresh := (List.nodup_cons.mp (List.nodup_middle.mp distinct)).1
  rw [← List.map_append] at fresh
  exact fresh (List.mem_map.mpr ⟨f, there, same⟩)

section

variable {graph other : Graph} {owner property name : String} {schema : Node}

/-- The schemas that have a meaning refer to declared parents. -/
theorem Derived.parentsDeclared (distinct : (graph.definitions.map Prod.fst).Nodup)
    {entries : List Entry} (derived : Derived graph [] [] entries)
    (complete : ∀ n ∈ graph.definitions.map Prod.fst, ∃ e ∈ entries, e.name = n) :
    ∀ d ∈ graph.definitions, ParentsDeclared graph d.2 := by
  rintro ⟨n, node⟩ there
  obtain ⟨e, mem, rfl⟩ := complete n (List.mem_map.mpr ⟨_, there, rfl⟩)
  obtain ⟨node', known, found, meaning, -⟩ := derived.exists_definition mem
  rw [(get?_eq_some_iff distinct).mpr there] at found
  cases found
  exact meaning.parentsDeclared

theorem transfers_of_extracts (h : graph.Extracts other owner property name schema)
    (nameable : Nameable graph schema)
    (closed : ∀ d ∈ graph.definitions, ParentsDeclared graph d.2)
    (own : ParentsDeclared graph schema) : Transfers graph other where
  node n node found := by
    obtain ⟨node', found', -, changed⟩ := h.exists_changed found
    refine ⟨node', found', ?_⟩
    split at changed
    · exact ⟨isModel_extracts changed, declaresNull_extracts changed⟩
    · rw [show node' = node from changed]
      exact ⟨rfl, rfl⟩
  family _ there := h.familyDiscriminator_eq closed own nameable.unled there

variable {F : Field → Field → Prop} {known known' : List (String × Definition)}

/-- The schema under its name, with what is known of the schemas that it refers to. -/
theorem DefinitionOf.exists_entry (h : graph.Extracts other owner property name schema)
    (closed : ∀ d ∈ graph.definitions, ParentsDeclared graph d.2)
    (nameable : Nameable graph schema) (own : ParentsDeclared graph schema)
    (carries : Carries F graph other (knownIn known) (knownIn known'))
    (unknown : knownIn known' name = none) {d : Definition} {made : List ObjectType}
    (definition : DefinitionOf graph (knownIn known) name schema d made) :
    ∃ d' made', d.Retyped F d' ∧ List.Forall₂ (ObjectType.Retyped F) made made' ∧
      Derived other [] known' [⟨name, d', made'⟩] := by
  obtain ⟨place, found⟩ := h.exists_named
  have family (object : ∀ t, d ≠ .type t) :
      familyDiscriminator other name = familyDiscriminator graph name := by
    rw [familyDiscriminator_of_not_mem h.fresh]
    exact h.familyDiscriminator_named closed own (nameable.declaredIn_eq definition object)
  obtain ⟨d', made', definition', same, all⟩ := definition.retyped carries place family
  exact ⟨d', made', same, all, .cons .nil List.not_mem_nil unknown found definition'⟩

/-- The entry of the owner becomes two: one of the schema under its name, and one of the owner with
a reference to it. -/
theorem DefinitionOf.exists_entries (h : graph.Extracts other owner property name schema)
    (closed : ∀ d ∈ graph.definitions, ParentsDeclared graph d.2)
    (nameable : Nameable graph schema) (fits : (knownIn known).Fits graph)
    (fresh : knownIn known name = none) (unmet : knownIn known owner = none) {node : Node}
    (found : graph.get? owner = some node) {meaning : Definition} {made : List ObjectType}
    (definition : DefinitionOf graph (knownIn known) owner node meaning made) :
    ParentsDeclared graph schema ∧ ∃ t d kept lost, made.Perm (kept ++ lost) ∧
      Stands name t (namedType name schema t) d lost ∧
      ∀ known', Extends (Field.Named property name schema t) name known known' →
          knownIn known' name = none → ∃ meaning' made' d' inside',
        meaning.Retyped (Field.Named property name schema t) meaning' ∧
        d.Retyped (Field.Named property name schema t) d' ∧
        List.Forall₂ (ObjectType.Retyped (Field.Named property name schema t)) kept
          (made' ++ inside') ∧
        Derived other [] known' [⟨owner, meaning', made'⟩, ⟨name, d', inside'⟩] := by
  obtain ⟨node₀, node', found₀, found', extracts⟩ := h.exists_owner
  rw [found] at found₀
  cases found₀
  obtain ⟨t, _, before, after, type, rfl, rest⟩ := definition.extracted extracts
  have own := type.parentsDeclared
  have alone := familyDiscriminator_of_not_mem h.fresh
  obtain ⟨d, inside, lost, rfl, under, stands, followed⟩ := type.named fits nameable alone
  have transfers := transfers_of_extracts h nameable closed own
  refine ⟨own, t, d, before ++ after ++ inside, lost, ?_, stands, fun known' extend unknown => ?_⟩
  · rw [← Multiset.coe_eq_coe]
    simp only [← Multiset.coe_add]
    abel
  have inherited : Field.Inherited (Field.Named property name schema t) :=
    Field.Moved.inherited stands.even
  -- the schema under its name
  obtain ⟨d', inside', same, ownNamed, derived⟩ := under.exists_entry h closed nameable own
    (extend.carries transfers inherited) unknown
  -- the owner
  have extended := extend.add fresh d'
  obtain ⟨place, there⟩ := h.exists_named
  have meets : knownIn ((name, d') :: known') name = some d' := by rw [knownIn_cons, if_pos rfl]
  have refers := refers_namedType followed there (isModel_relocate ..) (declaresNull_relocate ..)
    meets same
  obtain ⟨meaning', made', definition', sameOwner, all⟩ := rest _ other _ _
    ⟨extended.carries transfers inherited, refers, fun required place => .fieldOf required _ place⟩
    (transfers.family owner (contains_iff.mpr h.owned))
  refine ⟨meaning', made', d', inside', sameOwner, same, List.rel_append all ownNamed,
    .cons derived List.not_mem_nil ?_ found' definition'⟩
  exact extended.unknown owner (h.ne_of_contains (contains_iff.mpr h.owned)) unmet

/-- Entries for the schemas of a document become entries where one of them has a name. -/
theorem Derived.extracted (h : graph.Extracts other owner property name schema)
    (nameable : Nameable graph schema) {entries : List Entry}
    (derived : Derived graph [] [] entries)
    (complete : ∀ n ∈ graph.definitions.map Prod.fst, ∃ e ∈ entries, e.name = n) :
    ∃ t d lost entries', Stands name t (namedType name schema t) d lost ∧
      Rederived (Field.Named property name schema t) other name d entries entries' lost := by
  have closed := derived.parentsDeclared h.distinct complete
  -- the entry of the owner, with those before it in `back`
  obtain ⟨⟨n, meaning, made⟩, mem, isOwner⟩ := complete owner h.owned
  obtain rfl : owner = n := isOwner.symm
  obtain ⟨front, back, rfl⟩ := List.append_of_mem mem
  have apart : ∀ f ∈ front ++ back, f.name ≠ owner := derived.names_apart
  have others : ∀ f ∈ front ++ back, ∀ node, graph.get? f.name = some node →
      f.name ≠ name ∧ other.get? f.name = some node := by
    intro f there node found
    have declared : graph.contains f.name = true := by
      rw [Graph.contains, found]
      rfl
    exact ⟨h.ne_of_contains declared, h.get?_other found (apart f there)⟩
  obtain ⟨derivedOwner, derivedFront⟩ := derived.split
  cases derivedOwner with
  | @cons _ node _ derivedBack _ unmet found definition =>
  have fits : Known.Fits graph (knownIn (back.map Entry.pair ++ [])) := by
    rw [List.append_nil]
    exact .of_entries derivedBack.fits
  have fresh : ∀ f ∈ back, f.name ≠ name := fun f there =>
    h.ne_of_contains (contains_iff.mpr (derivedBack.declared f there))
  obtain ⟨own, t, d, kept, lost, perm, stands, rest⟩ := definition.exists_entries h closed nameable
    fits (knownIn_eq_none fresh) unmet found
  have transfers := transfers_of_extracts h nameable closed own
  have inherited : Field.Inherited (Field.Named property name schema t) :=
    Field.Moved.inherited stands.even
  -- those before the owner
  have start : Extends (Field.Named property name schema t) name [] [] :=
    ⟨nofun, fun _ _ unknown => unknown⟩
  obtain ⟨back', derivedBack', sameBack⟩ := derivedBack.retyped inherited transfers start
    fun f there => others f (List.mem_append_right _ there)
  have extend := start.entries sameBack
  have fresh' : ∀ f ∈ back', f.name ≠ name := by
    intro f there
    obtain ⟨f₀, there₀, same⟩ := exists_left_of_forall₂ sameBack there
    exact same.name ▸ fresh f₀ there₀
  -- the owner and the schema under its name
  obtain ⟨meaning', made', d', inside', sameOwner, same, sameMade, derivedBoth⟩ :=
    rest _ extend (knownIn_eq_none fresh')
  have extended := (extend.add (knownIn_eq_none fresh) d').cons (n := owner) sameOwner
  -- those after the owner
  obtain ⟨front', derivedFront', sameFront⟩ := derivedFront.retyped inherited transfers extended
    fun f there => others f (List.mem_append_left _ there)
  exact ⟨t, d, lost, _, stands, .around sameFront sameBack sameOwner same perm sameMade
    ((derivedBack'.append derivedBoth).append derivedFront')⟩

end

end WireModel.Types
