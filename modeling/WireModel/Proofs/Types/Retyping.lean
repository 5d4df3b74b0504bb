import WireModel.Proofs.Schema.Extraction
import WireModel.Proofs.Types.Step

/-!
# Derivations where some fields have other types

If a field of a named schema gets another type, so do the fields of all schemas that extend it, and
nothing else changes: a schema that refers to another one depends on whether that is a model, on
whether it allows null and on what it stands for if it is no model, and only an `allOf` takes over
fields. So a derivation carries over to other schemas where named objects have other fields.
-/

namespace WireModel.Types

open Schema

/-! ## Other fields -/

/-- A relation on fields that fields keep when they are inherited. -/
structure Field.Inherited (F : Field → Field → Prop) : Prop where
  refl : ∀ f, F f f
  name : ∀ f g, F f g → g.name = f.name
  require : ∀ names {fs gs}, List.Forall₂ F fs gs →
    List.Forall₂ F (require names fs) (require names gs)

variable (F : Field → Field → Prop)

/-- An object with other fields. -/
structure ObjectType.Retyped (o p : ObjectType) : Prop where
  name : p.name = o.name
  fields : List.Forall₂ F o.fields p.fields
  discriminator : p.discriminator = o.discriminator

/-- An object with other fields, or the same type. -/
inductive Definition.Retyped : Definition → Definition → Prop
  | object {o p} : o.Retyped F p → Retyped (.object o) (.object p)
  | type {t} : Retyped (.type t) (.type t)

/-- A merge with other fields. -/
structure Merge.Retyped (m n : Merge) : Prop where
  fields : List.Forall₂ F m.fields n.fields
  required : n.required = m.required

/-- What a derivation depends on: the same schemas are models and allow null in another document,
and what is known of a schema is known of it there, with other fields. -/
structure Carries (graph other : Graph) (known known' : Known) : Prop where
  inherited : Field.Inherited F
  node : ∀ name node, graph.get? name = some node → ∃ node', other.get? name = some node' ∧
    isModel node' = isModel node ∧ declaresNull node' = declaresNull node
  meaning : ∀ name d, known name = some d → ∃ d', known' name = some d' ∧ d.Retyped F d'

variable {F}

theorem Field.Inherited.forall₂_refl (inherited : Field.Inherited F) :
    ∀ fields : List Field, List.Forall₂ F fields fields
  | [] => .nil
  | f :: rest => .cons (inherited.refl f) (inherited.forall₂_refl rest)

theorem Field.Inherited.putField (inherited : Field.Inherited F) {f g : Field} (new : F f g)
    {fs gs : List Field} (h : List.Forall₂ F fs gs) :
    List.Forall₂ F (putField f fs) (putField g gs) := by
  induction h with
  | nil => exact .cons new .nil
  | @cons f' g' fs gs first rest ih =>
    rw [Types.putField, Types.putField, inherited.name f' g' first, inherited.name f g new]
    split
    · exact .cons new rest
    · exact .cons first ih

namespace Merge.Retyped

variable {m n : Merge}

theorem add (inherited : Field.Inherited F) (h : m.Retyped F n) {o p : ObjectType}
    (fields : List.Forall₂ F o.fields p.fields) : (m.add o).Retyped F (n.add p) := by
  have fold : ∀ {added others : List Field}, List.Forall₂ F added others →
      ∀ {fs gs : List Field}, List.Forall₂ F fs gs →
        List.Forall₂ F (added.foldl (fun fields f => putField f fields) fs)
          (others.foldl (fun fields f => putField f fields) gs) := by
    intro added others all
    induction all with
    | nil => exact fun h => h
    | cons first _ ih => exact fun h => ih (inherited.putField first h)
  exact ⟨fold fields h.fields, h.required⟩

theorem toObject (inherited : Field.Inherited F) (h : m.Retyped F n) (name : String)
    {d e : Option Discriminator} (discriminator : e = d) :
    (m.toObject name d).Retyped F (n.toObject name e) := by
  refine ⟨rfl, ?_, discriminator⟩
  rw [Merge.toObject, Merge.toObject, h.required]
  exact inherited.require _ h.fields

theorem start (first second : Option String) :
    Merge.Retyped F { description := first } { description := second } := ⟨.nil, rfl⟩

end Merge.Retyped

/-! ## Schemas -/

section

variable {graph other : Graph} {known known' : Known}

theorem fieldOf_relocate (name : String) (required : Bool) (place : String → String) (node : Node)
    (t : WireType) :
    fieldOf name required (node.relocate place).notes t = fieldOf name required node.notes t := by
  rw [Node.notes_relocate]
  rfl

theorem Refers.retyped (carries : Carries F graph other known known') {nullable : Bool}
    {target : String} {t : WireType} (h : Refers graph known nullable target t) :
    Refers other known' nullable target t := by
  cases h with
  | model found model =>
    obtain ⟨node', found', model', null⟩ := carries.node _ _ found
    rw [← null]
    exact .model found' (model'.trans model)
  | named found unnamed meaning =>
    obtain ⟨node', found', model', -⟩ := carries.node _ _ found
    obtain ⟨d', meaning', same⟩ := carries.meaning _ _ meaning
    cases same
    exact .named found' (model'.trans unnamed) meaning'
  | object found unnamed meaning =>
    obtain ⟨node', found', model', -⟩ := carries.node _ _ found
    obtain ⟨d', meaning', same⟩ := carries.meaning _ _ meaning
    cases same with
    | object same =>
      rw [← same.name]
      exact .object found' (model'.trans unnamed) meaning'

theorem relocateProperties_ne_nil (place : String → String) {properties : List Property}
    (nonempty : properties ≠ []) : relocateProperties place properties ≠ [] := by
  cases properties with
  | nil => exact absurd rfl nonempty
  | cons => nofun

theorem relocateAll_ne_singleton (place : String → String) {members : List Node}
    (proper : ∀ inner pointer target, members ≠ [.reference inner pointer target]) :
    ∀ inner pointer target, relocateAll place members ≠ [.reference inner pointer target] := by
  intro inner pointer target same
  rw [relocateAll_eq_map, List.map_eq_singleton_iff] at same
  obtain ⟨member, rfl, moved⟩ := same
  cases member with
  | reference => exact proper _ _ _ rfl
  | array notes items => cases items <;> cases moved
  | _ => cases moved

mutual

/-- The type of a schema is the same, also at another place; the models made inside of it may have
other fields. -/
theorem TypeOf.retyped (carries : Carries F graph other known known') (place : String → String) :
    ∀ {node : Node} {t : WireType} {own : List ObjectType}, TypeOf graph known node t own →
      ∃ own', TypeOf other known' (node.relocate place) t own' ∧
        List.Forall₂ (ObjectType.Retyped F) own own'
  | _, _, _, .reference h => ⟨[], .reference (h.retyped carries), .nil⟩
  | _, _, _, .primitive => ⟨[], .primitive, .nil⟩
  | _, _, _, .enum nonempty => ⟨[], .enum nonempty, .nil⟩
  | _, _, _, .list => ⟨[], .list, .nil⟩
  | _, _, _, .array h => by
    obtain ⟨own', h', same⟩ := h.retyped carries place
    exact ⟨own', .array h', same⟩
  | _, _, _, @TypeOf.dictionary _ _ _ _ additional plain => by
    refine ⟨[], .dictionary fun node same => ?_, .nil⟩
    cases additional with
    | schema inner => exact plain inner rfl
    | _ => cases same
  | _, _, _, .mapping h => by
    obtain ⟨own', h', same⟩ := h.retyped carries place
    exact ⟨own', .mapping h', same⟩
  | _, _, _, .object proper h => by
    obtain ⟨own', h', same⟩ := h.retyped carries place
    have proper' := proper.imp_left (relocateProperties_ne_nil place)
    exact ⟨_, .object proper' h', List.rel_append same
      (.cons ⟨rfl, carries.inherited.forall₂_refl _, rfl⟩ .nil)⟩
  | _, _, _, .wrapper h => ⟨[], .wrapper (h.retyped carries), .nil⟩
  | _, _, _, .merge proper h => by
    obtain ⟨result', own', h', result, same⟩ := h.retyped carries place (.start _ _)
    exact ⟨_, .merge (relocateAll_ne_singleton place proper) h', List.rel_append same
      (.cons (result.toObject carries.inherited _ rfl) .nil)⟩
  | _, _, _, .union merged h union => by
    obtain ⟨own', h', same⟩ := h.retyped carries place
    exact ⟨own', .union merged h' union, same⟩

/-- The fields of properties are the same. -/
theorem FieldsOf.retyped (carries : Carries F graph other known known')
    (place : String → String) :
    ∀ {properties : List Property} {fields : List Field} {own : List ObjectType},
      FieldsOf graph known properties fields own →
        ∃ own', FieldsOf other known' (relocateProperties place properties) fields own' ∧
          List.Forall₂ (ObjectType.Retyped F) own own'
  | _, _, _, .nil => ⟨[], .nil, .nil⟩
  | _, _, _, .cons h rest => by
    obtain ⟨own₁, h', same⟩ := h.retyped carries place
    obtain ⟨own₂, rest', others⟩ := rest.retyped carries place
    refine ⟨own₁ ++ own₂, ?_, List.rel_append same others⟩
    rw [← fieldOf_relocate _ _ place]
    exact .cons h' rest'

theorem VariantsOf.retyped (carries : Carries F graph other known known')
    (place : String → String) :
    ∀ {members : List Node} {variants : List WireType} {nullable : Bool}
      {own : List ObjectType}, VariantsOf graph known members variants nullable own →
        ∃ own', VariantsOf other known' (relocateAll place members) variants nullable own' ∧
          List.Forall₂ (ObjectType.Retyped F) own own'
  | _, _, _, _, .nil => ⟨[], .nil, .nil⟩
  | _, _, _, _, .null null rest => by
    obtain ⟨own', rest', same⟩ := rest.retyped carries place
    exact ⟨own', .null ((Node.isNull_relocate place _).trans null) rest', same⟩
  | _, _, _, _, .cons proper h rest => by
    obtain ⟨own₁, h', same⟩ := h.retyped carries place
    obtain ⟨own₂, rest', others⟩ := rest.retyped carries place
    exact ⟨own₁ ++ own₂, .cons ((Node.isNull_relocate place _).trans proper) h' rest',
      List.rel_append same others⟩

/-- What an `allOf` comes to may have other fields, if those that it takes over are others. -/
theorem MergeOf.retyped (carries : Carries F graph other known known')
    (place : String → String) :
    ∀ {merge merge' : Merge} {members : List Node} {result : Merge} {own : List ObjectType},
      MergeOf graph known merge members result own → merge.Retyped F merge' →
        ∃ result' own', MergeOf other known' merge' (relocateAll place members) result' own' ∧
          result.Retyped F result' ∧ List.Forall₂ (ObjectType.Retyped F) own own'
  | _, _, _, _, _, .nil, same => ⟨_, [], .nil, same, .nil⟩
  | _, merge', _, _, _, @MergeOf.reference _ _ merge _ _ target _ o _ _ there found rest, same => by
    obtain ⟨d', found', meaning⟩ := carries.meaning _ _ found
    cases meaning with
    | @object _ p parent =>
      have added := same.add carries.inherited parent.fields
      have next : Merge.Retyped F { merge.add o with parents := merge.parents ++ [target] }
          { merge'.add p with parents := merge'.parents ++ [target] } :=
        ⟨added.fields, added.required⟩
      obtain ⟨result', own', rest', result, own⟩ := rest.retyped carries place next
      obtain ⟨node, known⟩ := Option.isSome_iff_exists.mp there
      obtain ⟨node', known', -⟩ := carries.node _ _ known
      refine ⟨result', own', .reference ?_ found' rest', result, own⟩
      rw [Graph.contains, known']
      rfl
  | _, merge', _, _, _, @MergeOf.object _ _ merge notes _ required _ _ _ fields _ _ _ h rest,
      same => by
    obtain ⟨own₁, h', first⟩ := h.retyped carries place
    have added := same.add carries.inherited (o := ⟨"", fields, [], none, notes.description⟩)
      (p := ⟨"", fields, [], none, notes.description⟩) (carries.inherited.forall₂_refl _)
    have next : Merge.Retyped F
        { merge.add ⟨"", fields, [], none, notes.description⟩ with
          required := merge.required ++ required }
        { merge'.add ⟨"", fields, [], none, notes.description⟩ with
          required := merge'.required ++ required } := ⟨added.fields, by rw [same.required]⟩
    obtain ⟨result', own₂, rest', result, others⟩ := rest.retyped carries place next
    exact ⟨result', own₁ ++ own₂, .object h' rest', result, List.rel_append first others⟩
  | _, merge', _, _, _, .nested h rest, same => by
    obtain ⟨inner', own₁, h', inner, first⟩ := h.retyped carries place (.start _ _)
    obtain ⟨result', own₂, rest', result, others⟩ := rest.retyped carries place
      (same.add carries.inherited (inner.toObject carries.inherited "" rfl).fields)
    exact ⟨result', own₁ ++ own₂, .nested h' rest', result, List.rel_append first others⟩

end

/-! ## Named schemas -/

@[simp] theorem isModel_relocate (place : String → String) (node : Node) :
    isModel (node.relocate place) = isModel node := by
  cases node with
  | object notes properties required additional discriminator =>
    rw [Node.relocate]
    cases additional <;> simp only [isModel, relocateAdditional, isEmpty_relocateProperties]
  | composite notes mode members discriminator =>
    have counted : ((relocateAll place members).filter fun m => !m.isNull).length =
        (members.filter fun m => !m.isNull).length := by
      rw [relocateAll_eq_map, List.filter_map, List.length_map]
      simp only [Function.comp_def, Node.isNull_relocate]
    rw [Node.relocate]
    cases mode <;> simp only [isModel, counted]
  | array notes items => cases items <;> rfl
  | _ => rfl

theorem declaresNull_relocate (place : String → String) (node : Node) :
    declaresNull (node.relocate place) = declaresNull node := by
  cases node with
  | composite notes mode members discriminator =>
    rw [Node.relocate, declaresNull, declaresNull, relocateAll_eq_map, List.any_map]
    simp only [Function.comp_def, Node.isNull_relocate, Notes.nullable_relocate]
  | array notes items => cases items <;> rfl
  | _ => rfl

/-- The meaning of a schema is the same, also at another place, but for the fields that it
inherits. -/
theorem DefinitionOf.retyped (carries : Carries F graph other known known')
    (place : String → String) {name : String} {node : Node} {d : Definition}
    {own : List ObjectType}
    (family : (∀ t, d ≠ .type t) →
      familyDiscriminator other name = familyDiscriminator graph name)
    (h : DefinitionOf graph known name node d own) :
    ∃ d' own', DefinitionOf other known' name (node.relocate place) d' own' ∧ d.Retyped F d' ∧
      List.Forall₂ (ObjectType.Retyped F) own own' := by
  cases h with
  | object model h =>
    obtain ⟨own', h', same⟩ := h.retyped carries place
    rw [← isModel_relocate place, Node.relocate] at model
    rw [Node.relocate]
    exact ⟨_, own', .object model h',
      .object ⟨rfl, carries.inherited.forall₂_refl _, family nofun⟩, same⟩
  | merge h =>
    obtain ⟨result', own', h', result, same⟩ := h.retyped carries place (.start _ _)
    rw [Node.relocate]
    exact ⟨_, own', .merge h', .object (result.toObject carries.inherited name (family nofun)), same⟩
  | union merged model h union =>
    obtain ⟨own', h', same⟩ := h.retyped carries place
    have model' := (isModel_relocate place _).trans model
    rw [Node.relocate] at model' ⊢
    exact ⟨_, own', .union merged model' h' union, .type, same⟩
  | enum nonempty =>
    rw [Node.relocate]
    exact ⟨_, [], .enum nonempty, .type, .nil⟩
  | other unnamed enum h =>
    obtain ⟨own', h', same⟩ := h.retyped carries place
    refine ⟨_, own', .other ((isModel_relocate place _).trans unnamed) ?_ h', .type, same⟩
    intro notes values kind moved
    cases node with
    | enum => exact enum _ _ _ rfl
    | array notes items => cases items <;> cases moved
    | _ => cases moved

/-! ## Entries -/

/-- An entry for a schema whose fields have other types. -/
structure Entry.Retyped (F : Field → Field → Prop) (e f : Entry) : Prop where
  name : f.name = e.name
  meaning : e.meaning.Retyped F f.meaning
  own : List.Forall₂ (ObjectType.Retyped F) e.own f.own

/-- What is known in one document is known in another one, with other fields; and of the other names
only `name` is known there. -/
structure Extends (F : Field → Field → Prop) (name : String)
    (known known' : List (String × Definition)) : Prop where
  meaning : ∀ n d, knownIn known n = some d → ∃ d', knownIn known' n = some d' ∧ d.Retyped F d'
  unknown : ∀ n, n ≠ name → knownIn known n = none → knownIn known' n = none

theorem Extends.cons {name n : String} {known known' : List (String × Definition)}
    (h : Extends F name known known') {d d' : Definition} (same : d.Retyped F d') :
    Extends F name ((n, d) :: known) ((n, d') :: known') := by
  refine ⟨fun m e found => ?_, fun m another unknown => ?_⟩
  · rw [knownIn_cons] at found ⊢
    split at found
    · rename_i here
      cases found
      exact ⟨d', if_pos here, same⟩
    · rename_i there
      rw [if_neg there]
      exact h.meaning m e found
  · rw [knownIn_cons] at unknown ⊢
    split at unknown
    · cases unknown
    · rename_i there
      rw [if_neg there]
      exact h.unknown m another unknown

/-- One more name that is known in the other document only. -/
theorem Extends.add {name : String} {known known' : List (String × Definition)}
    (h : Extends F name known known') (fresh : knownIn known name = none) (d' : Definition) :
    Extends F name known ((name, d') :: known') := by
  refine ⟨fun m e found => ?_, fun m another unknown => ?_⟩
  · have there : m ≠ name := by
      rintro rfl
      rw [fresh] at found
      cases found
    rw [knownIn_cons, if_neg there]
    exact h.meaning m e found
  · rw [knownIn_cons, if_neg another]
    exact h.unknown m another unknown

theorem Extends.entries {name : String} {known known' : List (String × Definition)}
    (h : Extends F name known known') {entries entries' : List Entry}
    (same : List.Forall₂ (Entry.Retyped F) entries entries') :
    Extends F name (entries.map Entry.pair ++ known) (entries'.map Entry.pair ++ known') := by
  induction same with
  | nil => exact h
  | @cons e f _ _ first _ ih =>
    rw [List.map_cons, List.map_cons, Entry.pair, Entry.pair, first.name]
    exact ih.cons first.meaning

/-- The schemas of one document are there in another one, of the same kind and in the same
families. -/
structure Transfers (graph other : Graph) : Prop where
  node : ∀ name node, graph.get? name = some node → ∃ node', other.get? name = some node' ∧
    isModel node' = isModel node ∧ declaresNull node' = declaresNull node
  family : ∀ name, graph.contains name = true →
    familyDiscriminator other name = familyDiscriminator graph name

theorem Extends.carries {name : String} {known known' : List (String × Definition)}
    (h : Extends F name known known') (transfers : Transfers graph other)
    (inherited : Field.Inherited F) : Carries F graph other (knownIn known) (knownIn known') :=
  ⟨inherited, transfers.node, h.meaning⟩

/-- Entries for schemas that are the same in both documents carry over. -/
theorem Derived.retyped {active : List String} {known known' : List (String × Definition)}
    {name : String} {entries : List Entry} (derived : Derived graph active known entries)
    (inherited : Field.Inherited F) (transfers : Transfers graph other)
    (extend : Extends F name known known')
    (same : ∀ e ∈ entries, ∀ node, graph.get? e.name = some node →
      e.name ≠ name ∧ other.get? e.name = some node) :
    ∃ entries', Derived other active known' entries' ∧
      List.Forall₂ (Entry.Retyped F) entries entries' := by
  induction derived with
  | nil => exact ⟨[], .nil, .nil⟩
  | @cons e node entries _ inactive unknown found meaning ih =>
    obtain ⟨here, same⟩ := List.forall_mem_cons.mp same
    obtain ⟨entries', derived', all⟩ := ih same
    obtain ⟨another, found'⟩ := here node found
    have extended := extend.entries all
    have carries := extended.carries transfers inherited
    have there : graph.contains e.name = true := by
      rw [Graph.contains, found]
      rfl
    obtain ⟨d', own', meaning', meant, own⟩ :=
      meaning.retyped carries id fun _ => transfers.family e.name there
    rw [Node.relocate_id] at meaning'
    refine ⟨⟨e.name, d', own'⟩ :: entries', .cons derived' inactive ?_ found' meaning',
      .cons ⟨rfl, meant, own⟩ all⟩
    exact extended.unknown e.name another unknown

end

end WireModel.Types
