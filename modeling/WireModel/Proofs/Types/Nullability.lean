import WireModel.Proofs.Types.Order
import WireModel.Proofs.Types.Origins

/-!
# Nullability

A schema may say that null is allowed by a flag, by being null, or by what it refers to and which
alternatives it has.

* **`DeclaresNull`**: a schema says so. A parameter tells which named schemas pass it on to the
  references to them.
* **`CarriesNull`**: it says so in a way that reaches the type. Null alone is only seen as a member
  of a union, and of a named union only its flag and null itself.

The type of a schema allows null exactly if the schema carries it. So nothing that is nullable does
not declare null, and nothing is lost but in these two ways.
-/

namespace WireModel

open Schema

/-- Whether a node merges others. -/
def Schema.Node.isMerge : Node → Bool
  | .composite _ .allOf _ _ => true
  | _ => false

/-- Whether a node is a union with null itself among its members. -/
def Schema.Node.hasNullMember : Node → Bool
  | .composite _ mode members _ => mode != .allOf && members.any Node.isNull
  | _ => false

namespace Types

/-! ## Schemas that declare null -/

/-- A schema declares null. A reference does if the schema that it leads to does and passes it
on. -/
inductive DeclaresNull (graph : Graph) (passes : Node → Bool) : Node → Prop
  | flag {node} : node.nullable = true → DeclaresNull graph passes node
  | null {node} : node.isNull = true → DeclaresNull graph passes node
  | member {notes mode members discriminator m} : mode ≠ .allOf → m ∈ members →
      DeclaresNull graph passes m →
      DeclaresNull graph passes (.composite notes mode members discriminator)
  | reference {notes pointer target node} : graph.get? target = some node → passes node = true →
      DeclaresNull graph passes node →
      DeclaresNull graph passes (.reference notes pointer target)
  | wrapper {notes inner pointer target discriminator} :
      DeclaresNull graph passes (.reference inner pointer target) →
      DeclaresNull graph passes
        (.composite notes .allOf [.reference inner pointer target] discriminator)

/-- Merged schemas pass nothing on but their own flag. -/
def passesNull (node : Node) : Bool := !node.isMerge || node.nullable

/-- A schema declares null, and its type shows it. -/
inductive CarriesNull (graph : Graph) : Node → Prop
  | flag {node} : node.nullable = true → CarriesNull graph node
  | null {node} : node.hasNullMember = true → CarriesNull graph node
  | member {notes mode members discriminator m} : mode ≠ .allOf → m ∈ members →
      m.isNull = false → CarriesNull graph m →
      CarriesNull graph (.composite notes mode members discriminator)
  | followed {notes pointer target node} : graph.get? target = some node → isModel node = false →
      CarriesNull graph node → CarriesNull graph (.reference notes pointer target)
  | model {notes pointer target node} : graph.get? target = some node → isModel node = true →
      node.nullable = true ∨ node.hasNullMember = true →
      CarriesNull graph (.reference notes pointer target)
  | wrapper {notes inner pointer target discriminator} :
      CarriesNull graph (.reference inner pointer target) →
      CarriesNull graph (.composite notes .allOf [.reference inner pointer target] discriminator)

variable {graph : Graph}

theorem Node.passesNull_of_not_isMerge {node : Node} (h : node.isMerge = false) :
    passesNull node = true := by
  rw [passesNull, h]
  rfl

theorem exists_member_of_hasNullMember {node : Node} (h : node.hasNullMember = true) :
    ∃ notes mode members discriminator m, node = .composite notes mode members discriminator ∧
      mode ≠ .allOf ∧ m ∈ members ∧ m.isNull = true := by
  cases node with
  | composite notes mode members discriminator =>
    obtain ⟨union, some⟩ := Bool.and_eq_true_iff.mp h
    obtain ⟨m, mem, null⟩ := List.any_eq_true.mp some
    exact ⟨notes, mode, members, discriminator, m, rfl, by simpa using union, mem, null⟩
  | _ => cases h

theorem not_isMerge_of_hasNullMember {node : Node} (h : node.hasNullMember = true) :
    node.isMerge = false := by
  obtain ⟨notes, mode, members, discriminator, m, rfl, union, -⟩ := exists_member_of_hasNullMember h
  cases mode with
  | allOf => exact absurd rfl union
  | _ => rfl

theorem not_isMerge_of_not_isModel {node : Node} (h : isModel node = false) :
    node.isMerge = false := by
  cases node with
  | composite notes mode members discriminator =>
    cases mode with
    | allOf => cases h
    | _ => rfl
  | _ => rfl

theorem declaresNull_of_hasNullMember {node : Node} (h : node.hasNullMember = true) :
    DeclaresNull graph passesNull node := by
  obtain ⟨notes, mode, members, discriminator, m, rfl, union, mem, null⟩ :=
    exists_member_of_hasNullMember h
  exact .member union mem (.null null)

/-- What shows in the type is declared. -/
theorem CarriesNull.declaresNull {node : Node} (h : CarriesNull graph node) :
    DeclaresNull graph passesNull node := by
  induction h with
  | flag flagged => exact .flag flagged
  | null some => exact declaresNull_of_hasNullMember some
  | member union mem _ _ ih => exact .member union mem ih
  | followed found other _ ih =>
    exact .reference found (Node.passesNull_of_not_isMerge (not_isMerge_of_not_isModel other)) ih
  | @model notes pointer target node found _ shown =>
    rcases shown with flagged | some
    · refine .reference found ?_ (.flag flagged)
      rw [passesNull, flagged, Bool.or_true]
    · exact .reference found (Node.passesNull_of_not_isMerge (not_isMerge_of_hasNullMember some))
        (declaresNull_of_hasNullMember some)
  | wrapper _ ih => exact .wrapper ih

/-- No named schema is null alone without a flag, and every named union that declares null has the
flag or null itself among its members. -/
structure KeepsNull (graph : Graph) : Prop where
  alone : ∀ {name node}, graph.get? name = some node → node.isNull = true → node.nullable = true
  unions : ∀ {name node}, graph.get? name = some node → isModel node = true →
    node.isMerge = false → DeclaresNull graph passesNull node →
    node.nullable = true ∨ node.hasNullMember = true

/-- Where schemas keep null, what is declared shows. -/
theorem DeclaresNull.carriesNull (keeps : KeepsNull graph) {node : Node}
    (h : DeclaresNull graph passesNull node) :
    (node.isNull = true → node.nullable = true) → CarriesNull graph node := by
  induction h with
  | flag flagged => exact fun _ => .flag flagged
  | null alone => exact fun flagged => .flag (flagged alone)
  | @member notes mode members discriminator m union mem _ ih =>
    intro _
    cases null : m.isNull with
    | true =>
      refine .null (Bool.and_eq_true_iff.mpr ⟨by simpa using union, ?_⟩)
      exact List.any_eq_true.mpr ⟨m, mem, null⟩
    | false =>
      refine .member union mem null (ih fun alone => ?_)
      rw [null] at alone
      cases alone
  | @reference notes pointer target node found passes declares ih =>
    intro _
    cases model : isModel node with
    | false => exact .followed found model (ih (keeps.alone found))
    | true =>
      refine .model found model ?_
      cases merge : node.isMerge with
      | true =>
        rw [passesNull, merge] at passes
        exact .inl passes
      | false => exact keeps.unions found model merge declares
  | wrapper _ ih => exact fun _ => .wrapper (ih nofun)

/-! ## What carries null, schema by schema -/

section

variable {notes : Notes} {pointer target : String} {node : Node}

/-- A reference to a model carries null by a flag, or by null among the members of the model. -/
theorem carriesNull_model_iff (found : graph.get? target = some node)
    (model : isModel node = true) :
    CarriesNull graph (.reference notes pointer target) ↔
      notes.nullable = true ∨ node.nullable = true ∨ node.hasNullMember = true := by
  constructor
  · intro carries
    cases carries with
    | flag flagged => exact .inl flagged
    | null some => cases some
    | followed found' other =>
      rw [found] at found'
      cases found'
      rw [model] at other
      cases other
    | model found' _ shown =>
      rw [found] at found'
      cases found'
      exact .inr shown
  · rintro (flagged | shown)
    · exact .flag flagged
    · exact .model found model shown

/-- A reference to an alias carries null by its flag or as the alias does. -/
theorem carriesNull_followed_iff (found : graph.get? target = some node)
    (other : isModel node = false) :
    CarriesNull graph (.reference notes pointer target) ↔
      notes.nullable = true ∨ CarriesNull graph node := by
  constructor
  · intro carries
    cases carries with
    | flag flagged => exact .inl flagged
    | null some => cases some
    | followed found' _ carries =>
      rw [found] at found'
      cases found'
      exact .inr carries
    | model found' model =>
      rw [found] at found'
      cases found'
      rw [other] at model
      cases model
  · rintro (flagged | carries)
    · exact .flag flagged
    · exact .followed found other carries

/-- An `allOf` of a single reference carries null by its flag or as the reference does. -/
theorem carriesNull_wrapper_iff {inner : Notes} {discriminator : Option Discriminator} :
    CarriesNull graph (.composite notes .allOf [.reference inner pointer target] discriminator) ↔
      notes.nullable = true ∨ CarriesNull graph (.reference inner pointer target) := by
  constructor
  · intro carries
    cases carries with
    | flag flagged => exact .inl flagged
    | null some => cases some
    | member union => exact absurd rfl union
    | wrapper carries => exact .inr carries
  · rintro (flagged | carries)
    · exact .flag flagged
    · exact .wrapper carries

/-- A union carries null by its flag, by null among its members, or as another of them does. -/
theorem carriesNull_union_iff {mode : Combination} {members : List Node}
    {discriminator : Option Discriminator} (union : mode ≠ .allOf) :
    CarriesNull graph (.composite notes mode members discriminator) ↔
      notes.nullable = true ∨ (∃ m ∈ members, m.isNull = true) ∨
        ∃ m ∈ members, m.isNull = false ∧ CarriesNull graph m := by
  constructor
  · intro carries
    cases carries with
    | flag flagged => exact .inl flagged
    | null some => exact .inr (.inl (List.any_eq_true.mp (Bool.and_eq_true_iff.mp some).2))
    | member _ mem other carries => exact .inr (.inr ⟨_, mem, other, carries⟩)
    | wrapper => exact absurd rfl union
  · rintro (flagged | null | ⟨m, mem, other, carries⟩)
    · exact .flag flagged
    · exact .null (Bool.and_eq_true_iff.mpr ⟨by simpa using union, List.any_eq_true.mpr null⟩)
    · exact .member union mem other carries

end

/-! ## Types that allow null -/

@[simp] theorem WireType.isNullable_orNullIf (allowed : Bool) (t : WireType) :
    (t.orNullIf allowed).isNullable = (allowed || t.isNullable) := by
  cases allowed with
  | false => rfl
  | true => exact WireType.isNullable_orNull t

@[simp] theorem WireType.strip_orNullIf (allowed : Bool) (t : WireType) :
    (t.orNullIf allowed).strip = t.strip := by
  cases allowed with
  | false => rfl
  | true => exact WireType.strip_orNull t

@[simp] theorem WireType.isOptional_orNullIf (allowed : Bool) (t : WireType) :
    (t.orNullIf allowed).isOptional = t.isOptional := by
  cases allowed with
  | false => rfl
  | true => cases t <;> rfl

theorem WireType.isNullable_strip : ∀ t : WireType, t.strip.isNullable = false
  | .optional inner | .nullable inner => WireType.isNullable_strip inner
  | .primitive .. | .sequence _ | .mapping _ | .enum .. | .model _ | .union .. => rfl

theorem declaresNull_iff {node : Node} :
    declaresNull node = true ↔ node.nullable = true ∨ node.hasNullMember = true := by
  cases node with
  | composite notes mode members discriminator =>
    rw [declaresNull, Bool.or_eq_true]
    rfl
  | _ => simp [declaresNull, Node.hasNullMember]

/-- A field is that of a property, and allows null exactly if the property carries it. -/
structure FieldFits (graph : Graph) (p : Property) (f : Field) : Prop where
  name : f.name = p.name
  nullable : f.nullable = true ↔ CarriesNull graph p.node

/-- An object has the fields of the properties of a schema. -/
def ObjectFits (graph : Graph) (node : Node) (o : ObjectType) : Prop :=
  ∃ properties, PropertiesOf graph node properties ∧
    List.Forall₂ (FieldFits graph) properties o.fields

/-- A meaning is that of a schema: an object has the fields of its properties, and any other type
of an alias allows null exactly if the alias carries it. -/
def MeaningFits (graph : Graph) (node : Node) : Definition → Prop
  | .object o => isModel node = true ∧ ObjectFits graph node o
  | .type t => isModel node = false → (t.isNullable = true ↔ CarriesNull graph node)

/-- Everything that is known is the meaning of a schema. -/
def Known.Fits (graph : Graph) (known : Known) : Prop :=
  ∀ name d node, known name = some d → graph.get? name = some node → MeaningFits graph node d

theorem fieldFits_fieldOf {name : String} {node : Node} {required : Bool} {t : WireType}
    (h : t.isNullable = true ↔ CarriesNull graph node) :
    FieldFits graph ⟨name, node, required⟩ (fieldOf name required node.notes t) := by
  refine ⟨rfl, ?_⟩
  cases required <;> exact h

theorem forall₂_required {names : List String} {properties : List Property} {fields : List Field}
    (h : List.Forall₂ (FieldFits graph) properties fields) :
    List.Forall₂ (FieldFits graph) properties (require names fields) := by
  refine forall₂_require (fun p f inner optional fits => ⟨fits.name, ?_⟩) h
  rw [← fits.nullable, Field.nullable, Field.nullable, optional]
  rfl

theorem objectFits_toObject {node : Node} {properties : List Property} {merge : Merge}
    {name : String} {discriminator : Option Discriminator}
    (origin : PropertiesOf graph node properties)
    (h : List.Forall₂ (FieldFits graph) properties merge.fields) :
    ObjectFits graph node (merge.toObject name discriminator) :=
  ⟨properties, origin, forall₂_required h⟩

/-- Whether only its flag can make a schema nullable: it is no reference and no union, and does not
stand for a reference. -/
def isFlagged : Node → Bool
  | .reference .. | .composite _ .allOf [.reference ..] _ => false
  | .composite _ mode _ _ => mode == .allOf
  | _ => true

theorem not_isFlagged_of_union {notes : Notes} {mode : Combination} {members : List Node}
    {discriminator : Option Discriminator} (union : mode ≠ .allOf) :
    isFlagged (.composite notes mode members discriminator) = false := by
  cases mode with
  | allOf => exact absurd rfl union
  | _ => rfl

theorem isFlagged_merge {notes : Notes} {members : List Node}
    {discriminator : Option Discriminator}
    (proper : ∀ inner pointer target, members ≠ [.reference inner pointer target]) :
    isFlagged (.composite notes .allOf members discriminator) = true := by
  rw [isFlagged]
  · rfl
  · exact fun inner pointer target _ => proper inner pointer target

theorem carriesNull_iff_flag {node : Node} (h : isFlagged node = true) :
    CarriesNull graph node ↔ node.nullable = true := by
  refine ⟨fun carries => ?_, .flag⟩
  cases carries with
  | flag flagged => exact flagged
  | null some =>
    obtain ⟨notes, mode, members, discriminator, m, rfl, union, -⟩ :=
      exists_member_of_hasNullMember some
    rw [not_isFlagged_of_union union] at h
    cases h
  | member union =>
    rw [not_isFlagged_of_union union] at h
    cases h
  | followed | model | wrapper => cases h

/-- The type of such a schema allows null exactly if its flag is set. -/
theorem isNullable_iff_of_isFlagged {node : Node} {flag : Bool} {t : WireType}
    (h : isFlagged node = true) (same : node.nullable = flag) (bare : t.isNullable = false) :
    (t.orNullIf flag).isNullable = true ↔ CarriesNull graph node := by
  rw [carriesNull_iff_flag h, WireType.isNullable_orNullIf, bare, Bool.or_false, same]

variable {known : Known}

theorem Refers.carriesNull (fits : known.Fits graph) {notes : Notes} {pointer target : String}
    {t : WireType} (h : Refers graph known notes.nullable target t) :
    t.isNullable = true ↔ CarriesNull graph (.reference notes pointer target) := by
  cases h with
  | model found model =>
    have bare : (WireType.model target).isNullable = false := rfl
    rw [WireType.isNullable_orNullIf, WireType.isNullable_orNullIf, bare, Bool.or_false,
      Bool.or_eq_true, declaresNull_iff, carriesNull_model_iff found model]
  | named found other meant =>
    rw [WireType.isNullable_orNullIf, Bool.or_eq_true, fits _ _ _ meant found other,
      carriesNull_followed_iff found other]
  | object found other meant =>
    have model := (fits _ _ _ meant found).1
    rw [other] at model
    cases model

theorem UnionOf.isNullable {mode : Combination} {name : Option String}
    {discriminator : Option Discriminator} {variants : List WireType} {t : WireType}
    (h : UnionOf mode name discriminator variants t)
    (bare : ∀ v ∈ variants, v.isNullable = false) : t.isNullable = false := by
  cases h with
  | single => exact bare _ List.mem_cons_self
  | untagged => rfl
  | tagged => rfl

/-- The objects made inside of schemas have the fields of their properties. -/
abbrev OwnFits (graph : Graph) : List Node → List ObjectType → Prop :=
  List.Forall₂ (ObjectFits graph)

theorem FieldFits.forall₂_override {before added : List Property} {fields others : List Field}
    (h : List.Forall₂ (FieldFits graph) before fields)
    (new : List.Forall₂ (FieldFits graph) added others) :
    List.Forall₂ (FieldFits graph) (override before added)
      (others.foldl (fun fields f => putField f fields) fields) :=
  Types.forall₂_override (fun _ _ fits => fits.name) new h

mutual

/-- The type of a schema allows null exactly if the schema carries it: by induction on the
derivation, with the same for all objects made inside. -/
theorem TypeOf.carriesNull (fits : known.Fits graph) :
    ∀ {node t own}, TypeOf graph known node t own →
      (t.isNullable = true ↔ CarriesNull graph node) ∧ OwnFits graph (madeIn node) own
  | _, _, _, .reference h => ⟨h.carriesNull fits, by rw [madeIn]; exact .nil⟩
  | _, _, _, .primitive =>
    ⟨isNullable_iff_of_isFlagged rfl rfl rfl, by rw [madeIn]; exact .nil⟩
  | _, _, _, .enum _ => ⟨isNullable_iff_of_isFlagged rfl rfl rfl, by rw [madeIn]; exact .nil⟩
  | _, _, _, .list => ⟨isNullable_iff_of_isFlagged rfl rfl rfl, by rw [madeIn]; exact .nil⟩
  | _, _, _, .array h => by
    rw [madeIn]
    exact ⟨isNullable_iff_of_isFlagged rfl rfl rfl, (h.carriesNull fits).2⟩
  | _, _, _, .dictionary plain => by
    rw [madeIn_dictionary plain]
    exact ⟨isNullable_iff_of_isFlagged rfl rfl rfl, .nil⟩
  | _, _, _, .mapping h => by
    rw [madeIn_mapping]
    exact ⟨isNullable_iff_of_isFlagged rfl rfl rfl, (h.carriesNull fits).2⟩
  | _, _, _, @TypeOf.object _ _ notes properties _ additional discriminator name fields own proper
      h => by
    obtain ⟨all, made⟩ := h.carriesNull fits
    refine ⟨isNullable_iff_of_isFlagged rfl rfl rfl, ?_⟩
    rw [madeIn_object proper]
    exact List.rel_append made (.cons ⟨properties, .object, all⟩ .nil)
  | _, _, _, @TypeOf.wrapper _ _ notes inner pointer target discriminator t h => by
    have inside : t.isNullable = true ↔ CarriesNull graph (.reference inner pointer target) :=
      h.carriesNull fits
    rw [madeIn, WireType.isNullable_orNullIf, Bool.or_eq_true, inside, carriesNull_wrapper_iff]
    exact ⟨Iff.rfl, .nil⟩
  | _, _, _, @TypeOf.merge _ _ notes members discriminator name result own proper h => by
    obtain ⟨⟨properties, merged, all⟩, made⟩ := h.carriesNull fits [] .nil
    refine ⟨isNullable_iff_of_isFlagged (isFlagged_merge proper) rfl rfl, ?_⟩
    rw [madeIn_merge proper]
    exact List.rel_append made (.cons (objectFits_toObject (.merge merged) all) .nil)
  | _, _, _, @TypeOf.union _ _ notes mode members discriminator variants nullable t own union h
      hunion => by
    obtain ⟨nullables, bare, made⟩ := h.carriesNull fits
    rw [WireType.isNullable_orNullIf, hunion.isNullable bare, Bool.or_false, Bool.or_eq_true,
      nullables, carriesNull_union_iff union, madeIn_union union]
    exact ⟨Iff.rfl, made⟩

theorem FieldsOf.carriesNull (fits : known.Fits graph) :
    ∀ {properties fields own}, FieldsOf graph known properties fields own →
      List.Forall₂ (FieldFits graph) properties fields ∧
        OwnFits graph (madeInProperties properties) own
  | _, _, _, .nil => ⟨.nil, by rw [madeInProperties]; exact .nil⟩
  | _, _, _, .cons h rest => by
    obtain ⟨type, made⟩ := h.carriesNull fits
    obtain ⟨others, later⟩ := rest.carriesNull fits
    rw [madeInProperties]
    exact ⟨.cons (fieldFits_fieldOf type) others, List.rel_append made later⟩

/-- A union allows null if null is among its members or one of the others carries it, and its
variants do not say so again. -/
theorem VariantsOf.carriesNull (fits : known.Fits graph) :
    ∀ {members variants nullable own}, VariantsOf graph known members variants nullable own →
      (nullable = true ↔ (∃ m ∈ members, m.isNull = true) ∨
        ∃ m ∈ members, m.isNull = false ∧ CarriesNull graph m) ∧
      (∀ v ∈ variants, v.isNullable = false) ∧ OwnFits graph (madeInVariants members) own
  | _, _, _, _, .nil => ⟨by simp, nofun, by rw [madeInVariants]; exact .nil⟩
  | _, _, _, _, @VariantsOf.null _ _ node rest variants nullable own null h => by
    obtain ⟨-, bare, made⟩ := h.carriesNull fits
    refine ⟨?_, bare, ?_⟩
    · exact iff_of_true rfl (.inl ⟨node, List.mem_cons_self, null⟩)
    · rw [madeInVariants, madeIn_of_isNull null]
      exact made
  | _, _, _, _, @VariantsOf.cons _ _ node rest t variants nullable own others other h hrest => by
    obtain ⟨type, made⟩ := h.carriesNull fits
    obtain ⟨nullables, bare, later⟩ := hrest.carriesNull fits
    refine ⟨?_, List.forall_mem_cons.mpr ⟨WireType.isNullable_strip t, bare⟩, ?_⟩
    · rw [Bool.or_eq_true, type, nullables]
      simp only [List.mem_cons, exists_eq_or_imp, other, Bool.false_eq_true, false_or, true_and]
      exact or_left_comm
    · rw [madeInVariants]
      exact List.rel_append made later

theorem MergeOf.carriesNull (fits : known.Fits graph) :
    ∀ {merge members result own}, MergeOf graph known merge members result own →
      ∀ before, List.Forall₂ (FieldFits graph) before merge.fields →
        (∃ properties, MergedProperties graph before members properties ∧
          List.Forall₂ (FieldFits graph) properties result.fields) ∧
        OwnFits graph (madeInMembers members) own
  | _, _, _, _, .nil, before, all => ⟨⟨before, .nil, all⟩, by rw [madeInMembers]; exact .nil⟩
  | _, _, _, _, .reference there meant rest, before, all => by
    obtain ⟨node, found⟩ := Option.isSome_iff_exists.mp there
    obtain ⟨-, properties, origin, same⟩ := fits _ _ _ meant found
    obtain ⟨⟨result, merged, final⟩, made⟩ :=
      rest.carriesNull fits _ (FieldFits.forall₂_override all same)
    refine ⟨⟨result, .reference found origin merged, final⟩, ?_⟩
    rw [madeInMembers]
    exact made
    all_goals nofun
  | _, _, _, _, .object h rest, before, all => by
    obtain ⟨fields, made⟩ := h.carriesNull fits
    obtain ⟨⟨result, merged, final⟩, later⟩ :=
      rest.carriesNull fits _ (FieldFits.forall₂_override all fields)
    refine ⟨⟨result, .object merged, final⟩, ?_⟩
    rw [madeInMembers]
    exact List.rel_append made later
  | _, _, _, _, .nested h rest, before, all => by
    obtain ⟨⟨properties, nested, same⟩, made⟩ := h.carriesNull fits [] .nil
    obtain ⟨⟨result, merged, final⟩, later⟩ :=
      rest.carriesNull fits _ (FieldFits.forall₂_override all (forall₂_required same))
    refine ⟨⟨result, .nested nested merged, final⟩, ?_⟩
    rw [madeInMembers]
    exact List.rel_append made later

end

/-! ## Named schemas -/

theorem madeInside_of_not_isModel {node : Node} (h : isModel node = false) :
    madeInside node = madeIn node := by
  cases node with
  | object notes properties required additional discriminator => rw [madeInside, h, if_neg nofun]
  | composite notes mode members discriminator =>
    cases mode with
    | allOf => cases h
    | _ => rfl
  | _ => rfl

theorem madeInside_union {notes : Notes} {mode : Combination} {members : List Node}
    {discriminator : Option Discriminator} (union : mode ≠ .allOf) :
    madeInside (.composite notes mode members discriminator) =
      madeIn (.composite notes mode members discriminator) := by
  cases mode with
  | allOf => exact absurd rfl union
  | _ => rfl

theorem DefinitionOf.fits (fits : known.Fits graph) {name : String} {node : Node} {d : Definition}
    {own : List ObjectType} (h : DefinitionOf graph known name node d own) :
    MeaningFits graph node d ∧ OwnFits graph (madeInside node) own := by
  cases h with
  | object model h =>
    obtain ⟨fields, made⟩ := h.carriesNull fits
    refine ⟨⟨model, _, .object, fields⟩, ?_⟩
    rw [madeInside, if_pos model]
    exact made
  | merge h =>
    obtain ⟨⟨properties, merged, fields⟩, made⟩ := h.carriesNull fits [] .nil
    exact ⟨⟨rfl, objectFits_toObject (.merge merged) fields⟩, made⟩
  | @union notes mode members discriminator variants nullable t own union model h _ =>
    refine ⟨fun other => ?_, ?_⟩
    · rw [model] at other
      cases other
    · rw [madeInside_union union, madeIn_union union]
      exact (h.carriesNull fits).2.2
  | enum =>
    refine ⟨fun _ => isNullable_iff_of_isFlagged rfl rfl rfl, ?_⟩
    rw [madeInside, madeIn]
    · exact .nil
    all_goals intros; contradiction
  | other other _ h =>
    obtain ⟨type, made⟩ := h.carriesNull fits
    rw [madeInside_of_not_isModel other]
    exact ⟨fun _ => type, made⟩

/-- The meaning of an entry, and the objects made inside of it, are those of its schema. -/
def Entry.Fits (graph : Graph) (e : Entry) : Prop :=
  ∃ node, graph.get? e.name = some node ∧ MeaningFits graph node e.meaning ∧
    OwnFits graph (madeInside node) e.own

/-- What entries say is the meaning of their schemas. -/
theorem Known.Fits.of_entries {entries : List Entry} (all : ∀ e ∈ entries, e.Fits graph) :
    Known.Fits graph (knownIn (entries.map Entry.pair)) := by
  intro name d node meant found
  obtain ⟨e, mem, rfl, rfl⟩ := exists_entry_of_knownIn meant
  obtain ⟨same, here, fits, -⟩ := all e mem
  rw [found] at here
  cases here
  exact fits

/-- All entries are those of their schemas: each is derived from entries that are. -/
theorem Derived.fits {active : List String} {entries : List Entry}
    (h : Derived graph active [] entries) : ∀ e ∈ entries, e.Fits graph := by
  induction h with
  | nil => nofun
  | @cons e node entries _ _ _ found meaning ih =>
    rw [List.append_nil] at meaning
    obtain ⟨meant, made⟩ := meaning.fits (.of_entries ih)
    exact List.forall_mem_cons.mpr ⟨⟨node, found, meant, made⟩, ih⟩

/-! ## Resolutions -/

/-- The schemas of the definitions of a resolution: the named ones, and for each model without a
name the schema that it is made of. -/
structure Origins (graph : Graph) (definitions : List (String × Definition))
    (origins : List (String × Node)) : Prop where
  names : origins.map Prod.fst = definitions.map Prod.fst
  schemas : ∃ made, origins = graph.definitions ++ made ∧
    (made.map Prod.snd).Perm (graph.definitions.flatMap fun d => madeInside d.2)

/-- The schemas inside of the schema of a name that become models. -/
def madeInName (graph : Graph) (name : String) : List Node :=
  ((graph.get? name).map madeInside).getD []

theorem flatMap_madeInName (distinct : (graph.definitions.map Prod.fst).Nodup) :
    (graph.definitions.map Prod.fst).flatMap (madeInName graph) =
      graph.definitions.flatMap fun d => madeInside d.2 := by
  rw [List.flatMap_map]
  refine List.flatMap_congr fun d mem => ?_
  have found : graph.get? d.1 = some d.2 := (lookup_eq_some_iff_mem distinct).mpr mem
  rw [madeInName, found]
  rfl

theorem forall₂_flatMap {α β γ : Type} {R : β → γ → Prop} {f : α → List β} {g : α → List γ} :
    ∀ {l : List α}, (∀ a ∈ l, List.Forall₂ R (f a) (g a)) →
      List.Forall₂ R (l.flatMap f) (l.flatMap g)
  | [], _ => .nil
  | a :: l, h => by
    rw [List.flatMap_cons, List.flatMap_cons]
    exact List.rel_append (h a List.mem_cons_self)
      (forall₂_flatMap fun b mem => h b (List.mem_cons_of_mem _ mem))

/-- Objects beside their schemas, as definitions beside named schemas. -/
theorem forall₂_zip_names {P : Node → String × Definition → Prop} {objects : List ObjectType}
    {nodes : List Node} (all : List.Forall₂ (fun o node => P node o.pair) objects nodes) :
    List.Forall₂ (fun origin p => origin.1 = p.1 ∧ P origin.2 p)
      ((objects.map ObjectType.name).zip nodes) (objects.map ObjectType.pair) := by
  induction all with
  | nil => exact .nil
  | cons first _ ih => exact .cons ⟨rfl, first⟩ ih

/-- What holds of a schema and its meaning, and of the schemas inside and the objects that are made
of them, for each entry, holds of every definition of a resolution and its schema. -/
theorem Resolution.exists_origins_all {definitions : List (String × Definition)}
    {entries : List Entry} {hoisted : List ObjectType}
    (r : Resolution graph definitions entries hoisted)
    (distinct : (graph.definitions.map Prod.fst).Nodup) {P : Node → String × Definition → Prop}
    (fits : ∀ e ∈ entries, ∃ node, graph.get? e.name = some node ∧ P node e.pair ∧
      List.Forall₂ (fun node o => P node o.pair) (madeInside node) e.own) :
    ∃ origins, Origins graph definitions origins ∧
      List.Forall₂ (fun origin p => origin.1 = p.1 ∧ P origin.2 p) origins definitions := by
  -- the models without a name, each with its schema
  have own : List.Forall₂ (fun o node => P node o.pair) (entries.flatMap Entry.own)
      (entries.flatMap fun e => madeInName graph e.name) := by
    refine forall₂_flatMap fun e mem => ?_
    obtain ⟨node, found, -, made⟩ := fits e mem
    rw [madeInName, found]
    exact made.flip
  obtain ⟨nodes, all, perm⟩ := List.perm_comp_forall₂ r.made own
  have counted : hoisted.length = nodes.length := all.length_eq
  have firsts : ((hoisted.map ObjectType.name).zip nodes).map Prod.fst =
      hoisted.map ObjectType.name := List.map_fst_zip (by rw [List.length_map, counted])
  have seconds : ((hoisted.map ObjectType.name).zip nodes).map Prod.snd = nodes :=
    List.map_snd_zip (by rw [List.length_map, counted])
  have schemas : nodes.Perm (graph.definitions.flatMap fun d => madeInside d.2) := by
    rw [← flatMap_madeInName distinct]
    refine perm.trans ?_
    have names := (r.names_perm distinct).flatMap_right (madeInName graph)
    rwa [List.flatMap_map] at names
  refine ⟨graph.definitions ++ (hoisted.map ObjectType.name).zip nodes,
    ⟨?_, _, rfl, seconds.symm ▸ schemas⟩, ?_⟩
  · rw [r.map_fst, List.map_append, firsts]
  · obtain ⟨named, eq, declared⟩ := r.definitions
    rw [eq]
    refine List.rel_append (forall₂_imp_of_mem declared fun d mem p result => ?_)
      (forall₂_zip_names all)
    -- a named schema: its entry is the only one of that name
    obtain ⟨name, meant⟩ := result
    have found : graph.get? d.1 = some d.2 := (lookup_eq_some_iff_mem distinct).mpr mem
    obtain ⟨e, there, same, meaning⟩ := exists_entry_of_knownIn meant
    obtain ⟨node, found', fits, -⟩ := fits e there
    obtain rfl : d.2 = node := by
      rw [same, found] at found'
      exact Option.some.inj found'
    have whole : e.pair = p := Prod.ext (same.trans name.symm) meaning
    exact ⟨name.symm, whole ▸ fits⟩

/-- What holds of the object that is made of a schema, for each entry, holds of every object of a
resolution and its schema. -/
theorem Resolution.exists_origins_of {definitions : List (String × Definition)}
    {entries : List Entry} {hoisted : List ObjectType}
    (r : Resolution graph definitions entries hoisted)
    (distinct : (graph.definitions.map Prod.fst).Nodup) {P : Node → ObjectType → Prop}
    (fits : ∀ e ∈ entries, ∃ node, graph.get? e.name = some node ∧
      (∀ o, e.meaning = .object o → P node o) ∧ List.Forall₂ P (madeInside node) e.own) :
    ∃ origins, Origins graph definitions origins ∧
      ∀ name node o, (name, node) ∈ origins → (name, .object o) ∈ definitions → P node o := by
  obtain ⟨origins, origin, all⟩ := r.exists_origins_all distinct
    (P := fun node p => ∀ o, p.2 = .object o → P node o) fun e mem => by
      obtain ⟨node, found, meaning, made⟩ := fits e mem
      refine ⟨node, found, meaning, made.imp fun node o fits p same => ?_⟩
      cases same
      exact fits
  refine ⟨origins, origin, fun name node o from_ mem => ?_⟩
  obtain ⟨p, there, same, fits⟩ := exists_right_of_forall₂ all from_
  have here : p = (name, .object o) :=
    List.inj_on_of_nodup_map (r.nodup distinct) there mem same.symm
  exact fits o (by rw [here])

/-- Every object of a resolution has the fields of the properties of its schema. -/
theorem Resolution.exists_origins {definitions : List (String × Definition)} {entries : List Entry}
    {hoisted : List ObjectType} (r : Resolution graph definitions entries hoisted)
    (distinct : (graph.definitions.map Prod.fst).Nodup) :
    ∃ origins, Origins graph definitions origins ∧
      ∀ name node o, (name, node) ∈ origins → (name, .object o) ∈ definitions →
        ObjectFits graph node o := by
  refine r.exists_origins_of distinct fun e mem => ?_
  obtain ⟨node, found, meaning, made⟩ := r.derived.fits e mem
  refine ⟨node, found, fun o same => ?_, made⟩
  rw [same] at meaning
  exact meaning.2

end Types
end WireModel
