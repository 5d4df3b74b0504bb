import WireModel.Proofs.Types.Nullability
import WireModel.Proofs.Types.Overriding

/-!
# Required fields

Whether a field is required is told by its type alone, and an `allOf` merges fields whole: the last
member that has a field replaces what earlier members said of it. Only then are the fields required
that some object among the members lists.

* **`HasField`**: the model of a schema has a field, required or not. In an `allOf` the last member
  that has it decides, unless an object among the members lists it.
* **`Requires`**: some member of an `allOf`, at any depth, requires a field.

What is required in the first sense is required in the second one; not the other way round, because
a later member may take a requirement back (`required_of_resolve`, `cat_may_be_nameless`).
-/

namespace WireModel.Types

open Schema

/-! ## What schemas require -/

/-- The schema that a member of an `allOf` stands for. -/
def memberSchema (graph : Graph) : Node → Option Node
  | .reference _ _ target => graph.get? target
  | node => some node

/-- Whether one of the objects among the members of an `allOf` lists a field as required. -/
def lists (members : List Node) (x : String) : Bool :=
  members.any fun
    | .object _ _ required _ _ => required.contains x
    | _ => false

/-- The model of a schema has no field of some name. -/
inductive Lacks (graph : Graph) (x : String) : Node → Prop
  | object {notes properties required additional discriminator} :
      (∀ p ∈ properties, p.name ≠ x) →
      Lacks graph x (.object notes properties required additional discriminator)
  | merge {notes members discriminator} :
      (∀ m ∈ members, ∀ node, memberSchema graph m = some node → Lacks graph x node) →
      Lacks graph x (.composite notes .allOf members discriminator)

/-- The model of a schema has a field of some name, which is required or not. -/
inductive HasField (graph : Graph) (x : String) : Bool → Node → Prop
  | object {notes before p after required additional discriminator} : p.name = x →
      (∀ q ∈ after, q.name ≠ x) → HasField graph x p.required
        (.object notes (before ++ p :: after) required additional discriminator)
  | merge {notes before m after node discriminator flag} : memberSchema graph m = some node →
      HasField graph x flag node →
      (∀ m' ∈ after, ∀ node', memberSchema graph m' = some node' → Lacks graph x node') →
      HasField graph x (flag || lists (before ++ m :: after) x)
        (.composite notes .allOf (before ++ m :: after) discriminator)

/-- A schema requires a field: an object lists it, and an `allOf` has a member that requires it. -/
inductive Requires (graph : Graph) (x : String) : Node → Prop
  | declared {notes properties required additional discriminator p} : p ∈ properties →
      p.name = x → p.required = true →
      Requires graph x (.object notes properties required additional discriminator)
  | listed {notes properties required additional discriminator} : x ∈ required →
      Requires graph x (.object notes properties required additional discriminator)
  | member {notes members discriminator m node} : m ∈ members →
      memberSchema graph m = some node → Requires graph x node →
      Requires graph x (.composite notes .allOf members discriminator)

variable {graph : Graph} {x : String}

theorem lists_object {notes : Notes} {properties : List Property} {required : List String}
    {additional : Additional} {discriminator : Option Discriminator} :
    lists [.object notes properties required additional discriminator] x = required.contains x :=
  Bool.or_false _

theorem exists_of_lists {members : List Node} (h : lists members x = true) :
    ∃ notes properties required additional discriminator, x ∈ required ∧
      .object notes properties required additional discriminator ∈ members := by
  obtain ⟨m, mem, listed⟩ := List.any_eq_true.mp h
  split at listed
  · exact ⟨_, _, _, _, _, List.contains_iff_mem.mp listed, mem⟩
  · cases listed

/-- A field is required only if some member requires it. -/
theorem HasField.requires {node : Node} {required : Bool} (h : HasField graph x required node) :
    required = true → Requires graph x node := by
  induction h with
  | object named _ =>
    exact fun flagged => .declared (List.mem_append_right _ List.mem_cons_self) named flagged
  | merge stands _ _ ih =>
    intro marked
    rcases (Bool.or_eq_true _ _).mp marked with flagged | listed
    · exact .member (List.mem_append_right _ List.mem_cons_self) stands (ih flagged)
    · obtain ⟨_, _, _, _, _, there, mem⟩ := exists_of_lists listed
      exact .member mem rfl (.listed there)

theorem HasField.not_lacks {node : Node} {required : Bool} (h : HasField graph x required node) :
    ¬Lacks graph x node := by
  induction h with
  | object named _ =>
    rintro ⟨none⟩
    exact none _ (List.mem_append_right _ List.mem_cons_self) named
  | merge stands _ _ ih =>
    rintro (_ | ⟨none⟩)
    exact ih (none _ (List.mem_append_right _ List.mem_cons_self) _ stands)

/-- Of two places in a list at which something is the last of its kind, neither is behind the
other. -/
theorem eq_of_append_cons {α : Type} {before before' after after' : List α} {a b : α}
    (same : before ++ a :: after = before' ++ b :: after') (first : b ∉ after) (last : a ∉ after') :
    a = b ∧ before = before' ∧ after = after' := by
  rcases List.append_eq_append_iff.mp same with ⟨middle, rfl, eq⟩ | ⟨middle, rfl, eq⟩
  all_goals
    cases middle with
    | nil =>
      cases eq
      exact ⟨rfl, by simp, rfl⟩
    | cons c middle =>
      cases eq
      exact absurd (List.mem_append_right _ List.mem_cons_self) ‹_›

/-- Whether a field is required is settled. -/
theorem HasField.unique {node : Node} {required other : Bool}
    (h : HasField graph x required node) (h' : HasField graph x other node) : required = other := by
  induction h generalizing other with
  | @object notes before p after _ _ _ named none =>
    generalize same : Node.object notes (before ++ p :: after) _ _ _ = whole at h'
    cases h' with
    | object named' none' =>
      injection same with _ same
      obtain ⟨rfl, -, -⟩ := eq_of_append_cons same (fun mem => none _ mem named')
        fun mem => none' _ mem named
      rfl
    | merge => cases same
  | @merge notes before m after node discriminator flag stands here none ih =>
    generalize same : Node.composite notes .allOf (before ++ m :: after) discriminator = whole at h'
    cases h' with
    | object => cases same
    | merge stands' here' none' =>
      injection same with _ _ same
      obtain ⟨rfl, rfl, rfl⟩ := eq_of_append_cons same
        (fun mem => here'.not_lacks (none _ mem _ stands'))
        fun mem => here.not_lacks (none' _ mem _ stands)
      rw [stands] at stands'
      cases stands'
      rw [ih here']

/-! ## Requirements of fields -/

/-- Whether the last field of a name is required, if there is one. -/
def requirement (fields : List Field) (x : String) : Option Bool :=
  (fields.reverse.find? (·.name == x)).map Field.required

theorem requirement_eq_map (fields : List Field) :
    requirement fields x = (lastField? fields x).map Field.required := rfl

theorem requirement_cons (f : Field) (rest : List Field) :
    requirement (f :: rest) x =
      (requirement rest x).or (if f.name = x then some f.required else none) := by
  rw [requirement_eq_map, lastField?_cons, Option.map_or]
  congr 1
  split <;> rfl

theorem requirement_eq_none_iff {fields : List Field} :
    requirement fields x = none ↔ ∀ f ∈ fields, f.name ≠ x := by
  rw [requirement_eq_map, Option.map_eq_none_iff, lastField?_eq_none_iff]

theorem requirement_of_mem {fields : List Field} (distinct : (fields.map Field.name).Nodup)
    {f : Field} (mem : f ∈ fields) : requirement fields f.name = some f.required := by
  rw [requirement_eq_map, lastField?_of_mem distinct mem, Option.map_some]

/-- Of the fields of a merge, those of the member that was added last count. -/
theorem requirement_add {merge : Merge} (o : ObjectType)
    (distinct : (merge.fields.map Field.name).Nodup) :
    requirement (merge.add o).fields x =
      (requirement o.fields x).or (requirement merge.fields x) := by
  show (lastField? (putFields merge.fields o.fields) x).map Field.required = _
  rw [lastField?_putFields distinct, Option.map_or]
  rfl

theorem requirement_require {names : List String} {fields : List Field}
    (proper : ∀ f ∈ fields, f.Proper) : requirement (require names fields) x =
      (requirement fields x).map (· || names.contains x) := by
  rw [requirement_eq_map, requirement_eq_map, lastField?_require, Option.map_map, Option.map_map]
  refine Option.map_congr fun f found => ?_
  obtain ⟨mem, named⟩ := mem_of_lastField? found
  rw [Function.comp_apply, (proper f mem).requireIf.2, named]
  rfl

/-! ## Objects and their schemas -/

/-- The fields of an object are those of a schema, each required or not as the schema has it. -/
structure FieldsFit (graph : Graph) (node : Node) (fields : List Field) : Prop where
  proper : ∀ f ∈ fields, f.Proper
  has : ∀ x flag, requirement fields x = some flag → HasField graph x flag node
  lacks : ∀ x, requirement fields x = none → Lacks graph x node
  distinct : node.isMerge = true → (fields.map Field.name).Nodup

/-- What an `allOf` has merged so far fits the members that it has seen. -/
structure MergeFits (graph : Graph) (seen : List Node) (merge : Merge) : Prop where
  proper : ∀ f ∈ merge.fields, f.Proper
  distinct : (merge.fields.map Field.name).Nodup
  has : ∀ x flag, requirement merge.fields x = some flag →
    ∃ before m after node, seen = before ++ m :: after ∧ memberSchema graph m = some node ∧
      HasField graph x flag node ∧
      ∀ m' ∈ after, ∀ node', memberSchema graph m' = some node' → Lacks graph x node'
  lacks : ∀ x, requirement merge.fields x = none →
    ∀ m ∈ seen, ∀ node, memberSchema graph m = some node → Lacks graph x node
  listed : ∀ x, merge.required.contains x = lists seen x

theorem mergeFits_nil {description : Option String} :
    MergeFits graph [] { description := description } where
  proper := nofun
  distinct := .nil
  has := nofun
  lacks := fun _ _ => nofun
  listed _ := rfl

/-- One more member, with the fields of its schema. -/
theorem MergeFits.add {seen : List Node} {merge : Merge} (fits : MergeFits graph seen merge)
    {m node : Node} (stands : memberSchema graph m = some node) {o : ObjectType}
    (member : FieldsFit graph node o.fields) {required : List String}
    (listed : ∀ x, required.contains x = lists [m] x) (parents : List String) :
    MergeFits graph (seen ++ [m])
      { merge.add o with parents := parents, required := merge.required ++ required } where
  proper f mem := (merge.mem_add mem).elim (member.proper f) (fits.proper f)
  distinct := nodup_putFields o.fields fits.distinct
  has x flag found := by
    rw [requirement_add o fits.distinct] at found
    cases here : requirement o.fields x with
    | some own =>
      rw [here, Option.some_or] at found
      cases found
      exact ⟨seen, m, [], node, rfl, stands, member.has x flag here, nofun⟩
    | none =>
      rw [here, Option.none_or] at found
      obtain ⟨before, m', after, node', rfl, stands', has, none⟩ := fits.has x flag found
      refine ⟨before, m', after ++ [m], node', by simp, stands', has, ?_⟩
      refine List.forall_mem_append.mpr ⟨none, List.forall_mem_singleton.mpr fun other same => ?_⟩
      rw [stands] at same
      cases same
      exact member.lacks x here
  lacks x missing := by
    rw [requirement_add o fits.distinct, Option.or_eq_none_iff] at missing
    refine List.forall_mem_append.mpr ⟨fits.lacks x missing.2,
      List.forall_mem_singleton.mpr fun other same => ?_⟩
    rw [stands] at same
    cases same
    exact member.lacks x missing.1
  listed x := by
    rw [List.contains_append, fits.listed, listed, lists, lists, lists, List.any_append]

/-- When all members are merged, the object fits the `allOf`. -/
theorem MergeFits.fieldsFit {members : List Node} {merge : Merge}
    (fits : MergeFits graph members merge) {notes : Notes} {discriminator : Option Discriminator} :
    FieldsFit graph (.composite notes .allOf members discriminator)
      (require merge.required merge.fields) where
  proper f mem := by
    obtain ⟨g, there, rfl⟩ := List.mem_map.mp (require_eq_map _ _ ▸ mem)
    exact (fits.proper g there).requireIf.1
  has x flag found := by
    rw [requirement_require fits.proper] at found
    obtain ⟨own, there, rfl⟩ := Option.map_eq_some_iff.mp found
    obtain ⟨before, m, after, node, rfl, stands, has, none⟩ := fits.has x own there
    rw [fits.listed]
    exact .merge stands has none
  lacks x missing := by
    rw [requirement_require fits.proper, Option.map_eq_none_iff] at missing
    exact .merge (fits.lacks x missing)
  distinct _ := by
    rw [names_require]
    exact fits.distinct

/-- A field is that of a property, and required if the property is. -/
structure FieldOf (p : Property) (f : Field) : Prop where
  name : f.name = p.name
  required : f.required = p.required
  proper : f.Proper

theorem fieldOf_fieldOf {name : String} {node : Node} {required : Bool} {t : WireType}
    (bare : t.isOptional = false) :
    FieldOf ⟨name, node, required⟩ (fieldOf name required node.notes t) := by
  cases required with
  | true =>
    refine ⟨rfl, ?_, t, bare, .inl rfl⟩
    show (!t.isOptional) = true
    rw [bare]
    rfl
  | false => exact ⟨rfl, rfl, t, bare, .inr rfl⟩

theorem exists_last_of_requirement {properties : List Property} {fields : List Field}
    (h : List.Forall₂ FieldOf properties fields) {flag : Bool}
    (found : requirement fields x = some flag) : ∃ before p after,
      properties = before ++ p :: after ∧ p.name = x ∧ p.required = flag ∧
        ∀ q ∈ after, q.name ≠ x := by
  induction h with
  | nil => cases found
  | @cons p f properties fields first rest ih =>
    rw [requirement_cons] at found
    cases later : requirement fields x with
    | some other =>
      rw [later, Option.some_or] at found
      obtain ⟨before, q, after, rfl, last⟩ := ih (later.trans found)
      exact ⟨p :: before, q, after, rfl, last⟩
    | none =>
      rw [later, Option.none_or] at found
      split at found
      · rename_i named
        cases found
        refine ⟨[], p, properties, rfl, first.name ▸ named, first.required.symm, ?_⟩
        intro q mem same
        obtain ⟨g, there, of⟩ := exists_right_of_forall₂ rest mem
        exact requirement_eq_none_iff.mp later g there (of.name.trans same)
      · cases found

theorem fieldsFit_object {notes : Notes} {properties : List Property} {required : List String}
    {additional : Additional} {discriminator : Option Discriminator} {fields : List Field}
    (h : List.Forall₂ FieldOf properties fields) :
    FieldsFit graph (.object notes properties required additional discriminator) fields where
  proper f mem := by
    obtain ⟨p, -, of⟩ := exists_left_of_forall₂ h mem
    exact of.proper
  has x flag found := by
    obtain ⟨before, p, after, rfl, named, rfl, last⟩ := exists_last_of_requirement h found
    exact .object named last
  lacks x missing := .object fun p mem same => by
    obtain ⟨f, there, of⟩ := exists_right_of_forall₂ h mem
    exact requirement_eq_none_iff.mp missing f there (of.name.trans same)
  distinct merge := nomatch merge

/-! ## Derivations -/

/-- An object has the fields of a schema, and no other type is optional. -/
def MeaningRequires (graph : Graph) (node : Node) : Definition → Prop
  | .object o => FieldsFit graph node o.fields
  | .type t => t.isOptional = false

/-- Everything that is known is what its schema requires. -/
def Known.Requires (graph : Graph) (known : Known) : Prop :=
  ∀ name d node, known name = some d → graph.get? name = some node → MeaningRequires graph node d

/-- The objects made inside of schemas have their fields. -/
abbrev OwnRequires (graph : Graph) : List Node → List ObjectType → Prop :=
  List.Forall₂ fun node o => FieldsFit graph node o.fields

theorem WireType.isOptional_strip : ∀ t : WireType, t.strip.isOptional = false
  | .optional inner | .nullable inner => WireType.isOptional_strip inner
  | .primitive .. | .sequence _ | .mapping _ | .enum .. | .model _ | .union .. => rfl

variable {known : Known}

theorem Refers.isOptional (requires : known.Requires graph) {nullable : Bool} {target : String}
    {t : WireType} (h : Refers graph known nullable target t) : t.isOptional = false := by
  cases h with
  | model => rw [WireType.isOptional_orNullIf, WireType.isOptional_orNullIf]; rfl
  | named found _ meant =>
    rw [WireType.isOptional_orNullIf]
    exact requires _ _ _ meant found
  | object => rw [WireType.isOptional_orNullIf]; rfl

theorem UnionOf.isOptional {mode : Combination} {name : Option String}
    {discriminator : Option Discriminator} {variants : List WireType} {t : WireType}
    (h : UnionOf mode name discriminator variants t)
    (bare : ∀ v ∈ variants, v.isOptional = false) : t.isOptional = false := by
  cases h with
  | single => exact bare _ List.mem_cons_self
  | untagged | tagged => rfl

theorem isOptional_orNullIf_of {allowed : Bool} {t : WireType} (bare : t.isOptional = false) :
    (t.orNullIf allowed).isOptional = false := by
  rw [WireType.isOptional_orNullIf, bare]

mutual

theorem TypeOf.requires (requires : known.Requires graph) :
    ∀ {node t own}, TypeOf graph known node t own →
      t.isOptional = false ∧ OwnRequires graph (madeIn node) own
  | _, _, _, .reference h => ⟨h.isOptional requires, by rw [madeIn]; exact .nil⟩
  | _, _, _, .primitive => ⟨isOptional_orNullIf_of rfl, by rw [madeIn]; exact .nil⟩
  | _, _, _, .enum _ => ⟨isOptional_orNullIf_of rfl, by rw [madeIn]; exact .nil⟩
  | _, _, _, .list => ⟨isOptional_orNullIf_of rfl, by rw [madeIn]; exact .nil⟩
  | _, _, _, .array h => by
    rw [madeIn]
    exact ⟨isOptional_orNullIf_of rfl, (h.requires requires).2⟩
  | _, _, _, .dictionary plain => by
    rw [madeIn_dictionary plain]
    exact ⟨isOptional_orNullIf_of rfl, .nil⟩
  | _, _, _, .mapping h => by
    rw [madeIn_mapping]
    exact ⟨isOptional_orNullIf_of rfl, (h.requires requires).2⟩
  | _, _, _, @TypeOf.object _ _ notes properties _ additional discriminator name fields own proper
      h => by
    obtain ⟨all, made⟩ := h.requires requires
    refine ⟨isOptional_orNullIf_of rfl, ?_⟩
    rw [madeIn_object proper]
    exact List.rel_append made (.cons (fieldsFit_object all) .nil)
  | _, _, _, .wrapper h => by
    rw [madeIn]
    exact ⟨isOptional_orNullIf_of (h.isOptional requires), .nil⟩
  | _, _, _, .merge proper h => by
    obtain ⟨fits, made⟩ := h.requires requires mergeFits_nil
    rw [madeIn_merge proper]
    exact ⟨isOptional_orNullIf_of rfl, List.rel_append made (.cons fits.fieldsFit .nil)⟩
  | _, _, _, .union union h hunion => by
    obtain ⟨bare, made⟩ := h.requires requires
    rw [madeIn_union union]
    exact ⟨isOptional_orNullIf_of (hunion.isOptional bare), made⟩

theorem FieldsOf.requires (requires : known.Requires graph) :
    ∀ {properties fields own}, FieldsOf graph known properties fields own →
      List.Forall₂ FieldOf properties fields ∧ OwnRequires graph (madeInProperties properties) own
  | _, _, _, .nil => ⟨.nil, by rw [madeInProperties]; exact .nil⟩
  | _, _, _, .cons h rest => by
    obtain ⟨bare, made⟩ := h.requires requires
    obtain ⟨others, later⟩ := rest.requires requires
    rw [madeInProperties]
    exact ⟨.cons (fieldOf_fieldOf bare) others, List.rel_append made later⟩

theorem VariantsOf.requires (requires : known.Requires graph) :
    ∀ {members variants nullable own}, VariantsOf graph known members variants nullable own →
      (∀ v ∈ variants, v.isOptional = false) ∧ OwnRequires graph (madeInVariants members) own
  | _, _, _, _, .nil => ⟨nofun, by rw [madeInVariants]; exact .nil⟩
  | _, _, _, _, .null null h => by
    rw [madeInVariants, madeIn_of_isNull null]
    exact h.requires requires
  | _, _, _, _, @VariantsOf.cons _ _ _ _ t _ _ _ _ _ h rest => by
    obtain ⟨-, made⟩ := h.requires requires
    obtain ⟨bare, later⟩ := rest.requires requires
    rw [madeInVariants]
    exact ⟨List.forall_mem_cons.mpr ⟨t.isOptional_strip, bare⟩, List.rel_append made later⟩

theorem MergeOf.requires (requires : known.Requires graph) :
    ∀ {merge members result own}, MergeOf graph known merge members result own →
      ∀ {seen}, MergeFits graph seen merge →
        MergeFits graph (seen ++ members) result ∧ OwnRequires graph (madeInMembers members) own
  | _, _, _, _, .nil, seen, fits => by
    rw [List.append_nil, madeInMembers]
    exact ⟨fits, .nil⟩
  | merge, _, _, _, @MergeOf.reference _ _ _ notes pointer target _ o _ _ there meant rest, seen,
      fits => by
    obtain ⟨node, found⟩ := Option.isSome_iff_exists.mp there
    have unlisted (x : String) : ([] : List String).contains x =
        lists [.reference notes pointer target] x := rfl
    have next := fits.add (m := .reference notes pointer target) found (requires _ _ _ meant found)
      unlisted (merge.parents ++ [target])
    rw [List.append_nil] at next
    obtain ⟨final, made⟩ := rest.requires requires next
    rw [List.append_assoc] at final
    refine ⟨final, ?_⟩
    rw [madeInMembers]
    exact made
    all_goals nofun
  | merge, _, _, _, @MergeOf.object _ _ _ notes properties required additional discriminator _ _ _
      _ _ h rest, seen, fits => by
    obtain ⟨fields, made⟩ := h.requires requires
    have listed (x : String) : required.contains x =
        lists [.object notes properties required additional discriminator] x := lists_object.symm
    have next := fits.add (m := .object notes properties required additional discriminator) rfl
      (o := ⟨"", _, [], none, notes.description⟩) (fieldsFit_object fields) listed
      merge.parents
    obtain ⟨final, later⟩ := rest.requires requires next
    rw [List.append_assoc] at final
    refine ⟨final, ?_⟩
    rw [madeInMembers]
    exact List.rel_append made later
  | merge, _, _, _, @MergeOf.nested _ _ _ notes members discriminator _ inner _ _ _ h rest, seen,
      fits => by
    obtain ⟨nested, made⟩ := h.requires requires mergeFits_nil
    have unlisted (x : String) : ([] : List String).contains x =
        lists [.composite notes .allOf members discriminator] x := rfl
    have next := fits.add (m := .composite notes .allOf members discriminator) rfl
      (o := inner.toObject "" none) (MergeFits.fieldsFit nested) unlisted merge.parents
    rw [List.append_nil] at next
    obtain ⟨final, later⟩ := rest.requires requires next
    rw [List.append_assoc] at final
    refine ⟨final, ?_⟩
    rw [madeInMembers]
    exact List.rel_append made later

end

/-! ## Named schemas -/

theorem DefinitionOf.requires (requires : known.Requires graph) {name : String} {node : Node}
    {d : Definition} {own : List ObjectType} (h : DefinitionOf graph known name node d own) :
    MeaningRequires graph node d ∧ OwnRequires graph (madeInside node) own := by
  cases h with
  | object model h =>
    obtain ⟨fields, made⟩ := h.requires requires
    rw [madeInside, if_pos model]
    exact ⟨fieldsFit_object fields, made⟩
  | merge h =>
    obtain ⟨fits, made⟩ := h.requires requires mergeFits_nil
    exact ⟨MergeFits.fieldsFit fits, made⟩
  | @union notes mode members discriminator _ _ _ _ union _ h hunion =>
    obtain ⟨bare, made⟩ := h.requires requires
    rw [madeInside_union union, madeIn_union union]
    exact ⟨hunion.isOptional bare, made⟩
  | enum =>
    refine ⟨isOptional_orNullIf_of rfl, ?_⟩
    rw [madeInside, madeIn]
    · exact .nil
    all_goals intros; contradiction
  | other other _ h =>
    rw [madeInside_of_not_isModel other]
    exact h.requires requires

/-- What holds of the meaning of each entry by the meanings of those behind it. -/
theorem Derived.requires {active : List String} {entries : List Entry}
    (h : Derived graph active [] entries) : ∀ e ∈ entries, ∃ node,
      graph.get? e.name = some node ∧ MeaningRequires graph node e.meaning ∧
        OwnRequires graph (madeInside node) e.own := by
  induction h with
  | nil => nofun
  | @cons e node entries _ _ _ found meaning ih =>
    rw [List.append_nil] at meaning
    have requires : Known.Requires graph (knownIn (entries.map Entry.pair)) := by
      intro name d node meant found
      obtain ⟨e, mem, rfl, rfl⟩ := exists_entry_of_knownIn meant
      obtain ⟨same, here, requires, -⟩ := ih e mem
      rw [found] at here
      cases here
      exact requires
    exact List.forall_mem_cons.mpr ⟨⟨node, found, meaning.requires requires⟩, ih⟩

/-- In every resolution of schemas with distinct names, whether a field of an `allOf` is required is
told by the last member that has the field and by the objects among the members that list it. So it
is required only if some member requires it, and whenever one of those objects lists it; and that
some member requires it is enough unless the last member that has it does not. -/
theorem required_of_resolve {graph : Graph} {definitions : List (String × Definition)}
    (distinct : (graph.definitions.map Prod.fst).Nodup)
    (resolves : (resolve graph).outcome.1 = .ok definitions) :
    ∃ origins, Origins graph definitions origins ∧
      ∀ name notes members discriminator o,
        (name, .composite notes .allOf members discriminator) ∈ origins →
        (name, .object o) ∈ definitions → ∀ f ∈ o.fields,
          HasField graph f.name f.required (.composite notes .allOf members discriminator) ∧
          (f.required = true →
            Requires graph f.name (.composite notes .allOf members discriminator)) ∧
          (lists members f.name = true → f.required = true) ∧
          ((f.required = true ↔
              Requires graph f.name (.composite notes .allOf members discriminator)) ↔
            ¬(Requires graph f.name (.composite notes .allOf members discriminator) ∧
              HasField graph f.name false (.composite notes .allOf members discriminator))) := by
  obtain ⟨entries, hoisted, resolution⟩ := exists_resolution resolves
  obtain ⟨origins, origin, fits⟩ := resolution.exists_origins_of distinct
    (P := fun node o => FieldsFit graph node o.fields) fun e mem => by
      obtain ⟨node, found, meaning, own⟩ := resolution.derived.requires e mem
      refine ⟨node, found, fun o same => ?_, own⟩
      rw [same] at meaning
      exact meaning
  refine ⟨origins, origin, fun name notes members discriminator o from_ mem f own => ?_⟩
  have fits := fits _ _ o from_ mem
  have has := fits.has _ _ (requirement_of_mem (fits.distinct rfl) own)
  have requires := has.requires
  refine ⟨has, requires, fun listed => ?_, ?_⟩
  · generalize f.required = flag at has
    cases has with
    | merge => rw [listed, Bool.or_true]
  · cases required : f.required with
    | true =>
      rw [required] at has requires
      have settled := requires rfl
      refine iff_of_true (iff_of_true rfl settled) fun ⟨_, other⟩ => ?_
      cases has.unique other
    | false =>
      rw [required] at has
      simp [has]

/-! ## A cat with a name -/

/-- Somebody with a name. -/
def petNode : Node :=
  .object (.at "#/definitions/Pet")
    [⟨"name", .primitive (.at "#/definitions/Pet/properties/name") .string none, true⟩] ["name"]
    .undeclared none

/-- A pet that declares its name again. -/
def catNode (required : List String) : Node :=
  .composite (.at "#/definitions/Cat") .allOf
    [.reference (.at "#/definitions/Cat/allOf/0") "#/definitions/Pet" "Pet",
      .object (.at "#/definitions/Cat/allOf/1")
        [⟨"name", .primitive (.at "#/definitions/Cat/allOf/1/properties/name") .string none,
          required.contains "name"⟩] required .undeclared none] none

def catGraph (required : List String) : Graph :=
  ⟨"", "#/definitions", "cats", [("Pet", petNode), ("Cat", catNode required)]⟩

/-- Whether cats have a name, required or not. -/
def catHasName (flag : Bool) (definitions : List (String × Definition)) : Bool :=
  definitions.any fun d =>
    match d with
    | ("Cat", .object o) => o.fields.any fun f => f.name == "name" && f.required == flag
    | _ => false

theorem exists_cat (flag : Bool) (required : List String)
    (h : (resolve (catGraph required)).outcome.1.toOption.any (catHasName flag) = true) :
    ∃ definitions o f, (resolve (catGraph required)).outcome.1 = .ok definitions ∧
      ("Cat", .object o) ∈ definitions ∧ f ∈ o.fields ∧ f.name = "name" ∧ f.required = flag := by
  obtain ⟨definitions, found, some⟩ := (Option.any_eq_true _ _).mp h
  obtain ⟨d, mem, some⟩ := List.any_eq_true.mp some
  split at some
  · rename_i o
    obtain ⟨f, there, both⟩ := List.any_eq_true.mp some
    obtain ⟨name, same⟩ := Bool.and_eq_true_iff.mp both
    exact ⟨definitions, o, f, toOption_eq_some.mp found, mem, there, beq_iff_eq.mp name,
      beq_iff_eq.mp same⟩
  · cases some

/-- A cat that lists its name needs one. -/
theorem cat_needs_name : ((catGraph ["name"]).definitions.map Prod.fst).Nodup ∧
    ∃ definitions o f, (resolve (catGraph ["name"])).outcome.1 = .ok definitions ∧
      ("Cat", .object o) ∈ definitions ∧ f ∈ o.fields ∧ f.name = "name" ∧ f.required = true := by
  have distinct : ((catGraph ["name"]).definitions.map Prod.fst).Nodup := by decide
  obtain ⟨definitions, o, f, resolves, mem, there, name, -⟩ :=
    exists_cat true ["name"] (by decide +kernel)
  obtain ⟨origins, origin, fields⟩ := required_of_resolve distinct resolves
  have named : ("Cat", catNode ["name"]) ∈ origins := by
    obtain ⟨made, rfl, -⟩ := origin.schemas
    exact List.mem_append_left _ (List.mem_cons_of_mem _ List.mem_cons_self)
  obtain ⟨-, -, listed, -⟩ := fields _ _ _ _ o named mem f there
  rw [name] at listed
  exact ⟨distinct, definitions, o, f, resolves, mem, there, name, listed (by decide)⟩

/-- A cat that declares its name again may go without one, though all pets need one. -/
theorem cat_may_be_nameless : ∃ definitions o f,
    (resolve (catGraph [])).outcome.1 = .ok definitions ∧ ("Cat", .object o) ∈ definitions ∧
      f ∈ o.fields ∧ f.name = "name" ∧ f.required = false ∧
      Requires (catGraph []) "name" petNode ∧ Requires (catGraph []) "name" (catNode []) := by
  have pet : Requires (catGraph []) "name" petNode := .listed List.mem_cons_self
  obtain ⟨definitions, o, f, resolves, mem, there, name, free⟩ :=
    exists_cat false [] (by decide +kernel)
  exact ⟨definitions, o, f, resolves, mem, there, name, free, pet,
    .member List.mem_cons_self rfl pet⟩

end WireModel.Types
