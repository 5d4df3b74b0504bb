import WireModel.Proofs.Types.Order

/-!
# What a schema needs

The meaning of a schema is not found before the meanings of some schemas that it refers to: those
of the members of an `allOf`, and those that are no models. References to models are not followed.

* **`linksInside`**: the references in a named schema, each with the way to it. A way may go
  through arrays, mappings and unions only; to a member of the `allOf` that the schema is; to a
  member of another `allOf` inside of it; or through a property.
* **`Needs`**: the references among them that are followed. `Leads` is one need after another, and
  `Cycle` a way back to the start.
* **`Cycle.kinds`**: a cycle that goes neither through a property nor into an `allOf` without a name
  consists of aliases only, or of members of `allOf`s only.
* **`not_cycle_of_resolve`**: a resolution that succeeds has no cycle, of whatever ways.
-/

namespace WireModel.Types

open Schema

/-! ## References and the ways to them -/

/-- How a schema leads to a reference in it. -/
inductive Way where
  /-- Through arrays, mappings and unions. -/
  | straight
  /-- To a member of the `allOf` that the schema is. -/
  | merge
  /-- To a member of an `allOf` inside of the schema, but in no property. -/
  | inner
  /-- Through a property of an object, to a member of an `allOf` or not. -/
  | property (member : Bool)
  deriving DecidableEq

namespace Way

/-- Whether the reference is a member of an `allOf`. -/
def isMember : Way → Bool
  | straight => false
  | merge | inner => true
  | property member => member

/-- The way to a reference that is a schema of its own, in a property or not. -/
def plain (guarded : Bool) : Way := if guarded then property false else straight

/-- The way to a member of an `allOf` that is not named, in a property or not. -/
def member (guarded : Bool) : Way := if guarded then property true else inner

@[simp] theorem isMember_plain (guarded : Bool) : (plain guarded).isMember = false := by
  cases guarded <;> rfl

@[simp] theorem isMember_member (guarded : Bool) : (member guarded).isMember = true := by
  cases guarded <;> rfl

end Way

/-- The name that a reference gives, with the way to the reference. -/
abbrev Link := Way × String

mutual

/-- The references in a schema whose type is asked for, in a property or not. -/
def linksIn (guarded : Bool) : Node → List Link
  | .reference _ _ target => [(.plain guarded, target)]
  | .primitive .. | .enum .. | .array _ none => []
  | .array _ (some items) => linksIn guarded items
  | .object _ properties _ additional discriminator =>
    if properties.isEmpty && discriminator.isNone then linksInOther guarded additional
    else linksInProperties properties
  | .composite _ .allOf [.reference _ _ target] _ => [(.plain guarded, target)]
  | .composite _ .allOf members _ => linksInMembers (.member guarded) members
  | .composite _ _ members _ => linksInVariants guarded members

def linksInOther (guarded : Bool) : AdditionalOf Node → List Link
  | .schema node => linksIn guarded node
  | _ => []

def linksInProperties : List (PropertyOf Node) → List Link
  | [] => []
  | ⟨_, node, _⟩ :: rest => linksIn true node ++ linksInProperties rest

def linksInVariants (guarded : Bool) : List Node → List Link
  | [] => []
  | node :: rest => linksIn guarded node ++ linksInVariants guarded rest

/-- The references in the members of an `allOf`; the members are reached in some way. -/
def linksInMembers (way : Way) : List Node → List Link
  | [] => []
  | .reference _ _ target :: rest => (way, target) :: linksInMembers way rest
  | .object _ properties _ _ _ :: rest => linksInProperties properties ++ linksInMembers way rest
  | .composite _ .allOf members _ :: rest =>
    linksInMembers way members ++ linksInMembers way rest
  | _ :: rest => linksInMembers way rest

end

/-- The references in a named schema. -/
def linksInside : Node → List Link
  | .object notes properties required additional discriminator =>
    if isModel (.object notes properties required additional discriminator) then
      linksInProperties properties
    else linksIn false (.object notes properties required additional discriminator)
  | .composite _ .allOf members _ => linksInMembers .merge members
  | node => linksIn false node

theorem linksIn_object {guarded : Bool} {notes : Notes} {properties : List Property}
    {required : List String} {additional : Additional} {discriminator : Option Discriminator}
    (proper : properties ≠ [] ∨ discriminator ≠ none) :
    linksIn guarded (.object notes properties required additional discriminator) =
      linksInProperties properties := by
  rw [linksIn, bare_eq_false proper, if_neg Bool.false_ne_true]

theorem linksIn_merge {guarded : Bool} {notes : Notes} {members : List Node}
    {discriminator : Option Discriminator}
    (proper : ∀ inner pointer target, members ≠ [.reference inner pointer target]) :
    linksIn guarded (.composite notes .allOf members discriminator) =
      linksInMembers (.member guarded) members := by
  rw [linksIn]
  exact fun inner pointer target => proper inner pointer target

theorem linksIn_union {guarded : Bool} {notes : Notes} {mode : Combination} {members : List Node}
    {discriminator : Option Discriminator} (union : mode ≠ .allOf) :
    linksIn guarded (.composite notes mode members discriminator) =
      linksInVariants guarded members := by
  rw [linksIn]
  · exact fun _ _ _ merge => absurd merge union
  · exact union

theorem linksInside_union {notes : Notes} {mode : Combination} {members : List Node}
    {discriminator : Option Discriminator} (union : mode ≠ .allOf) :
    linksInside (.composite notes mode members discriminator) =
      linksInVariants false members := by
  rw [linksInside, linksIn_union union]
  · nofun
  · exact fun _ _ _ same => by
      cases same
      exact union rfl

theorem linksInside_other {node : Node} (other : isModel node = false) :
    linksInside node = linksIn false node := by
  cases node with
  | object => rw [linksInside, if_neg (by simpa using other)]
  | composite _ mode =>
    cases mode with
    | allOf => cases other
    | _ => rw [linksInside] <;> simp
  | _ => rw [linksInside] <;> simp

theorem linksIn_of_isNull {guarded : Bool} {node : Node} (h : node.isNull = true) :
    linksIn guarded node = [] := by
  cases node with
  | primitive => rw [linksIn]
  | _ => cases h

mutual

/-- Members of the `allOf` that a schema is are links of named schemas only. -/
theorem ne_merge_of_linksIn (guarded : Bool) :
    ∀ node, ∀ link ∈ linksIn guarded node, link.1 ≠ .merge
  | .reference .., link, mem => by
    rw [linksIn, List.mem_singleton] at mem
    rw [mem]
    cases guarded <;> nofun
  | .primitive .., _, mem | .enum .., _, mem | .array _ none, _, mem => by
    rw [linksIn] at mem
    cases mem
  | .array _ (some items), link, mem => by
    rw [linksIn] at mem
    exact ne_merge_of_linksIn guarded items link mem
  | .object _ properties _ additional discriminator, link, mem => by
    rw [linksIn] at mem
    split at mem
    · exact ne_merge_of_linksInOther guarded additional link mem
    · exact ne_merge_of_linksInProperties properties link mem
  | .composite notes mode members discriminator, link, mem => by
    obtain ⟨inner, pointer, target, rfl, rfl⟩ | ⟨rfl, proper⟩ | union :=
      composite_cases mode members
    · rw [linksIn, List.mem_singleton] at mem
      rw [mem]
      cases guarded <;> nofun
    · rw [linksIn_merge proper] at mem
      exact ne_merge_of_linksInMembers (by cases guarded <;> nofun) members link mem
    · rw [linksIn_union union] at mem
      exact ne_merge_of_linksInVariants guarded members link mem

theorem ne_merge_of_linksInOther (guarded : Bool) :
    ∀ additional, ∀ link ∈ linksInOther guarded additional, link.1 ≠ .merge
  | .schema node, link, mem => by
    rw [linksInOther] at mem
    exact ne_merge_of_linksIn guarded node link mem
  | .undeclared, _, mem | .flag _, _, mem => by
    simp [linksInOther] at mem

theorem ne_merge_of_linksInProperties :
    ∀ properties, ∀ link ∈ linksInProperties properties, link.1 ≠ .merge
  | [], _, mem => by
    rw [linksInProperties] at mem
    cases mem
  | ⟨_, node, _⟩ :: rest, link, mem => by
    rw [linksInProperties, List.mem_append] at mem
    exact mem.elim (ne_merge_of_linksIn true node link)
      (ne_merge_of_linksInProperties rest link)

theorem ne_merge_of_linksInVariants (guarded : Bool) :
    ∀ members, ∀ link ∈ linksInVariants guarded members, link.1 ≠ .merge
  | [], _, mem => by
    rw [linksInVariants] at mem
    cases mem
  | node :: rest, link, mem => by
    rw [linksInVariants, List.mem_append] at mem
    exact mem.elim (ne_merge_of_linksIn guarded node link)
      (ne_merge_of_linksInVariants guarded rest link)

theorem ne_merge_of_linksInMembers {way : Way} (other : way ≠ .merge) :
    ∀ members, ∀ link ∈ linksInMembers way members, link.1 ≠ .merge
  | [], _, mem => by
    rw [linksInMembers] at mem
    cases mem
  | .reference .. :: rest, link, mem => by
    rw [linksInMembers, List.mem_cons] at mem
    rcases mem with rfl | mem
    · exact other
    · exact ne_merge_of_linksInMembers other rest link mem
  | .object _ properties _ _ _ :: rest, link, mem => by
    rw [linksInMembers, List.mem_append] at mem
    exact mem.elim (ne_merge_of_linksInProperties properties link)
      (ne_merge_of_linksInMembers other rest link)
  | .composite _ .allOf members _ :: rest, link, mem => by
    rw [linksInMembers, List.mem_append] at mem
    exact mem.elim (ne_merge_of_linksInMembers other members link)
      (ne_merge_of_linksInMembers other rest link)
  | .composite _ .oneOf _ _ :: rest, link, mem | .composite _ .anyOf _ _ :: rest, link, mem
  | .primitive .. :: rest, link, mem | .enum .. :: rest, link, mem
  | .array .. :: rest, link, mem => by
    rw [linksInMembers] at mem
    · exact ne_merge_of_linksInMembers other rest link mem
    all_goals nofun

end

/-! ## Needs -/

/-- A reference is followed if it is a member of an `allOf`, or leads to no model. -/
def Followed (graph : Graph) (m : Link) : Prop :=
  m.1.isMember = true ∨ ∃ node, graph.get? m.2 = some node ∧ isModel node = false

/-- The meaning of a named schema is not found without that of another, to which a way leads. -/
def Needs (graph : Graph) (name : String) (way : Way) (target : String) : Prop :=
  ∃ node, graph.get? name = some node ∧ (way, target) ∈ linksInside node ∧
    Followed graph (way, target)

/-- One need after another. -/
inductive Leads (graph : Graph) : String → List Way → String → Prop
  | stay {name} : Leads graph name [] name
  | step {name way next ways target} : Needs graph name way next → Leads graph next ways target →
      Leads graph name (way :: ways) target

/-- A schema that leads back to itself. -/
def Cycle (graph : Graph) (name : String) (ways : List Way) : Prop :=
  ways ≠ [] ∧ Leads graph name ways name

section

variable {graph : Graph}

theorem Leads.then {name next target : String} {ways : List Way} {way : Way}
    (h : Leads graph name ways next) (need : Needs graph next way target) :
    Leads graph name (ways ++ [way]) target := by
  induction h with
  | stay => exact .step need .stay
  | step first _ ih => exact .step first (ih need)

/-- Whoever is reached straight is no model, and only an `allOf` has members. -/
theorem Needs.not_merge {name next target : String} {way : Way}
    (h : Needs graph name .straight next) (h' : Needs graph next way target) : way ≠ .merge := by
  obtain ⟨-, -, -, member | ⟨other, found, unnamed⟩⟩ := h
  · exact absurd member Bool.false_ne_true
  obtain ⟨node, found', mem, -⟩ := h'
  obtain rfl : other = node := Option.some.inj (found.symm.trans found')
  rw [linksInside_other unnamed] at mem
  exact ne_merge_of_linksIn _ _ _ mem

/-- After a straight way there are only such, unless one goes through a property or into an `allOf`
that is not named. -/
theorem Leads.all_straight {name next target : String} {ways : List Way}
    (h : Needs graph name .straight next) (leads : Leads graph next ways target)
    (pure : ∀ way ∈ ways, way = .straight ∨ way = .merge) :
    (∀ way ∈ ways, way = .straight) ∧ ∃ last, Needs graph last .straight target := by
  induction leads generalizing name with
  | stay => exact ⟨nofun, name, h⟩
  | step first _ ih =>
    obtain ⟨here, rest⟩ := List.forall_mem_cons.mp pure
    obtain rfl := here.resolve_right (h.not_merge first)
    obtain ⟨all, last⟩ := ih first rest
    exact ⟨List.forall_mem_cons.mpr ⟨rfl, all⟩, last⟩

theorem Leads.all_merge {name target : String} {ways : List Way} (h : Leads graph name ways target)
    (pure : ∀ way ∈ ways, way = .straight ∨ way = .merge) :
    (∀ way ∈ ways, way = .merge) ∨ ∃ last, Needs graph last .straight target := by
  induction h with
  | stay => exact .inl nofun
  | step first rest ih =>
    obtain ⟨here, later⟩ := List.forall_mem_cons.mp pure
    rcases here with rfl | rfl
    · exact .inr (Leads.all_straight first rest later).2
    · exact (ih later).imp_left fun all => List.forall_mem_cons.mpr ⟨rfl, all⟩

/-- **The kinds of cycles.** A cycle goes straight from alias to alias, or from `allOf` to member,
or through a property, or through an `allOf` that is not named. -/
theorem Cycle.kinds {name : String} {ways : List Way} (h : Cycle graph name ways) :
    (∀ way ∈ ways, way = .straight) ∨ (∀ way ∈ ways, way = .merge) ∨
      ∃ way ∈ ways, way = .inner ∨ ∃ member, way = .property member := by
  by_cases pure : ∀ way ∈ ways, way = .straight ∨ way = .merge
  · obtain ⟨-, leads⟩ := h
    rcases leads.all_merge pure with all | ⟨last, need⟩
    · exact .inr (.inl all)
    · exact .inl (leads.all_straight need pure).1
  · obtain ⟨way, mem, other⟩ : ∃ way ∈ ways, way ≠ .straight ∧ way ≠ .merge := by
      simpa [not_or] using pure
    refine .inr (.inr ⟨way, mem, ?_⟩)
    cases way with
    | straight => exact absurd rfl other.1
    | merge => exact absurd rfl other.2
    | inner => exact .inl rfl
    | property member => exact .inr ⟨member, rfl⟩

/-! ## What is derived -/

/-- Everything that links lead to is declared, and what is followed is known. -/
def Meets (graph : Graph) (known : Known) (links : List Link) : Prop :=
  ∀ link ∈ links, graph.contains link.2 = true ∧
    (Followed graph link → ∃ d, known link.2 = some d)

theorem meets_nil {known : Known} : Meets graph known [] := nofun

theorem meets_append {known : Known} {links more : List Link} (h : Meets graph known links)
    (h' : Meets graph known more) : Meets graph known (links ++ more) :=
  fun link mem => (List.mem_append.mp mem).elim (h link) (h' link)

theorem Refers.meets {known : Known} {nullable guarded : Bool} {target : String} {t : WireType}
    (h : Refers graph known nullable target t) : Meets graph known [(.plain guarded, target)] := by
  obtain ⟨_, declared, -⟩ := h.exists_node
  refine List.forall_mem_singleton.mpr ⟨contains_of_get? declared, fun followed => ?_⟩
  obtain ⟨other, found, unnamed⟩ := followed.resolve_left (by simp)
  cases h with
  | model found' model =>
    obtain rfl := Option.some.inj (found.symm.trans found')
    rw [unnamed] at model
    cases model
  | named _ _ meant => exact ⟨_, meant⟩
  | object _ _ meant => exact ⟨_, meant⟩

mutual

theorem TypeOf.meets {known : Known} : ∀ {node t own}, TypeOf graph known node t own →
    ∀ guarded, Meets graph known (linksIn guarded node)
  | _, _, _, .reference h, guarded => by
    rw [linksIn]
    exact h.meets
  | _, _, _, .primitive, guarded | _, _, _, .enum _, guarded | _, _, _, .list, guarded => by
    rw [linksIn]
    exact meets_nil
  | _, _, _, .array h, guarded => by
    rw [linksIn]
    exact h.meets guarded
  | _, _, _, @TypeOf.dictionary _ _ _ _ additional plain, guarded => by
    cases additional with
    | schema node => exact absurd rfl (plain node)
    | _ =>
      simp only [linksIn, List.isEmpty_nil, Option.isNone_none, Bool.and_self, if_true,
        linksInOther]
      exact meets_nil
  | _, _, _, .mapping h, guarded => by
    simp only [linksIn, List.isEmpty_nil, Option.isNone_none, Bool.and_self, if_true, linksInOther]
    exact h.meets guarded
  | _, _, _, .object proper h, guarded => by
    rw [linksIn_object proper]
    exact h.meets
  | _, _, _, .wrapper h, guarded => by
    rw [linksIn]
    exact h.meets
  | _, _, _, .merge proper h, guarded => by
    rw [linksIn_merge proper]
    exact h.meets _
  | _, _, _, .union union h _, guarded => by
    rw [linksIn_union union]
    exact h.meets guarded

theorem FieldsOf.meets {known : Known} : ∀ {properties fields own},
    FieldsOf graph known properties fields own → Meets graph known (linksInProperties properties)
  | _, _, _, .nil => by
    rw [linksInProperties]
    exact meets_nil
  | _, _, _, .cons h rest => by
    rw [linksInProperties]
    exact meets_append (h.meets true) rest.meets

theorem VariantsOf.meets {known : Known} : ∀ {members variants nullable own},
    VariantsOf graph known members variants nullable own →
      ∀ guarded, Meets graph known (linksInVariants guarded members)
  | _, _, _, _, .nil, guarded => by
    rw [linksInVariants]
    exact meets_nil
  | _, _, _, _, .null null rest, guarded => by
    rw [linksInVariants, linksIn_of_isNull null]
    exact rest.meets guarded
  | _, _, _, _, .cons _ h rest, guarded => by
    rw [linksInVariants]
    exact meets_append (h.meets guarded) (rest.meets guarded)

theorem MergeOf.meets {known : Known} : ∀ {merge members result own},
    MergeOf graph known merge members result own →
      ∀ way, Meets graph known (linksInMembers way members)
  | _, _, _, _, .nil, way => by
    rw [linksInMembers]
    exact meets_nil
  | _, _, _, _, .reference declared meant rest, way => by
    rw [linksInMembers]
    exact List.forall_mem_cons.mpr ⟨⟨declared, fun _ => ⟨_, meant⟩⟩, rest.meets way⟩
  | _, _, _, _, .object h rest, way => by
    rw [linksInMembers]
    exact meets_append h.meets (rest.meets way)
  | _, _, _, _, .nested h rest, way => by
    rw [linksInMembers]
    exact meets_append (h.meets way) (rest.meets way)

end

theorem DefinitionOf.meets {known : Known} {name : String} {node : Node} {d : Definition}
    {own : List ObjectType} (h : DefinitionOf graph known name node d own) :
    Meets graph known (linksInside node) := by
  cases h with
  | object model h =>
    rw [linksInside, if_pos model]
    exact h.meets
  | merge h => exact h.meets _
  | union union _ h _ =>
    rw [linksInside_union union]
    exact h.meets false
  | enum => exact meets_nil
  | other other _ h =>
    rw [linksInside_other other]
    exact h.meets false

/-- What an entry needs is behind it. -/
theorem Derived.needs {active : List String} {e : Entry} {entries : List Entry}
    (h : Derived graph active [] (e :: entries)) {way : Way} {target : String}
    (need : Needs graph e.name way target) : target ∈ entries.map Entry.name := by
  cases h with
  | cons _ _ _ found meaning =>
    obtain ⟨node, found', mem, followed⟩ := need
    obtain rfl := Option.some.inj (found.symm.trans found')
    obtain ⟨d, meant⟩ := (meaning.meets _ mem).2 followed
    rw [List.append_nil] at meant
    obtain ⟨other, there, rfl, -⟩ := exists_entry_of_knownIn meant
    exact List.mem_map_of_mem there

theorem Derived.leads {active : List String} {entries : List Entry}
    (h : Derived graph active [] entries) : ∀ {name ways target}, Leads graph name ways target →
      name ∈ entries.map Entry.name → target ∈ entries.map Entry.name
  | _, _, _, .stay, mem => mem
  | _, _, _, .step need rest, mem => by
    refine h.leads rest ?_
    clear rest
    induction h with
    | nil => cases mem
    | cons h inactive fresh found meaning ih =>
      rcases List.mem_cons.mp mem with rfl | mem
      · exact List.mem_cons_of_mem _ ((Derived.cons h inactive fresh found meaning).needs need)
      · exact List.mem_cons_of_mem _ (ih mem)

/-- **No cycle is derived.** By induction on the entries: what an entry needs is behind it, and from
there nothing leads back to it, as its name is new. -/
theorem Derived.acyclic {active : List String} {entries : List Entry}
    (h : Derived graph active [] entries) :
    ∀ name ∈ entries.map Entry.name, ∀ ways, ¬Cycle graph name ways := by
  induction h with
  | nil => nofun
  | @cons e node entries h inactive fresh found meaning ih =>
    refine List.forall_mem_cons.mpr ⟨?_, ih⟩
    rintro ways ⟨some, leads⟩
    cases leads with
    | stay => exact some rfl
    | step need rest =>
      have behind := (Derived.cons h inactive fresh found meaning).needs need
      have back := h.leads rest behind
      rw [List.append_nil] at fresh
      obtain ⟨other, there, same⟩ := List.mem_map.mp back
      exact name_ne_of_unknown fresh other there same

/-- A resolution that succeeds has met no cycle. -/
theorem not_cycle_of_resolve {definitions : List (String × Definition)}
    (h : (resolve graph).outcome.1 = .ok definitions) (name : String) (ways : List Way) :
    ¬Cycle graph name ways := by
  rintro ⟨some, leads⟩
  obtain ⟨entries, hoisted, resolution⟩ := exists_resolution h
  refine resolution.derived.acyclic name ?_ ways ⟨some, leads⟩
  cases leads with
  | stay => exact absurd rfl some
  | step need _ =>
    obtain ⟨node, found, -⟩ := need
    have declared : name ∈ graph.definitions.map Prod.fst :=
      contains_iff.mp (contains_of_get? found)
    obtain ⟨e, mem, rfl⟩ := resolution.exists_entry declared
    exact List.mem_map_of_mem mem

end

end WireModel.Types
