import WireModel.Proofs.Lists
import WireModel.Proofs.Types.Derivation

/-!
# Where models and fields come from

* **`madeIn`**: the schemas inside of a schema that become models under new names, in the order in
  which these are made.
* **`PropertiesOf`**: the properties whose fields the model of a schema has. Those of an object are
  its own; an `allOf` has those of its members, where a later one takes the place of an earlier one
  with its name.
-/

namespace WireModel.Types

open Schema

/-! ## Models without a name -/

mutual

/-- The schemas that become models under new names when the type of a schema is found, the schema
itself among them if it is one. -/
def madeIn : Node → List Node
  | .reference .. | .primitive .. | .enum .. | .array _ none => []
  | .array _ (some items) => madeIn items
  | .object notes properties required additional discriminator =>
    if properties.isEmpty && discriminator.isNone then madeInOther additional
    else madeInProperties properties ++ [.object notes properties required additional discriminator]
  | .composite _ .allOf [.reference ..] _ => []
  | .composite notes .allOf members discriminator =>
    madeInMembers members ++ [.composite notes .allOf members discriminator]
  | .composite _ _ members _ => madeInVariants members

def madeInOther : AdditionalOf Node → List Node
  | .schema node => madeIn node
  | _ => []

def madeInProperties : List (PropertyOf Node) → List Node
  | [] => []
  | ⟨_, node, _⟩ :: rest => madeIn node ++ madeInProperties rest

/-- Those inside the variants of a union. -/
def madeInVariants : List Node → List Node
  | [] => []
  | node :: rest => madeIn node ++ madeInVariants rest

/-- Those inside the members of an `allOf`, whose objects are no models of their own. -/
def madeInMembers : List Node → List Node
  | [] => []
  | .object _ properties _ _ _ :: rest => madeInProperties properties ++ madeInMembers rest
  | .composite _ .allOf members _ :: rest => madeInMembers members ++ madeInMembers rest
  | _ :: rest => madeInMembers rest

end

/-- The schemas inside of a named schema that become models under new names. -/
def madeInside : Node → List Node
  | .object notes properties required additional discriminator =>
    if isModel (.object notes properties required additional discriminator) then
      madeInProperties properties
    else madeIn (.object notes properties required additional discriminator)
  | .composite _ .allOf members _ => madeInMembers members
  | node => madeIn node

theorem madeIn_dictionary {notes : Notes} {required : List String} {additional : Additional}
    (plain : ∀ node, additional ≠ .schema node) :
    madeIn (.object notes [] required additional none) = [] := by
  cases additional with
  | schema node => exact absurd rfl (plain node)
  | _ => simp [madeIn, madeInOther]

theorem madeIn_mapping {notes : Notes} {required : List String} {node : Node} :
    madeIn (.object notes [] required (.schema node) none) = madeIn node := by
  simp [madeIn, madeInOther]

theorem madeIn_object {notes : Notes} {properties : List Property} {required : List String}
    {additional : Additional} {discriminator : Option Discriminator}
    (proper : properties ≠ [] ∨ discriminator ≠ none) :
    madeIn (.object notes properties required additional discriminator) =
      madeInProperties properties ++
        [.object notes properties required additional discriminator] := by
  rw [madeIn, bare_eq_false proper, if_neg Bool.false_ne_true]

theorem madeIn_merge {notes : Notes} {members : List Node} {discriminator : Option Discriminator}
    (proper : ∀ inner pointer target, members ≠ [.reference inner pointer target]) :
    madeIn (.composite notes .allOf members discriminator) =
      madeInMembers members ++ [.composite notes .allOf members discriminator] := by
  rw [madeIn]
  exact fun inner pointer target => proper inner pointer target

theorem madeIn_union {notes : Notes} {mode : Combination} {members : List Node}
    {discriminator : Option Discriminator} (union : mode ≠ .allOf) :
    madeIn (.composite notes mode members discriminator) = madeInVariants members := by
  rw [madeIn]
  · exact fun _ _ _ merge => absurd merge union
  · exact union

theorem madeIn_of_isNull {node : Node} (h : node.isNull = true) : madeIn node = [] := by
  cases node with
  | primitive => rw [madeIn]
  | _ => cases h

/-! ## Properties -/

/-- The properties of an object, one added: in its place if it is there, otherwise at the end. -/
def putProperty (p : Property) : List Property → List Property
  | [] => [p]
  | q :: rest => if q.name == p.name then p :: rest else q :: putProperty p rest

/-- The properties of an object, others added one after another. -/
def override (before added : List Property) : List Property :=
  added.foldl (fun properties p => putProperty p properties) before

mutual

/-- The properties of which the model of a schema has fields. -/
inductive PropertiesOf (graph : Graph) : Node → List Property → Prop
  | object {notes properties required additional discriminator} :
      PropertiesOf graph (.object notes properties required additional discriminator) properties
  | merge {notes members discriminator properties} : MergedProperties graph [] members properties →
      PropertiesOf graph (.composite notes .allOf members discriminator) properties

/-- What the members of an `allOf` add to some properties. -/
inductive MergedProperties (graph : Graph) : List Property → List Node → List Property → Prop
  | nil {before} : MergedProperties graph before [] before
  | reference {before notes pointer target rest node properties result} :
      graph.get? target = some node → PropertiesOf graph node properties →
      MergedProperties graph (override before properties) rest result →
      MergedProperties graph before (.reference notes pointer target :: rest) result
  | object {before notes properties required additional discriminator rest result} :
      MergedProperties graph (override before properties) rest result →
      MergedProperties graph before
        (.object notes properties required additional discriminator :: rest) result
  | nested {before notes members discriminator rest properties result} :
      MergedProperties graph [] members properties →
      MergedProperties graph (override before properties) rest result →
      MergedProperties graph before (.composite notes .allOf members discriminator :: rest) result

end

/-! ## Fields in step with properties -/

section

variable {R : Property → Field → Prop}

theorem forall₂_putProperty (names : ∀ p f, R p f → f.name = p.name) {p : Property} {f : Field}
    (new : R p f) {ps : List Property} {fs : List Field} (h : List.Forall₂ R ps fs) :
    List.Forall₂ R (putProperty p ps) (putField f fs) := by
  induction h with
  | nil => exact .cons new .nil
  | @cons q g ps fs first rest ih =>
    rw [putProperty, putField, names q g first, names p f new]
    split
    · exact .cons new rest
    · exact .cons first ih

theorem forall₂_override (names : ∀ p f, R p f → f.name = p.name) {added : List Property}
    {others : List Field} (new : List.Forall₂ R added others) :
    ∀ {ps : List Property} {fs : List Field}, List.Forall₂ R ps fs →
      List.Forall₂ R (override ps added) (others.foldl (fun fields f => putField f fields) fs) := by
  induction new with
  | nil => exact fun h => h
  | cons first _ ih => exact fun h => ih (forall₂_putProperty names first h)

/-- What a relation says of a field it says of the same field made required, if it does not look
at whether it is. -/
theorem forall₂_require (required : ∀ p (f : Field) inner, f.type = .optional inner → R p f →
      R p { f with type := inner }) {names : List String} {ps : List Property} {fs : List Field}
    (h : List.Forall₂ R ps fs) : List.Forall₂ R ps (require names fs) := by
  refine List.forall₂_map_right_iff.mpr (h.imp fun p f same => ?_)
  split
  · rename_i inner optional
    split
    · exact required p f inner optional same
    · exact same
  · exact same

end

end WireModel.Types
