import Mathlib.Data.List.Forall2
import WireModel.Proofs.Lists
import WireModel.Types.Resolution

/-!
# The same types with other names

Types, objects and definitions that are the same but for the names of models, and for the
discriminators on them. `Matches R D` is the general relation, with a relation on names and one on
discriminators.
-/

namespace WireModel.Types

open Schema

/-- A relation on discriminators, where there may be none. -/
abbrev DiscriminatorRel := Option Discriminator → Option Discriminator → Prop

/-- The same types but for names and discriminators. -/
inductive WireType.Matches (R : String → String → Prop) (D : DiscriminatorRel) :
    WireType → WireType → Prop
  | primitive {kind format} : Matches R D (.primitive kind format) (.primitive kind format)
  | optional {t u} : Matches R D t u → Matches R D (.optional t) (.optional u)
  | nullable {t u} : Matches R D t u → Matches R D (.nullable t) (.nullable u)
  | sequence {t u} : Matches R D t u → Matches R D (.sequence t) (.sequence u)
  | mapping {t u} : Matches R D t u → Matches R D (.mapping t) (.mapping u)
  | enum {name values kind} : Matches R D (.enum name values kind) (.enum name values kind)
  | model {a b} : R a b → Matches R D (.model a) (.model b)
  | union {name mode d e variants others} : D d e → variants.length = others.length →
      (∀ p ∈ variants.zip others, Matches R D p.1 p.2) →
      Matches R D (.union name mode d variants) (.union name mode e others)

variable (R : String → String → Prop) (D : DiscriminatorRel)

/-- The same fields but for names of models and discriminators. -/
structure Field.Matches (f g : Field) : Prop where
  name : g.name = f.name
  type : f.type.Matches R D g.type
  default : g.default = f.default
  description : g.description = f.description

/-- The same objects but for names of models and discriminators. -/
structure ObjectType.Matches (o p : ObjectType) : Prop where
  name : R o.name p.name
  fields : List.Forall₂ (Field.Matches R D) o.fields p.fields
  parents : p.parents = o.parents
  discriminator : D o.discriminator p.discriminator
  description : p.description = o.description

/-- The same definitions but for names of models and discriminators. -/
inductive Definition.Matches : Definition → Definition → Prop
  | object {o p} : o.Matches R D p → Matches (.object o) (.object p)
  | type {t u} : t.Matches R D u → Matches (.type t) (.type u)

/-- The same merges but for names of models and discriminators. -/
structure Merge.Matches (m n : Merge) : Prop where
  fields : List.Forall₂ (Field.Matches R D) m.fields n.fields
  parents : n.parents = m.parents
  required : n.required = m.required
  description : n.description = m.description

/-! ## Laws -/

variable {R D}

namespace WireType.Matches

variable {t u : WireType}

theorem imp {R' : String → String → Prop} {D' : DiscriminatorRel} (h : t.Matches R D u)
    (names : ∀ a b, R a b → R' a b) (discriminators : ∀ d e, D d e → D' d e) :
    t.Matches R' D' u := by
  induction h with
  | primitive => exact .primitive
  | optional _ ih => exact .optional ih
  | nullable _ ih => exact .nullable ih
  | sequence _ ih => exact .sequence ih
  | mapping _ ih => exact .mapping ih
  | enum => exact .enum
  | model r => exact .model (names _ _ r)
  | union d same _ ih => exact .union (discriminators _ _ d) same ih

theorem strip (h : t.Matches R D u) : t.strip.Matches R D u.strip := by
  induction h with
  | optional _ ih | nullable _ ih => exact ih
  | primitive => exact .primitive
  | sequence h => exact .sequence h
  | mapping h => exact .mapping h
  | enum => exact .enum
  | model r => exact .model r
  | union d same h => exact .union d same h

theorem isNullable_eq (h : t.Matches R D u) : u.isNullable = t.isNullable := by
  induction h with
  | optional _ ih => exact ih
  | _ => rfl

theorem isOptional_eq (h : t.Matches R D u) : u.isOptional = t.isOptional := by
  induction h with
  | nullable _ ih => exact ih
  | _ => rfl

theorem orNullIf (h : t.Matches R D u) (allowed : Bool) :
    (t.orNullIf allowed).Matches R D (u.orNullIf allowed) := by
  cases allowed with
  | false => exact h
  | true =>
    cases h with
    | nullable h => exact .nullable h
    | primitive => exact .nullable .primitive
    | optional h => exact .nullable (.optional h)
    | sequence h => exact .nullable (.sequence h)
    | mapping h => exact .nullable (.mapping h)
    | enum => exact .nullable .enum
    | model r => exact .nullable (.model r)
    | union d same h => exact .nullable (.union d same h)

theorem of_forall₂ {name : Option String} {mode : Combination} {d e : Option Discriminator}
    {variants others : List WireType} (h : D d e)
    (all : List.Forall₂ (WireType.Matches R D) variants others) :
    (WireType.union name mode d variants).Matches R D (.union name mode e others) :=
  .union h all.length_eq (zip_of_forall₂ all)

end WireType.Matches

namespace Field.Matches

variable {f g : Field}

theorem imp {R' : String → String → Prop} {D' : DiscriminatorRel} (h : f.Matches R D g)
    (names : ∀ a b, R a b → R' a b) (discriminators : ∀ d e, D d e → D' d e) :
    f.Matches R' D' g :=
  ⟨h.name, h.type.imp names discriminators, h.default, h.description⟩

theorem putField (h : f.Matches R D g) : ∀ {fields others : List Field},
    List.Forall₂ (Field.Matches R D) fields others →
    List.Forall₂ (Field.Matches R D) (Types.putField f fields) (Types.putField g others)
  | [], [], .nil => .cons h .nil
  | _ :: _, _ :: _, .cons first rest => by
    rw [Types.putField, Types.putField, first.name, h.name]
    split
    · exact .cons h rest
    · exact .cons first (h.putField rest)

end Field.Matches

theorem ObjectType.Matches.imp {R' : String → String → Prop} {D' : DiscriminatorRel}
    {o p : ObjectType} (h : o.Matches R D p) (names : ∀ a b, R a b → R' a b)
    (discriminators : ∀ d e, D d e → D' d e) : o.Matches R' D' p :=
  ⟨names _ _ h.name, h.fields.imp fun _ _ f => f.imp names discriminators, h.parents,
    discriminators _ _ h.discriminator, h.description⟩

theorem require_matches {names : List String} {fields others : List Field}
    (h : List.Forall₂ (Field.Matches R D) fields others) :
    List.Forall₂ (Field.Matches R D) (require names fields) (require names others) := by
  unfold require
  refine List.forall₂_map_left_iff.mpr (List.forall₂_map_right_iff.mpr (h.imp fun f g same => ?_))
  obtain ⟨name, type, default, description⟩ := f
  obtain ⟨name', type', default', description'⟩ := g
  obtain ⟨hname, htype, hdefault, hdescription⟩ := same
  dsimp only at hname htype hdefault hdescription
  subst hname hdefault hdescription
  cases htype with
  | optional h =>
    dsimp only
    split
    · exact ⟨rfl, h, rfl, rfl⟩
    · exact ⟨rfl, .optional h, rfl, rfl⟩
  | primitive => exact ⟨rfl, .primitive, rfl, rfl⟩
  | nullable h => exact ⟨rfl, .nullable h, rfl, rfl⟩
  | sequence h => exact ⟨rfl, .sequence h, rfl, rfl⟩
  | mapping h => exact ⟨rfl, .mapping h, rfl, rfl⟩
  | enum => exact ⟨rfl, .enum, rfl, rfl⟩
  | model r => exact ⟨rfl, .model r, rfl, rfl⟩
  | union d same h => exact ⟨rfl, .union d same h, rfl, rfl⟩

theorem fieldOf_matches {name : String} {required : Bool} {notes : Notes} {t u : WireType}
    (h : t.Matches R D u) : (fieldOf name required notes t).Matches R D (fieldOf name required notes u) := by
  unfold fieldOf
  split
  · exact ⟨rfl, h, rfl, rfl⟩
  · exact ⟨rfl, .optional h, rfl, rfl⟩

namespace Merge.Matches

variable {m n : Merge}

theorem add (h : m.Matches R D n) {o p : ObjectType}
    (fields : List.Forall₂ (Field.Matches R D) o.fields p.fields)
    (description : p.description = o.description) : (m.add o).Matches R D (n.add p) := by
  have fold : ∀ {added others : List Field}, List.Forall₂ (Field.Matches R D) added others →
      ∀ {fields gs : List Field}, List.Forall₂ (Field.Matches R D) fields gs →
        List.Forall₂ (Field.Matches R D)
          (added.foldl (fun fields f => putField f fields) fields)
          (others.foldl (fun fields f => putField f fields) gs) := by
    intro added others all
    induction all with
    | nil => exact fun h => h
    | cons first _ ih => exact fun h => ih (first.putField h)
  refine ⟨fold fields h.fields, h.parents, h.required, ?_⟩
  rw [Merge.add, Merge.add, h.description, description]

theorem toObject_fields (h : m.Matches R D n) {a b : String} {d e : Option Discriminator} :
    List.Forall₂ (Field.Matches R D) (m.toObject a d).fields (n.toObject b e).fields := by
  rw [Merge.toObject, Merge.toObject, h.required]
  exact require_matches h.fields

theorem toObject (h : m.Matches R D n) {a b : String} {d e : Option Discriminator} (name : R a b)
    (discriminator : D d e) : (m.toObject a d).Matches R D (n.toObject b e) :=
  ⟨name, h.toObject_fields, h.parents, discriminator, h.description⟩

end Merge.Matches

/-! ## Relations on discriminators -/

variable {R' : String → String → Prop} {D' : DiscriminatorRel}

namespace WireType.Matches

variable {t u : WireType}

/-- Two reasons to match are one. -/
theorem and (h : t.Matches R D u) (h' : t.Matches R D' u) :
    t.Matches R (fun d e => D d e ∧ D' d e) u := by
  induction h with
  | primitive => exact .primitive
  | optional _ ih =>
    cases h' with
    | optional h' => exact .optional (ih h')
  | nullable _ ih =>
    cases h' with
    | nullable h' => exact .nullable (ih h')
  | sequence _ ih =>
    cases h' with
    | sequence h' => exact .sequence (ih h')
  | mapping _ ih =>
    cases h' with
    | mapping h' => exact .mapping (ih h')
  | enum => exact .enum
  | model r => exact .model r
  | union d same _ ih =>
    cases h' with
    | union d' _ h' => exact .union ⟨d, d'⟩ same fun p mem => ih p mem (h' p mem)

/-- The discriminators in a type are all that matters. -/
theorem imp_of_part (h : t.Matches R D u) (absent : ∀ e, D none e → D' none e)
    (present : ∀ d e name mode variants,
      (WireType.union name mode (some d) variants).Part t → D (some d) e → D' (some d) e) :
    t.Matches R D' u := by
  induction h with
  | primitive => exact .primitive
  | optional _ ih => exact .optional (ih fun d e _ _ _ part => present d e _ _ _ (.optional part))
  | nullable _ ih => exact .nullable (ih fun d e _ _ _ part => present d e _ _ _ (.nullable part))
  | sequence _ ih => exact .sequence (ih fun d e _ _ _ part => present d e _ _ _ (.sequence part))
  | mapping _ ih => exact .mapping (ih fun d e _ _ _ part => present d e _ _ _ (.mapping part))
  | enum => exact .enum
  | model r => exact .model r
  | @union _ _ d e _ _ related same _ ih =>
    refine .union ?_ same fun p mem => ih p mem fun d e _ _ _ part =>
      present d e _ _ _ (.variant (List.of_mem_zip mem).1 part)
    cases d with
    | none => exact absent _ related
    | some d => exact present d e _ _ _ .refl related

theorem exists_of_part {d : Discriminator} {name : Option String} {mode : Combination}
    {variants : List WireType} (h : t.Matches R D u)
    (part : (WireType.union name mode (some d) variants).Part t) : ∃ e, D (some d) e := by
  induction h with
  | primitive => cases part
  | optional _ ih =>
    cases part with
    | optional part => exact ih part
  | nullable _ ih =>
    cases part with
    | nullable part => exact ih part
  | sequence _ ih =>
    cases part with
    | sequence part => exact ih part
  | mapping _ ih =>
    cases part with
    | mapping part => exact ih part
  | enum => cases part
  | model => cases part
  | union related same _ ih =>
    cases part with
    | refl => exact ⟨_, related⟩
    | variant mem part =>
      obtain ⟨other, mem⟩ := exists_zip_of_mem_left same mem
      exact ih _ mem part

end WireType.Matches

end WireModel.Types
