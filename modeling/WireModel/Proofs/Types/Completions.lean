import Mathlib.Data.List.Nodup
import WireModel.Proofs.Types.Renaming

/-!
# Discriminators under renamings

A renaming of models leaves the tags of discriminators alone: they are what documents hold.
Resolutions of the same schemas are related in another way: their discriminators complete the same
entries, each by names of its own. Such completions are renamings where the models that they lead
to keep their names; and if every tag stands once, only there.
-/

namespace WireModel.Types

open Schema

/-- Discriminators that complete the same entries, each by names of its own, in any order: what
is left of a declared discriminator when it stands next to models with other names. -/
inductive Completions (R : String → String → Prop) : DiscriminatorRel
  | absent : Completions R none none
  | present {property entries mapping names others} : List.Forall₂ R names others →
      mapping.Perm (completed entries others) →
      Completions R (some ⟨property, completed entries names⟩) (some ⟨property, mapping⟩)

/-- Discriminators that are the same, or complete the same entries, each by names of its own: what
is left of a declared discriminator when the models next to it have other names. -/
inductive Completed (R : String → String → Prop) : DiscriminatorRel
  | same {d} : Completed R d d
  | present {property entries names others} : List.Forall₂ R names others →
      Completed R (some ⟨property, completed entries names⟩)
        (some ⟨property, completed entries others⟩)

/-- Discriminators with the same tags in any order, each for the new name of its model. -/
inductive DiscriminatorsRenamed (ρ : String → String) : DiscriminatorRel
  | absent : DiscriminatorsRenamed ρ none none
  | present {property entries others} :
      others.Perm (entries.map fun entry => (entry.1, ρ entry.2)) →
      DiscriminatorsRenamed ρ (some ⟨property, entries⟩) (some ⟨property, others⟩)

/-- A definition under a renaming of models, the entries of discriminators in any order. -/
def Definition.Renamed (ρ : String → String) : Definition → Definition → Prop :=
  Definition.Matches (fun a b => ρ a = b) (DiscriminatorsRenamed ρ)

/-- A discriminator is on a definition: on the object, or on a union inside of a type. -/
def Definition.Carries (d : Discriminator) : Definition → Prop
  | .object o => o.discriminator = some d ∨
      ∃ f ∈ o.fields, ∃ name mode variants, (WireType.union name mode (some d) variants).Part f.type
  | .type t => ∃ name mode variants, (WireType.union name mode (some d) variants).Part t

/-! ## Definitions -/

variable {R : String → String → Prop} {D D' : DiscriminatorRel}

namespace Definition.Matches

variable {d e : Definition}

theorem and (h : d.Matches R D e) (h' : d.Matches R D' e) :
    d.Matches R (fun d e => D d e ∧ D' d e) e := by
  cases h with
  | object h =>
    cases h' with
    | object h' =>
      refine .object ⟨h.name, ?_, h.parents, ⟨h.discriminator, h'.discriminator⟩, h.description⟩
      exact forall₂_and h.fields h'.fields fun f g same same' =>
        ⟨same.name, same.type.and same'.type, same.default, same.description⟩
  | type h =>
    cases h' with
    | type h' => exact .type (h.and h')

theorem imp_of_carries (h : d.Matches R D e) (absent : ∀ e, D none e → D' none e)
    (present : ∀ c e, d.Carries c → D (some c) e → D' (some c) e) : d.Matches R D' e := by
  cases h with
  | @object o p h =>
    refine .object ⟨h.name, ?_, h.parents, ?_, h.description⟩
    · refine forall₂_imp_of_mem h.fields fun f mem g same => ?_
      refine ⟨same.name, same.type.imp_of_part absent ?_, same.default, same.description⟩
      exact fun c e name mode variants part =>
        present c e (.inr ⟨f, mem, name, mode, variants, part⟩)
    · have related := h.discriminator
      cases own : o.discriminator with
      | none =>
        rw [own] at related
        exact absent _ related
      | some c =>
        rw [own] at related
        exact present c _ (.inl own) related
  | type h =>
    exact .type (h.imp_of_part absent fun c e name mode variants part =>
      present c e ⟨name, mode, variants, part⟩)

theorem exists_of_carries {c : Discriminator} (h : d.Matches R D e) (carries : d.Carries c) :
    ∃ e, D (some c) e := by
  cases h with
  | @object o p h =>
    rcases carries with own | ⟨f, mem, _, _, _, part⟩
    · have related := h.discriminator
      rw [own] at related
      exact ⟨_, related⟩
    · obtain ⟨g, -, same⟩ := exists_right_of_forall₂ h.fields mem
      exact same.type.exists_of_part part
  | type h =>
    obtain ⟨_, _, _, part⟩ := carries
    exact h.exists_of_part part

end Definition.Matches

/-! ## Completions that are renamings -/

variable {ρ : String → String} {d : Discriminator} {e : Option Discriminator}

theorem completed_perm {entries : List (String × String)} {names others : List String}
    (h : names.Perm others) : (completed entries names).Perm (completed entries others) :=
  ((h.filter _).map _).append_left _

theorem tags_completed {entries : List (String × String)} {names : List String} :
    (completed entries names).map Prod.fst =
      entries.map Prod.fst ++ names.filter fun n => !entries.any (·.2 == n) := by
  rw [completed, List.map_append, List.map_map]
  congr 1
  exact List.map_id _

/-- Some entry of a completion leads to each name, so if those that entries lead to are kept, all
names are. -/
theorem eq_of_fixed {entries : List (String × String)} {names others : List String}
    (all : List.Forall₂ (fun a b => ρ a = b) names others)
    (fixed : ∀ entry ∈ completed entries names, ρ entry.2 = entry.2) : others = names := by
  refine eq_of_zip all.length_eq fun p mem => ?_
  obtain ⟨entry, leads, eq⟩ : ∃ entry ∈ completed entries names, entry.2 = p.1 :=
    mem_completed (List.of_mem_zip mem).1
  rw [← zip_of_forall₂ all p mem, ← eq]
  exact fixed entry leads

theorem Completed.imp {R R' : String → String → Prop} (names : ∀ a b, R a b → R' a b)
    {d e : Option Discriminator} (h : Completed R d e) : Completed R' d e := by
  cases h with
  | same => exact .same
  | present all => exact .present (all.imp fun a b => names a b)

/-- A completion by other names is the same if the models that it leads to keep theirs. -/
theorem Completed.eq_of_fixed (h : Completed (fun a b => ρ a = b) (some d) e)
    (fixed : ∀ entry ∈ d.mapping, ρ entry.2 = entry.2) : e = some d := by
  cases h with
  | same => rfl
  | present all => rw [Types.eq_of_fixed all fixed]

/-- A completion by other names is a renaming if the models that it leads to keep theirs. -/
theorem Completions.renamed (h : Completions (fun a b => ρ a = b) (some d) e)
    (fixed : ∀ entry ∈ d.mapping, ρ entry.2 = entry.2) : DiscriminatorsRenamed ρ (some d) e := by
  cases h with
  | @present property entries mapping names others all perm =>
    have same := eq_of_fixed all fixed
    refine .present ?_
    have kept : (completed entries names).map (fun entry => (entry.1, ρ entry.2)) =
        completed entries names := by
      refine (List.map_congr_left fun entry mem => ?_).trans (List.map_id _)
      rw [fixed entry mem]
      rfl
    rw [kept, ← same]
    exact perm

/-- A completion by other names that is a renaming has the same tags, so where each of these
stands once, the models that it leads to keep their names. -/
theorem DiscriminatorsRenamed.fixed (renamed : DiscriminatorsRenamed ρ (some d) e)
    (h : Completions (fun a b => ρ a = b) (some d) e) (distinct : (d.mapping.map Prod.fst).Nodup) :
    ∀ entry ∈ d.mapping, ρ entry.2 = entry.2 := by
  cases h with
  | @present property entries mapping names others all perm =>
    cases renamed with
    | present renamed =>
      have tags := ((perm.symm.trans renamed).map Prod.fst)
      rw [List.map_map, show Prod.fst ∘ (fun entry : String × String => (entry.1, ρ entry.2)) =
        Prod.fst from rfl, tags_completed, tags_completed, List.perm_append_left_iff] at tags
      have same : (completed entries others).Perm (completed entries names) :=
        (tags.map _).append_left _
      intro entry mem
      have there := (renamed.symm.trans (perm.trans same)).mem_iff.mp
        (List.mem_map.mpr ⟨entry, mem, rfl⟩)
      have eq := List.inj_on_of_nodup_map distinct there mem rfl
      exact congrArg Prod.snd eq

namespace Definition.Matches

variable {d e : Definition}

theorem renamed (h : d.Matches (fun a b => ρ a = b) (Completions fun a b => ρ a = b) e)
    (fixed : ∀ c, d.Carries c → ∀ entry ∈ c.mapping, ρ entry.2 = entry.2) : d.Renamed ρ e := by
  refine h.imp_of_carries (fun e same => ?_) fun c e carries completes =>
    completes.renamed (fixed c carries)
  cases same
  exact .absent

theorem fixed (h : d.Matches (fun a b => ρ a = b) (Completions fun a b => ρ a = b) e)
    (renamed : d.Renamed ρ e) (distinct : ∀ c, d.Carries c → (c.mapping.map Prod.fst).Nodup) :
    ∀ c, d.Carries c → ∀ entry ∈ c.mapping, ρ entry.2 = entry.2 := by
  intro c carries
  obtain ⟨e, completes, renamed⟩ := (h.and renamed).exists_of_carries carries
  exact renamed.fixed completes (distinct c carries)

end Definition.Matches

end WireModel.Types
