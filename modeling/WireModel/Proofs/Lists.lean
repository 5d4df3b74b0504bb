import Mathlib.Data.List.Forall2
import Mathlib.Data.List.Nodup
import Mathlib.Data.List.Perm.Basic
import Mathlib.Data.List.Zip
import Mathlib.Data.Set.Function

/-!
# Lists in step

Two lists whose elements are related one by one, and the pairs of their elements.
-/

namespace WireModel

variable {α β γ : Type} {R : α → β → Prop}

theorem exists_zip_of_mem_left {a : α} :
    ∀ {as : List α} {bs : List β}, as.length = bs.length → a ∈ as → ∃ b, (a, b) ∈ as.zip bs
  | a' :: as, b :: bs, same, mem => by
    rcases List.mem_cons.mp mem with rfl | mem
    · exact ⟨b, List.mem_cons_self⟩
    · obtain ⟨b', mem'⟩ := exists_zip_of_mem_left (by simpa using same) mem
      exact ⟨b', List.mem_cons_of_mem _ mem'⟩

theorem exists_zip_of_mem_right {b : β} :
    ∀ {as : List α} {bs : List β}, as.length = bs.length → b ∈ bs → ∃ a, (a, b) ∈ as.zip bs
  | [], [], _, mem => by cases mem
  | a :: as, b' :: bs, same, mem => by
    rcases List.mem_cons.mp mem with rfl | mem
    · exact ⟨a, List.mem_cons_self⟩
    · obtain ⟨a', mem'⟩ := exists_zip_of_mem_right (by simpa using same) mem
      exact ⟨a', List.mem_cons_of_mem _ mem'⟩

theorem zip_of_forall₂ {as : List α} {bs : List β} (h : List.Forall₂ R as bs) :
    ∀ p ∈ as.zip bs, R p.1 p.2 :=
  fun _ mem => (List.forall₂_iff_zip.mp h).2 mem

theorem forall₂_of_zip {as : List α} {bs : List β} (same : as.length = bs.length)
    (all : ∀ p ∈ as.zip bs, R p.1 p.2) : List.Forall₂ R as bs :=
  List.forall₂_iff_zip.mpr ⟨same, fun {_ _} mem => all _ mem⟩

theorem forall_mem_zip_swap {as : List α} {bs : List β} (all : ∀ p ∈ as.zip bs, R p.1 p.2) :
    ∀ p ∈ bs.zip as, R p.2 p.1 := by
  intro p mem
  rw [← List.zip_swap as bs] at mem
  obtain ⟨q, there, rfl⟩ := List.mem_map.mp mem
  exact all q there

theorem eq_map_of_zip {f : α → β} :
    ∀ {as : List α} {bs : List β}, as.length = bs.length → (∀ p ∈ as.zip bs, p.2 = f p.1) →
      bs = as.map f
  | [], [], _, _ => rfl
  | a :: as, b :: bs, same, h => by
    have first : b = f a := h (a, b) List.mem_cons_self
    have rest : bs = as.map f :=
      eq_map_of_zip (by simpa using same) fun p mem => h p (List.mem_cons_of_mem _ mem)
    rw [first, rest, List.map_cons]

theorem eq_of_zip {as bs : List α} (same : as.length = bs.length)
    (h : ∀ p ∈ as.zip bs, p.2 = p.1) : bs = as := by
  rw [eq_map_of_zip (f := id) same h, List.map_id]

theorem eq_of_zip_of_map_eq {f : α → γ} {g : β → γ} :
    ∀ {as : List α} {bs : List β}, as.map f = bs.map g → ∀ p ∈ as.zip bs, f p.1 = g p.2
  | a :: as, b :: bs, same, p, mem => by
    simp only [List.map_cons, List.cons.injEq] at same
    rcases List.mem_cons.mp mem with rfl | mem
    · exact same.1
    · exact eq_of_zip_of_map_eq same.2 p mem

theorem map_eq_map_of_forall₂ {f : α → γ} {g : β → γ} {as : List α} {bs : List β}
    (h : List.Forall₂ R as bs) (eq : ∀ a b, R a b → f a = g b) : as.map f = bs.map g := by
  induction h with
  | nil => rfl
  | cons first _ ih => rw [List.map_cons, List.map_cons, eq _ _ first, ih]

theorem exists_forall₂ :
    ∀ {as : List α}, (∀ a ∈ as, ∃ b, R a b) → ∃ bs, List.Forall₂ R as bs
  | [], _ => ⟨[], .nil⟩
  | a :: as, h => by
    obtain ⟨b, hb⟩ := h a List.mem_cons_self
    obtain ⟨bs, hbs⟩ := exists_forall₂ fun a' mem => h a' (List.mem_cons_of_mem _ mem)
    exact ⟨b :: bs, .cons hb hbs⟩

theorem exists_left_of_forall₂ {as : List α} {bs : List β} (h : List.Forall₂ R as bs) {b : β}
    (mem : b ∈ bs) : ∃ a ∈ as, R a b := by
  induction h with
  | nil => cases mem
  | cons first _ ih =>
    rcases List.mem_cons.mp mem with rfl | mem
    · exact ⟨_, List.mem_cons_self, first⟩
    · obtain ⟨a, mem, ha⟩ := ih mem
      exact ⟨a, List.mem_cons_of_mem _ mem, ha⟩

theorem exists_right_of_forall₂ {as : List α} {bs : List β} (h : List.Forall₂ R as bs) {a : α}
    (mem : a ∈ as) : ∃ b ∈ bs, R a b := by
  induction h with
  | nil => cases mem
  | cons first _ ih =>
    rcases List.mem_cons.mp mem with rfl | mem
    · exact ⟨_, List.mem_cons_self, first⟩
    · obtain ⟨b, mem, hb⟩ := ih mem
      exact ⟨b, List.mem_cons_of_mem _ mem, hb⟩

theorem forall₂_imp_of_mem {S : α → β → Prop} {as : List α} {bs : List β}
    (h : List.Forall₂ R as bs) (imp : ∀ a ∈ as, ∀ b, R a b → S a b) : List.Forall₂ S as bs := by
  induction h with
  | nil => exact .nil
  | cons first _ ih =>
    exact .cons (imp _ List.mem_cons_self _ first)
      (ih fun a mem => imp a (List.mem_cons_of_mem _ mem))

theorem forall₂_and {S T : α → β → Prop} {as : List α} {bs : List β} (h : List.Forall₂ R as bs)
    (h' : List.Forall₂ S as bs) (both : ∀ a b, R a b → S a b → T a b) : List.Forall₂ T as bs := by
  induction h with
  | nil => exact .nil
  | cons first _ ih =>
    obtain ⟨first', rest'⟩ := List.forall₂_cons.mp h'
    exact .cons (both _ _ first first') (ih rest')

theorem forall₂_comp {γ : Type} {S : β → γ → Prop} {as : List α} {bs : List β} {cs : List γ}
    (h : List.Forall₂ R as bs) (h' : List.Forall₂ S bs cs) :
    List.Forall₂ (fun a c => ∃ b, R a b ∧ S b c) as cs := by
  induction h generalizing cs with
  | nil =>
    cases h'
    exact .nil
  | cons first _ ih =>
    cases h' with
    | cons first' rest' => exact .cons ⟨_, first, first'⟩ (ih rest')

theorem exists_square {α' β' : Type} {P : α → α' → Prop} {S : β → β' → Prop} {R' : α' → β' → Prop}
    {as : List α} {as' : List α'} {bs : List β} (sides : List.Forall₂ P as as')
    (h : List.Forall₂ R as bs)
    (each : ∀ a a' b, P a a' → R a b → ∃ b', R' a' b' ∧ S b b') :
    ∃ bs', List.Forall₂ R' as' bs' ∧ List.Forall₂ S bs bs' := by
  induction sides generalizing bs with
  | nil =>
    cases h
    exact ⟨[], .nil, .nil⟩
  | cons side _ ih =>
    cases h with
    | cons first rest =>
      obtain ⟨b', first', same⟩ := each _ _ _ side first
      obtain ⟨bs', rest', all⟩ := ih rest
      exact ⟨b' :: bs', .cons first' rest', .cons same all⟩

theorem forall₂_append_iff {as' : List α} {bs' : List β} :
    ∀ {as : List α} {bs : List β}, as.length = bs.length →
      (List.Forall₂ R (as ++ as') (bs ++ bs') ↔ List.Forall₂ R as bs ∧ List.Forall₂ R as' bs')
  | [], [], _ => by simp
  | a :: as, b :: bs, same => by
    rw [List.cons_append, List.cons_append, List.forall₂_cons, List.forall₂_cons, and_assoc,
      forall₂_append_iff (by simpa using same)]

theorem exists_of_forall₂_append_cons {c : α} {after : List α} :
    ∀ {before : List α} {bs : List β}, List.Forall₂ R (before ++ c :: after) bs →
      ∃ start d rest, bs = start ++ d :: rest ∧ List.Forall₂ R before start ∧ R c d ∧
        List.Forall₂ R after rest
  | [], _, .cons here rest => ⟨[], _, _, rfl, .nil, here, rest⟩
  | _ :: _, _, .cons first others => by
    obtain ⟨start, d, rest, rfl, all, here, all'⟩ := exists_of_forall₂_append_cons others
    exact ⟨_ :: start, d, rest, rfl, .cons first all, here, all'⟩

theorem forall₂_append_cons {c d : α} {after : List α} {S : α → α → Prop} (here : S c d) :
    ∀ {before : List α}, (∀ a ∈ before ++ after, S a a) →
      List.Forall₂ S (before ++ c :: after) (before ++ d :: after)
  | [], same => .cons here (List.forall₂_same.mpr same)
  | b :: _, same => .cons (same b List.mem_cons_self)
      (forall₂_append_cons here fun a mem => same a (List.mem_cons_of_mem _ mem))

/-- Two lists are the same but for one element, and related there. -/
def DifferInOne (S : α → α → Prop) (as bs : List α) : Prop :=
  ∃ before a b after, as = before ++ a :: after ∧ bs = before ++ b :: after ∧ S a b

/-- Entries of one key stand at one place if the keys are distinct. -/
theorem mem_zip_of_keys {κ : Type} {key : κ} {a : α} {b : β} :
    ∀ {as : List (κ × α)} {bs : List (κ × β)}, as.map Prod.fst = bs.map Prod.fst →
      (as.map Prod.fst).Nodup → (key, a) ∈ as → (key, b) ∈ bs →
        ((key, a), (key, b)) ∈ as.zip bs
  | (k, a') :: as, (k', b') :: bs, same, distinct, memA, memB => by
    simp only [List.map_cons, List.cons.injEq] at same
    obtain ⟨fresh, distinct⟩ := List.nodup_cons.mp distinct
    have freshB : k' ∉ bs.map Prod.fst := by
      rw [← same.1, ← same.2]
      exact fresh
    rcases List.mem_cons.mp memA with eqA | memA <;> rcases List.mem_cons.mp memB with eqB | memB
    · cases eqA
      cases eqB
      exact List.mem_cons_self
    · cases eqA
      exact absurd (List.mem_map.mpr ⟨_, memB, same.1⟩) freshB
    · cases eqB
      exact absurd (List.mem_map.mpr ⟨_, memA, same.1.symm⟩) fresh
    · exact List.mem_cons_of_mem _ (mem_zip_of_keys same.2 distinct memA memB)

/-- The first of some images is the image of the first one whose image is looked for. -/
theorem exists_find?_map {α β : Type} {f : α → β} {p : β → Bool} {q : β → Prop} {l : List α} :
    (∃ b, (l.map f).find? p = some b ∧ q b) ↔
      ∃ a, l.find? (fun a => p (f a)) = some a ∧ q (f a) := by
  simp only [List.find?_map, Option.map_eq_some_iff, Function.comp_def]
  constructor
  · rintro ⟨_, ⟨a, found, rfl⟩, h⟩
    exact ⟨a, found, h⟩
  · rintro ⟨a, found, h⟩
    exact ⟨_, ⟨a, found, rfl⟩, h⟩

theorem mem_of_lookup_eq_some {κ : Type} [BEq κ] [LawfulBEq κ] {key : κ} {a : α}
    {as : List (κ × α)} (h : as.lookup key = some a) : (key, a) ∈ as := by
  obtain ⟨front, back, same, -⟩ := List.lookup_eq_some_iff.mp h
  rw [same]
  exact List.mem_append_right _ List.mem_cons_self

theorem lookup_eq_some_iff_mem {κ : Type} [BEq κ] [LawfulBEq κ] {key : κ} {a : α}
    {as : List (κ × α)} (distinct : (as.map Prod.fst).Nodup) :
    as.lookup key = some a ↔ (key, a) ∈ as := by
  induction as with
  | nil => simp
  | cons p rest ih =>
    obtain ⟨k, b⟩ := p
    obtain ⟨fresh, unique⟩ := List.nodup_cons.mp distinct
    rw [List.lookup_cons, List.mem_cons, ← ih unique]
    cases same : key == k with
    | false =>
      have other : key ≠ k := by simpa using same
      simp [other]
    | true =>
      obtain rfl : key = k := eq_of_beq same
      have absent : rest.lookup key ≠ some a := fun found =>
        fresh (List.mem_map.mpr ⟨_, (ih unique).mp found, rfl⟩)
      simp [absent, eq_comm]

/-- Whatever has one value for a key has it in any order. -/
theorem lookup_eq_of_perm {κ : Type} [BEq κ] [LawfulBEq κ] {as bs : List (κ × α)}
    (perm : as.Perm bs) (distinct : (as.map Prod.fst).Nodup) (key : κ) :
    as.lookup key = bs.lookup key := by
  have distinct' : (bs.map Prod.fst).Nodup := (perm.map Prod.fst).nodup_iff.mp distinct
  refine Option.ext fun a => ?_
  rw [lookup_eq_some_iff_mem distinct, lookup_eq_some_iff_mem distinct', perm.mem_iff]

theorem map_fst_zip_sublist :
    ∀ {as : List α} {bs : List β}, ((as.zip bs).map Prod.fst).Sublist as
  | [], _ => List.nil_sublist _
  | _ :: _, [] => List.nil_sublist _
  | _ :: _, _ :: _ => map_fst_zip_sublist.cons_cons _

/-- The function that pairs give, and the identity where there is none. -/
def follow (pairs : List (String × String)) (name : String) : String :=
  (pairs.lookup name).getD name

section

variable {pairs : List (String × String)} {a b : String}

theorem follow_of_mem (distinct : (pairs.map Prod.fst).Nodup) (mem : (a, b) ∈ pairs) :
    follow pairs a = b := by
  rw [follow, (lookup_eq_some_iff_mem distinct).mpr mem, Option.getD_some]

theorem follow_of_not_mem (absent : a ∉ pairs.map Prod.fst) : follow pairs a = a := by
  have none : pairs.lookup a = none := by
    refine List.lookup_eq_none_iff.mpr fun p mem => ?_
    have other : a ≠ p.1 := fun same => absent (List.mem_map.mpr ⟨p, mem, same.symm⟩)
    simpa using other
  rw [follow, none, Option.getD_none]

theorem follow_bijOn (firsts : (pairs.map Prod.fst).Nodup) (seconds : (pairs.map Prod.snd).Nodup) :
    Set.BijOn (follow pairs) {a | a ∈ pairs.map Prod.fst} {b | b ∈ pairs.map Prod.snd} := by
  refine ⟨?_, ?_, ?_⟩
  · rintro _ first
    obtain ⟨p, mem, rfl⟩ := List.mem_map.mp first
    rw [follow_of_mem firsts mem]
    exact List.mem_map.mpr ⟨p, mem, rfl⟩
  · rintro _ first _ first' same
    obtain ⟨p, mem, rfl⟩ := List.mem_map.mp first
    obtain ⟨q, mem', rfl⟩ := List.mem_map.mp first'
    rw [follow_of_mem firsts mem, follow_of_mem firsts mem'] at same
    rw [List.inj_on_of_nodup_map seconds mem mem' same]
  · rintro _ second
    obtain ⟨p, mem, rfl⟩ := List.mem_map.mp second
    exact ⟨p.1, List.mem_map.mpr ⟨p, mem, rfl⟩, follow_of_mem firsts mem⟩

/-- Pairs keep names apart if they lead to none of those that they keep. -/
theorem injOn_follow (firsts : (pairs.map Prod.fst).Nodup) (seconds : (pairs.map Prod.snd).Nodup)
    {names : Set String}
    (apart : ∀ n ∈ names, n ∉ pairs.map Prod.fst → n ∉ pairs.map Prod.snd) :
    Set.InjOn (follow pairs) names := by
  have leads := follow_bijOn firsts seconds
  intro a ha b hb same
  by_cases first : a ∈ pairs.map Prod.fst <;> by_cases second : b ∈ pairs.map Prod.fst
  · exact leads.injOn first second same
  · rw [follow_of_not_mem second] at same
    exact absurd (same ▸ leads.mapsTo first) (apart b hb second)
  · rw [follow_of_not_mem first] at same
    exact absurd (same ▸ leads.mapsTo second) (apart a ha first)
  · rwa [follow_of_not_mem first, follow_of_not_mem second] at same

end

theorem map_snd_eq_follow {entries : List (String × String)}
    (distinct : (entries.map Prod.fst).Nodup) :
    entries.map Prod.snd = (entries.map Prod.fst).map (follow entries) := by
  rw [List.map_map]
  exact List.map_congr_left fun entry mem => (follow_of_mem distinct mem).symm

/-- A list with the elements of an image is an image. -/
theorem exists_map_of_perm {f : α → β} {bs : List β} {as : List α} (h : bs.Perm (as.map f)) :
    ∃ as' : List α, as'.Perm as ∧ bs = as'.map f := by
  have image : List.Forall₂ (fun b a => b = f a) (as.map f) as :=
    List.forall₂_map_left_iff.mpr (List.forall₂_same.mpr fun _ _ => rfl)
  obtain ⟨as', all, perm⟩ := List.perm_comp_forall₂ h image
  refine ⟨as', perm, ?_⟩
  rw [← List.map_id bs]
  exact map_eq_map_of_forall₂ all fun _ _ eq => eq

/-- What joined parts are made of. -/
theorem mem_intercalate {separator : List α} {parts : List (List α)} {a : α}
    (mem : a ∈ separator.intercalate parts) : a ∈ separator ∨ ∃ part ∈ parts, a ∈ part := by
  induction parts with
  | nil => cases mem
  | cons part rest ih =>
    cases rest with
    | nil => exact .inr ⟨part, List.mem_cons_self, by simpa using mem⟩
    | cons next rest =>
      rw [List.intercalate_cons_cons, List.mem_append, List.mem_append] at mem
      rcases mem with (here | between) | later
      · exact .inr ⟨part, List.mem_cons_self, here⟩
      · exact .inl between
      · rcases ih later with between | ⟨part, there, mem⟩
        · exact .inl between
        · exact .inr ⟨part, List.mem_cons_of_mem _ there, mem⟩

/-- What is found by its number is the element there. -/
theorem find?_zipIdx (items : List α) (i start : Nat) :
    ((items.zipIdx start).find? fun item => item.2 == start + i).map Prod.fst = items[i]? := by
  induction items generalizing i start with
  | nil => rfl
  | cons v rest ih =>
    rw [List.zipIdx_cons, List.find?_cons]
    cases i with
    | zero => simp
    | succ i =>
      have next : start + (i + 1) = start + 1 + i := by omega
      have other : (start == start + 1 + i) = false := beq_false_of_ne (by omega)
      simp only [next, other]
      exact ih i (start + 1)

end WireModel
