import WireModel.Proofs.Plan.Derivation
import WireModel.Proofs.Table.Occurrence

/-!
# Every closed table has contracts

In a table with every model that its types refer to, no predicate, plan or contract asks for a
model in vain, so all of them exist. The walk through unions that selects a predicate is bounded in
`Contract.predicateFor`; `Contract.Selects` is the walk without a bound. It ends by itself: unions
on the way are different, so there are no more of them than models.
-/

namespace WireModel

open Types (WireType)

/-- Every model that a type of the table refers to is in the table. -/
def Table.Closed (table : Table) : Prop :=
  ∀ {t}, table.Occurs t → ∀ name ∈ t.refs, name ∈ table.names

theorem Table.Closed.variants {table : Table} (closed : table.Closed) {u : UnionModel}
    (occurs : table.Occurs u.type) :
    ∀ name ∈ WireType.refsOfAll u.variants, name ∈ table.names := by
  intro name ref
  refine closed occurs name ?_
  rw [UnionModel.type, WireType.refs]
  exact List.mem_append_left _ ref

namespace Contract

/-! ## Predicates -/

mutual

/-- The walk that selects the predicate of a type, without a bound; `seen` are the unions on the
way. -/
inductive Selects (table : Table) : List String → WireType → Predicate → Prop
  | optional {seen t p} : Selects table seen t p → Selects table seen (.optional t) p
  | nullable {seen t p} : Selects table seen t p → Selects table seen (.nullable t) p
  | primitive {seen kind format} : Selects table seen (.primitive kind format) (.primitive kind)
  | enum {seen name values kind} : Selects table seen (.enum name values kind) (.enumMember values)
  | sequence {seen t} : Selects table seen (.sequence t) .sequence
  | mapping {seen t} : Selects table seen (.mapping t) .mapping
  | record {seen name r} : table.get? name = some (.record r) →
      Selects table seen (.model name) (.record r.name r.requiredNames)
  | again {seen name u} : table.get? name = some (.union u) → name ∈ seen →
      Selects table seen (.model name) (.anyOf [])
  | named {seen name u ps} : table.get? name = some (.union u) → name ∉ seen →
      SelectsAll table (name :: seen) u.variants ps → Selects table seen (.model name) (.anyOf ps)
  | union {seen name mode d variants ps} : SelectsAll table seen variants ps →
      Selects table seen (.union name mode d variants) (.anyOf ps)

/-- The walks of several types, one by one. -/
inductive SelectsAll (table : Table) : List String → List WireType → List Predicate → Prop
  | nil {seen} : SelectsAll table seen [] []
  | cons {seen t p rest ps} : Selects table seen t p → SelectsAll table seen rest ps →
      SelectsAll table seen (t :: rest) (p :: ps)

end

section Predicates

variable {table : Table} {seen : List String} {ofModel : String → Except Fault Predicate}

mutual

theorem predicateOf_selects : ∀ {t : WireType}, (∀ name ∈ t.refs,
    ∃ p, ofModel name = .ok p ∧ Selects table seen (.model name) p) →
      ∃ p, predicateOf ofModel t = .ok p ∧ Selects table seen t p
  | .primitive .., _ => ⟨_, rfl, .primitive⟩
  | .enum .., _ => ⟨_, rfl, .enum⟩
  | .sequence _, _ => ⟨_, rfl, .sequence⟩
  | .mapping _, _ => ⟨_, rfl, .mapping⟩
  | .model name, known => known name List.mem_cons_self
  | .optional inner, known => by
    obtain ⟨p, found, selects⟩ := predicateOf_selects (t := inner) known
    exact ⟨p, found, .optional selects⟩
  | .nullable inner, known => by
    obtain ⟨p, found, selects⟩ := predicateOf_selects (t := inner) known
    exact ⟨p, found, .nullable selects⟩
  | .union _ _ _ variants, known => by
    have all : ∃ ps, predicatesOf ofModel variants = .ok ps ∧
        SelectsAll table seen variants ps :=
      predicatesOf_selects fun name ref => known name (List.mem_append_left _ ref)
    obtain ⟨ps, found, selects⟩ := all
    exact ⟨.anyOf ps, map_eq_ok.mpr ⟨ps, found, rfl⟩, .union selects⟩

theorem predicatesOf_selects : ∀ {ts : List WireType}, (∀ name ∈ WireType.refsOfAll ts,
    ∃ p, ofModel name = .ok p ∧ Selects table seen (.model name) p) →
      ∃ ps, predicatesOf ofModel ts = .ok ps ∧ SelectsAll table seen ts ps
  | [], _ => ⟨[], rfl, .nil⟩
  | t :: rest, known => by
    obtain ⟨p, first, selects⟩ := predicateOf_selects (t := t) fun name ref =>
      known name (List.mem_append_left _ ref)
    have later : ∃ ps, predicatesOf ofModel rest = .ok ps ∧ SelectsAll table seen rest ps :=
      predicatesOf_selects fun name ref => known name (List.mem_append_right _ ref)
    obtain ⟨ps, others, all⟩ := later
    refine ⟨p :: ps, ?_, .cons selects all⟩
    exact bind_eq_ok.mpr ⟨p, first, bind_eq_ok.mpr ⟨ps, others, rfl⟩⟩

end

/-- The bounded walk from a model of a closed table is the walk without a bound, if the bound is
beyond the number of models that are not yet on the way. -/
theorem modelPredicate_selects (closed : table.Closed) : ∀ {depth : Nat} {seen : List String}
    {name : String}, seen.Nodup → (∀ s ∈ seen, s ∈ table.names) →
      table.models.length + 1 ≤ depth + seen.length → name ∈ table.names →
        ∃ p, modelPredicate table depth seen name = .ok p ∧ Selects table seen (.model name) p
  | 0, seen, _, distinct, known, enough, _ => by
    -- more names would be on the way than there are models
    have := (List.subperm_of_subset distinct known).length_le
    simp only [Table.names, List.length_map] at this
    omega
  | depth + 1, seen, name, distinct, known, enough, mem => by
    obtain ⟨m, found⟩ := Table.mem_names_iff.mp mem
    cases m with
    | record r => exact ⟨_, by simp only [modelPredicate, found], .record found⟩
    | union u =>
      simp only [modelPredicate, found, List.contains_eq_mem, decide_eq_true_eq]
      split
      · rename_i again
        exact ⟨_, rfl, .again found again⟩
      · rename_i fresh
        -- a union that is not on the way yet is walked with one step less and one name more
        have below : ∀ n ∈ WireType.refsOfAll u.variants,
            ∃ p, modelPredicate table depth (name :: seen) n = .ok p ∧
              Selects table (name :: seen) (.model n) p := by
          intro n ref
          refine modelPredicate_selects closed (List.nodup_cons.mpr ⟨fresh, distinct⟩)
            (List.forall_mem_cons.mpr ⟨mem, known⟩) ?_ (closed.variants (.of_get? found) n ref)
          rw [List.length_cons]
          omega
        obtain ⟨ps, all, selects⟩ := predicatesOf_selects below
        exact ⟨.anyOf ps, map_eq_ok.mpr ⟨ps, all, rfl⟩, .named found fresh selects⟩

/-- Every type of a closed table has a predicate, the one that the walk without a bound selects. -/
theorem predicateFor_selects (closed : table.Closed) {t : WireType} (occurs : table.Occurs t) :
    ∃ p, predicateFor table t = .ok p ∧ Selects table [] t p :=
  predicateOf_selects fun name ref => modelPredicate_selects closed List.nodup_nil nofun
    (Nat.le_refl _) (closed occurs name ref)

end Predicates

/-! ## Plans -/

section Plans

variable {table : Table}

theorem quietly_succeeds {α : Type} {result : Except Fault α} (h : ∃ a, result = .ok a) :
    (quietly result).Succeeds := by
  obtain ⟨a, rfl⟩ := h
  exact .pure

mutual

theorem planOf_succeeds (closed : table.Closed) : ∀ {context : String} {t : WireType},
    table.Occurs t → (planOf table context t).Succeeds
  | _, .primitive .., _ | _, .enum .., _ | _, .model _, _ | _, .union _ _ (some _) _, _ => .pure
  | _, .nullable _, occurs => (planOf_succeeds closed (.nullable occurs)).bind fun _ => .pure
  | context, .optional inner, occurs =>
    show (planOf table context inner).Succeeds from planOf_succeeds closed (.optional occurs)
  | _, .sequence _, occurs => (planOf_succeeds closed (.sequence occurs)).bind fun _ => .pure
  | _, .mapping _, occurs => (planOf_succeeds closed (.mapping occurs)).bind fun _ => .pure
  | _, .union _ _ none variants, occurs => by
    refine (optionsOf_succeeds closed fun t mem => .variant occurs mem).bind fun options => ?_
    exact (Logged.Succeeds.forM fun _ _ => .warn).bind fun _ => .pure

theorem optionsOf_succeeds (closed : table.Closed) : ∀ {context : String} {ts : List WireType},
    (∀ t ∈ ts, table.Occurs t) → (optionsOf table context ts).Succeeds
  | _, [], _ => .pure
  | _, t :: rest, occurs => by
    have first := occurs t List.mem_cons_self
    obtain ⟨p, found, -⟩ := predicateFor_selects closed first
    refine (quietly_succeeds ⟨p, found⟩).bind fun p => ?_
    refine (planOf_succeeds closed first).bind fun plan => ?_
    exact (optionsOf_succeeds closed fun t mem => occurs t (List.mem_cons_of_mem _ mem)).bind
      fun options => .pure

end

/-! ## Contracts -/

theorem ofModel_succeeds (closed : table.Closed) {m : Model} (mem : m ∈ table.models) :
    (ofModel table m).Succeeds := by
  cases m with
  | record r =>
    refine Logged.Succeeds.bind (.mapM fun f own => ?_) fun fields => .pure
    exact (planOf_succeeds closed (.field mem own)).bind fun plan => .pure
  | union u => exact (planOf_succeeds closed (.union mem)).bind fun body => .pure

/-- Every closed table has contracts. -/
theorem derive_succeeds (closed : table.Closed) : (derive table).Succeeds :=
  .mapM fun _ mem => ofModel_succeeds closed mem

end Plans

end Contract
end WireModel
