import WireModel.Proofs.Plan.Shape

/-!
# What plans are derived

Contracts are derived with warnings and with the names of places. Here is what they come to
without these: which plan a type has (`Plan.Implements`), which contract a model has
(`Contract.Implements`), and that the contracts of a table implement its models, name by name.
-/

namespace WireModel

open Types (WireType)

namespace Plan

mutual

/-- Whether a plan is the one of a type. -/
def Implements (table : Table) : WireType → Plan → Prop
  | .primitive kind _, p => p = .pass kind
  | .enum name values _, p => p = .checkEnum values name
  | .nullable inner, p => ∃ q, p = .nullable q ∧ Implements table inner q
  | .optional inner, p => Implements table inner p
  | .sequence element, p => ∃ q, p = .eachElement q ∧ Implements table element q
  | .mapping value, p => ∃ q, p = .eachValue q ∧ Implements table value q
  | .model name, p => p = .call name
  | .union _ _ (some d) _, p => p = .dispatch d.property d.mapping
  | .union _ _ none variants, p =>
    ∃ options description, p = .firstMatch options description ∧
      ImplementsAll table variants options

/-- Whether options are those of variants, one by one. -/
def ImplementsAll (table : Table) : List WireType → List (Predicate × Plan) → Prop
  | [], options => options = []
  | t :: rest, options =>
    ∃ p plan others, options = (p, plan) :: others ∧ Contract.predicateFor table t = .ok p ∧
      Implements table t plan ∧ ImplementsAll table rest others

end

theorem gives_quietly {α : Type} {result : Except Contract.Fault α} {a : α}
    (h : (Contract.quietly result).Gives a) : result = .ok a := by
  cases result with
  | error fault => exact absurd h Logged.not_gives_throw
  | ok b => rw [Logged.gives_pure_iff.mp h]

mutual

theorem planOf_implements {table : Table} : ∀ {context : String} {t : WireType} {p : Plan},
    (Contract.planOf table context t).Gives p → Implements table t p
  | context, .primitive kind _, p, h => (Logged.gives_pure_iff.mp h).symm
  | context, .enum name values _, p, h => (Logged.gives_pure_iff.mp h).symm
  | context, .nullable inner, p, h => by
    obtain ⟨q, hq, h⟩ := h.bind
    exact ⟨q, (Logged.gives_pure_iff.mp h).symm, planOf_implements hq⟩
  | context, .optional inner, p, h => planOf_implements (t := inner) h
  | context, .sequence element, p, h => by
    obtain ⟨q, hq, h⟩ := h.bind
    exact ⟨q, (Logged.gives_pure_iff.mp h).symm, planOf_implements hq⟩
  | context, .mapping value, p, h => by
    obtain ⟨q, hq, h⟩ := h.bind
    exact ⟨q, (Logged.gives_pure_iff.mp h).symm, planOf_implements hq⟩
  | context, .model name, p, h => (Logged.gives_pure_iff.mp h).symm
  | context, .union _ _ (some d) _, p, h => (Logged.gives_pure_iff.mp h).symm
  | context, .union name _ none variants, p, h => by
    obtain ⟨options, hoptions, h⟩ := h.bind
    obtain ⟨_, _, h⟩ := h.bind
    exact ⟨options, _, (Logged.gives_pure_iff.mp h).symm, optionsOf_implements hoptions⟩

theorem optionsOf_implements {table : Table} :
    ∀ {context : String} {ts : List WireType} {options : List (Predicate × Plan)},
      (Contract.optionsOf table context ts).Gives options → ImplementsAll table ts options
  | context, [], options, h => (Logged.gives_pure_iff.mp h).symm
  | context, t :: rest, options, h => by
    obtain ⟨p, hp, h⟩ := h.bind
    obtain ⟨plan, hplan, h⟩ := h.bind
    obtain ⟨others, hothers, h⟩ := h.bind
    exact ⟨p, plan, others, (Logged.gives_pure_iff.mp h).symm, gives_quietly hp,
      planOf_implements hplan, optionsOf_implements hothers⟩

end

/-- Every option is that of a variant. -/
theorem ImplementsAll.exists_variant {table : Table} {ts : List WireType}
    {options : List (Predicate × Plan)} (h : ImplementsAll table ts options)
    {option : Predicate × Plan} (mem : option ∈ options) :
    ∃ t ∈ ts, Implements table t option.2 := by
  induction ts generalizing options with
  | nil =>
    cases h
    cases mem
  | cons t rest ih =>
    obtain ⟨p, plan, others, rfl, -, first, later⟩ := h
    rcases List.mem_cons.mp mem with rfl | mem
    · exact ⟨t, List.mem_cons_self, first⟩
    · obtain ⟨s, there, implements⟩ := ih later mem
      exact ⟨s, List.mem_cons_of_mem _ there, implements⟩

/-! ## The first variant -/

section

variable {table : Table} {holds : Predicate → Bool} {shape : WireType → Prop}
  {ts : List WireType} {options : List (Predicate × Plan)}

/-- The option that is found is that of the first variant of the shape. -/
theorem ImplementsAll.isFirst_of_find?
    (agree : ∀ t p, Contract.predicateFor table t = .ok p → (holds p = true ↔ shape t))
    (h : ImplementsAll table ts options) {option : Predicate × Plan}
    (found : options.find? (fun option => holds option.1) = some option) :
    ∃ t, Types.IsFirst shape ts t ∧ Implements table t option.2 := by
  induction ts generalizing options with
  | nil =>
    cases h
    cases found
  | cons t rest ih =>
    obtain ⟨p, plan, others, rfl, hp, hplan, hothers⟩ := h
    rw [List.find?_cons] at found
    by_cases first : holds p = true
    · simp only [first] at found
      cases found
      exact ⟨t, ⟨[], rest, rfl, by simp, (agree t p hp).mp first⟩, hplan⟩
    · simp only [first] at found
      obtain ⟨s, ⟨before, after, rfl, none, hs⟩, hplan'⟩ := ih hothers found
      refine ⟨s, ⟨t :: before, after, rfl, ?_, hs⟩, hplan'⟩
      intro u hu
      rcases List.mem_cons.mp hu with rfl | hu
      · exact fun h => first ((agree u p hp).mpr h)
      · exact none u hu

/-- The option of the first variant of the shape is found. -/
theorem ImplementsAll.exists_find?
    (agree : ∀ t p, Contract.predicateFor table t = .ok p → (holds p = true ↔ shape t))
    (h : ImplementsAll table ts options) {t : WireType} (first : Types.IsFirst shape ts t) :
    ∃ option, options.find? (fun option => holds option.1) = some option ∧
      Implements table t option.2 := by
  obtain ⟨before, after, rfl, none, ht⟩ := first
  induction before generalizing options with
  | nil =>
    obtain ⟨p, plan, others, rfl, hp, hplan, -⟩ := h
    refine ⟨(p, plan), ?_, hplan⟩
    simp only [List.find?_cons, (agree t p hp).mpr ht]
  | cons s before ih =>
    obtain ⟨p, plan, others, rfl, hp, -, hothers⟩ := h
    obtain ⟨option, found, hplan⟩ := ih hothers fun u hu => none u (List.mem_cons_of_mem _ hu)
    have passed : holds p = false :=
      Bool.eq_false_iff.mpr fun holds => none s List.mem_cons_self ((agree s p hp).mp holds)
    exact ⟨option, by simp only [List.find?_cons, passed, found], hplan⟩

end
end Plan

/-! ## Contracts -/

/-- Whether the contract of a field is the one of a field. -/
structure FieldContract.Implements (table : Table) (f : Field) (c : FieldContract) : Prop where
  attributeName : c.attributeName = f.attributeName
  wireName : c.wireName = f.wireName
  required : c.required = f.required
  nullable : c.nullable = f.nullable
  plan : Plan.Implements table f.type c.plan

/-- Whether the contract of a record is the one of a record. -/
structure RecordContract.Implements (table : Table) (r : RecordModel) (c : RecordContract) :
    Prop where
  name : c.name = r.name
  discriminator : c.discriminator = r.discriminator
  fields : List.Forall₂ (FieldContract.Implements table) r.fields c.fields

namespace Contract

/-- Whether a contract is the one of a model. -/
inductive Implements (table : Table) : Model → Contract → Prop
  | record {r c} : RecordContract.Implements table r c → Implements table (.record r) (.record c)
  | union {u c} : c.name = u.name → Plan.Implements table u.type c.body →
      Implements table (.union u) (.union c)

theorem Implements.name_eq {table : Table} {m : Model} {c : Contract}
    (h : Implements table m c) : c.name = m.name := by
  cases h with
  | record h => exact h.name
  | union h _ => exact h

theorem ofField_implements {table : Table} {model : String} {f : Field} {c : FieldContract}
    (h : (ofField table model f).Gives c) : FieldContract.Implements table f c := by
  obtain ⟨plan, hplan, h⟩ := h.bind
  rw [← Logged.gives_pure_iff.mp h]
  exact ⟨rfl, rfl, rfl, rfl, Plan.planOf_implements hplan⟩

theorem ofModel_implements {table : Table} {m : Model} {c : Contract}
    (h : (ofModel table m).Gives c) : Implements table m c := by
  cases m with
  | record r =>
    obtain ⟨fields, hfields, h⟩ := h.bind
    rw [← Logged.gives_pure_iff.mp h]
    exact .record ⟨rfl, rfl, hfields.mapM.imp fun _ _ => ofField_implements⟩
  | union u =>
    obtain ⟨body, hbody, h⟩ := h.bind
    rw [← Logged.gives_pure_iff.mp h]
    exact .union rfl (Plan.planOf_implements hbody)

/-- The contracts of a table, model by model. -/
theorem derive_implements {table : Table} {contracts : Contracts}
    (h : (derive table).Gives contracts) :
    List.Forall₂ (Implements table) table.models contracts :=
  h.mapM.imp fun _ _ => ofModel_implements

end Contract

/-! ## Contracts by name -/

/-- Contracts that answer for every name as the table does. -/
structure Contracts.Implement (contracts : Contracts) (table : Table) : Prop where
  some : ∀ {name m}, table.get? name = some m →
    ∃ c, contracts.get? name = Option.some c ∧ Contract.Implements table m c
  none : ∀ {name}, table.get? name = none → contracts.get? name = Option.none

theorem find?_rel {R : Model → Contract → Prop} (named : ∀ {m c}, R m c → c.name = m.name)
    {models : List Model} {contracts : Contracts} (h : List.Forall₂ R models contracts)
    (name : String) :
    Option.Rel R (models.find? (·.name == name)) (contracts.find? (·.name == name)) := by
  induction h with
  | nil => exact .none
  | @cons m c models contracts h _ ih =>
    simp only [List.find?_cons, named h]
    split
    · exact .some h
    · exact ih

theorem Contract.derive_implement {table : Table} {contracts : Contracts}
    (h : (Contract.derive table).Gives contracts) : contracts.Implement table := by
  constructor
  · intro name m found
    have rel := find?_rel Contract.Implements.name_eq (Contract.derive_implements h) name
    simp only [Table.get?] at found
    rw [found] at rel
    cases hc : contracts.find? (·.name == name) with
    | none =>
      rw [hc] at rel
      cases rel
    | some c =>
      rw [hc] at rel
      cases rel with
      | some rel => exact ⟨c, hc, rel⟩
  · intro name missing
    have rel := find?_rel Contract.Implements.name_eq (Contract.derive_implements h) name
    simp only [Table.get?] at missing
    rw [missing] at rel
    cases hc : contracts.find? (·.name == name) with
    | none => exact hc
    | some c =>
      rw [hc] at rel
      cases rel

end WireModel
