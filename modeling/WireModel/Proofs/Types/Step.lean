import WireModel.Proofs.Naming
import WireModel.Proofs.Success
import WireModel.Proofs.Types.Derivation

/-!
# Steps of a resolution

What a successful computation does to what is known: the meanings that become known are derived,
each by what was known before, and the models that are made get new names. A `Step` says this of
two states. `Sound` says of all runs of a computation that they are such steps, and what their
results are; it has one rule for each way in which computations are put together.
-/

namespace WireModel.Types

open Schema

/-! ## Steps -/

/-- A model as a member of the result. -/
def ObjectType.pair (o : ObjectType) : String × Definition := (o.name, .object o)

/-- From one state to another: what became known, with the models made on the way, `own` ones
outside of it. The names `pending` were taken before for models made now. -/
structure Step (graph : Graph) (active pending : List String) (s s' : Progress)
    (own : List ObjectType) (entries : List Entry) : Prop where
  derived : Derived graph active s.known entries
  known : s'.known = entries.map Entry.pair ++ s.known
  hoisted : s'.hoisted.Perm
    (s.hoisted ++ (own ++ entries.flatMap Entry.own).map ObjectType.pair)
  taken : (s'.taken ++ pending).Perm
    ((own ++ entries.flatMap Entry.own).map ObjectType.name ++ s.taken)
  distinct : s.taken.Nodup → s'.taken.Nodup

/-- Everything known in one way is known in another. -/
def Known.Includes (more less : Known) : Prop :=
  ∀ name definition, less name = some definition → more name = some definition

theorem knownIn_cons {name other : String} {d : Definition} {pairs : List (String × Definition)} :
    knownIn ((other, d) :: pairs) name = if name = other then some d else knownIn pairs name := by
  simp only [knownIn, List.lookup_cons]
  by_cases same : name = other
  · simp [same]
  · simp [same, beq_eq_false_iff_ne.mpr same]

theorem Derived.includes {graph : Graph} {active : List String}
    {known : List (String × Definition)} {entries : List Entry}
    (h : Derived graph active known entries) :
    (knownIn (entries.map Entry.pair ++ known)).Includes (knownIn known) := by
  induction h with
  | nil => exact fun _ _ h => h
  | @cons e node entries _ _ fresh _ _ ih =>
    intro name d found
    have there := ih name d found
    rw [List.map_cons, List.cons_append, Entry.pair, knownIn_cons, if_neg, there]
    rintro rfl
    rw [fresh] at there
    cases there

theorem Derived.unknown {graph : Graph} {active : List String}
    {known : List (String × Definition)} {entries : List Entry} {name : String}
    (h : Derived graph active known entries) (mem : name ∈ active)
    (unknown : knownIn known name = none) :
    knownIn (entries.map Entry.pair ++ known) name = none := by
  induction h with
  | nil => exact unknown
  | cons _ inactive _ _ _ ih =>
    rw [List.map_cons, List.cons_append, Entry.pair, knownIn_cons, if_neg, ih]
    rintro rfl
    exact inactive mem

theorem Derived.append {graph : Graph} {active : List String}
    {known : List (String × Definition)} {entries more : List Entry}
    (h : Derived graph active known entries)
    (next : Derived graph active (entries.map Entry.pair ++ known) more) :
    Derived graph active known (more ++ entries) := by
  induction next with
  | nil => exact h
  | cons _ inactive fresh found meaning ih =>
    refine .cons ih inactive ?_ found ?_
    · simpa using fresh
    · simpa using meaning

theorem Derived.mono {graph : Graph} {active fewer : List String}
    {known : List (String × Definition)} {entries : List Entry}
    (h : Derived graph active known entries) (sub : fewer ⊆ active) :
    Derived graph fewer known entries := by
  induction h with
  | nil => exact .nil
  | cons _ inactive fresh found meaning ih =>
    exact .cons ih (fun mem => inactive (sub mem)) fresh found meaning

namespace Step

variable {graph : Graph} {active pending : List String} {s s' s'' : Progress}
  {own own' : List ObjectType} {entries entries' : List Entry}

/-- A step that makes nothing; warnings do not count. -/
theorem idle (known : s'.known = s.known) (hoisted : s'.hoisted = s.hoisted)
    (taken : s'.taken = s.taken) : Step graph active [] s s' [] [] where
  derived := .nil
  known := known
  hoisted := by simp [hoisted]
  taken := by simp [taken]
  distinct := by simp [taken]

theorem includes (h : Step graph active pending s s' own entries) :
    (knownIn s'.known).Includes (knownIn s.known) := by
  rw [h.known]
  exact h.derived.includes

theorem trans (h : Step graph active [] s s' own entries)
    (next : Step graph active pending s' s'' own' entries') :
    Step graph active pending s s'' (own ++ own') (entries' ++ entries) where
  derived := h.derived.append (h.known ▸ next.derived)
  known := by rw [next.known, h.known, List.map_append, List.append_assoc]
  hoisted := by
    refine next.hoisted.trans ((h.hoisted.append_right _).trans ?_)
    rw [List.append_assoc, ← List.map_append]
    refine (List.Perm.map _ ?_).append_left _
    simp only [List.flatMap_append, List.append_assoc]
    refine List.Perm.append_left _ ?_
    exact List.perm_append_comm.trans (by simp)
  taken := by
    refine next.taken.trans ?_
    have first := h.taken
    rw [List.append_nil] at first
    refine (first.append_left _).trans ?_
    rw [← List.append_assoc, ← List.map_append]
    refine (List.Perm.map _ ?_).append_right _
    simp only [List.flatMap_append]
    refine List.perm_append_comm.trans ?_
    simp only [List.append_assoc]
    refine List.Perm.append_left _ ?_
    exact List.perm_append_comm.trans (by simp)
  distinct := fun d => next.distinct (h.distinct d)

end Step

/-! ## Runs -/

/-- Every run of a computation is a step, and its result is related to the models made outside of
named schemas by whatever knows at least as much. -/
def Sound {α : Type} (graph : Graph) (active pending : List String) (computation : Resolve α)
    (P : Known → α → List ObjectType → Prop) : Prop :=
  ∀ s a s', Runs computation s a s' → ∃ own entries,
    Step graph active pending s s' own entries ∧
      ∀ known : Known, known.Includes (knownIn s'.known) → P known a own

namespace Sound

variable {α β : Type} {graph : Graph} {active pending : List String}
  {P : Known → α → List ObjectType → Prop} {Q : Known → β → List ObjectType → Prop}

theorem pure {a : α} (h : ∀ known, P known a []) :
    Sound graph active [] (Pure.pure a) P := by
  intro s a' s' run
  obtain ⟨rfl, rfl⟩ := runs_pure_iff.mp run
  exact ⟨[], [], .idle rfl rfl rfl, fun known _ => h known⟩

theorem throw {fault : Fault} : Sound graph active pending (MonadExcept.throw fault) P :=
  fun _ _ _ run => absurd run not_runs_throw

theorem bind {computation : Resolve α} {next : α → Resolve β}
    (h : Sound graph active [] computation P)
    (h' : ∀ a, Sound graph active pending (next a) fun known b others =>
      ∀ own, P known a own → Q known b (own ++ others)) :
    Sound graph active pending (computation >>= next) Q := by
  intro s b s'' run
  obtain ⟨a, s', first, rest⟩ := runs_bind_iff.mp run
  obtain ⟨own, entries, step, p⟩ := h s a s' first
  obtain ⟨others, more, step', q⟩ := h' a s' b s'' rest
  refine ⟨own ++ others, more ++ entries, step.trans step', fun known includes => ?_⟩
  refine q known includes own (p known fun name d found => ?_)
  exact includes _ _ (step'.includes _ _ found)

theorem imp {P' : Known → α → List ObjectType → Prop} {computation : Resolve α}
    (h : Sound graph active pending computation P)
    (imp : ∀ known a own, P known a own → P' known a own) :
    Sound graph active pending computation P' := by
  intro s a s' run
  obtain ⟨own, entries, step, p⟩ := h s a s' run
  exact ⟨own, entries, step, fun known includes => imp known a own (p known includes)⟩

theorem map {computation : Resolve α} {f : α → β} (h : Sound graph active [] computation P)
    (h' : ∀ known a own, P known a own → Q known (f a) own) :
    Sound graph active [] (do let a ← computation; Pure.pure (f a)) Q := by
  refine h.bind fun a => .pure fun known own p => ?_
  rw [List.append_nil]
  exact h' known a own p

theorem mapM {f : α → Resolve β} {R : Known → α → β → Prop} :
    ∀ {l : List α},
      (∀ a ∈ l, Sound graph active [] (f a) fun known b own => own = [] ∧ R known a b) →
      Sound graph active [] (l.mapM f) fun known bs own => own = [] ∧ List.Forall₂ (R known) l bs
  | [], _ => by
    rw [List.mapM_nil]
    exact .pure fun known => ⟨rfl, .nil⟩
  | a :: l, h => by
    rw [List.mapM_cons]
    refine (h a List.mem_cons_self).bind fun b => ?_
    refine (mapM fun a' mem => h a' (List.mem_cons_of_mem _ mem)).map fun known bs own h' own' r => ?_
    obtain ⟨rfl, r⟩ := r
    exact ⟨h'.1, .cons r h'.2⟩

/-- A warning is no step. -/
theorem warn {w : Warning} {next : Resolve β} (h : Sound graph active pending next Q) :
    Sound graph active pending (Types.warn w >>= fun _ => next) Q := by
  intro s b s' run
  obtain ⟨_, s₁, first, rest⟩ := runs_bind_iff.mp run
  obtain rfl := runs_modify_iff.mp first
  obtain ⟨own, entries, step, q⟩ := h _ b s' rest
  exact ⟨own, entries, { step with }, q⟩

/-- A new name is pending until its model is added. -/
theorem newName {base : String} {next : String → Resolve β}
    (h : ∀ name, Sound graph active [name] (next name) Q) :
    Sound graph active [] (Types.newName base >>= next) Q := by
  intro s b s' run
  obtain ⟨name, s₁, first, rest⟩ := runs_bind_iff.mp run
  simp only [Types.newName, runs_bind_iff, runs_get_iff, runs_set_iff, runs_pure_iff] at first
  obtain ⟨_, _, ⟨rfl, rfl⟩, _, _, rfl, rfl, rfl⟩ := first
  obtain ⟨own, entries, step, q⟩ := h _ _ b s' rest
  refine ⟨own, entries, ⟨step.derived, step.known, step.hoisted, ?_, fun d => ?_⟩, q⟩
  · have taken := step.taken.trans List.perm_middle
    rw [List.append_nil]
    exact (List.perm_cons _).mp ((List.perm_append_singleton _ _).symm.trans taken)
  · exact step.distinct (List.nodup_cons.mpr ⟨Naming.uniqueName_not_mem _ _, d⟩)

/-- Adding a model uses up the name that is pending for it. -/
theorem addHoisted {o : ObjectType} {next : Resolve β}
    (h : Sound graph active [] next fun known b own => Q known b (o :: own)) :
    Sound graph active [o.name] (Types.addHoisted o >>= fun _ => next) Q := by
  intro s b s' run
  obtain ⟨_, s₁, first, rest⟩ := runs_bind_iff.mp run
  obtain rfl := runs_modify_iff.mp first
  obtain ⟨own, entries, step, q⟩ := h _ b s' rest
  refine ⟨o :: own, entries, ⟨step.derived, step.known, ?_, ?_, step.distinct⟩, q⟩
  · simpa [ObjectType.pair] using step.hoisted
  · have taken := step.taken
    rw [List.append_nil] at taken
    simpa using (List.perm_append_singleton _ _).trans (taken.cons o.name)

end Sound

end WireModel.Types
