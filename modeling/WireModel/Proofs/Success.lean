import WireModel.Proofs.Lists
import WireModel.Warning

/-!
# What a success says

A computation of several steps succeeds exactly when each step does, one after another. These
lemmas take successes apart, for results (`Except`) and for results with warnings
(`Logged.Gives`); lists are related to lists of results element by element.
-/

namespace WireModel

section Results

variable {ε ε' α β : Type}

theorem bind_eq_ok {x : Except ε α} {f : α → Except ε β} {b : β} :
    (x >>= f) = .ok b ↔ ∃ a, x = .ok a ∧ f a = .ok b := by
  cases x <;> simp [bind, Except.bind]

theorem bind_eq_error {x : Except ε α} {f : α → Except ε β} {fault : ε} :
    (x >>= f) = .error fault ↔ x = .error fault ∨ ∃ a, x = .ok a ∧ f a = .error fault := by
  cases x <;> simp [bind, Except.bind]

theorem exists_of_isOk {x : Except ε α} (h : x.isOk = true) : ∃ a, x = .ok a := by
  cases x with
  | error fault => cases h
  | ok a => exact ⟨a, rfl⟩

theorem toOption_eq_some {x : Except ε α} {a : α} : x.toOption = some a ↔ x = .ok a := by
  cases x <;> simp [Except.toOption]

theorem map_eq_ok {x : Except ε α} {f : α → β} {b : β} :
    x.map f = .ok b ↔ ∃ a, x = .ok a ∧ f a = b := by
  cases x <;> simp [Except.map]

theorem pure_eq_ok {a b : α} : (pure a : Except ε α) = .ok b ↔ a = b := by
  simp [pure, Except.pure]

theorem mapError_eq_ok {x : Except ε α} {f : ε → ε'} {a : α} :
    x.mapError f = .ok a ↔ x = .ok a := by
  cases x <;> simp [Except.mapError]

theorem mapM_eq_ok {f : α → Except ε β} :
    ∀ {l : List α} {bs : List β},
      l.mapM f = .ok bs ↔ List.Forall₂ (fun a b => f a = .ok b) l bs
  | [], bs => by
    rw [List.mapM_nil, pure_eq_ok, List.forall₂_nil_left_iff]
    exact eq_comm
  | a :: l, bs => by
    simp only [List.mapM_cons, bind_eq_ok, pure_eq_ok, mapM_eq_ok, List.forall₂_cons_left_iff]
    constructor
    · rintro ⟨b, hb, bs', hbs, rfl⟩
      exact ⟨b, bs', hb, hbs, rfl⟩
    · rintro ⟨b, bs', hb, hbs, rfl⟩
      exact ⟨b, hb, bs', hbs, rfl⟩

/-- If all elements have results of some kind, then the list has a list of them. -/
theorem exists_mapM_eq_ok {f : α → Except ε β} {P : β → Prop} :
    ∀ {l : List α}, (∀ a ∈ l, ∃ b, f a = .ok b ∧ P b) → ∃ bs, l.mapM f = .ok bs ∧ ∀ b ∈ bs, P b
  | [], _ => ⟨[], rfl, nofun⟩
  | a :: l, h => by
    obtain ⟨b, first, hb⟩ := h a List.mem_cons_self
    obtain ⟨bs, rest, all⟩ := exists_mapM_eq_ok fun a mem => h a (List.mem_cons_of_mem _ mem)
    refine ⟨b :: bs, ?_, List.forall_mem_cons.mpr ⟨hb, all⟩⟩
    rw [List.mapM_cons]
    exact bind_eq_ok.mpr ⟨b, first, bind_eq_ok.mpr ⟨bs, rest, rfl⟩⟩

/-- A filter keeps what its elements have, in order. -/
theorem filterMapM_eq_ok {f : α → Except ε (Option β)} :
    ∀ {l : List α} {bs : List β}, l.filterMapM f = .ok bs →
      ∃ os, List.Forall₂ (fun a o => f a = .ok o) l os ∧ bs = os.filterMap id
  | [], bs, h => by
    rw [List.filterMapM_nil, pure_eq_ok] at h
    exact ⟨[], .nil, h.symm⟩
  | a :: l, bs, h => by
    rw [List.filterMapM_cons] at h
    obtain ⟨o, ha, h⟩ := bind_eq_ok.mp h
    cases o with
    | none =>
      obtain ⟨os, all, rfl⟩ := filterMapM_eq_ok h
      exact ⟨none :: os, .cons ha all, rfl⟩
    | some b =>
      obtain ⟨bs', hbs, h⟩ := bind_eq_ok.mp h
      obtain ⟨os, all, rfl⟩ := filterMapM_eq_ok hbs
      exact ⟨some b :: os, .cons ha all, (pure_eq_ok.mp h).symm⟩

/-- What holds of the start and is kept by each step holds of the result. -/
theorem foldlM_invariant {f : β → α → Except ε β} {P : β → Prop} :
    ∀ {l : List α} {b result : β}, (∀ b, ∀ a ∈ l, ∀ b', P b → f b a = .ok b' → P b') → P b →
      l.foldlM f b = .ok result → P result
  | [], b, result, _, hb, h => by
    rw [List.foldlM_nil, pure_eq_ok] at h
    rwa [← h]
  | a :: l, b, result, step, hb, h => by
    rw [List.foldlM_cons] at h
    obtain ⟨b', hb', h⟩ := bind_eq_ok.mp h
    exact foldlM_invariant (fun b a mem => step b a (List.mem_cons_of_mem _ mem))
      (step b a List.mem_cons_self b' hb hb') h

theorem exists_of_foldlM_eq_ok {f : β → α → Except ε β} :
    ∀ {l : List α} {b result : β}, l.foldlM f b = .ok result → ∀ a ∈ l, ∃ b b', f b a = .ok b'
  | _ :: l, b, result, h, a, mem => by
    rw [List.foldlM_cons] at h
    obtain ⟨b', hb', h⟩ := bind_eq_ok.mp h
    rcases List.mem_cons.mp mem with rfl | mem
    · exact ⟨b, b', hb'⟩
    · exact exists_of_foldlM_eq_ok h a mem

theorem ok_of_forM_eq_ok {f : α → Except ε Unit} :
    ∀ {l : List α} {u : Unit}, l.forM f = .ok u → ∀ a ∈ l, f a = .ok ()
  | b :: l, u, h, a, mem => by
    obtain ⟨_, hb, h⟩ := bind_eq_ok.mp (show (f b >>= fun _ => l.forM f) = .ok u from h)
    rcases List.mem_cons.mp mem with rfl | mem
    · exact hb
    · exact ok_of_forM_eq_ok h a mem

theorem forM_eq_ok {f : α → Except ε Unit} :
    ∀ {l : List α}, (∀ a ∈ l, f a = .ok ()) → l.forM f = .ok ()
  | [], _ => rfl
  | a :: l, h => by
    obtain ⟨first, rest⟩ := List.forall_mem_cons.mp h
    show (f a >>= fun _ => l.forM f) = .ok ()
    rw [first]
    exact forM_eq_ok rest

section Options

variable {o : Option α} {p : Option β}

/-- What is made of an element that may be absent is of some kind if all that can be made is. -/
theorem forall_mem_of_mapM {f : α → Except ε β} (h : o.mapM f = .ok p) {P : β → Prop} :
    (∀ b ∈ p.toList, P b) ↔ ∀ a ∈ o.toList, ∀ b, f a = .ok b → P b := by
  cases o with
  | none =>
    cases h
    simp
  | some a =>
    rw [Option.mapM_some] at h
    obtain ⟨b, made, rfl⟩ := map_eq_ok.mp h
    simp [made]

theorem eq_of_mapM {f : α → Except ε α} {p : Option α} (h : o.mapM f = .ok p)
    (same : ∀ a ∈ o.toList, ∀ b, f a = .ok b → b = a) : p = o := by
  cases o with
  | none =>
    cases h
    rfl
  | some a =>
    rw [Option.mapM_some] at h
    obtain ⟨b, made, rfl⟩ := map_eq_ok.mp h
    rw [same a (List.mem_singleton_self a) b made]

end Options

/-- Whatever fault a result is, it is of some kind. -/
def ErrsOnly (x : Except ε α) (P : ε → Prop) : Prop := ∀ fault, x = .error fault → P fault

namespace ErrsOnly

variable {P : ε → Prop}

theorem ok {a : α} : ErrsOnly (.ok a) P := nofun

theorem error {fault : ε} (h : P fault) : ErrsOnly (.error fault : Except ε α) P := by
  intro fault' same
  cases same
  exact h

theorem of_eq_ok {x : Except ε α} {a : α} (h : x = .ok a) : ErrsOnly x P := h ▸ ok

theorem bind {x : Except ε α} {f : α → Except ε β} (h : ErrsOnly x P)
    (h' : ∀ a, ErrsOnly (f a) P) : ErrsOnly (x >>= f) P := by
  cases x with
  | error fault => exact error (h fault rfl)
  | ok a => exact h' a

theorem map {x : Except ε α} {f : α → β} (h : ErrsOnly x P) : ErrsOnly (x.map f) P := by
  cases x with
  | error fault => exact error (h fault rfl)
  | ok a => exact ok

theorem foldlM {f : β → α → Except ε β} :
    ∀ {l : List α} {b : β}, (∀ b, ∀ a ∈ l, ErrsOnly (f b a) P) → ErrsOnly (l.foldlM f b) P
  | [], _, _ => ok
  | a :: l, b, h => by
    rw [List.foldlM_cons]
    exact (h b a List.mem_cons_self).bind fun b =>
      foldlM fun b a mem => h b a (List.mem_cons_of_mem _ mem)

theorem filterMapM {f : α → Except ε (Option β)} :
    ∀ {l : List α}, (∀ a ∈ l, ErrsOnly (f a) P) → ErrsOnly (l.filterMapM f) P
  | [], _ => by
    rw [List.filterMapM_nil]
    exact ok
  | a :: l, h => by
    rw [List.filterMapM_cons]
    refine (h a List.mem_cons_self).bind fun o => ?_
    have rest := filterMapM fun a mem => h a (List.mem_cons_of_mem _ mem)
    cases o with
    | none => exact rest
    | some b => exact rest.bind fun bs => ok

theorem forM {f : α → Except ε Unit} :
    ∀ {l : List α}, (∀ a ∈ l, ErrsOnly (f a) P) → ErrsOnly (l.forM f) P
  | [], _ => ok
  | a :: l, h => by
    change ErrsOnly (f a >>= fun _ => l.forM f) P
    exact (h a List.mem_cons_self).bind fun _ =>
      forM fun a mem => h a (List.mem_cons_of_mem _ mem)

end ErrsOnly

/-- Whatever result there is, it is of some kind. -/
def Yields (x : Except ε α) (P : α → Prop) : Prop := ∀ a, x = .ok a → P a

namespace Yields

variable {P Q : α → Prop} {R : β → Prop}

theorem ok {a : α} (h : P a) : Yields (.ok a : Except ε α) P := by
  intro a' same
  cases same
  exact h

theorem error {fault : ε} : Yields (.error fault) P := nofun

theorem mono {x : Except ε α} (h : Yields x P) (weaker : ∀ a, P a → Q a) : Yields x Q :=
  fun a found => weaker a (h a found)

theorem bind {x : Except ε α} {f : α → Except ε β} (h : Yields x P)
    (h' : ∀ a, P a → Yields (f a) R) : Yields (x >>= f) R := by
  cases x with
  | error fault => exact error
  | ok a => exact h' a (h a rfl)

theorem bind_pure {x : Except ε α} {f : α → β} (h : Yields x P) (h' : ∀ a, P a → R (f a)) :
    Yields (do return f (← x)) R := h.bind fun a here => ok (h' a here)

theorem map {x : Except ε α} {f : α → β} (h : Yields x P) (h' : ∀ a, P a → R (f a)) :
    Yields (x.map f) R := by
  cases x with
  | error fault => exact error
  | ok a => exact ok (h' a (h a rfl))

theorem mapM {f : α → Except ε β} {l : List α} (h : ∀ a ∈ l, Yields (f a) R) :
    Yields (l.mapM f) (∀ b ∈ ·, R b) := by
  induction l with
  | nil => exact ok nofun
  | cons a l ih =>
    rw [List.mapM_cons]
    have rest := ih fun a mem => h a (List.mem_cons_of_mem _ mem)
    exact (h a List.mem_cons_self).bind fun b here => rest.bind fun bs there =>
      ok (List.forall_mem_cons.mpr ⟨here, there⟩)

/-- A list yields what its elements yield, one by one. -/
theorem mapM_forall₂ {γ : Type} {f : α → Except ε β} {g : α → γ} {R : β → γ → Prop} {l : List α}
    (h : ∀ a ∈ l, Yields (f a) (R · (g a))) :
    Yields (l.mapM f) (List.Forall₂ R · (l.map g)) := by
  induction l with
  | nil => exact ok .nil
  | cons a l ih =>
    rw [List.mapM_cons]
    obtain ⟨here, others⟩ := List.forall_mem_cons.mp h
    exact here.bind fun b first => (ih others).bind_pure fun bs rest => .cons first rest

end Yields

end Results

/-! ## Results with state -/

section State

variable {σ ε α β : Type}

/-- A computation with state has a result from a state on, and leaves another state. -/
def Runs (computation : ExceptT ε (StateM σ) α) (s : σ) (a : α) (s' : σ) : Prop :=
  computation s = (.ok a, s')

theorem runs_pure_iff {a b : α} {s s' : σ} :
    Runs (pure a : ExceptT ε (StateM σ) α) s b s' ↔ a = b ∧ s = s' := by
  constructor
  · intro h
    cases h
    exact ⟨rfl, rfl⟩
  · rintro ⟨rfl, rfl⟩
    rfl

theorem runs_bind_iff {computation : ExceptT ε (StateM σ) α} {next : α → ExceptT ε (StateM σ) β}
    {b : β} {s s' : σ} :
    Runs (computation >>= next) s b s' ↔
      ∃ a middle, Runs computation s a middle ∧ Runs (next a) middle b s' := by
  have split : (computation >>= next) s =
      ExceptT.bindCont next (computation s).1 (computation s).2 := rfl
  simp only [Runs, split]
  rcases computation s with ⟨fault | a, middle⟩
  · constructor
    · intro h
      cases h
    · rintro ⟨a, middle', h, -⟩
      cases h
  · constructor
    · intro h
      exact ⟨a, middle, rfl, h⟩
    · rintro ⟨a', middle', h, h'⟩
      cases h
      exact h'

theorem not_runs_throw {fault : ε} {a : α} {s s' : σ} :
    ¬Runs (throw fault : ExceptT ε (StateM σ) α) s a s' := by
  intro h
  cases h

theorem runs_get_iff {a s s' : σ} :
    Runs (get : ExceptT ε (StateM σ) σ) s a s' ↔ s = a ∧ s = s' := by
  constructor
  · intro h
    cases h
    exact ⟨rfl, rfl⟩
  · rintro ⟨rfl, rfl⟩
    rfl

theorem runs_set_iff {next s s' : σ} {u : PUnit} :
    Runs (set next : ExceptT ε (StateM σ) PUnit) s u s' ↔ next = s' := by
  constructor
  · intro h
    cases h
    rfl
  · rintro rfl
    rfl

theorem runs_modify_iff {f : σ → σ} {s s' : σ} {u : PUnit} :
    Runs (modify f : ExceptT ε (StateM σ) PUnit) s u s' ↔ f s = s' := by
  constructor
  · intro h
    cases h
    rfl
  · rintro rfl
    rfl

/-- A computation with state ends in a fault from a state on, and leaves another state. -/
def Fails (computation : ExceptT ε (StateM σ) α) (s : σ) (fault : ε) (s' : σ) : Prop :=
  computation s = (.error fault, s')

theorem fails_bind_iff {computation : ExceptT ε (StateM σ) α} {next : α → ExceptT ε (StateM σ) β}
    {fault : ε} {s s' : σ} :
    Fails (computation >>= next) s fault s' ↔
      Fails computation s fault s' ∨
        ∃ a middle, Runs computation s a middle ∧ Fails (next a) middle fault s' := by
  have split : (computation >>= next) s =
      ExceptT.bindCont next (computation s).1 (computation s).2 := rfl
  simp only [Fails, Runs, split]
  rcases computation s with ⟨fault' | a, middle⟩
  · constructor
    · intro h
      cases h
      exact .inl rfl
    · rintro (h | ⟨a, middle', h, -⟩)
      · cases h
        rfl
      · cases h
  · constructor
    · intro h
      exact .inr ⟨a, middle, rfl, h⟩
    · rintro (h | ⟨a', middle', h, h'⟩)
      · cases h
      · cases h
        exact h'

theorem not_fails_pure {a : α} {fault : ε} {s s' : σ} :
    ¬Fails (pure a : ExceptT ε (StateM σ) α) s fault s' := by
  intro h
  cases h

theorem fails_throw_iff {fault fault' : ε} {s s' : σ} :
    Fails (throw fault : ExceptT ε (StateM σ) α) s fault' s' ↔ fault = fault' ∧ s = s' := by
  constructor
  · intro h
    cases h
    exact ⟨rfl, rfl⟩
  · rintro ⟨rfl, rfl⟩
    rfl

theorem runs_tryCatch_iff {computation : ExceptT ε (StateM σ) α}
    {handle : ε → ExceptT ε (StateM σ) α} {a : α} {s s' : σ} :
    Runs (tryCatch computation handle) s a s' ↔
      Runs computation s a s' ∨
        ∃ fault middle, Fails computation s fault middle ∧ Runs (handle fault) middle a s' := by
  have split : (tryCatch computation handle) s =
      (match (computation s).1 with
        | .ok a => ExceptT.mk (pure (.ok a))
        | .error fault => handle fault) (computation s).2 := rfl
  simp only [Fails, Runs, split]
  rcases computation s with ⟨fault | a', middle⟩
  · constructor
    · intro h
      exact .inr ⟨fault, middle, rfl, h⟩
    · rintro (h | ⟨fault', middle', h, h'⟩)
      · cases h
      · cases h
        exact h'
  · constructor
    · intro h
      cases h
      exact .inl rfl
    · rintro (h | ⟨fault, middle', h, -⟩)
      · cases h
        rfl
      · cases h

theorem fails_tryCatch_iff {computation : ExceptT ε (StateM σ) α}
    {handle : ε → ExceptT ε (StateM σ) α} {fault : ε} {s s' : σ} :
    Fails (tryCatch computation handle) s fault s' ↔
      ∃ fault' middle,
        Fails computation s fault' middle ∧ Fails (handle fault') middle fault s' := by
  have split : (tryCatch computation handle) s =
      (match (computation s).1 with
        | .ok a => ExceptT.mk (pure (.ok a))
        | .error fault => handle fault) (computation s).2 := rfl
  simp only [Fails, split]
  rcases computation s with ⟨fault' | a', middle⟩
  · constructor
    · intro h
      exact ⟨fault', middle, rfl, h⟩
    · rintro ⟨fault'', middle', h, h'⟩
      cases h
      exact h'
  · constructor
    · intro h
      cases h
    · rintro ⟨fault', middle', h, -⟩
      cases h
/-- Whatever fault a computation ends in, from any state on, is of some kind. -/
def FailsOnly (computation : ExceptT ε (StateM σ) α) (P : ε → Prop) : Prop :=
  ∀ s fault s', Fails computation s fault s' → P fault

namespace FailsOnly

variable {P : ε → Prop}

theorem pure {a : α} : FailsOnly (Pure.pure a : ExceptT ε (StateM σ) α) P :=
  fun _ _ _ fails => absurd fails not_fails_pure

theorem throw {fault : ε} (h : P fault) :
    FailsOnly (MonadExcept.throw fault : ExceptT ε (StateM σ) α) P := by
  intro s fault' s' fails
  obtain ⟨rfl, -⟩ := fails_throw_iff.mp fails
  exact h

/-- What comes next is asked only about results that there are. -/
theorem bind_of {computation : ExceptT ε (StateM σ) α} {next : α → ExceptT ε (StateM σ) β}
    (h : FailsOnly computation P)
    (h' : ∀ a s middle, Runs computation s a middle → FailsOnly (next a) P) :
    FailsOnly (computation >>= next) P := by
  intro s fault s' fails
  rcases fails_bind_iff.mp fails with first | ⟨a, middle, run, rest⟩
  · exact h s fault s' first
  · exact h' a s middle run middle fault s' rest

theorem bind {computation : ExceptT ε (StateM σ) α} {next : α → ExceptT ε (StateM σ) β}
    (h : FailsOnly computation P) (h' : ∀ a, FailsOnly (next a) P) :
    FailsOnly (computation >>= next) P :=
  h.bind_of fun a _ _ _ => h' a

theorem map {computation : ExceptT ε (StateM σ) α} {f : α → β} (h : FailsOnly computation P) :
    FailsOnly (f <$> computation) P := by
  rw [← bind_pure_comp]
  exact h.bind fun a => pure

theorem imp {Q : ε → Prop} {computation : ExceptT ε (StateM σ) α} (h : FailsOnly computation P)
    (imp : ∀ fault, P fault → Q fault) : FailsOnly computation Q :=
  fun s fault s' fails => imp fault (h s fault s' fails)

/-- A handler is asked only about faults that there may be. -/
theorem tryCatch {Q : ε → Prop} {computation : ExceptT ε (StateM σ) α}
    {handle : ε → ExceptT ε (StateM σ) α} (h : FailsOnly computation Q)
    (h' : ∀ fault, Q fault → FailsOnly (handle fault) P) :
    FailsOnly (MonadExcept.tryCatch computation handle) P := by
  intro s fault s' fails
  obtain ⟨fault', middle, first, rest⟩ := fails_tryCatch_iff.mp fails
  exact h' fault' (h s fault' middle first) middle fault s' rest

theorem mapM {f : α → ExceptT ε (StateM σ) β} :
    ∀ {l : List α}, (∀ a ∈ l, FailsOnly (f a) P) → FailsOnly (l.mapM f) P
  | [], _ => by
    rw [List.mapM_nil]
    exact pure
  | a :: l, h => by
    rw [List.mapM_cons]
    refine (h a List.mem_cons_self).bind fun b => ?_
    exact (mapM fun a mem => h a (List.mem_cons_of_mem _ mem)).bind fun bs => pure

end FailsOnly

end State

/-! ## Results with warnings -/

namespace Logged

variable {ε α β : Type}

/-- Whether a computation has a result, from some log on. -/
def Gives (computation : Logged ε α) (a : α) : Prop :=
  ∃ log log', Runs computation log a log'

theorem gives_of_outcome {computation : Logged ε α} {a : α}
    (h : computation.outcome.1 = .ok a) : computation.Gives a :=
  ⟨[], (computation []).2, Prod.ext h rfl⟩

theorem gives_pure_iff {a b : α} : (pure a : Logged ε α).Gives b ↔ a = b := by
  constructor
  · rintro ⟨log, log', h⟩
    exact (runs_pure_iff.mp h).1
  · rintro rfl
    exact ⟨[], [], rfl⟩

theorem Gives.bind {computation : Logged ε α} {next : α → Logged ε β} {b : β}
    (h : (computation >>= next).Gives b) : ∃ a, computation.Gives a ∧ (next a).Gives b := by
  obtain ⟨log, log', h⟩ := h
  obtain ⟨a, middle, first, rest⟩ := runs_bind_iff.mp h
  exact ⟨a, ⟨log, middle, first⟩, middle, log', rest⟩

theorem Gives.map {f : α → β} {computation : Logged ε α} {b : β}
    (h : (f <$> computation).Gives b) : ∃ a, computation.Gives a ∧ f a = b := by
  rw [← bind_pure_comp] at h
  obtain ⟨a, ha, hb⟩ := h.bind
  exact ⟨a, ha, gives_pure_iff.mp hb⟩

theorem not_gives_throw {fault : ε} {a : α} : ¬(throw fault : Logged ε α).Gives a := by
  rintro ⟨log, log', h⟩
  exact not_runs_throw h

theorem Gives.mapM {f : α → Logged ε β} :
    ∀ {l : List α} {bs : List β}, (l.mapM f).Gives bs →
      List.Forall₂ (fun a b => (f a).Gives b) l bs
  | [], bs, h => by
    rw [List.mapM_nil, gives_pure_iff] at h
    rw [← h]
    exact .nil
  | a :: l, bs, h => by
    rw [List.mapM_cons] at h
    obtain ⟨b, hb, h⟩ := h.bind
    obtain ⟨bs', hbs, h⟩ := h.bind
    rw [gives_pure_iff] at h
    rw [← h]
    exact .cons hb (Gives.mapM hbs)

/-- A computation has a result from every log on. -/
def Succeeds (computation : Logged ε α) : Prop := ∀ log, ∃ a log', Runs computation log a log'

namespace Succeeds

theorem exists_gives {computation : Logged ε α} (h : computation.Succeeds) :
    ∃ a, computation.Gives a := by
  obtain ⟨a, log', run⟩ := h []
  exact ⟨a, [], log', run⟩

theorem pure {a : α} : (Pure.pure a : Logged ε α).Succeeds :=
  fun log => ⟨a, log, runs_pure_iff.mpr ⟨rfl, rfl⟩⟩

theorem warn {w : Warning} : (Logged.warn w : Logged ε Unit).Succeeds :=
  fun log => ⟨(), log ++ [w], rfl⟩

theorem bind {computation : Logged ε α} {next : α → Logged ε β} (h : computation.Succeeds)
    (h' : ∀ a, (next a).Succeeds) : (computation >>= next).Succeeds := by
  intro log
  obtain ⟨a, middle, first⟩ := h log
  obtain ⟨b, log', rest⟩ := h' a middle
  exact ⟨b, log', runs_bind_iff.mpr ⟨a, middle, first, rest⟩⟩

theorem failsOnly {P : ε → Prop} {computation : Logged ε α} (h : computation.Succeeds) :
    FailsOnly computation P := by
  intro log fault log' fails
  obtain ⟨a, _, run⟩ := h log
  rw [Runs, show computation log = (.error fault, log') from fails] at run
  cases run

theorem mapM {f : α → Logged ε β} :
    ∀ {l : List α}, (∀ a ∈ l, (f a).Succeeds) → (l.mapM f).Succeeds
  | [], _ => by
    rw [List.mapM_nil]
    exact pure
  | a :: l, h => by
    rw [List.mapM_cons]
    refine (h a List.mem_cons_self).bind fun b => ?_
    exact (mapM fun a mem => h a (List.mem_cons_of_mem _ mem)).bind fun bs => pure

theorem forM {f : α → Logged ε Unit} :
    ∀ {l : List α}, (∀ a ∈ l, (f a).Succeeds) → (l.forM f).Succeeds
  | [], _ => pure
  | a :: l, h => by
    change (f a >>= fun _ => l.forM f).Succeeds
    exact (h a List.mem_cons_self).bind fun _ => forM fun a mem => h a (List.mem_cons_of_mem _ mem)

end Succeeds

/-- What a computation ends in: results of one kind, or faults of another. -/
structure Ends (computation : Logged ε α) (P : α → Prop) (E : ε → Prop) : Prop where
  gives : ∀ a, computation.Gives a → P a
  fails : FailsOnly computation E

namespace Ends

variable {P : α → Prop} {Q : β → Prop} {E : ε → Prop}

theorem pure {a : α} (h : P a) : (Pure.pure a : Logged ε α).Ends P E where
  gives _ same := gives_pure_iff.mp same ▸ h
  fails := .pure

theorem throw {fault : ε} (h : E fault) : (MonadExcept.throw fault : Logged ε α).Ends P E where
  gives _ given := absurd given not_gives_throw
  fails := .throw h

theorem warn {w : Warning} {P : Unit → Prop} (h : P ()) :
    (Logged.warn w : Logged ε Unit).Ends P E where
  gives _ _ := h
  fails := Succeeds.warn.failsOnly

theorem bind {computation : Logged ε α} {next : α → Logged ε β} (h : computation.Ends P E)
    (h' : ∀ a, P a → (next a).Ends Q E) : (computation >>= next).Ends Q E where
  gives _ given := by
    obtain ⟨a, first, rest⟩ := given.bind
    exact (h' a (h.gives a first)).gives _ rest
  fails := h.fails.bind_of fun a log log' run => (h' a (h.gives a ⟨log, log', run⟩)).fails

theorem imp {P' : α → Prop} {computation : Logged ε α} (h : computation.Ends P E)
    (results : ∀ a, P a → P' a) : computation.Ends P' E where
  gives a given := results a (h.gives a given)
  fails := h.fails

theorem and_gives {computation : Logged ε α} (h : computation.Ends P E) :
    computation.Ends (fun a => computation.Gives a ∧ P a) E where
  gives a given := ⟨given, h.gives a given⟩
  fails := h.fails

theorem map {f : α → β} {computation : Logged ε α} (h : computation.Ends P E)
    (results : ∀ a, P a → Q (f a)) : (f <$> computation).Ends Q E := by
  rw [← bind_pure_comp]
  exact h.bind fun a ha => pure (results a ha)

theorem mapM {f : α → Logged ε β} {l : List α} (h : ∀ a ∈ l, (f a).Ends Q E) :
    (l.mapM f).Ends (fun bs => ∀ b ∈ bs, Q b) E where
  gives bs given := by
    intro b mem
    obtain ⟨a, mem, given⟩ := exists_left_of_forall₂ given.mapM mem
    exact (h a mem).gives b given
  fails := .mapM fun a mem => (h a mem).fails

end Ends

/-- Whatever two computations give is related. -/
structure Tracks {ε' : Type} (R : α → β → Prop) (x : Logged ε α) (y : Logged ε' β) : Prop where
  related : ∀ {a b}, x.Gives a → y.Gives b → R a b

namespace Tracks

variable {ε' γ δ : Type} {R : α → β → Prop} {S : γ → δ → Prop}

theorem pure {a : α} {b : β} (h : R a b) :
    Tracks R (pure a : Logged ε α) (Pure.pure b : Logged ε' β) where
  related ha hb := by
    rw [← gives_pure_iff.mp ha, ← gives_pure_iff.mp hb]
    exact h

theorem bind {x : Logged ε α} {y : Logged ε' β} {f : α → Logged ε γ} {g : β → Logged ε' δ}
    (first : Tracks R x y) (next : ∀ a b, R a b → Tracks S (f a) (g b)) :
    Tracks S (x >>= f) (y >>= g) where
  related hc hd := by
    obtain ⟨a, ha, hc⟩ := hc.bind
    obtain ⟨b, hb, hd⟩ := hd.bind
    exact (next a b (first.related ha hb)).related hc hd

theorem map {x : Logged ε α} {y : Logged ε' β} {f : α → γ} {g : β → δ} (h : Tracks R x y)
    (results : ∀ a b, R a b → S (f a) (g b)) : Tracks S (f <$> x) (g <$> y) where
  related hc hd := by
    obtain ⟨a, ha, rfl⟩ := hc.map
    obtain ⟨b, hb, rfl⟩ := hd.map
    exact results a b (h.related ha hb)

theorem imp {S : α → β → Prop} {x : Logged ε α} {y : Logged ε' β} (h : Tracks R x y)
    (results : ∀ a b, R a b → S a b) : Tracks S x y :=
  ⟨fun ha hb => results _ _ (h.related ha hb)⟩

theorem of_throw {fault : ε} {y : Logged ε' β} : Tracks R (throw fault : Logged ε α) y :=
  ⟨fun ha _ => absurd ha not_gives_throw⟩

theorem of_throw_right {x : Logged ε α} {fault : ε'} : Tracks R x (throw fault : Logged ε' β) :=
  ⟨fun _ hb => absurd hb not_gives_throw⟩

theorem mapM {P : γ → δ → Prop} {f : γ → Logged ε α} {g : δ → Logged ε' β} {cs : List γ}
    {ds : List δ} (h : List.Forall₂ P cs ds) (each : ∀ c d, P c d → Tracks R (f c) (g d)) :
    Tracks (List.Forall₂ R) (cs.mapM f) (ds.mapM g) := by
  refine ⟨fun {as bs} has hbs => ?_⟩
  have all := has.mapM
  have all' := hbs.mapM
  clear has hbs
  induction h generalizing as bs with
  | nil =>
    cases all
    cases all'
    exact .nil
  | cons first _ ih =>
    cases all with
    | cons here rest =>
      cases all' with
      | cons here' rest' => exact .cons ((each _ _ first).related here here') (ih rest rest')

/-- Two computations that track each other on all elements do so on a list. -/
theorem mapM_each {f : γ → Logged ε α} {g : γ → Logged ε' β} (each : ∀ c, Tracks R (f c) (g c))
    (cs : List γ) : Tracks (List.Forall₂ R) (cs.mapM f) (cs.mapM g) := by
  refine mapM (P := Eq) (List.forall₂_same.mpr fun _ _ => rfl) ?_
  rintro c _ rfl
  exact each c

theorem mapM_same {f : γ → Logged ε α} {g : γ → Logged ε' α} (same : ∀ c, Tracks Eq (f c) (g c))
    (cs : List γ) : Tracks Eq (cs.mapM f) (cs.mapM g) :=
  (mapM_each same cs).imp fun as bs all => by rwa [List.forall₂_eq_eq_eq] at all

/-- Two lists that differ in one element have results that do. -/
theorem mapM_append_cons {f : γ → Logged ε α} {g : γ → Logged ε' α} {R : α → α → Prop} {c d : γ}
    {after : List γ} (same : ∀ c, Tracks Eq (f c) (g c)) (here : Tracks R (f c) (g d)) :
    ∀ before : List γ, Tracks (DifferInOne R) ((before ++ c :: after).mapM f)
      ((before ++ d :: after).mapM g)
  | [] => by
    simp only [List.nil_append, List.mapM_cons]
    refine .bind here fun a b related => .bind (mapM_same same after) ?_
    rintro rest _ rfl
    exact .pure ⟨[], a, b, rest, rfl, rfl, related⟩
  | e :: before => by
    simp only [List.cons_append, List.mapM_cons]
    refine .bind (same e) ?_
    rintro first _ rfl
    refine .bind (mapM_append_cons same here before) ?_
    rintro _ _ ⟨start, a, b, rest, rfl, rfl, related⟩
    exact .pure ⟨first :: start, a, b, rest, rfl, rfl, related⟩

end Tracks

end Logged
end WireModel
