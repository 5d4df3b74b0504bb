import Mathlib.Algebra.GroupWithZero.Nat
import Mathlib.Data.List.Nodup
import Mathlib.Logic.Relation
import WireModel.Types.Family

/-!
# Breadth-first search finds what can be reached

A search with enough fuel empties its queue. The fuel pays for every name that is taken from the
queue: for those that wait, and for those that names not met yet will put there. Then everything
met is reached, nothing twice, and everything that can be reached is met.
-/

namespace WireModel.Types

variable {next : String → List String}

/-- What can be reached from a name in any number of steps. -/
def Reaches (next : String → List String) : String → String → Prop :=
  Relation.ReflTransGen fun a b => b ∈ next a

/-! ## Fuel -/

/-- How many names those of a list put into the queue when they are met, unless they were. -/
def pending (next : String → List String) (names seen : List String) : Nat :=
  (names.map fun n => if n ∈ seen then 0 else (next n).length).sum

theorem pending_le (names seen : List String) :
    pending next names seen ≤ (names.map fun n => (next n).length).sum := by
  induction names with
  | nil => exact Nat.le_refl _
  | cons n rest ih =>
    simp only [pending, List.map_cons, List.sum_cons] at ih ⊢
    split <;> omega

theorem pending_met {names seen : List String} {name : String} (absent : name ∉ names) :
    pending next names (name :: seen) = pending next names seen := by
  unfold pending
  congr 1
  refine List.map_congr_left fun n mem => ?_
  have other : n ≠ name := fun same => absent (same ▸ mem)
  simp [other]

theorem pending_cons {names seen : List String} {name : String} (distinct : names.Nodup)
    (mem : name ∈ names) (fresh : name ∉ seen) :
    (next name).length + pending next names (name :: seen) = pending next names seen := by
  induction names with
  | nil => cases mem
  | cons n rest ih =>
    obtain ⟨absent, distinct⟩ := List.nodup_cons.mp distinct
    have split : ∀ seen, pending next (n :: rest) seen =
        (if n ∈ seen then 0 else (next n).length) + pending next rest seen := fun _ => rfl
    rw [split, split]
    rcases List.mem_cons.mp mem with rfl | mem
    · rw [pending_met absent, if_pos List.mem_cons_self, if_neg fresh]
      omega
    · have other : n ≠ name := fun same => absent (same ▸ mem)
      have := ih distinct mem
      simp only [List.mem_cons, other, false_or]
      omega

/-- Meeting a name costs what it puts into the queue; only names of the list put something. -/
theorem length_add_pending {names seen : List String} {name : String} (distinct : names.Nodup)
    (all : ∀ n, n ∉ names → next n = []) (fresh : name ∉ seen) :
    (next name).length + pending next names (name :: seen) = pending next names seen := by
  by_cases mem : name ∈ names
  · exact pending_cons distinct mem fresh
  · rw [all name mem, pending_met mem, List.length_nil, Nat.zero_add]

/-! ## Searches -/

/-- A search that ends with an empty queue: it met the queue, with each name met also what comes
next, nothing twice, and nothing that cannot be reached. -/
structure Searched (next : String → List String) (queue seen result : List String) : Prop where
  extends_seen : ∃ met, result = met ++ seen
  distinct : seen.Nodup → result.Nodup
  met_queue : ∀ name ∈ queue, name ∈ result
  closed : ∀ name ∈ result, name ∈ seen ∨ ∀ n ∈ next name, n ∈ result
  reached : ∀ name ∈ result, name ∈ seen ∨ ∃ start ∈ queue, Reaches next start name

/-- A name that was met before is passed over. -/
theorem Searched.skip {queue seen result : List String} {name : String} (met : name ∈ seen)
    (rest : Searched next queue seen result) : Searched next (name :: queue) seen result := by
  obtain ⟨new, eq⟩ := rest.extends_seen
  refine ⟨rest.extends_seen, rest.distinct, ?_, rest.closed, fun n mem => ?_⟩
  · refine List.forall_mem_cons.mpr ⟨?_, rest.met_queue⟩
    rw [eq]
    exact List.mem_append_right _ met
  · refine (rest.reached n mem).imp_right ?_
    rintro ⟨start, there, reaches⟩
    exact ⟨start, List.mem_cons_of_mem _ there, reaches⟩

/-- A name that is met for the first time puts what comes next behind the queue. -/
theorem Searched.visit {queue seen result : List String} {name : String} (fresh : name ∉ seen)
    (rest : Searched next (queue ++ next name) (name :: seen) result) :
    Searched next (name :: queue) seen result := by
  obtain ⟨new, eq⟩ := rest.extends_seen
  refine ⟨⟨new ++ [name], by rw [eq]; simp⟩,
    fun unique => rest.distinct (List.nodup_cons.mpr ⟨fresh, unique⟩), ?_, ?_, ?_⟩
  · refine List.forall_mem_cons.mpr ⟨?_, fun n mem => ?_⟩
    · rw [eq]
      exact List.mem_append_right _ List.mem_cons_self
    · exact rest.met_queue n (List.mem_append_left _ mem)
  · intro n mem
    rcases rest.closed n mem with old | closed
    · rcases List.mem_cons.mp old with rfl | old
      · exact .inr fun m there => rest.met_queue m (List.mem_append_right _ there)
      · exact .inl old
    · exact .inr closed
  · intro n mem
    rcases rest.reached n mem with old | ⟨start, there, reaches⟩
    · rcases List.mem_cons.mp old with rfl | old
      · exact .inr ⟨n, List.mem_cons_self, .refl⟩
      · exact .inl old
    · rcases List.mem_append.mp there with there | there
      · exact .inr ⟨start, List.mem_cons_of_mem _ there, reaches⟩
      · exact .inr ⟨name, List.mem_cons_self, .head there reaches⟩

/-- A search with enough fuel ends with an empty queue: a step takes a name off the queue, or what
the name adds is no longer pending. -/
theorem searchFrom_searched {names : List String} (distinct : names.Nodup)
    (all : ∀ n, n ∉ names → next n = []) :
    ∀ {fuel queue seen}, queue.length + pending next names seen ≤ fuel →
      Searched next queue seen (searchFrom next fuel queue seen)
  | 0, queue, seen, enough => by
    obtain rfl : queue = [] := List.eq_nil_of_length_eq_zero (by omega)
    exact ⟨⟨[], rfl⟩, id, nofun, fun _ mem => .inl mem, fun _ mem => .inl mem⟩
  | fuel + 1, [], seen, enough =>
    ⟨⟨[], rfl⟩, id, nofun, fun _ mem => .inl mem, fun _ mem => .inl mem⟩
  | fuel + 1, name :: queue, seen, enough => by
    rw [searchFrom]
    rw [List.length_cons] at enough
    split
    · rename_i met
      have met : name ∈ seen := List.contains_iff_mem.mp met
      exact .skip met (searchFrom_searched distinct all (by omega))
    · rename_i fresh
      have fresh : name ∉ seen := fun mem => fresh (List.contains_iff_mem.mpr mem)
      have enough : (queue ++ next name).length + pending next names (name :: seen) ≤ fuel := by
        have := length_add_pending distinct all fresh
        rw [List.length_append]
        omega
      exact .visit fresh (searchFrom_searched distinct all enough)

/-- Two searches meet the same names in the same order if what comes next is the same for all names
that can be met, whatever fuel they have beyond what is needed. -/
theorem searchFrom_congr {next' : String → List String} {names : List String} {S : Set String}
    (distinct : names.Nodup) (all : ∀ n, n ∉ names → next n = [])
    (same : ∀ n ∈ S, next' n = next n) (closed : ∀ n ∈ S, ∀ m ∈ next n, m ∈ S) :
    ∀ {fuel fuel' queue seen}, (∀ n ∈ queue, n ∈ S) →
      queue.length + pending next names seen ≤ fuel →
      queue.length + pending next names seen ≤ fuel' →
        searchFrom next' fuel' queue seen = searchFrom next fuel queue seen
  | fuel, fuel', [], seen, _, _, _ => by
    cases fuel <;> cases fuel' <;> rfl
  | 0, _, name :: queue, seen, _, enough, _ => by
    rw [List.length_cons] at enough
    omega
  | _, 0, name :: queue, seen, _, _, enough' => by
    rw [List.length_cons] at enough'
    omega
  | fuel + 1, fuel' + 1, name :: queue, seen, within, enough, enough' => by
    obtain ⟨here, within⟩ := List.forall_mem_cons.mp within
    rw [List.length_cons] at enough enough'
    rw [searchFrom, searchFrom]
    split
    · exact searchFrom_congr distinct all same closed within (by omega) (by omega)
    · rename_i fresh
      have fresh : name ∉ seen := fun mem => fresh (List.contains_iff_mem.mpr mem)
      have cost := length_add_pending distinct all fresh
      rw [same name here]
      refine searchFrom_congr distinct all same closed (fun n mem => ?_) ?_ ?_
      · rcases List.mem_append.mp mem with mem | mem
        · exact within n mem
        · exact closed name here n mem
      · rw [List.length_append]
        omega
      · rw [List.length_append]
        omega

/-- A search from what comes next after a name meets exactly what the name reaches. -/
theorem Searched.mem_iff {name : String} {result : List String}
    (h : Searched next (next name) [name] result) {n : String} :
    n ∈ result ↔ Reaches next name n := by
  constructor
  · intro mem
    rcases h.reached n mem with same | ⟨start, there, reaches⟩
    · rw [List.mem_singleton.mp same]
      exact .refl
    · exact .head there reaches
  · intro reaches
    induction reaches with
    | refl =>
      obtain ⟨met, eq⟩ := h.extends_seen
      rw [eq]
      exact List.mem_append_right _ List.mem_cons_self
    | tail _ step ih =>
      rcases h.closed _ ih with same | closed
      · rw [List.mem_singleton.mp same] at step
        exact h.met_queue _ step
      · exact closed _ step

end WireModel.Types
