import WireModel.Proofs.Output.Writing

/-!
# Sequences of writes

What one write does to a file that is there before it, and what is left of a file after many.

* **`Job.gains_of_perform`**, **`Job.sameFiles_of_perform`**: a job writes one file or changes none.
* **`Job.permitted_of_perform`**: a job that writes a file was allowed to by its mode.
* **`Job.grows`**: nothing goes away, so paths lead where they led before.
* **`runJobs_keeps`**: what one job after the other preserves.
-/

namespace WireModel.Output

open Files (Host Place Tree)
open Files.Tree (Keeps)

/-! ## Permission -/

/-- Whether a mode lets a path be written to. -/
def Permits (t : Tree) (place : Place) (mode : Options.Mode) : Prop :=
  t.hasPlace place = false ∨
    match mode with
    | .known .error => False
    | .known .regenerate => isGenerated t place = true
    | .known .force | .other _ => True

section

variable {host : Host} {t t' : Tree} {place : Place}

theorem of_runs_look {found : Option Tree} (run : Runs (Writing.look host place) t found t') :
    t' = t ∧ found.isSome = t.hasPlace place := by
  have made := runs_call run
  rw [Tree.hasPlace]
  split at made
  · rename_i there leads
    cases made
    rw [leads]
    exact ⟨rfl, rfl⟩
  · cases made
  · rename_i fault long leads
    cases made
    rw [leads]
    exact ⟨rfl, rfl⟩

theorem runs_seesGenerated {sees : Bool} (run : Runs (seesGenerated host place) t sees t') :
    t' = t ∧ sees = ((host.refuses t (.read place)).isNone && isGenerated t place) := by
  obtain ⟨_, _, got, run⟩ := runs_bind_iff.mp run
  obtain ⟨rfl, rfl⟩ := runs_get_iff.mp got
  obtain ⟨same, rfl⟩ := runs_pure_iff.mp run
  exact ⟨rfl, same.symm⟩

theorem permits_of_runs_permit {mode : Options.Mode} {taken : Bool}
    (same : taken = t.hasPlace place) (run : Runs (permit host mode place taken) t () t') :
    t' = t ∧ Permits t place mode := by
  unfold permit at run
  split at run
  · obtain ⟨-, rfl⟩ := runs_pure_iff.mp run
    exact ⟨rfl, .inl same.symm⟩
  · exact absurd run not_runs_throw
  · obtain ⟨generated, middle, sees, run⟩ := runs_bind_iff.mp run
    obtain ⟨rfl, rfl⟩ := runs_seesGenerated sees
    split at run
    · rename_i allowed
      obtain ⟨-, rfl⟩ := runs_pure_iff.mp run
      exact ⟨rfl, .inr (Bool.and_eq_true_iff.mp allowed).2⟩
    · exact absurd run not_runs_throw
  · obtain ⟨-, rfl⟩ := runs_pure_iff.mp run
    exact ⟨rfl, .inr trivial⟩
  · obtain ⟨-, rfl⟩ := runs_pure_iff.mp run
    exact ⟨rfl, .inr trivial⟩

theorem permits_of_runs {manner : Manner} {text : String} {language : Option Language}
    {checks : Checks} (run : Runs (writeGenerated manner place text language checks host) t () t') :
    Permits t place manner.mode := by
  obtain ⟨found, _, look, rest⟩ := runs_bind_iff.mp run
  obtain ⟨rfl, same⟩ := of_runs_look look
  obtain ⟨_, _, permit, -⟩ := runs_bind_iff.mp rest
  exact (permits_of_runs_permit same permit).2

theorem written_of_generateInto {request : Request} {made : Generation} {warnings : List Warning}
    (h : generateInto request place t host = ((.ok made, warnings), t')) :
    (Generation.run request).outcome.1 = .ok made ∧
      ∃ manner, mannerOf request.options = .ok manner ∧
        Runs (writeGenerated manner place made.text (some request.language) .standard host)
          t () t' := by
  unfold generateInto at h
  dsimp only at h
  split at h
  · cases h
  · rename_i generated result
    split at h
    · cases h
    · rename_i manner manners
      split at h
      · rename_i changed written
        cases h
        exact ⟨result, manner, manners, written⟩
      · cases h

end

/-! ## What stays -/

section

variable {host : Host} {checks : Checks} {before t t' : Tree} {temporary place : Place}
  {text : String} {language : Option Language} {validated : Bool}

theorem grows_of_commit (h : HasTemporary before temporary t)
    (run : Runs (commit host checks temporary place text language validated) t () t') :
    before.Grows t' := by
  obtain ⟨filled, has, moved⟩ := write_of_commit h run
  exact (Files.Tree.SameFiles.of_entries has.peek?_remove).grows.trans (Tree.grows_of_write moved)

theorem grows_of_runs_write
    (run : Runs (write place text language validated checks host) t () t') : t.Grows t' := by
  obtain ⟨_, prepared, parents, run⟩ := runs_bind_iff.mp run
  refine ((makeDirectories_keepsFiles host _).runs parents).grows.trans ?_
  obtain ⟨temporary, middle, made, run⟩ := runs_bind_iff.mp run
  rcases runs_tryCatch_iff.mp run with run | ⟨fault, failed, -, run⟩
  · exact grows_of_commit (hasTemporary_of_makeTemporary made) run
  · obtain ⟨_, _, -, run⟩ := runs_bind_iff.mp run
    exact absurd run not_runs_throw

theorem grows_of_runs {manner : Manner}
    (run : Runs (writeGenerated manner place text language checks host) t () t') : t.Grows t' := by
  obtain ⟨found, _, look, allowed⟩ := runs_bind_iff.mp run
  obtain ⟨rfl, same⟩ := of_runs_look look
  obtain ⟨_, _, permit, written⟩ := runs_bind_iff.mp allowed
  obtain ⟨rfl, -⟩ := permits_of_runs_permit same permit
  split at written
  · exact grows_of_runs_write written
  · obtain ⟨_, checked, checks, made⟩ := runs_bind_iff.mp written
    obtain rfl := (congrArg Prod.snd checks : _ = checked)
    obtain ⟨_, prepared, parents, put⟩ := runs_bind_iff.mp made
    refine ((makeDirectories_keepsFiles host _).runs parents).grows.trans ?_
    obtain ⟨changed, moved, same⟩ := map_eq_ok.mp (runs_call put)
    cases same
    exact Tree.grows_of_write moved

end

/-! ## Jobs -/

/-- What is asked of the writer. -/
inductive Task where
  /-- To write a text. -/
  | text (manner : Manner) (text : String) (language : Option Language) (checks : Checks)
  /-- To generate, and to write what is generated. -/
  | generation (request : Request)

/-- A task, the path to write to, and the host as it is at that time. -/
structure Job where
  task : Task
  place : Place
  host : Host

namespace Job

/-- The text that a job has written, if it succeeds, and the tree that it leaves. -/
def perform (job : Job) (t : Tree) : Option String × Tree :=
  match job.task with
  | .text manner text language checks =>
    match writeGenerated manner job.place text language checks job.host t with
    | (.ok (), changed) => (some text, changed)
    | (.error _, changed) => (none, changed)
  | .generation request =>
    match generateInto request job.place t job.host with
    | ((.ok made, _), changed) => (some made.text, changed)
    | ((.error _, _), changed) => (none, changed)

/-- How a job writes, if its options say so. -/
def manner? (job : Job) : Option Manner :=
  match job.task with
  | .text manner _ _ _ => some manner
  | .generation request => (mannerOf request.options).toOption

variable {job : Job} {t : Tree} {text : String}

/-- A job that succeeds has called the writer, and says in which manner. -/
theorem runs_of_perform (h : (job.perform t).1 = some text) :
    ∃ manner language checks, job.manner? = some manner ∧
      Runs (writeGenerated manner job.place text language checks job.host) t ()
        (job.perform t).2 := by
  unfold perform at h ⊢
  split at h
  · rename_i manner written language checks task
    rw [manner?, task]
    rcases result : writeGenerated manner job.place written language checks job.host t with
      ⟨fault | ⟨⟩, t'⟩
    · rw [result] at h
      cases h
    · rw [result] at h
      cases h
      exact ⟨manner, language, checks, rfl, result⟩
  · rename_i request task
    rw [manner?, task]
    dsimp only
    split at h
    · rename_i made warnings t' result
      cases h
      obtain ⟨-, manner, manners, run⟩ := written_of_generateInto result
      exact ⟨manner, some request.language, .standard, by rw [manners]; rfl, run⟩
    · cases h

theorem gains_of_perform (h : (job.perform t).1 = some text) :
    t.Gains job.place (Text.Utf8.encode text) (job.perform t).2 := by
  obtain ⟨manner, language, checks, -, run⟩ := runs_of_perform h
  exact (writeGenerated_allOrNothing manner job.place text language checks job.host).written run

theorem sameFiles_of_perform (h : (job.perform t).1 = none) : t.SameFiles (job.perform t).2 := by
  unfold perform at h ⊢
  split at h
  · rename_i manner written language checks task
    have whole := writeGenerated_allOrNothing manner job.place written language checks job.host
    rcases result : writeGenerated manner job.place written language checks job.host t with
      ⟨fault | ⟨⟩, t'⟩
    · exact whole.unharmed result
    · rw [result] at h
      cases h
  · rename_i request task
    have whole := generateInto_allOrNothing request job.place t job.host
    split at h
    · cases h
    · rename_i fault warnings t' result
      rw [result] at whole
      exact whole

/-- A job that has written something says how, and its mode allowed it. -/
theorem permitted_of_perform (h : (job.perform t).1 = some text) :
    ∃ manner, job.manner? = some manner ∧ Permits t job.place manner.mode := by
  obtain ⟨manner, language, checks, manners, run⟩ := runs_of_perform h
  exact ⟨manner, manners, permits_of_runs run⟩

theorem grows (job : Job) (t : Tree) : t.Grows (job.perform t).2 := by
  cases result : (job.perform t).1 with
  | none => exact (sameFiles_of_perform result).grows
  | some text =>
    obtain ⟨manner, language, checks, -, run⟩ := runs_of_perform result
    exact grows_of_runs run

end Job

/-! ## Runs -/

/-- The tree after jobs, one after the other. -/
def runJobs (jobs : List Job) (t : Tree) : Tree :=
  jobs.foldl (fun t job => (job.perform t).2) t

/-- What every job preserves is preserved by all of them. -/
theorem runJobs_keeps {P : Tree → Prop} {jobs : List Job}
    (step : ∀ job ∈ jobs, ∀ t, P t → P (job.perform t).2) {t : Tree} (h : P t) :
    P (runJobs jobs t) := by
  induction jobs generalizing t with
  | nil => exact h
  | cons job jobs ih =>
    exact ih (fun job mem => step job (List.mem_cons_of_mem _ mem))
      (step job List.mem_cons_self t h)

end WireModel.Output
