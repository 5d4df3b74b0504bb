import WireModel.Proofs.Output.Jobs
import WireModel.Proofs.Output.Marker

/-!
# What survives of files written by hand

The modes `error` and `regenerate` look at a path before anything is made for it. A path that leads
nowhere, but only for want of a directory before a `..`, leads to a file that is already there once
the directory is made, and the file is overwritten.

* **`Job.Detours`**: a job writes a file by such a path.
* **`Job.keeps_iff`**: a job that has to spare a file leaves it as it is exactly if it does not.
* **`runJobs_keeps_iff`**: the same of many jobs, one after the other.
* **`Job.not_detours`**: no path without `..` is such a path.
-/

namespace WireModel.Output

open Files (Host Place Tree)
open Text.Utf8 (encode)

namespace Job

variable {job : Job} {t : Tree} {here : Place} {content : List UInt8}

/-! ## One job -/

/-- A job whose mode allows no file to be overwritten. -/
def Strict (job : Job) : Prop := ∀ manner, job.manner? = some manner → manner.mode = .known .error

/-- A job whose mode allows generated files to be overwritten at most. -/
def Cautious (job : Job) : Prop :=
  ∀ manner, job.manner? = some manner →
    manner.mode = .known .error ∨ manner.mode = .known .regenerate

/-- A job whose mode does not allow a file of this content to be overwritten. -/
def Spares (job : Job) (content : List UInt8) : Prop :=
  ∀ manner, job.manner? = some manner →
    manner.mode = .known .error ∨ manner.mode = .known .regenerate ∧ bearsMarker content = false

theorem Strict.spares (h : job.Strict) (content : List UInt8) : job.Spares content :=
  fun manner manners => .inl (h manner manners)

theorem Cautious.spares (h : job.Cautious) (unmarked : bearsMarker content = false) :
    job.Spares content :=
  fun manner manners => (h manner manners).imp_right fun mode => ⟨mode, unmarked⟩

/-- A job writes other content into a file by a path that led nowhere before. -/
structure Detours (job : Job) (t : Tree) (here : Place) (content : List UInt8) : Prop where
  written : ∃ text, (job.perform t).1 = some text ∧ encode text ≠ content
  nowhere : t.hasPlace job.place = false
  meets : job.place.simplify = here

/-- Paths without `..` lead to the file that they meet. -/
theorem not_detours (forth : ".." ∉ job.place) (there : t.peek? here = some (.file content)) :
    ¬job.Detours t here content := by
  rintro ⟨⟨text, written, -⟩, nowhere, meets⟩
  rw [Place.simplify_of_not_mem forth] at meets
  obtain ⟨_, leads, -, -⟩ := gains_of_perform written
  obtain ⟨clean, followed⟩ := Tree.resolveFrom_of_resolve leads
  -- no step of the path leads back, so it leads to the file already before the job
  have found : t.resolve job.place = .ok job.place := by
    rw [Tree.resolve, clean, if_neg Bool.false_ne_true]
    refine Tree.resolveFrom_of_peek? forth followed ?_
    rw [List.nil_append, meets, there]
    exact fun same => by cases same
  have leads : t.hasPlace job.place = true :=
    Tree.hasPlace_iff.mpr ⟨_, Tree.find_eq_ok.mpr ⟨_, found, by
      rw [meets]
      exact Tree.peek?_eq_file.mp there⟩⟩
  rw [nowhere] at leads
  cases leads

/-- Where a path leads to a file that has to be spared, the mode forbids to write to it. -/
theorem nowhere_of_permits {manner : Manner} (manners : job.manner? = some manner)
    (spares : job.Spares content) (there : t.peek? job.place.simplify = some (.file content))
    (permitted : Permits t job.place manner.mode) : t.hasPlace job.place = false := by
  rcases permitted with nowhere | allowed
  · exact nowhere
  by_contra leads
  rw [Bool.not_eq_false] at leads
  rcases spares manner manners with mode | ⟨mode, unmarked⟩
  · rw [mode] at allowed
    exact allowed
  · rw [mode] at allowed
    have generated : isGenerated t job.place = true := allowed
    rw [isGenerated, Tree.read_of_hasPlace leads there] at generated
    rw [bearsMarker_of_carriesMarker generated] at unmarked
    cases unmarked

/-- **A file that has to be spared** is left as it is, but for a detour. -/
theorem keeps_iff (spares : job.Spares content) (there : t.peek? here = some (.file content)) :
    (job.perform t).2.peek? here = some (.file content) ↔ ¬job.Detours t here content := by
  constructor
  · rintro kept ⟨⟨text, written, other⟩, -, meets⟩
    obtain ⟨target, leads, new, -⟩ := gains_of_perform written
    rw [Tree.eq_simplify_of_resolve leads, meets, kept] at new
    cases new
    exact other rfl
  · intro direct
    cases result : (job.perform t).1 with
    | none => exact (there ▸ sameFiles_of_perform result here).of_some
    | some text =>
      -- only the file that is written can change, and its mode let it pass as a path to nowhere
      obtain ⟨target, leads, new, others⟩ := gains_of_perform result
      by_cases hit : here = target
      · subst hit
        by_contra changed
        have meets := (Tree.eq_simplify_of_resolve leads).symm
        obtain ⟨manner, manners, permitted⟩ := permitted_of_perform result
        refine direct ⟨⟨text, result, fun same => changed (same ▸ new)⟩, ?_, meets⟩
        exact nowhere_of_permits manners spares (meets ▸ there) permitted
      · exact (there ▸ others here hit).of_some

end Job

/-! ## Many jobs -/

/-- **A file that many jobs have to spare** is as it was after each of them, but for a detour. -/
theorem runJobs_keeps_iff {jobs : List Job} {here : Place} {content : List UInt8}
    (spare : ∀ job ∈ jobs, job.Spares content) {t : Tree}
    (there : t.peek? here = some (.file content)) :
    (∀ before, before <+: jobs → (runJobs before t).peek? here = some (.file content)) ↔
      ∀ before job after, jobs = before ++ job :: after →
        ¬job.Detours (runJobs before t) here content := by
  induction jobs generalizing t with
  | nil =>
    refine ⟨fun _ before job after split => ?_, fun _ before start => ?_⟩
    · cases before <;> cases split
    · rw [List.prefix_nil.mp start]
      exact there
  | cons job jobs ih =>
    -- the first job by itself, and the others from the tree that it leaves
    have first := Job.keeps_iff (spare job List.mem_cons_self) there
    have rest := @ih (fun job mem => spare job (List.mem_cons_of_mem _ mem)) (job.perform t).2
    constructor
    · intro kept before next after split
      have begun := kept [job] ⟨jobs, rfl⟩
      cases before with
      | nil =>
        obtain ⟨rfl, -⟩ := List.cons.inj split
        exact first.mp begun
      | cons _ before =>
        obtain ⟨rfl, later⟩ := List.cons.inj split
        refine (rest begun).mp (fun before start => ?_) before next after later
        exact kept (job :: before) (List.cons_prefix_cons.mpr ⟨rfl, start⟩)
    · intro direct before start
      have begun := first.mpr (direct [] job jobs rfl)
      cases before with
      | nil => exact there
      | cons first before =>
        obtain ⟨same, later⟩ := List.cons_prefix_cons.mp start
        rw [same]
        refine (rest begun).mpr (fun before next after split => ?_) before later
        exact direct (job :: before) next after (congrArg (job :: ·) split)

theorem runJobs_keeps_file {jobs : List Job} {here : Place} {content : List UInt8}
    (spare : ∀ job ∈ jobs, job.Spares content) (forth : ∀ job ∈ jobs, ".." ∉ job.place) {t : Tree}
    (there : t.peek? here = some (.file content)) :
    (runJobs jobs t).peek? here = some (.file content) := by
  induction jobs generalizing t with
  | nil => exact there
  | cons job jobs ih =>
    refine ih (fun job mem => spare job (List.mem_cons_of_mem _ mem))
      (fun job mem => forth job (List.mem_cons_of_mem _ mem)) ?_
    exact (Job.keeps_iff (spare job List.mem_cons_self) there).mpr
      (Job.not_detours (forth job List.mem_cons_self) there)

/-- **Files written by hand survive, but for detours.** On any file tree, whatever is written or
generated to whatever paths and whatever the hosts refuse: a file without the marker in its first
lines is as it was after each of any number of jobs in the modes `error` and `regenerate`, exactly
unless one of them writes other content into it by a path that leads nowhere at that time; a job in
the mode `error` leaves any file as it was, exactly unless it does so. No path without `..` does. -/
theorem handwritten_survives_iff {t : Tree} {here : Place} {content : List UInt8}
    (there : t.peek? here = some (.file content)) :
    (bearsMarker content = false → ∀ jobs : List Job, (∀ job ∈ jobs, job.Cautious) →
      ((∀ before, before <+: jobs → (runJobs before t).peek? here = some (.file content)) ↔
        ∀ before job after, jobs = before ++ job :: after →
          ¬job.Detours (runJobs before t) here content) ∧
      ((∀ job ∈ jobs, ".." ∉ job.place) →
        (runJobs jobs t).peek? here = some (.file content))) ∧
    ∀ job : Job, job.Strict →
      ((job.perform t).2.peek? here = some (.file content) ↔ ¬job.Detours t here content) ∧
      (".." ∉ job.place → (job.perform t).2.peek? here = some (.file content)) := by
  refine ⟨fun unmarked jobs cautious => ?_, fun job strict => ?_⟩
  · have spare : ∀ job ∈ jobs, job.Spares content :=
      fun job mem => (cautious job mem).spares unmarked
    exact ⟨runJobs_keeps_iff spare there, fun forth => runJobs_keeps_file spare forth there⟩
  · have one := Job.keeps_iff (strict.spares content) there
    exact ⟨one, fun forth => one.mpr (Job.not_detours forth there)⟩

/-! ## A detour -/

/-- A directory with a file that somebody has written. -/
def answerTree : Tree := .directory [("models.py", .file (encode "answer = 42\n"))]

/-- Writes another answer in the mode `error`. -/
def answerJob (place : Place) : Job :=
  ⟨.text ⟨.known .error, false, true⟩ "answer = 43\n" (some .python) .standard, place, .plain⟩

theorem answerJob_strict (place : Place) : (answerJob place).Strict := by
  rintro manner ⟨⟩
  rfl

theorem answerJob_cautious (place : Place) : (answerJob place).Cautious :=
  fun manner manners => .inl (answerJob_strict place manner manners)

theorem answer_there : answerTree.peek? ["models.py"] = some (.file (encode "answer = 42\n")) := rfl

theorem answer_unmarked : bearsMarker (encode "answer = 42\n") = false := by
  rw [Text.Utf8.encode_eq]
  decide +kernel

/-- An answer that is written to its own path and beside it is not overwritten. -/
theorem answer_survives :
    answerTree.peek? ["models.py"] = some (.file (encode "answer = 42\n")) ∧
      bearsMarker (encode "answer = 42\n") = false ∧
      (∀ job ∈ [answerJob ["models.py"], answerJob ["build", "models.py"]],
        job.Cautious ∧ job.Strict ∧ ".." ∉ job.place) ∧
      (runJobs [answerJob ["models.py"], answerJob ["build", "models.py"]] answerTree).peek?
        ["models.py"] = some (.file (encode "answer = 42\n")) ∧
      ((answerJob ["models.py"]).perform answerTree).2.peek? ["models.py"] =
        some (.file (encode "answer = 42\n")) := by
  obtain ⟨many, one⟩ := handwritten_survives_iff answer_there
  have jobs : ∀ job ∈ [answerJob ["models.py"], answerJob ["build", "models.py"]],
      job.Cautious ∧ job.Strict ∧ ".." ∉ job.place := by
    intro job mem
    rcases List.mem_pair.mp mem with rfl | rfl
    · exact ⟨answerJob_cautious _, answerJob_strict _, by decide⟩
    · exact ⟨answerJob_cautious _, answerJob_strict _, by decide⟩
  refine ⟨answer_there, answer_unmarked, jobs, ?_, ?_⟩
  · exact (many answer_unmarked _ fun job mem => (jobs job mem).1).2
      fun job mem => (jobs job mem).2.2
  · exact (one _ (answerJob_strict _)).2 (by decide)

/-- The directory `build` is made, and behind it the path leads back to the answer. -/
theorem answer_is_lost :
    (answerJob ["build", "..", "models.py"]).Strict ∧
      (answerJob ["build", "..", "models.py"]).Cautious ∧
      answerTree.peek? ["models.py"] = some (.file (encode "answer = 42\n")) ∧
      bearsMarker (encode "answer = 42\n") = false ∧
      ((answerJob ["build", "..", "models.py"]).perform answerTree).2.peek? ["models.py"] =
        some (.file (encode "answer = 43\n")) ∧
      encode "answer = 42\n" ≠ encode "answer = 43\n" := by
  refine ⟨answerJob_strict _, answerJob_cautious _, answer_there, answer_unmarked, rfl, ?_⟩
  rw [Text.Utf8.encode_eq, Text.Utf8.encode_eq]
  decide

end WireModel.Output
