import WireModel.Output.Writer
import WireModel.Proofs.Files.Trees
import WireModel.Proofs.Success

/-!
# Writes are all or nothing

A write that succeeds leaves a file of the text at its path. A write that fails, for whatever reason,
leaves every file as it was, and no temporary file. At most directories are new in either case.

* **`KeepsFiles`**: a part of a write that changes no file, whether it fails or not.
* **`AllOrNothing`**: what is proved of whole writes. A part that keeps files may come before
  (`AllOrNothing.after`).
* **`HasTemporary`**: between its making and its end a temporary file is the only difference.
* **`write_allOrNothing`**, **`writeGenerated_allOrNothing`**, **`generateInto_allOrNothing`**.
-/

namespace WireModel.Output

open Files (Call Host Place Tree)
open Files.Tree (SameFiles Gains)

/-! ## Parts of a write -/

section

variable {α β : Type}

/-- A part of a write changes nothing. -/
def Idle (act : Writing α) : Prop := ∀ t : Tree, (act t).2 = t

/-- A part of a write changes no file. -/
def KeepsFiles (act : Writing α) : Prop := ∀ t : Tree, t.SameFiles (act t).2

theorem Idle.keepsFiles {act : Writing α} (h : Idle act) : KeepsFiles act := by
  intro t
  rw [h t]
  exact .refl t

theorem KeepsFiles.runs {act : Writing α} (h : KeepsFiles act) {t t' : Tree} {a : α}
    (run : Runs act t a t') : t.SameFiles t' := by
  have kept := h t
  rw [run] at kept
  exact kept

theorem KeepsFiles.fails {act : Writing α} (h : KeepsFiles act) {t t' : Tree} {fault : Fault}
    (fails : Fails act t fault t') : t.SameFiles t' := by
  have kept := h t
  rw [fails] at kept
  exact kept

theorem keepsFiles_of {act : Writing α}
    (runs : ∀ t a t', Runs act t a t' → t.SameFiles t')
    (fails : ∀ t fault t', Fails act t fault t' → t.SameFiles t') : KeepsFiles act := by
  intro t
  rcases result : act t with ⟨fault | a, t'⟩
  · exact fails t fault t' result
  · exact runs t a t' result

theorem Idle.bind {act : Writing α} {next : α → Writing β} (h : Idle act) (h' : ∀ a, Idle (next a)) :
    Idle (act >>= next) := by
  intro t
  have split : (act >>= next) t = ExceptT.bindCont next (act t).1 (act t).2 := rfl
  rw [split, h t]
  cases (act t).1 with
  | error fault => rfl
  | ok a => exact h' a t

theorem KeepsFiles.bind {act : Writing α} {next : α → Writing β} (h : KeepsFiles act)
    (h' : ∀ a, KeepsFiles (next a)) : KeepsFiles (act >>= next) := by
  apply keepsFiles_of
  · intro t b t' run
    obtain ⟨a, middle, first, rest⟩ := runs_bind_iff.mp run
    exact (h.runs first).trans ((h' a).runs rest)
  · intro t fault t' fails
    rcases fails_bind_iff.mp fails with first | ⟨a, middle, first, rest⟩
    · exact h.fails first
    · exact (h.runs first).trans ((h' a).fails rest)

theorem KeepsFiles.tryCatch {act : Writing α} {handle : Fault → Writing α} (h : KeepsFiles act)
    (h' : ∀ fault, KeepsFiles (handle fault)) : KeepsFiles (tryCatch act handle) := by
  apply keepsFiles_of
  · intro t a t' run
    rcases runs_tryCatch_iff.mp run with first | ⟨fault, middle, first, rest⟩
    · exact h.runs first
    · exact (h.fails first).trans ((h' fault).runs rest)
  · intro t fault t' fails
    obtain ⟨fault', middle, first, rest⟩ := fails_tryCatch_iff.mp fails
    exact (h.fails first).trans ((h' fault').fails rest)

theorem idle_pure (a : α) : Idle (pure a : Writing α) := fun _ => rfl

theorem idle_throw (fault : Fault) : Idle (throw fault : Writing α) := fun _ => rfl

theorem idle_get : Idle (get : Writing Tree) := fun _ => rfl

/-! ## Calls -/

variable {host : Host} {call : Call} {act : Tree → Except Files.Fault (α × Tree)}

theorem runs_call {t t' : Tree} {a : α} (h : Runs (Writing.call host call act) t a t') :
    act t = .ok (a, t') := by
  unfold Runs Writing.call at h
  split at h
  · cases h
  · split at h
    · rename_i found
      cases h
      exact found
    · cases h

/-- A call that is refused or fails changes nothing. -/
theorem fails_call {t t' : Tree} {fault : Fault}
    (h : Fails (Writing.call host call act) t fault t') : t' = t := by
  unfold Fails Writing.call at h
  split at h
  · cases h
    rfl
  · split at h
    · cases h
    · cases h
      rfl

theorem keepsFiles_call (h : ∀ t a t', act t = .ok (a, t') → t.SameFiles t') :
    KeepsFiles (Writing.call host call act) := by
  apply keepsFiles_of
  · intro t a t' run
    exact h t a t' (runs_call run)
  · intro t fault t' fails
    rw [fails_call fails]
    exact .refl t

end

theorem idle_look (host : Host) (place : Place) : Idle (Writing.look host place) := by
  intro t
  unfold Writing.look Writing.call
  cases host.refuses t (.look place) with
  | some refusal => rfl
  | none =>
    dsimp only
    split
    · rename_i found
      split at found <;> cases found <;> rfl
    · rfl

theorem idle_validateIf (checks : Checks) (asked : Bool) (language : Option Language)
    (text : String) : Idle (checks.validateIf asked language text) :=
  fun _ => rfl

theorem idle_permit (host : Host) (mode : Options.Mode) (place : Place) (taken : Bool) :
    Idle (permit host mode place taken) := by
  unfold permit
  split
  · exact idle_pure _
  · exact idle_throw _
  · refine (idle_get.bind fun t => idle_pure _).bind fun generated => ?_
    cases generated
    · exact idle_throw _
    · exact idle_pure _
  · exact idle_pure _
  · exact idle_pure _

/-! ## Directories -/

theorem makeDirectory_keepsFiles (host : Host) (backwards : List String) :
    KeepsFiles (makeDirectory host backwards) := by
  apply keepsFiles_call
  intro t a t' made
  obtain ⟨changed, made, same⟩ := map_eq_ok.mp made
  cases same
  exact Tree.sameFiles_of_makeDirectory made

theorem acceptDirectory_keepsFiles (host : Host) (backwards : List String) (fault : Fault) :
    KeepsFiles (acceptDirectory host backwards fault) := by
  apply Idle.keepsFiles
  refine (idle_look host _).bind fun found => ?_
  split
  · exact idle_pure _
  · exact idle_throw _

/-- By induction on the path: directories are made from the first missing one on. -/
theorem makeDirectories_keepsFiles (host : Host) (backwards : List String) :
    KeepsFiles (makeDirectories host backwards) := by
  induction backwards with
  | nil =>
    exact (makeDirectory_keepsFiles host _).tryCatch (acceptDirectory_keepsFiles host _)
  | cons name above ih =>
    refine (makeDirectory_keepsFiles host _).tryCatch fun fault => ?_
    split
    · exact ih.bind fun _ =>
        (makeDirectory_keepsFiles host _).tryCatch (acceptDirectory_keepsFiles host _)
    · exact acceptDirectory_keepsFiles host _ _

/-! ## Whole writes -/

/-- A write leaves a file of the text at the path, or all files as they were. -/
structure AllOrNothing (place : Place) (text : String) (act : Writing Unit) : Prop where
  written : ∀ {t t'}, Runs act t () t' → t.Gains place (Text.Utf8.encode text) t'
  unharmed : ∀ {t fault t'}, Fails act t fault t' → t.SameFiles t'

section

variable {α : Type} {place : Place} {text : String}

theorem AllOrNothing.after {act : Writing α} {next : α → Writing Unit} (first : KeepsFiles act)
    (rest : ∀ a, AllOrNothing place text (next a)) : AllOrNothing place text (act >>= next) where
  written run := by
    obtain ⟨a, middle, begun, ended⟩ := runs_bind_iff.mp run
    exact (first.runs begun).gains ((rest a).written ended)
  unharmed fails := by
    rcases fails_bind_iff.mp fails with begun | ⟨a, middle, begun, ended⟩
    · exact first.fails begun
    · exact (first.runs begun).trans ((rest a).unharmed ended)

theorem putText_allOrNothing (host : Host) (place : Place) (text : String) :
    AllOrNothing place text (putText host place text) where
  written run := by
    obtain ⟨changed, made, same⟩ := map_eq_ok.mp (runs_call run)
    cases same
    exact Tree.gains_of_write made
  unharmed fails := by
    rw [fails_call fails]
    exact .refl _

end

/-! ## Temporary files -/

/-- A temporary file is the only difference between two trees. -/
structure HasTemporary (before : Tree) (temporary : Place) (after : Tree) : Prop where
  inner : temporary ≠ []
  fresh : before.peek? temporary = none
  there : ∃ content, after.peek? temporary = some (.file content)
  others : ∀ place ≠ temporary, after.peek? place = before.peek? place

section

variable {host : Host} {checks : Checks} {before t t' : Tree} {temporary place : Place}
  {text : String} {language : Option Language} {validated : Bool} {fault : Fault}

/-- Without its temporary file a tree is as it was. -/
theorem HasTemporary.peek?_remove (h : HasTemporary before temporary t) (other : Place) :
    (t.remove temporary).peek? other = before.peek? other := by
  obtain ⟨content, there⟩ := h.there
  have leaf : t.peek? temporary ≠ some .directory := by
    rw [there]
    nofun
  obtain ⟨gone, others⟩ := Tree.peek?_remove_leaf h.inner leaf
  by_cases same : other = temporary
  · rw [same, gone, h.fresh]
  · rw [others other same, h.others other same]

theorem HasTemporary.put (h : HasTemporary before temporary t) (content : List UInt8) :
    HasTemporary before temporary (Tree.put (.file content) t temporary) := by
  obtain ⟨old, there⟩ := h.there
  obtain ⟨new, others⟩ := Tree.peek?_put_file content h.inner there
  exact ⟨h.inner, h.fresh, ⟨content, new⟩,
    fun place other => (others place other).trans (h.others place other)⟩

/-- By induction on the attempts: names that are taken are passed over. -/
theorem hasTemporary_of_makeTemporary {attempts : Nat}
    (run : Runs (makeTemporary host place attempts) t temporary t') :
    HasTemporary t temporary t' := by
  induction attempts with
  | zero => exact absurd run not_runs_throw
  | succ attempts ih =>
    obtain ⟨_, _, got, run⟩ := runs_bind_iff.mp run
    obtain ⟨rfl, rfl⟩ := runs_get_iff.mp got
    rcases runs_tryCatch_iff.mp run with made | ⟨taken, middle, failed, run⟩
    · obtain ⟨inner, fresh, there, others⟩ := Tree.of_create (runs_call made)
      exact ⟨inner, fresh, ⟨_, there⟩, others⟩
    · rw [fails_call failed] at run
      split at run
      · exact ih run
      · exact absurd run not_runs_throw

theorem eq_of_makeTemporary_fails {attempts : Nat}
    (fails : Fails (makeTemporary host place attempts) t fault t') : t' = t := by
  induction attempts with
  | zero => exact (fails_throw_iff.mp fails).2.symm
  | succ attempts ih =>
    rcases fails_bind_iff.mp fails with got | ⟨_, _, got, fails⟩
    · cases got
    obtain ⟨rfl, rfl⟩ := runs_get_iff.mp got
    obtain ⟨taken, middle, failed, fails⟩ := fails_tryCatch_iff.mp fails
    rw [fails_call failed] at fails
    split at fails
    · exact ih fails
    · exact (fails_throw_iff.mp fails).2.symm

theorem hasTemporary_of_fill (h : HasTemporary before temporary t)
    (run : Runs (fill host temporary text) t () t') :
    HasTemporary before temporary t' ∧
      t'.peek? temporary = some (.file (Text.Utf8.encode text)) := by
  obtain ⟨old, there⟩ := h.there
  unfold Runs fill at run
  split at run
  · cases run
  · cases run
    exact ⟨h.put _, (Tree.peek?_put_file _ h.inner there).1⟩

theorem hasTemporary_of_fill_fails (h : HasTemporary before temporary t)
    (fails : Fails (fill host temporary text) t fault t') : HasTemporary before temporary t' := by
  unfold Fails fill at fails
  split at fails
  · cases fails
    exact h.put _
  · cases fails

/-- A temporary file is complete when it takes the place of a file. -/
theorem write_of_commit (h : HasTemporary before temporary t)
    (run : Runs (commit host checks temporary place text language validated) t () t') :
    ∃ filled, HasTemporary before temporary filled ∧
      (filled.remove temporary).write place (Text.Utf8.encode text) = .ok t' := by
  obtain ⟨_, filled, fills, run⟩ := runs_bind_iff.mp run
  obtain ⟨has, complete⟩ := hasTemporary_of_fill h fills
  obtain ⟨_, checked, checks, run⟩ := runs_bind_iff.mp run
  obtain rfl : filled = checked := congrArg Prod.snd checks
  obtain ⟨changed, moved, same⟩ := map_eq_ok.mp (runs_call run)
  cases same
  rw [Tree.replace, Tree.peek?_eq_file.mp complete] at moved
  exact ⟨filled, has, moved⟩

theorem commit_written (h : HasTemporary before temporary t)
    (run : Runs (commit host checks temporary place text language validated) t () t') :
    before.Gains place (Text.Utf8.encode text) t' := by
  obtain ⟨filled, has, moved⟩ := write_of_commit h run
  -- without its temporary file the tree is as before it was made
  obtain ⟨here, leads, there, others⟩ := Tree.of_write moved
  refine ⟨here, leads, there, fun other ne => .inl ?_⟩
  rw [others other ne, has.peek?_remove]

theorem commit_unharmed (h : HasTemporary before temporary t)
    (fails : Fails (commit host checks temporary place text language validated) t fault t') :
    HasTemporary before temporary t' := by
  rcases fails_bind_iff.mp fails with fails | ⟨_, filled, fills, fails⟩
  · exact hasTemporary_of_fill_fails h fails
  obtain ⟨has, -⟩ := hasTemporary_of_fill h fills
  rcases fails_bind_iff.mp fails with fails | ⟨_, checked, checks, fails⟩
  · obtain rfl : filled = t' := congrArg Prod.snd fails
    exact has
  · obtain rfl : filled = checked := congrArg Prod.snd checks
    rw [fails_call fails]
    exact has

end

/-! ## Writing -/

/-- **Writes are all or nothing.** Whatever fails after a temporary file is made, the file is taken
away again. -/
theorem write_allOrNothing (place : Place) (text : String) (language : Option Language)
    (validated : Bool) (checks : Checks) (host : Host) :
    AllOrNothing place text (write place text language validated checks host) := by
  refine .after (makeDirectories_keepsFiles host _) fun _ => ⟨fun run => ?_, fun fails => ?_⟩
  · obtain ⟨temporary, middle, made, run⟩ := runs_bind_iff.mp run
    have has := hasTemporary_of_makeTemporary made
    rcases runs_tryCatch_iff.mp run with run | ⟨fault, failed, -, run⟩
    · exact commit_written has run
    · -- the handler ends in the fault that it was called for
      obtain ⟨_, _, -, run⟩ := runs_bind_iff.mp run
      exact absurd run not_runs_throw
  · rcases fails_bind_iff.mp fails with fails | ⟨temporary, middle, made, fails⟩
    · rw [eq_of_makeTemporary_fails fails]
      exact .refl _
    · have has := hasTemporary_of_makeTemporary made
      obtain ⟨fault, failed, fails, handled⟩ := fails_tryCatch_iff.mp fails
      have has := commit_unharmed has fails
      rcases fails_bind_iff.mp handled with never | ⟨_, clean, cleaned, thrown⟩
      · cases never
      · obtain ⟨-, rfl⟩ := fails_throw_iff.mp thrown
        rw [← runs_modify_iff.mp cleaned]
        exact .of_entries has.peek?_remove

theorem writeGenerated_allOrNothing (manner : Manner) (place : Place) (text : String)
    (language : Option Language) (checks : Checks) (host : Host) :
    AllOrNothing place text (writeGenerated manner place text language checks host) := by
  have written : AllOrNothing place text
      (if manner.atomic then write place text language manner.validated checks host
      else do
        checks.validateIf manner.validated language text
        makeParent host place
        putText host place text) := by
    split
    · exact write_allOrNothing place text language manner.validated checks host
    · exact .after (idle_validateIf checks _ language text).keepsFiles fun _ =>
        .after (makeDirectories_keepsFiles host _) fun _ => putText_allOrNothing host place text
  exact .after (idle_look host place).keepsFiles fun found =>
    .after (idle_permit host _ place _).keepsFiles fun _ => written

/-- A generation into a file succeeds with the file of its text, or changes no file. -/
theorem generateInto_allOrNothing (request : Request) (place : Place) (t : Tree) (host : Host) :
    match generateInto request place t host with
    | ((.ok made, _), after) =>
      (Generation.run request).outcome.1 = .ok made ∧
        t.Gains place (Text.Utf8.encode made.text) after
    | ((.error _, _), after) => t.SameFiles after := by
  unfold generateInto
  dsimp only
  cases result : (Generation.run request).outcome.1 with
  | error fault => exact .refl t
  | ok made =>
    dsimp only
    cases mannerOf request.options with
    | error misuse => exact .refl t
    | ok manner =>
      dsimp only
      have whole := writeGenerated_allOrNothing manner place made.text (some request.language)
        .standard host
      rcases written : (writeGenerated manner place made.text (some request.language) .standard
        host).run t with ⟨fault | ⟨⟩, after⟩
      · exact whole.unharmed written
      · exact ⟨rfl, whole.written written⟩

end WireModel.Output
