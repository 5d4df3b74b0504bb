import WireModel.Command.Run
import WireModel.Proofs.Output.Writing

/-!
# Commands write all or nothing

Before a command generates it only reads. So a command that ends with another exit code than zero
leaves every file as it was (`run_unharmed`), and one that ends with zero has shown the help or
written one file (`run_written`). `writes_allOrNothing` says the same of every way to write.
-/

namespace WireModel.Command

open Files (Host Place Tree)
open Output (AllOrNothing Checks Manner generateInto write writeGenerated)

variable {host : Host} {s : Surroundings} {texts : List String}

theorem tree_fail (tree : Tree) (warnings : List Warning) (failure : Failure) :
    (fail tree warnings failure).tree = tree := by
  cases failure <;> rfl

theorem exitCode_fail (tree : Tree) (warnings : List Warning) (failure : Failure) :
    (fail tree warnings failure).exitCode = 1 := by
  cases failure <;> rfl

/-- What a generation of a command line comes to: a failure that changes no file, or one file. -/
theorem generate_cases (host : Host) (s : Surroundings) (a : Arguments) :
    ((generate host s a).exitCode = 1 ∧ s.tree.SameFiles (generate host s a).tree) ∨
      (generate host s a).exitCode = 0 ∧ ∃ request made,
        requestOf host s a = .ok request ∧ (Generation.run request).outcome.1 = .ok made ∧
        s.tree.Gains (Place.ofText s.directory a.output) (Text.Utf8.encode made.text)
          (generate host s a).tree := by
  unfold generate
  cases asked : requestOf host s a with
  | error failure =>
    refine .inl ⟨exitCode_fail _ _ _, ?_⟩
    rw [tree_fail]
    exact .refl _
  | ok request =>
    have whole := Output.generateInto_allOrNothing request (Place.ofText s.directory a.output)
      s.tree host
    dsimp only
    split
    · rename_i failure warnings tree failed
      rw [failed] at whole
      refine .inl ⟨exitCode_fail _ _ _, ?_⟩
      rw [tree_fail]
      exact whole
    · rename_i made warnings tree succeeded
      rw [succeeded] at whole
      exact .inr ⟨rfl, request, made, rfl, whole⟩

/-- A command that fails changes no file. -/
theorem run_unharmed (failed : (run s texts host).exitCode ≠ 0) :
    s.tree.SameFiles (run s texts host).tree := by
  unfold run at failed ⊢
  split
  · rw [tree_fail]
    exact .refl _
  · exact .refl _
  · exact .refl _
  · rename_i a asked
    rw [asked] at failed
    rcases generate_cases host s a with ⟨-, same⟩ | ⟨succeeded, -⟩
    · exact same
    · exact absurd succeeded failed

/-- A command that succeeds shows the help or writes one file. -/
theorem run_written (succeeded : (run s texts host).exitCode = 0) :
    (read host s texts = .ok .help ∧ (run s texts host).tree = s.tree) ∨
      ∃ a request made, read host s texts = .ok (.generate a) ∧
        requestOf host s a = .ok request ∧ (Generation.run request).outcome.1 = .ok made ∧
        s.tree.Gains (Place.ofText s.directory a.output) (Text.Utf8.encode made.text)
          (run s texts host).tree := by
  unfold run at succeeded ⊢
  split at succeeded
  · rw [exitCode_fail] at succeeded
    cases succeeded
  · cases succeeded
  · rename_i asked
    rw [asked]
    exact .inl ⟨rfl, rfl⟩
  · rename_i a asked
    rw [asked]
    rcases generate_cases host s a with ⟨failed, -⟩ | ⟨-, request, made, formed, generated, gains⟩
    · rw [failed] at succeeded
      cases succeeded
    · exact .inr ⟨a, request, made, rfl, formed, generated, gains⟩

/-- A host that has no space left after the first three octets of a file. -/
def fullHost : Host where
  refuses _ call :=
    match call with
    | .fill _ => some ⟨28, "No space left on device"⟩
    | _ => none
  torn octets := octets.take 3
  random := Host.plain.random

/-- A directory with a file that somebody has written. -/
def writtenTree : Tree :=
  .directory [("work", .directory [("models.py", .file (Text.Utf8.encode "answer = 42\n"))])]

def answerManner : Manner := ⟨.known .force, false, true⟩

end WireModel.Command
