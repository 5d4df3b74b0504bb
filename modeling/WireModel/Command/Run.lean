import WireModel.Command.Recorded
import WireModel.Output.Writer

/-!
# Running a command

A command line reads a schema file, and a configuration file if it names one, and writes the
generated text. The outcome is what it prints, its exit code and the changed file tree.
-/

namespace WireModel.Command

open Files (Host Place Tree)

/-- Why a command fails after its arguments are read. -/
inductive Failure where
  /-- The message is for the user. -/
  | reported (message : String)
  /-- Something that is not expected to happen. -/
  | unexpected (message : String)

/-- What a command leaves behind. -/
structure Outcome where
  exitCode : Nat
  output : String
  /-- What went wrong, if it was not expected. -/
  unexpected : Option String
  warnings : List Warning
  tree : Tree

/-! ## Texts -/

/-- How the command is used. -/
def usage : String := "Usage: " ++ Generation.programName ++ " [OPTIONS] PATH OUTPUT\n"

/-- What is printed if the words of a command line say nothing. -/
def usageError (fault : Fault) : String :=
  (if fault.isOfForm then ""
    else usage ++ "Try '" ++ Generation.programName ++ " --help' for help.\n\n") ++
    "Error: " ++ fault.message ++ "\n"

def help : String :=
  usage ++ "\n  Generate typed models and their codecs from the schema at PATH into OUTPUT.\n" ++
    "\nOptions:\n" ++
    "  -n, --name TEXT           Name of the root model for plain JSON Schema\n" ++
    "                            documents\n" ++
    "  -c, --config PATH         JSON or YAML configuration file\n" ++
    "  -f, --format [python|ir]  Output format\n" ++
    "  --force                   Overwrite the output file even if it was not\n" ++
    "                            generated\n" ++
    "  -v, --verbose             Log pipeline progress\n" ++
    "  --help                    Show this message and exit.\n"

/-! ## Configuration -/

section

variable (host : Host)

/-- The content of a file. -/
def contentOf (s : Surroundings) (path : String) : Except Failure (List UInt8) :=
  let place := Place.ofText s.directory path
  match host.refuses s.tree (.read place) with
  | some refusal => .error (.unexpected refusal.message)
  | none => (s.tree.read place).mapError fun fault => .unexpected fault.message

/-- The text of a file. -/
def textOf (s : Surroundings) (path : String) : Except Failure String := do
  let content ← contentOf host s path
  (Text.Utf8.decode content).mapError fun malformed => .unexpected malformed.message

/-- The options of a configuration file. A document that says nothing has no options. -/
def readConfig (s : Surroundings) (path : String) : Except Failure Options := do
  let text ← textOf host s path
  match Yaml.read text with
  | .error .malformed => throw (.reported ("Cannot parse " ++ path ++ ":"))
  | .error fault => throw (.unexpected (Document.yamlCause fault).message)
  | .ok v =>
    match if v.isTruthy then v else .map [] with
    | .map entries =>
      match Options.ofEntries entries with
      | .ok options => return options
      | .error fault =>
        throw (if fault.isOfValue then .reported ("Invalid configuration: " ++ fault.message)
          else .unexpected fault.message)
    | _ => throw (.reported ("Configuration file " ++ path ++ " must contain an object"))

/-- The options of a command line: those of its configuration file, and the output mode that it
forces. -/
def optionsOf (s : Surroundings) (a : Arguments) : Except Failure Options := do
  let options ←
    match a.config with
    | some path => readConfig host s path
    | none => pure {}
  if a.force then
    match Options.demand "output" options.output with
    | .ok (.settings output) =>
      return { options with output := some (.settings { output with mode := .known .force }) }
    | .ok (.other v) => throw (.unexpected (Options.Misuse.noMember v.kindName "mode").message)
    | .error misuse => throw (.unexpected misuse.message)
  else return options

/-! ## Generation -/

/-- How a fault of a stage is told. Documents and configurations are the business of the user. -/
def reportGeneration : Generation.Fault → Failure
  | .table (.options misuse) => .unexpected misuse.message
  | .schema fault =>
    if fault.cause.isUnplaced then .unexpected fault.message else .reported fault.message
  | .types fault => .reported fault.message
  | .table fault => .reported fault.message
  | .contract fault => .unexpected fault.message
  | .emission fault => .unexpected fault.message

/-- How a fault of a generation into a file is told. -/
def report : Output.Failure → Failure
  | .generation fault => reportGeneration fault
  | .options misuse => .unexpected misuse.message
  | .writing (.system fault) => .unexpected fault.message
  | .writing (.refused refusal) => .unexpected refusal.message
  | .writing .nullCharacter => .unexpected Output.Fault.nullCharacter.message
  | .writing (.overlong digits) => .unexpected (Output.Fault.overlong digits).message
  | .writing fault => .reported fault.message

/-- The generation that a command line asks for. -/
def requestOf (s : Surroundings) (a : Arguments) : Except Failure Request := do
  let options ← optionsOf host s a
  let content ← contentOf host s a.schema
  let source : Source :=
    ⟨.octets content, (Place.ofText s.directory a.schema).name, a.name⟩
  let commandLine ← (recorded s a.values).mapError fun fault => .unexpected fault.message
  return ⟨source, options, a.language, some commandLine⟩

/-- The outcome of a failure. -/
def fail (tree : Tree) (warnings : List Warning) : Failure → Outcome
  | .reported message => ⟨1, "Error: " ++ message ++ "\n", none, warnings, tree⟩
  | .unexpected message => ⟨1, "", some message, warnings, tree⟩

/-- Generates what the arguments ask for. -/
def generate (s : Surroundings) (a : Arguments) : Outcome :=
  match requestOf host s a with
  | .error failure => fail s.tree [] failure
  | .ok request =>
    match Output.generateInto request (Place.ofText s.directory a.output) s.tree host with
    | ((.error failure, warnings), tree) => fail tree warnings (report failure)
    | ((.ok made, warnings), tree) =>
      ⟨0, "Generated " ++ Decimal.ofNat made.table.models.length ++ " models into " ++ a.output ++
        "\n", none, warnings, tree⟩

end

/-- Runs a command line. -/
def run (s : Surroundings) (texts : List String) (host : Host := .plain) : Outcome :=
  match read host s texts with
  | .error .nullCharacter => fail s.tree [] (.unexpected Fault.nullCharacter.message)
  | .error fault => ⟨2, usageError fault, none, [], s.tree⟩
  | .ok .help => ⟨0, help, none, [], s.tree⟩
  | .ok (.generate a) => generate host s a

theorem run_of_fault {s : Surroundings} {texts : List String} {host : Host} {fault : Fault}
    (h : read host s texts = .error fault) : (run s texts host).tree = s.tree := by
  cases fault <;> simp [run, h, fail]

end WireModel.Command
