import WireModel.Command.Arguments

/-!
# Recorded command lines

The command line that generated files name, so that they can be made again: the program, the
paths, and then the options that differ from their defaults. A path that leads to something is
shown by its name alone.
-/

namespace WireModel.Command

open Files (Place)

/-- The parameters of the command, in the order of their declaration. -/
inductive Parameter where
  | name
  | config
  | language
  | force
  | verbose
  | path
  | output
  deriving DecidableEq

namespace Parameter

def all : List Parameter := [.name, .config, .language, .force, .verbose, .path, .output]

def key : Parameter → String
  | .name => "name"
  | .config => "config"
  | .language => "language"
  | .force => "force"
  | .verbose => "verbose"
  | .path => "path"
  | .output => "output"

/-- The option of a parameter; the paths have none. -/
def switch? : Parameter → Option Switch
  | .name => some .name
  | .config => some .config
  | .language => some .format
  | .force => some .force
  | .verbose => some .verbose
  | .path | .output => none

/-- The value that a parameter has if it is not given. -/
def default : Parameter → Value
  | .language => .str Language.python.name
  | .force | .verbose => .bool false
  | .name | .config | .path | .output => .null

end Parameter

/-- A value as a recorded command line shows it. Whether it is a path cannot be told if it is too
long for one. -/
def shown (s : Surroundings) (v : Value) : Except Files.Fault String :=
  match v with
  | .str text => do
    let isPath ← s.tree.probe (Place.ofText s.directory text)
    return if isPath then (Place.parts text).name else text
  | v => .ok v.display

/-- The words that a parameter adds to the paths and to the options. -/
def wordsOf (s : Surroundings) (given : List (String × Value)) (p : Parameter) :
    Except Files.Fault (List String × List String) :=
  match given.lookup p.key with
  | none => .ok ([], [])
  | some v =>
    if !v.isTruthy then .ok ([], [])
    else do
      let text ← shown s v
      match p.switch? with
      | none => return ([text], [])
      | some switch =>
        if v.same p.default then return ([], [])
        else if switch.takesValue then return ([], [switch.long, text])
        else return ([], [switch.long])

/-- The command line that the values of the parameters come from. -/
def recorded (s : Surroundings) (given : List (String × Value)) : Except Files.Fault String := do
  let words ← Parameter.all.mapM (wordsOf s given)
  return String.intercalate " "
    (Generation.programName :: words.flatMap (·.1) ++ words.flatMap (·.2))

/-- The values of the parameters of a command line. -/
def Arguments.values (a : Arguments) : List (String × Value) :=
  [("name", .ofOption .str a.name), ("config", .ofOption .str a.config),
    ("language", .str a.language.name), ("force", .bool a.force), ("verbose", .bool a.verbose),
    ("path", .str a.schema), ("output", .str a.output)]

theorem recorded_nil (s : Surroundings) : recorded s [] = .ok Generation.programName := by
  rfl

end WireModel.Command
