import WireModel.Files.Host
import WireModel.Generation
import WireModel.Text.Search

/-!
# Arguments

What the words of a command line say. Options may stand anywhere before a double dash; a value
follows its option as the next word, or within the same word. Everything else is the path of the
schema and the path of the output. Values are checked in the order in which their options come,
and then the two paths.
-/

namespace WireModel.Command

open Files (Host Place Tree)

/-! ## Options -/

/-- The options. -/
inductive Switch where
  | name
  | config
  | format
  | force
  | verbose
  | help
  deriving DecidableEq

namespace Switch

def all : List Switch := [.name, .config, .format, .force, .verbose, .help]

/-- The long form of an option. -/
def long : Switch → String
  | .name => "--name"
  | .config => "--config"
  | .format => "--format"
  | .force => "--force"
  | .verbose => "--verbose"
  | .help => "--help"

/-- The letter of an option. -/
def letter? : Switch → Option Char
  | .name => some 'n'
  | .config => some 'c'
  | .format => some 'f'
  | .verbose => some 'v'
  | .force | .help => none

def takesValue : Switch → Bool
  | .name | .config | .format => true
  | .force | .verbose | .help => false

def ofLong? (text : String) : Option Switch := all.find? (·.long == text)

def ofLetter? (c : Char) : Option Switch := all.find? (·.letter? == some c)

/-- How messages name an option. -/
def hint (s : Switch) : String :=
  "'" ++ s.long ++ "'" ++
    (match s.letter? with
      | some c => " / '-" ++ String.singleton c ++ "'"
      | none => "")

theorem ofLong?_long (s : Switch) : ofLong? s.long = some s := by
  cases s <;> rfl

end Switch

/-! ## Faults -/

/-- Why the words of a command line say nothing. -/
inductive Fault where
  | unknownOption (name : String) (candidates : List String)
  | needsValue (name : String)
  | takesNoValue (name : String)
  | missingArgument (name : String)
  | noSuchPath (hint path : String)
  | notChoice (hint value : String) (choices : List String)
  | extraArguments (words : List String)
  /-- A path has a NUL character. -/
  | nullCharacter

/-- Whether a fault is one of the form of an option, for which no help is offered. -/
def Fault.isOfForm : Fault → Bool
  | .needsValue _ | .takesNoValue _ => true
  | _ => false

def Fault.message : Fault → String
  | .unknownOption name candidates =>
    "No such option: " ++ name ++
      (match candidates with
        | [] => ""
        | [candidate] => " Did you mean " ++ candidate ++ "?"
        | _ => " (Possible options: " ++ String.intercalate ", " candidates ++ ")")
  | .needsValue name => "Option " ++ Text.quoted name ++ " requires an argument."
  | .takesNoValue name => "Option " ++ Text.quoted name ++ " does not take a value."
  | .missingArgument name => "Missing argument '" ++ name ++ "'."
  | .noSuchPath hint path =>
    "Invalid value for " ++ hint ++ ": Path " ++ Text.quoted path ++ " does not exist."
  | .notChoice hint value choices =>
    "Invalid value for " ++ hint ++ ": " ++ Text.quoted value ++ " is not one of " ++
      String.intercalate ", " (choices.map Text.quoted) ++ "."
  | .extraArguments words =>
    (if words.length == 1 then "Got unexpected extra argument ("
      else "Got unexpected extra arguments (") ++ String.intercalate " " words ++ ")"
  | .nullCharacter => Files.Fault.nullCharacter.message

/-! ## Words -/

/-- Options with their values in order, the last one first, and the other words, the last one
first. -/
structure Words where
  settings : List (Switch × String) := []
  others : List String := []

/-- Splits a word at its first equals sign. -/
def splitAssignment (text : String) : String × Option String :=
  let before := text.toList.takeWhile (· != '=')
  match text.toList.dropWhile (· != '=') with
  | '=' :: value => (String.ofList before, some (String.ofList value))
  | _ => (text, none)

/-- Takes the letters of a word: the first one that takes a value has the rest of the word as
its value, or the next word. -/
def takeLetters : List Char → List String → Words → Except Fault (Words × List String)
  | [], rest, words => .ok (words, rest)
  | c :: letters, rest, words =>
    let name := "-" ++ String.singleton c
    match Switch.ofLetter? c with
    | none => .error (.unknownOption name [])
    | some s =>
      if s.takesValue then
        let add (value : String) : Words := { words with settings := (s, value) :: words.settings }
        if letters.isEmpty then
          match rest with
          | [] => .error (.needsValue name)
          | value :: rest => .ok (add value, rest)
        else .ok (add (String.ofList letters), rest)
      else takeLetters letters rest { words with settings := (s, "") :: words.settings }

/-- Takes a word that starts with a dash. -/
def takeOption (text : String) (rest : List String) (words : Words) :
    Except Fault (Words × List String) :=
  let (name, attached) := splitAssignment text
  match Switch.ofLong? name with
  | some s =>
    let add (value : String) : Words := { words with settings := (s, value) :: words.settings }
    match s.takesValue, attached, rest with
    | true, some value, _ => .ok (add value, rest)
    | true, none, [] => .error (.needsValue name)
    | true, none, value :: rest => .ok (add value, rest)
    | false, some _, _ => .error (.takesNoValue name)
    | false, none, _ => .ok (add "", rest)
  | none =>
    if text.toList.take 2 == ['-', '-'] then
      .error (.unknownOption name (Text.closest name (Switch.all.map Switch.long)))
    else takeLetters (text.toList.drop 1) rest words

/-- Sorts all words. Every step takes a word. -/
def readWords : Nat → List String → Words → Except Fault Words
  | 0, _, words => .ok words
  | _, [], words => .ok words
  | fuel + 1, text :: rest, words =>
    if text == "--" then .ok { words with others := rest.reverse ++ words.others }
    else if text.toList.head? == some '-' && text != "-" then do
      let (words, rest) ← takeOption text rest words
      readWords fuel rest words
    else readWords fuel rest { words with others := text :: words.others }

/-! ## Values -/

/-- What a command line asks for. -/
structure Arguments where
  name : Option String
  config : Option String
  language : Language
  force : Bool
  verbose : Bool
  schema : String
  output : String

/-- A command line asks for a generation, or for help. -/
inductive Action where
  | help
  | generate (arguments : Arguments)

/-- The file tree as a command finds it, and the directory it runs in. -/
structure Surroundings where
  tree : Tree
  directory : Place

/-- The path that a text means, from the root and without `..`. -/
def Surroundings.place (s : Surroundings) (text : String) : Place :=
  (Place.ofText s.directory text).simplify

/-- The text of a path that may lead nowhere. -/
def Surroundings.freePath (s : Surroundings) (text : String) : Except Fault String :=
  if Place.hasNull [text] then .error .nullCharacter else .ok (s.place text).render

/-- The text of a path that has to lead to something. -/
def Surroundings.takenPath (s : Surroundings) (host : Host) (hint text : String) :
    Except Fault String := do
  let path ← s.freePath text
  if host.sees s.tree (s.place text) then return path else throw (.noSuchPath hint text)

/-- The value of an option: the last one that is given counts. -/
def Words.value? (words : Words) (s : Switch) : Option String := words.settings.lookup s

/-- Whether an option is given. -/
def Words.has (words : Words) (s : Switch) : Bool := (words.value? s).isSome

/-- The language of a name. -/
def languageOf (name : String) : Except Fault Language :=
  match Language.ofName? name with
  | some language => .ok language
  | none => .error (.notChoice Switch.format.hint name (Language.all.map Language.name))

section

variable (host : Host)

/-- Checks the value of an option. -/
def checkSwitch (s : Surroundings) (words : Words) (switch : Switch) : Except Fault Unit :=
  match switch, words.value? switch with
  | .config, some text => (s.takenPath host switch.hint text).map fun _ => ()
  | .format, some text => (languageOf text).map fun _ => ()
  | _, _ => .ok ()

/-- The path of the schema. -/
def schemaPath (s : Surroundings) (others : List String) : Except Fault String :=
  match others with
  | [] => .error (.missingArgument "PATH")
  | text :: _ => s.takenPath host "'PATH'" text

/-- The path of the output. -/
def outputPath (s : Surroundings) (others : List String) : Except Fault String :=
  match others with
  | _ :: text :: _ => s.freePath text
  | _ => .error (.missingArgument "OUTPUT")

/-- What sorted words ask for. -/
def ofWords (s : Surroundings) (words : Words) : Except Fault Action := do
  if words.has .help then return .help
  let others := words.others.reverse
  (words.settings.reverse.map (·.1)).eraseDups.forM (checkSwitch host s words)
  let schema ← schemaPath host s others
  let output ← outputPath s others
  if 2 < others.length then throw (.extraArguments (others.drop 2))
  let language ← languageOf ((words.value? .format).getD Language.python.name)
  let config ← (words.value? .config).mapM s.freePath
  return .generate ⟨words.value? .name, config, language, words.has .force, words.has .verbose,
    schema, output⟩

/-- What the words of a command line ask for. -/
def read (s : Surroundings) (texts : List String) : Except Fault Action := do
  let words ← readWords texts.length texts {}
  ofWords host s words

end

theorem readWords_nil (fuel : Nat) (words : Words) : readWords fuel [] words = .ok words := by
  cases fuel <;> rfl

end WireModel.Command
