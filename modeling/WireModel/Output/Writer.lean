import WireModel.Files.Host
import WireModel.Generation
import WireModel.Output.Grammar

/-!
# Writing generated files

Generated text is written to a file tree. What exists is overwritten only as the output mode
allows: in the mode `regenerate` a file has to carry the marker of generated files near its top.
Text is written into a temporary file and checked before it takes the place of a file, so a refused
write leaves every file as it is; at most directories were made for it.
-/

namespace WireModel.Output

open Files (Call Host Place Tree)

/-! ## Legible modules

A text can be read as a module if it can be cut into tokens that form statements, and if that also
holds of the expressions in the fields of its texts. -/

/-- The expressions in all texts; nothing if one cannot be read, or if characters and octets are
adjacent. `previous` tells of the text before these tokens whether it is one of octets. -/
def expressionsIn : Option Bool → List Token → Option (List (List Char))
  | previous, .text literal :: rest => do
    let octets := literal.marks.octets
    if previous == some !octets then none
    else return (← literal.expressions?) ++ (← expressionsIn (some octets) rest)
  | _, _ :: rest => expressionsIn none rest
  | _, [] => some []

/-- Whether characters are what the grammar asks for. An expression in a field stands between
parentheses, and with them it is shorter than what it is in. -/
def accepts : Nat → (Array Token → Bool) → List Char → Bool
  | 0, _, _ => false
  | fuel + 1, grammar, cs =>
    match Token.ofList? cs with
    | none => false
    | some tokens =>
      match expressionsIn none tokens with
      | none => false
      | some fields =>
        fields.all (fun field => accepts fuel Grammar.isField ('(' :: (field ++ [')']))) &&
          grammar tokens.toArray

/-- Whether a text is a module that can be read. -/
def isLegible (text : String) : Bool :=
  let cs := text.toList
  accepts (cs.length + 1) Grammar.isModule cs

/-! ## Faults -/

/-- Why a file is not written. -/
inductive Fault where
  | exists (path : String)
  | notGenerated (path : String)
  | invalidJson (text : String) (cause : Json.Cause) (position : Nat)
  /-- An integer of so many digits in text that is checked as JSON. -/
  | overlong (digits : Nat)
  | invalidModule
  /-- A module with a NUL character is no text for its readers. -/
  | nullCharacter
  | system (fault : Files.Fault)
  | refused (refusal : Files.Refusal)

def Fault.message : Fault → String
  | .exists path =>
    "Output file already exists: " ++ path ++ ". Use force or regenerate mode to overwrite it."
  | .notGenerated path =>
    "Refusing to overwrite " ++ path ++ ": it does not carry the '" ++ Generation.marker ++
      "' marker"
  | .invalidJson text cause position =>
    "Generated JSON is not valid: " ++ cause.messageAt position text.toList
  | .overlong digits => (Decimal.Overlong.read digits).message
  | .invalidModule => "Generated Python code is not valid:"
  | .nullCharacter => "source code string cannot contain null bytes"
  | .system fault => fault.message
  | .refused refusal => refusal.message

/-- A change of the file tree that may fail; what was changed before stays. -/
abbrev Writing := ExceptT Fault (StateM Tree)

namespace Writing

variable (host : Host)

/-- A call to the operating system, which changes the tree if it is neither refused nor fails. -/
def call {α : Type} (call : Call) (act : Tree → Except Files.Fault (α × Tree)) : Writing α := fun t =>
  match host.refuses t call with
  | some refusal => (.error (.refused refusal), t)
  | none =>
    match act t with
    | .ok (a, changed) => (.ok a, changed)
    | .error fault => (.error (.system fault), t)

/-- What a path leads to, if to anything; a name that is too long is no answer. -/
def look (place : Place) : Writing (Option Tree) :=
  call host (.look place) fun t =>
    match t.find place with
    | .ok found => .ok (some found, t)
    | .error .nameTooLong => .error .nameTooLong
    | .error _ => .ok (none, t)

end Writing

/-! ## The marker -/

/-- The number of lines at the top of a file in which the marker is looked for. -/
def markerLines : Nat := 5

/-- The number of octets that are read at a time. -/
def chunkSize : Nat := 8192

/-- The characters of the first octets of a file. A character that goes on behind them is left
out, but none is at the end of the file. -/
def decodeHead (octets : List UInt8) (atEnd : Bool) : Option (List Char) :=
  match Text.Utf8.decode octets with
  | .ok s => some s.toList
  | .error malformed =>
    if !atEnd && malformed.fault == .unexpectedEnd then
      match Text.Utf8.decode (octets.take malformed.position) with
      | .ok s => some s.toList
      | .error _ => none
    else none

/-- The characters of a file up to the end of the chunk that completes its first lines; nothing
if they are not UTF-8. `chunks` bounds how many more chunks are read. -/
def headOf (octets : List UInt8) : Nat → Nat → Option (List Char)
  | 0, _ => decodeHead octets true
  | chunks + 1, read => do
    let cs ← decodeHead (octets.take (read + chunkSize)) false
    if markerLines < (Text.fileLines (cs ++ ['.'])).length then return cs
    else if octets.length ≤ read + chunkSize then decodeHead octets true
    else headOf octets chunks (read + chunkSize)

/-- Whether the content of a file carries the marker near its top. -/
def carriesMarker (content : List UInt8) : Bool :=
  match headOf content (content.length / chunkSize + 1) 0 with
  | none => false
  | some cs =>
    ((Text.fileLines cs).take markerLines).any (Text.occursIn Generation.marker.toList)

/-- Whether a path leads to a generated file. -/
def isGenerated (t : Tree) (place : Place) : Bool :=
  match t.read place with
  | .ok content => carriesMarker content
  | .error _ => false

/-- Whether a path leads to a generated file, as far as it is a path. -/
def tellGenerated (t : Tree) (place : Place) : Except Files.Fault Bool :=
  if place.hasNull then .error .nullCharacter else .ok (isGenerated t place)

/-! ## Checks -/

/-- How text is checked before it is written. -/
structure Checks where
  module : String → Except Fault Unit
  report : String → Except Fault Unit

/-- Checks that text is a module. -/
def checkModule (text : String) : Except Fault Unit :=
  if text.toList.contains (Char.ofNat 0) then .error .nullCharacter
  else if isLegible text then .ok ()
  else .error .invalidModule

/-- Checks that text is JSON. -/
def checkReport (text : String) : Except Fault Unit :=
  match Json.read text with
  | .ok _ => .ok ()
  | .error (.malformed cause position) => .error (.invalidJson text cause position)
  | .error (.overlong digits) => .error (.overlong digits)

def Checks.standard : Checks := ⟨checkModule, checkReport⟩

/-- Checks text of a language; text of no language is not checked. -/
def Checks.validate (checks : Checks) (language : Option Language) (text : String) :
    Except Fault Unit :=
  match language with
  | some .python => checks.module text
  | some .report => checks.report text
  | none => .ok ()

/-- Checks text if it is asked for. -/
def Checks.validateIf (checks : Checks) (asked : Bool) (language : Option Language) (text : String) :
    Writing Unit :=
  ExceptT.mk (pure (if asked then checks.validate language text else .ok ()))

/-! ## Directories -/

section

variable (host : Host)

/-- Makes a directory in one that exists. The path is given backwards. -/
def makeDirectory (backwards : List String) : Writing Unit :=
  Writing.call host (.makeDirectory backwards.reverse) fun t =>
    (t.makeDirectory backwards).map fun changed => ((), changed)

/-- A directory that cannot be made may be there already, which is as good. -/
def acceptDirectory (backwards : List String) (fault : Fault) : Writing Unit := do
  let found ← Writing.look host backwards.reverse
  if found.any Tree.isDirectory then pure () else throw fault

/-- Makes a directory and those above it. The path is given backwards. Directories stay also
when the last one cannot be made. -/
def makeDirectories : List String → Writing Unit
  | [] => tryCatch (makeDirectory host []) (acceptDirectory host [])
  | name :: above =>
    tryCatch (makeDirectory host (name :: above)) fun fault =>
      match fault with
      | .system .missing => do
        makeDirectories above
        tryCatch (makeDirectory host (name :: above)) (acceptDirectory host (name :: above))
      | fault => acceptDirectory host (name :: above) fault

/-- Makes the directory of a file. -/
def makeParent (place : Place) : Writing Unit := makeDirectories host place.reverse.tail

/-! ## Temporary files -/

/-- The name of a temporary file beside a file. -/
def temporaryName (name random : String) : String := "." ++ name ++ "." ++ random ++ ".tmp"

/-- How many names of temporary files are tried. -/
def maxAttempts : Nat := 10000

/-- Makes a temporary file beside a file, and gives its path without `..`. A name that is taken is
as good as none. -/
def makeTemporary (place : Place) : Nat → Writing Place
  | 0 => throw (.system .alreadyThere)
  | attempts + 1 => do
    let t ← get
    let candidate := place.dropLast ++ [temporaryName place.name (host.random t attempts)]
    tryCatch (Writing.call host (.create candidate) (·.create candidate)) fun fault =>
      match fault with
      | .system .alreadyThere => makeTemporary place attempts
      | fault => throw fault

/-- Writes text into a temporary file. -/
def fill (temporary : Place) (text : String) : Writing Unit := fun t =>
  match host.refuses t (.fill temporary) with
  | some refusal =>
    (.error (.refused refusal),
      Tree.put (.file (host.torn (Text.Utf8.encode text))) t temporary)
  | none => (.ok (), Tree.put (.file (Text.Utf8.encode text)) t temporary)

/-- Completes a temporary file and lets it take the place of a file. -/
def commit (checks : Checks) (temporary place : Place) (text : String)
    (language : Option Language) (validated : Bool) : Writing Unit := do
  fill host temporary text
  checks.validateIf validated language text
  Writing.call host (.replace temporary place) fun t =>
    (t.replace temporary place).map fun changed => ((), changed)

/-! ## Writing -/

/-- Puts text into a file. -/
def putText (place : Place) (text : String) : Writing Unit :=
  Writing.call host (.overwrite place) fun t =>
    (t.write place (Text.Utf8.encode text)).map fun changed => ((), changed)

/-- Whether a path leads to a generated file, as far as the host lets it be read. -/
def seesGenerated (place : Place) : Writing Bool := do
  let t ← get
  return (host.refuses t (.read place)).isNone && isGenerated t place

/-- Lets a path be written to if nothing is there, or if the mode allows it. -/
def permit (mode : Options.Mode) (place : Place) (taken : Bool) : Writing Unit :=
  match taken, mode with
  | false, _ => pure ()
  | true, .known .error => throw (.exists place.render)
  | true, .known .regenerate => do
    if ← seesGenerated host place then pure () else throw (.notGenerated place.render)
  | true, .known .force | true, .other _ => pure ()

end

/-- Writes a file so that no reader ever finds a part of it: the text is complete and checked
before it takes the place of the file. -/
def write (place : Place) (text : String) (language : Option Language) (validated : Bool)
    (checks : Checks := .standard) (host : Host := .plain) : Writing Unit := do
  makeParent host place
  let temporary ← makeTemporary host place maxAttempts
  tryCatch (commit host checks temporary place text language validated) fun fault => do
    modify fun t => t.remove temporary
    throw fault

/-- How a generated file is written. -/
structure Manner where
  mode : Options.Mode
  validated : Bool
  atomic : Bool

/-- Writes a generated file as the mode allows. A write that is not atomic is checked before
anything else. -/
def writeGenerated (manner : Manner) (place : Place) (text : String)
    (language : Option Language) (checks : Checks := .standard) (host : Host := .plain) :
    Writing Unit := do
  let found ← Writing.look host place
  permit host manner.mode place found.isSome
  if manner.atomic then write place text language manner.validated checks host
  else
    checks.validateIf manner.validated language text
    makeParent host place
    putText host place text

/-! ## Generating into a file -/

/-- Why nothing is generated into a file. -/
inductive Failure where
  | generation (fault : Generation.Fault)
  | options (misuse : Options.Misuse)
  | writing (fault : Fault)

def Failure.message : Failure → String
  | .generation fault => fault.message
  | .options misuse => misuse.message
  | .writing fault => fault.message

/-- How the options ask to write. -/
def mannerOf (options : Options) : Except Options.Misuse Manner :=
  match Options.demand "output" options.output with
  | .ok (.settings output) => .ok ⟨output.mode, output.validate.isTruthy, output.atomic.isTruthy⟩
  | .ok (.other v) => .error (.noMember v.kindName "mode")
  | .error misuse => .error misuse

/-- Generates and writes: the result with the warnings, and the changed file tree. -/
def generateInto (request : Request) (place : Place) (t : Tree) (host : Host := .plain) :
    (Except Failure Generation × List Warning) × Tree :=
  let (result, warnings) := (Generation.run request).outcome
  match result with
  | .error fault => ((.error (.generation fault), warnings), t)
  | .ok made =>
    match mannerOf request.options with
    | .error misuse => ((.error (.options misuse), warnings), t)
    | .ok manner =>
      match (writeGenerated manner place made.text (some request.language) .standard host).run t with
      | (.ok (), changed) => ((.ok made, warnings), changed)
      | (.error fault, changed) => ((.error (.writing fault), warnings), changed)

theorem generateInto_of_fault {request : Request} {place : Place} {t : Tree} {host : Host}
    {fault : Generation.Fault} {warnings : List Warning}
    (h : (Generation.run request).outcome = (.error fault, warnings)) :
    generateInto request place t host = ((.error (.generation fault), warnings), t) := by
  simp [generateInto, h]

end WireModel.Output
