import WireModel.Text.Search
import WireModel.Value.Display
import WireModel.Value.Equality

/-!
# Options

What a configuration document says about a generation. The value of an option is kept as it is
given, and only two of them are checked when they are read; an option of the wrong kind is
refused where it is used. Keys that are no options are ignored, but for those of the object that
holds the options: `__dict__` replaces all of them, so that some may be missing afterwards.
-/

namespace WireModel

/-- What to do when the output file exists. -/
inductive OutputMode where
  /-- Refuse. -/
  | error
  /-- Overwrite it. -/
  | force
  /-- Overwrite it if it was generated. -/
  | regenerate
  deriving DecidableEq

namespace OutputMode

def name : OutputMode → String
  | .error => "error"
  | .force => "force"
  | .regenerate => "regenerate"

def ofName? : String → Option OutputMode
  | "error" => some .error
  | "force" => some .force
  | "regenerate" => some .regenerate
  | _ => none

theorem ofName?_name (mode : OutputMode) : ofName? mode.name = some mode := by
  cases mode <;> rfl

end OutputMode

namespace Options

/-! ## The options -/

/-- An output mode as it is given: a text has to name one, anything else stays as it is. -/
inductive Mode where
  | known (mode : OutputMode)
  | other (v : Value)

/-- How the output file is written. -/
structure Output where
  mode : Mode := .known .error
  validate : Value := .bool true
  atomic : Value := .bool true

/-- The options for the output file; anything but a mapping stays as it is. -/
inductive OutputSection where
  | settings (output : Output)
  | other (v : Value)

end Options

/-- All options. Those that are collections may be missing. -/
structure Options where
  /-- Models that are left out. -/
  ignoreClasses : Option Value := some (.list [])
  /-- Fields that are left out of every model. -/
  ignoreFields : Option Value := some (.list [])
  /-- Models that come first. -/
  orderClasses : Option Value := some (.list [])
  /-- Whether the output starts with a comment that says how it was made. -/
  comment : Value := .bool true
  /-- Whether annotations of generated modules are evaluated late. -/
  futureAnnotations : Value := .bool true
  /-- What a default of a required field means. -/
  requiredWithDefault : Value := .str "error"
  output : Option Options.OutputSection := some (.settings {})
  /-- What stands in place of the function that writes the options. -/
  writer : Option Value := none

namespace Options

/-! ## Reading -/

/-- Why a configuration is refused. The kinds are those of the values found. -/
inductive Fault where
  | keyNotText (kind : String)
  | notClass (kind : String)
  | notAttributes (kind : String)
  | notWritable
  | unknownMode (name : String)
  | unknownPolicy (v : Value)
  /-- An unknown policy that cannot be shown. -/
  | overlong

/-- The name of the class of options in messages. -/
def className : String := "CodeGeneratorConfig"

def Fault.message : Fault → String
  | .keyNotText kind => "attribute name must be string, not '" ++ kind ++ "'"
  | .notClass kind => "__class__ must be set to a class, not '" ++ kind ++ "' object"
  | .notAttributes kind => "__dict__ must be set to a dictionary, not a '" ++ kind ++ "'"
  | .notWritable => "attribute '__weakref__' of '" ++ className ++ "' objects is not writable"
  | .unknownMode name => Text.quoted name ++ " is not a valid OutputMode"
  | .unknownPolicy v =>
    "required_with_default must be one of error, optional, got " ++ v.display
  | .overlong => Decimal.Overlong.written.message

/-- Whether a fault is one of the value of an option. -/
def Fault.isOfValue : Fault → Bool
  | .unknownMode _ | .unknownPolicy _ | .overlong => true
  | _ => false

/-- The mode that a value gives. -/
def readMode : Value → Except Fault Mode
  | .str name =>
    match OutputMode.ofName? name with
    | some mode => .ok (.known mode)
    | none => .error (.unknownMode name)
  | v => .ok (.other v)

/-- The options for the output file. -/
def readOutput : Value → Except Fault OutputSection
  | .map entries => do
    let mode ←
      match Value.lookup "mode" entries with
      | some v => readMode v
      | none => pure (.known .error)
    let flag (key : String) : Value := (Value.lookup key entries).getD (.bool true)
    return .settings ⟨mode, flag "validate_before_write", flag "atomic_write"⟩
  | v => .ok (.other v)

/-- Sets the options for the output file. A mapping brings them back if they are missing. -/
def setOutput (options : Options) (v : Value) : Except Fault Options :=
  if v.isMap || options.output.isSome then
    (readOutput v).map fun output => { options with output := some output }
  else .ok options

/-- The options of the attributes that replace all others. Scalar options that are not among them
have their defaults. -/
def ofAttributes (entries : List (Value × Value)) : Options where
  ignoreClasses := Value.lookup "ignore_classes" entries
  ignoreFields := Value.lookup "global_ignore_fields" entries
  orderClasses := Value.lookup "order_classes" entries
  comment := (Value.lookup "add_generation_comment" entries).getD (.bool true)
  futureAnnotations := (Value.lookup "use_future_annotations" entries).getD (.bool true)
  requiredWithDefault := (Value.lookup "required_with_default" entries).getD (.str "error")
  output := (Value.lookup "output" entries).map .other
  writer := Value.lookup "to_dict" entries

/-- Sets the option of a key. What is missing and has no default cannot be set. -/
def set (options : Options) (key : String) (v : Value) : Except Fault Options :=
  let replace (old : Option Value) : Option Value := old.map fun _ => v
  match key with
  | "ignore_classes" => .ok { options with ignoreClasses := replace options.ignoreClasses }
  | "global_ignore_fields" => .ok { options with ignoreFields := replace options.ignoreFields }
  | "order_classes" => .ok { options with orderClasses := replace options.orderClasses }
  | "add_generation_comment" => .ok { options with comment := v }
  | "use_future_annotations" => .ok { options with futureAnnotations := v }
  | "required_with_default" => .ok { options with requiredWithDefault := v }
  | "output" => options.setOutput v
  | "to_dict" => .ok { options with writer := some v }
  | "__dict__" =>
    match v with
    | .map entries => .ok (ofAttributes entries)
    | _ => .error (.notAttributes v.kindName)
  | "__class__" => .error (.notClass v.kindName)
  | "__weakref__" => .error .notWritable
  | _ => .ok options

/-- Whether a value is one of the policies for required fields with a default. -/
def isPolicy (v : Value) : Bool := v.isText "error" || v.isText "optional"

/-- Sets the options of all entries in order. -/
def setAll : List (Value × Value) → Options → Except Fault Options
  | [], options => .ok options
  | (.str key, v) :: rest, options => do
    let options ← options.set key v
    setAll rest options
  | (key, _) :: _, _ => .error (.keyNotText key.kindName)

/-- The options of a configuration. -/
def ofEntries (entries : List (Value × Value)) : Except Fault Options := do
  let options ← setAll entries {}
  let policy := options.requiredWithDefault
  if isPolicy policy then return options
  else throw (if policy.isTellable then .unknownPolicy policy else .overlong)

/-! ## Use -/

/-- An option of the wrong kind. -/
inductive Misuse where
  | notIterable (kind : String)
  | notContainer (kind : String)
  | unhashable (kind : String)
  | noMember (kind member : String)
  | notCallable (kind : String)
  deriving DecidableEq

def Misuse.message : Misuse → String
  | .notIterable kind => "'" ++ kind ++ "' object is not iterable"
  | .notContainer kind => "argument of type '" ++ kind ++ "' is not iterable"
  | .unhashable kind => "unhashable type: '" ++ kind ++ "'"
  | .noMember kind member => "'" ++ kind ++ "' object has no attribute '" ++ member ++ "'"
  | .notCallable kind => "'" ++ kind ++ "' object is not callable"

/-- The value of an option that must not be missing. -/
def demand {α : Type} (name : String) : Option α → Except Misuse α
  | some v => .ok v
  | none => .error (.noMember className name)

/-- The values that an option lists: a text lists its characters and a mapping its keys. -/
def elements : Value → Except Misuse (List Value)
  | .list items | .tuple items => .ok items
  | .str s => .ok (s.toList.map fun c => .str (String.singleton c))
  | .map entries => .ok (entries.map (·.1))
  | v => .error (.notIterable v.kindName)

mutual

/-- The kind that keeps a value from being looked up, if there is one. -/
def unhashable? : Value → Option String
  | .list _ | .knot false => some "list"
  | .map _ | .knot true => some "dict"
  | .record model _ => some (Naming.className model)
  | .tuple items => unhashableAmong? items
  | _ => none

def unhashableAmong? : List Value → Option String
  | [] => none
  | v :: rest => (unhashable? v).orElse fun _ => unhashableAmong? rest

end

/-- The names that an option lists; each value has to be one that can be looked up. -/
def names (option : Value) : Except Misuse (List String) := do
  let items ← elements option
  items.foldlM (fun found v =>
    match unhashable? v with
    | some kind => .error (.unhashable kind)
    | none => .ok (found ++ v.asStr?.toList)) []

/-- Whether an option lists a name. In a text every part of it is listed. -/
def lists (option : Value) (name : String) : Except Misuse Bool :=
  match option with
  | .list items | .tuple items => .ok (items.any (Value.isText name))
  | .str s => .ok (Text.occursIn name.toList s.toList)
  | .map entries => .ok (Value.hasKey name entries)
  | v => .error (.notContainer v.kindName)

/-- The models that are left out. -/
def ignoredClasses (options : Options) : Except Misuse (List String) := do
  names (← demand "ignore_classes" options.ignoreClasses)

/-- Whether a field is left out of every model. -/
def ignoresField (options : Options) (name : String) : Except Misuse Bool := do
  lists (← demand "global_ignore_fields" options.ignoreFields) name

/-- The models that come first. -/
def firstClasses (options : Options) : Except Misuse (List String) := do
  names (← demand "order_classes" options.orderClasses)

/-! ## Writing -/

/-- The configuration that these options come from. -/
def toEntries (options : Options) : Except Misuse (List (String × Value)) := do
  if let some v := options.writer then throw (.notCallable v.kindName)
  let ignoreClasses ← demand "ignore_classes" options.ignoreClasses
  let ignoreFields ← demand "global_ignore_fields" options.ignoreFields
  let orderClasses ← demand "order_classes" options.orderClasses
  let output ←
    match ← demand "output" options.output with
    | .other v => throw (.noMember v.kindName "mode")
    | .settings output =>
      match output.mode with
      | .other v => throw (.noMember v.kindName "value")
      | .known mode =>
        pure (Value.ofFields [("mode", .str mode.name), ("validate_before_write", output.validate),
          ("atomic_write", output.atomic)])
  return [("ignore_classes", ignoreClasses), ("global_ignore_fields", ignoreFields),
    ("order_classes", orderClasses), ("add_generation_comment", options.comment),
    ("use_future_annotations", options.futureAnnotations),
    ("required_with_default", options.requiredWithDefault), ("output", output)]

/-- Whether two modes are the same. -/
def Mode.same : Mode → Mode → Bool
  | .known m, .known n => m = n
  | .other v, .other w => v.identical w
  | _, _ => false

/-- Whether two sets of options for the output file are the same. -/
def OutputSection.same : OutputSection → OutputSection → Bool
  | .settings a, .settings b =>
    a.mode.same b.mode && a.validate.identical b.validate && a.atomic.identical b.atomic
  | .other v, .other w => v.identical w
  | _, _ => false

/-- Whether two options are both missing or the same. -/
def sameOption {α : Type} (same : α → α → Bool) : Option α → Option α → Bool
  | none, none => true
  | some a, some b => same a b
  | _, _ => false

/-- Whether all options are the same. -/
def same (a b : Options) : Bool :=
  sameOption Value.identical a.ignoreClasses b.ignoreClasses &&
    sameOption Value.identical a.ignoreFields b.ignoreFields &&
    sameOption Value.identical a.orderClasses b.orderClasses && a.comment.identical b.comment &&
    a.futureAnnotations.identical b.futureAnnotations &&
    a.requiredWithDefault.identical b.requiredWithDefault &&
    sameOption OutputSection.same a.output b.output

theorem isPolicy_of_ofEntries {entries : List (Value × Value)} {options : Options}
    (h : ofEntries entries = .ok options) : isPolicy options.requiredWithDefault = true := by
  unfold ofEntries at h
  cases hs : setAll entries {} with
  | error fault => simp [hs, bind, Except.bind] at h
  | ok found =>
      simp only [hs, bind, Except.bind] at h
      split at h
      · cases h; assumption
      · cases h

end Options
end WireModel
