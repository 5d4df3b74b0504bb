import WireModel.Emit.Names
import WireModel.Plan.Contract

/-!
# Expressions of a generated module

The expressions that build the codecs of fields and alternatives. An expression knows the
names that it takes from the support library, so the imports of a module follow from its
expressions.
-/

namespace WireModel.Emit

/-- An expression. -/
inductive Expr where
  /-- A name that the module imports. -/
  | support (name : String)
  /-- A name that the module defines. -/
  | own (name : String)
  | literal (v : Value)
  | tupleLiteral (values : List Value)
  | apply (f : Expr) (args : List Expr)
  | list (items : List Expr)
  | pair (first second : Expr)
  | dict (entries : List (Value × Expr))

namespace Expr

mutual

/-- The text of an expression. -/
def render : Expr → Except Fault String
  | .support name | .own name => .ok name
  | .literal v => Emit.literal v
  | .tupleLiteral values => Emit.tupleLiteral values
  | .apply f args => do
    let head ← f.render
    let parts ← renderAll args
    return head ++ "(" ++ commaSeparated parts ++ ")"
  | .list items => do
    let parts ← renderAll items
    return "[" ++ commaSeparated parts ++ "]"
  | .pair first second => do
    let a ← first.render
    let b ← second.render
    return "(" ++ a ++ ", " ++ b ++ ")"
  | .dict entries => do
    let parts ← renderEntries entries
    return "\x7b" ++ commaSeparated parts ++ "\x7d"

def renderAll : List Expr → Except Fault (List String)
  | [] => .ok []
  | e :: rest => do
    let part ← e.render
    let parts ← renderAll rest
    return part :: parts

def renderEntries : List (Value × Expr) → Except Fault (List String)
  | [] => .ok []
  | (k, e) :: rest => do
    let key ← Emit.literal k
    let part ← e.render
    let parts ← renderEntries rest
    return (key ++ ": " ++ part) :: parts

end

mutual

/-- The names that an expression takes from the support library. -/
def imports : Expr → List String
  | .support name => [name]
  | .own _ | .literal _ | .tupleLiteral _ => []
  | .apply f args => f.imports ++ importsOfAll args
  | .list items => importsOfAll items
  | .pair first second => first.imports ++ second.imports
  | .dict entries => importsOfEntries entries

def importsOfAll : List Expr → List String
  | [] => []
  | e :: rest => e.imports ++ importsOfAll rest

def importsOfEntries : List (Value × Expr) → List String
  | [] => []
  | (_, e) :: rest => e.imports ++ importsOfEntries rest

end

/-- A function of the support library with its arguments. -/
def call (name : String) (args : List Expr) : Expr := .apply (.support name) args

end Expr

/-! ## Predicates -/

/-- The directions of a codec. -/
inductive Direction where
  | decode
  | encode
  deriving DecidableEq

mutual

/-- The expression of a predicate. -/
def predicateExpr (names : Names) (direction : Direction) : Predicate → Except Fault Expr
  | .record model _ =>
    match direction with
    | .decode => do return .own (checkName (← names.baseOf model))
    | .encode => do return .call "is_model" [.own (← names.classOf model)]
  | .primitive kind => .ok (.call "is_primitive" [.literal (.str kind.name)])
  | .sequence => .ok (.support "is_sequence")
  | .mapping => .ok (.support "is_mapping")
  | .enumMember values => .ok (.call "is_enum_member" [.tupleLiteral values])
  | .anyOf predicates => do
    let parts ← predicateExprs names direction predicates
    return .call "any_of" [.list parts]

def predicateExprs (names : Names) (direction : Direction) :
    List Predicate → Except Fault (List Expr)
  | [] => .ok []
  | p :: rest => do
    let part ← predicateExpr names direction p
    let parts ← predicateExprs names direction rest
    return part :: parts

end

/-! ## Plans -/

/-- The function of a model in a direction. -/
def modelFunction (names : Names) (direction : Direction) (model : String) :
    Except Fault String := do
  let base ← names.baseOf model
  return match direction with
    | .decode => decoderName base
    | .encode => encoderName base

/-- The expression of a discriminated union: decoding selects by the value of the property,
encoding by the class of the instance. -/
def dispatchExpr (names : Names) (direction : Direction) (property : String)
    (cases : List (String × String)) : Except Fault Expr :=
  match direction with
  | .decode => do
    let entries ← cases.mapM fun (tag, model) => do
      return (Value.str tag, Expr.own (← modelFunction names .decode model))
    return .call "dispatch_on" [.literal (.str property), .dict entries]
  | .encode => do
    let options ← (cases.map (·.2)).eraseDups.mapM fun model => do
      let check := Expr.call "is_model" [.own (← names.classOf model)]
      return Expr.pair check (.own (← modelFunction names .encode model))
    return .call "first_match" [.list options, .literal (.str property)]

mutual

/-- The expression of a plan. -/
def planExpr (names : Names) (direction : Direction) : Plan → Except Fault Expr
  | .pass _ => .ok (.support "identity")
  | .checkEnum values _ => .ok (.call "enum_of" [.tupleLiteral values])
  | .nullable inner => do return .call "nullable" [← planExpr names direction inner]
  | .eachElement element => do return .call "list_of" [← planExpr names direction element]
  | .eachValue value => do return .call "dict_of" [← planExpr names direction value]
  | .call model => do return .own (← modelFunction names direction model)
  | .dispatch property cases => dispatchExpr names direction property cases
  | .firstMatch options description => do
    let parts ← optionExprs names direction options
    return .call "first_match" [.list parts, .literal (.str description)]

def optionExprs (names : Names) (direction : Direction) :
    List (Predicate × Plan) → Except Fault (List Expr)
  | [] => .ok []
  | (p, plan) :: rest => do
    let check ← predicateExpr names direction p
    let part ← planExpr names direction plan
    let parts ← optionExprs names direction rest
    return .pair check part :: parts

end

theorem imports_pass (names : Names) (direction : Direction) (kind : Schema.Kind) :
    (planExpr names direction (.pass kind)).map Expr.imports = .ok ["identity"] := rfl

end WireModel.Emit
