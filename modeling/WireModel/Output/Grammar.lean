import WireModel.Output.Pattern

/-!
# The grammar of generated modules

The rules by which tokens form expressions, statements and modules. Only whether a module can be
read is asked, so operators that bind differently are one rule where this makes no difference.
Where a rule lists alternatives, the first one that matches is taken.
-/

namespace WireModel.Output.Grammar

open Pattern

/-- What the rules describe. Where a flag tells whether something is typed, it is about the
parameters of a function with a name; those of one without have no declared types. -/
inductive Rule where
  | wholeModule
  /-- What stands in a field of a text, in parentheses. -/
  | field
  | atom
  | generator
  | loops
  | trailer
  | arguments
  | slices
  | primary
  | factor
  | operation
  | negation
  | disjunction
  | expression
  | namedExpression
  /-- A named expression, or a starred one. -/
  | member
  | members
  | expressions
  | yielded
  | parameters (typed : Bool)
  | plainParameter (typed : Bool)
  | defaultParameter (typed : Bool)
  | anyParameter (typed : Bool)
  | starParameters (typed : Bool)
  /-- What is before an attribute or an element that is assigned to. -/
  | base
  | target
  | unstarredTarget
  | targets
  | deletedTarget
  | deletedTargets
  | singleTarget
  | assignment
  | simpleStatement
  | block
  | statement
  | handlers (ofGroups : Bool)
  | subject
  | casePattern
  | closedPattern
  | sequencePattern
  | patternMember
  deriving DecidableEq, Hashable

/-- At least as many as there are rules. -/
def Rule.count : Nat := 64

open Rule

/-! ## Tokens -/

def name : Pattern Rule := .token .name

def newline : Pattern Rule := .token .newline

/-- A name that other names may follow, each after a point. -/
def dottedName : Pattern Rule := separated "." name

def comparison : Pattern Rule :=
  firstOf ["==", "!=", "<=", "<", ">=", ">", all ["not", "in"], "in", all ["is", "not"], "is"]

def operator : Pattern Rule :=
  firstOf ["|", "^", "&", "<<", ">>", "+", "-", "*", "/", "//", "%", "@"]

/-- Assignments that combine. -/
def combination : Pattern Rule :=
  firstOf ["+=", "-=", "*=", "/=", "//=", "%=", "@=", "&=", "|=", "^=", ">>=", "<<=", "**="]

/-- A text; adjacent ones are one. -/
def texts : Pattern Rule := several (.token .text)

def constant : Pattern Rule := firstOf ["None", "True", "False"]

/-! ## Expressions -/

/-- An expression with an operator of assignment, which names its value. -/
def naming : Pattern Rule := all [name, ":=", expression]

def starredOperation : Pattern Rule := all ["*", operation]

def starredExpression : Pattern Rule := all ["*", expression]

/-- A key and its value. -/
def entry : Pattern Rule := all [expression, ":", expression]

/-- What starts with an opening parenthesis. -/
def parenthesized : Pattern Rule :=
  firstOf [
    all ["(", maybe [member, ",", maybe [members]], ")"],
    all ["(", firstOf [yielded, namedExpression], ")"],
    generator]

/-- What starts with an opening bracket. -/
def bracketed : Pattern Rule :=
  firstOf [all ["[", maybe [members], "]"], all ["[", namedExpression, loops, "]"]]

/-- What starts with an opening brace. -/
def braced : Pattern Rule :=
  firstOf [
    all ["\x7b", maybe [listedFreely (firstOf [all ["**", operation], entry])], "\x7d"],
    all ["\x7b", members, "\x7d"],
    all ["\x7b", entry, loops, "\x7d"],
    all ["\x7b", namedExpression, loops, "\x7d"]]

/-- One loop of a comprehension with its conditions. -/
def loop : Pattern Rule :=
  all [maybe ["async"], "for", targets, "in", disjunction, many (all ["if", disjunction])]

def sliceOf : Pattern Rule :=
  firstOf [
    all [maybe [expression], ":", maybe [expression], maybe [":", maybe [expression]]],
    namedExpression]

/-- An argument by name. -/
def namedArgument : Pattern Rule := all [name, "=", expression]

/-- Arguments from the first one by name or mapping on. -/
def namedArguments : Pattern Rule :=
  let namedOrStarred := firstOf [namedArgument, starredExpression]
  let namedOrMapping := firstOf [namedArgument, all ["**", expression]]
  firstOf [
    all [listed namedOrStarred, ",", listed namedOrMapping],
    listed namedOrStarred,
    listed namedOrMapping]

def argumentsOf : Pattern Rule :=
  let plain := firstOf [starredExpression, all [namedExpression, notAhead "="]]
  all [
    firstOf [all [listed plain, maybe [",", namedArguments]], namedArguments],
    maybe [","], ahead ")"]

/-! ## Parameters -/

/-- What ends a parameter. -/
def parameterEnd (typed : Bool) : Pattern Rule :=
  firstOf [",", ahead (if typed then ")" else ":")]

/-- The name of a parameter with its type. -/
def parameter (typed : Bool) : Pattern Rule :=
  if typed then all [name, maybe [":", expression]] else name

/-- Parameters that are not passed by name, up to the slash. -/
def slashed (typed : Bool) : Pattern Rule :=
  firstOf [
    all [several (plainParameter typed), "/", parameterEnd typed, many (plainParameter typed),
      many (defaultParameter typed)],
    all [many (plainParameter typed), several (defaultParameter typed), "/", parameterEnd typed,
      many (defaultParameter typed)]]

/-- A mapping of the arguments that are left. -/
def mappingParameter (typed : Bool) : Pattern Rule := all ["**", plainParameter typed]

def parametersOf (typed : Bool) : Pattern Rule :=
  firstOf [
    all [slashed typed, maybe [starParameters typed]],
    all [several (plainParameter typed), many (defaultParameter typed),
      maybe [starParameters typed]],
    all [several (defaultParameter typed), maybe [starParameters typed]],
    starParameters typed]

/-- A parameter for the arguments that are left and those passed by name only. The type of the
first one may be a starred expression. -/
def starParametersOf (typed : Bool) : Pattern Rule :=
  let others := maybe [mappingParameter typed]
  let rest := all [many (anyParameter typed), others]
  let starTyped := all ["*", name, ":", starredOperation, parameterEnd typed, rest]
  firstOf [
    all ["*", plainParameter typed, rest],
    if typed then starTyped else never,
    all ["*", ",", several (anyParameter typed), others],
    mappingParameter typed]

/-! ## Places -/

/-- What makes an attribute, an element or a call of what is before it. -/
def opensTrailer : Pattern Rule := firstOf ["(", "[", "."]

/-- An attribute or an element that is assigned to. -/
def memberTarget : Pattern Rule :=
  all [base, firstOf [all [".", name], all ["[", slices, "]"]], notAhead opensTrailer]

/-- What is assigned on the right. -/
def assigned : Pattern Rule := firstOf [yielded, expressions]

/-! ## Simple statements -/

/-- A name that is imported, and the name it gets. -/
def imported (path : Pattern Rule) : Pattern Rule := all [path, maybe ["as", name]]

def importing : Pattern Rule :=
  let dots := firstOf [".", "..."]
  let these := listed (imported name)
  firstOf [
    all ["import", listed (imported dottedName)],
    all ["from", firstOf [all [many dots, dottedName], several dots], "import",
      firstOf [all ["(", these, maybe [","], ")"], all [these, notAhead ","], "*"]]]

def simpleLine : Pattern Rule := all [separated ";" simpleStatement, maybe [";"], newline]

/-! ## Compound statements -/

def decorators : Pattern Rule := many (all ["@", namedExpression, newline])

def otherwise : Pattern Rule := all ["else", ":", block]

def lastly : Pattern Rule := all ["finally", ":", block]

def function : Pattern Rule :=
  all [decorators, maybe ["async"], "def", name, "(", maybe [parameters true], ")",
    maybe ["->", expression], ":", block]

def classDefinition : Pattern Rule :=
  all [decorators, "class", name, maybe ["(", maybe [arguments], ")"], ":", block]

def conditional : Pattern Rule :=
  all ["if", namedExpression, ":", block, many (all ["elif", namedExpression, ":", block]),
    maybe [otherwise]]

def whileLoop : Pattern Rule :=
  all ["while", namedExpression, ":", block, maybe [otherwise]]

def forLoop : Pattern Rule :=
  all [maybe ["async"], "for", targets, "in", expressions, ":", block, maybe [otherwise]]

def withResources : Pattern Rule :=
  let resource := firstOf [
    all [expression, "as", target, ahead (firstOf [",", ")", ":"])], expression]
  all [maybe ["async"], "with", firstOf [
    all ["(", listed resource, maybe [","], ")", ":", block],
    all [listed resource, ":", block]]]

def attempt : Pattern Rule :=
  let handled (ofGroups : Bool) :=
    all [several (handlers ofGroups), maybe [otherwise], maybe [lastly]]
  all ["try", ":", block, firstOf [lastly, handled false, handled true]]

/-- A handler of exceptions, or one of groups of exceptions. -/
def handlerOf (ofGroups : Bool) : Pattern Rule :=
  let caught := all [expression, maybe ["as", name], ":", block]
  if ofGroups then all ["except", "*", caught]
  else firstOf [all ["except", caught], all ["except", ":", block]]

/-! ## Selections -/

/-- A name that a value gets. -/
def capture : Pattern Rule := all [notAhead "_", name, notAhead (firstOf [".", "(", "="])]

/-- A number with its sign, or a sum of a real and an imaginary one. -/
def numberPattern : Pattern Rule :=
  let sign := firstOf ["+", "-"]
  firstOf [
    all [maybe ["-"], TokenKind.number, notAhead sign],
    all [maybe ["-"], TokenKind.numberThatIs false, sign, TokenKind.numberThatIs true]]

def literalPattern : Pattern Rule := firstOf [numberPattern, texts, constant]

/-- A value that has a name with a point. -/
def valueName : Pattern Rule := all [name, several (all [".", name])]

def starPattern : Pattern Rule := all ["*", firstOf [capture, "_"]]

def mappingPattern : Pattern Rule :=
  let entries := listed (all [firstOf [literalPattern, valueName], ":", casePattern])
  let others := all ["**", capture]
  all ["\x7b", firstOf [
    "\x7d",
    all [others, maybe [","], "\x7d"],
    all [entries, ",", others, maybe [","], "\x7d"],
    all [entries, maybe [","], "\x7d"]]]

def classPattern : Pattern Rule :=
  let plain := listed casePattern
  let named := listed (all [name, "=", casePattern])
  all [dottedName, "(", firstOf [
    ")",
    all [plain, maybe [","], ")"],
    all [named, maybe [","], ")"],
    all [plain, ",", named, maybe [","], ")"]]]

/-- Patterns with at least one comma. -/
def openSequence : Pattern Rule := all [patternMember, ",", maybe [sequencePattern]]

/-- One case of a selection. -/
def selected : Pattern Rule :=
  all ["case", firstOf [openSequence, casePattern], maybe ["if", namedExpression], ":", block]

/-- A selection by the form of a value. Its words are names elsewhere. -/
def selection : Pattern Rule :=
  all ["match", subject, ":", newline, TokenKind.indent, several selected, TokenKind.dedent]

/-! ## The rules -/

/-- What a rule describes. -/
def Rule.pattern : Rule → Pattern Rule
  | wholeModule => many statement
  | field => expressions
  | atom =>
    firstOf [name, constant, texts, TokenKind.number, "...", parenthesized, bracketed, braced]
  | generator => all ["(", namedExpression, loops, ")"]
  | loops => several loop
  | trailer =>
    firstOf [all [".", name], generator, all ["(", maybe [arguments], ")"],
      all ["[", slices, "]"]]
  | arguments => argumentsOf
  | slices =>
    firstOf [all [sliceOf, notAhead ","], listedFreely (firstOf [sliceOf, starredExpression])]
  | primary => all [maybe ["await"], atom, many trailer]
  | factor =>
    firstOf [all [firstOf ["+", "-", "~"], factor], all [primary, maybe ["**", factor]]]
  | operation => separated operator factor
  | negation => firstOf [all ["not", negation], separated comparison operation]
  | disjunction => separated (firstOf ["or", "and"]) negation
  | expression =>
    firstOf [
      all [disjunction, maybe ["if", disjunction, "else", expression]],
      all ["lambda", maybe [parameters false], ":", expression]]
  | namedExpression => firstOf [naming, all [expression, notAhead ":="]]
  | member => firstOf [starredOperation, namedExpression]
  | members => listedFreely member
  | expressions => listedFreely (firstOf [starredOperation, expression])
  | yielded => all ["yield", firstOf [all ["from", expression], maybe [expressions]]]
  | parameters typed => parametersOf typed
  | plainParameter typed => all [parameter typed, parameterEnd typed]
  | defaultParameter typed => all [parameter typed, "=", expression, parameterEnd typed]
  | anyParameter typed =>
    all [parameter typed, maybe ["=", expression], parameterEnd typed]
  | starParameters typed => starParametersOf typed
  | base => all [atom, ahead opensTrailer, many (all [trailer, ahead opensTrailer])]
  | target => firstOf [all ["*", notAhead "*", target], unstarredTarget]
  | unstarredTarget =>
    firstOf [memberTarget, name, all ["(", unstarredTarget, ")"],
      all ["(", maybe [target, firstOf [all [several (all [",", target]), maybe [","]], ","]],
        ")"],
      all ["[", maybe [listedFreely target], "]"]]
  | targets => listedFreely target
  | deletedTarget =>
    firstOf [memberTarget, name, all ["(", deletedTarget, ")"],
      all ["(", maybe [deletedTargets], ")"], all ["[", maybe [deletedTargets], "]"]]
  | deletedTargets => listedFreely deletedTarget
  | singleTarget => firstOf [memberTarget, name, all ["(", singleTarget, ")"]]
  | assignment =>
    firstOf [
      all [name, ":", expression, maybe ["=", assigned]],
      all [firstOf [all ["(", singleTarget, ")"], memberTarget], ":", expression,
        maybe ["=", assigned]],
      all [several (all [targets, "="]), assigned, notAhead "="],
      all [singleTarget, combination, assigned]]
  | simpleStatement =>
    firstOf [assignment, expressions, all ["return", maybe [expressions]], importing,
      all ["raise", maybe [expression, maybe ["from", expression]]], "pass",
      all ["del", deletedTargets, ahead (firstOf [";", newline])], yielded,
      all ["assert", expression, maybe [",", expression]], "break", "continue",
      all ["global", listed name], all ["nonlocal", listed name]]
  | block =>
    firstOf [all [newline, TokenKind.indent, several statement, TokenKind.dedent], simpleLine]
  | statement =>
    firstOf [function, conditional, classDefinition, withResources, forLoop, attempt, whileLoop,
      selection, simpleLine]
  | handlers ofGroups => handlerOf ofGroups
  | subject => firstOf [all [member, ",", maybe [members]], namedExpression]
  | casePattern =>
    firstOf [all [separated "|" closedPattern, "as", capture], separated "|" closedPattern]
  | closedPattern =>
    firstOf [literalPattern, capture, "_", all [valueName, notAhead (firstOf [".", "(", "="])],
      all ["(", casePattern, ")"], all ["[", maybe [sequencePattern], "]"],
      all ["(", maybe [openSequence], ")"], mappingPattern, classPattern]
  | sequencePattern => listedFreely patternMember
  | patternMember => firstOf [starPattern, casePattern]

/-- Whether tokens are a module. -/
def isModule (tokens : Array Token) : Bool :=
  matchEnd? Rule.pattern Rule.count wholeModule tokens == some tokens.size

/-- Whether tokens start with what may stand in a field. -/
def isField (tokens : Array Token) : Bool :=
  (matchEnd? Rule.pattern Rule.count field tokens).isSome

end WireModel.Output.Grammar
