import WireModel.Document
import WireModel.Emit.Module
import WireModel.Emit.Report
import WireModel.Schema.Graph
import WireModel.Table.Build
import WireModel.Types.Resolution

/-!
# Generation

From a document to the text that is generated from it, stage by stage: the schemas of the
document, their types, the table of models, the contracts, and the text. A stage either gives
all of its result or the first fault, so no text is made from a part of a document.
-/

namespace WireModel

/-- The languages of generated text. -/
inductive Language where
  /-- A module of classes, decoders and encoders. -/
  | python
  /-- The report of models and contracts. -/
  | report
  deriving DecidableEq

namespace Language

def name : Language → String
  | .python => "python"
  | .report => "ir"

def all : List Language := [.python, .report]

def ofName? (name : String) : Option Language := all.find? (·.name == name)

/-- The message about a name that no language has. -/
def unknownMessage (name : String) : String :=
  "Unknown language " ++ Text.quoted name ++ ", expected one of " ++
    String.intercalate ", " (all.map Language.name)

theorem mem_all (language : Language) : language ∈ all := by
  cases language <;> simp [all]

theorem ofName?_name (language : Language) : ofName? language.name = some language := by
  cases language <;> rfl

end Language

/-- A document to read, what messages call it, and the name that is asked for its root. -/
structure Source where
  document : Document
  name : String
  rootName : Option String

/-- What to generate. -/
structure Request where
  source : Source
  options : Options
  language : Language
  /-- The command that makes the text again, for the comment at its top. -/
  commandLine : Option String

/-- All that one generation makes. -/
structure Generation where
  graph : Schema.Graph
  definitions : List (String × Types.Definition)
  table : Table
  contracts : Contracts
  text : String

namespace Generation

/-- Why there is no text: the fault of a stage. -/
inductive Fault where
  | schema (fault : Schema.Fault)
  | types (fault : Types.Fault)
  | table (fault : Table.Fault)
  | contract (fault : Contract.Fault)
  | emission (fault : Emit.Fault)

def Fault.message : Fault → String
  | .schema fault => fault.message
  | .types fault => fault.message
  | .table fault => fault.message
  | .contract fault => fault.message
  | .emission fault => fault.message

/-- A stage as a part of a generation. -/
def stage {ε α : Type} (cause : ε → Fault) (result : Logged ε α) : Logged Fault α :=
  ExceptT.adapt cause result

/-- A stage that never warns as a part of a generation. -/
def quietStage {ε α : Type} (cause : ε → Fault) (result : Except ε α) : Logged Fault α :=
  ExceptT.mk (pure (result.mapError cause))

/-! ## Stages -/

/-- The schemas of a source. -/
def graphOf (source : Source) : Logged Fault Schema.Graph := do
  let value ← quietStage .schema (source.document.read source.name)
  stage .schema (Schema.Graph.ofDocument value source.rootName source.name)

/-- The types of schemas. -/
def definitionsOf (graph : Schema.Graph) : Logged Fault (List (String × Types.Definition)) :=
  stage .types (Types.resolve graph)

/-- The table of types. -/
def tableOf (options : Options) (definitions : List (String × Types.Definition)) :
    Logged Fault Table :=
  quietStage .table (Table.build options definitions)

/-- The contracts of a table. -/
def contractsOf (table : Table) : Logged Fault Contracts := stage .contract (Contract.derive table)

/-! ## Text -/

/-- What generated files say near their top. -/
def marker : String := "Generated by openapi_model_gen"

/-- The version that generated files name. -/
def version : String := "1.0.1"

/-- The name of the program in command lines. -/
def programName : String := "openapi_model_gen"

/-- The command line that a comment names. -/
def commandLineOf (request : Request) : String :=
  (request.commandLine.filter (!·.isEmpty)).getD programName

/-- The comment at the top of generated text. -/
def commentOf (request : Request) : String :=
  if request.options.comment.isTruthy then
    marker ++ " v" ++ version ++ " : " ++ commandLineOf request ++
      "\nDO NOT EDIT: changes are lost on regeneration."
  else ""

/-- The text of a table and its contracts. -/
def textOf (request : Request) (table : Table) (contracts : Contracts) : Except Emit.Fault String :=
  match request.language with
  | .python =>
    Emit.moduleText request.options.futureAnnotations.isTruthy (commentOf request) table contracts
  | .report => Emit.reportText (commentOf request) table contracts

/-- Runs all stages. -/
def run (request : Request) : Logged Fault Generation := do
  let graph ← graphOf request.source
  let definitions ← definitionsOf graph
  let table ← tableOf request.options definitions
  let contracts ← contractsOf table
  let text ← quietStage .emission (textOf request table contracts)
  return ⟨graph, definitions, table, contracts, text⟩

theorem commentOf_of_not_truthy {request : Request}
    (h : request.options.comment.isTruthy = false) : commentOf request = "" := by
  simp [commentOf, h]

end Generation
end WireModel
