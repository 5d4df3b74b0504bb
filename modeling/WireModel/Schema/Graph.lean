import WireModel.Schema.Parsing

/-!
# The schemas of a document

Every named schema of a document in declaration order. The root of a document that declares
properties itself is a schema too and comes first.
-/

namespace WireModel.Schema

/-- The named schemas of a document. -/
structure Graph where
  /-- The name of the root model; empty when the root is not a model. -/
  rootName : String
  /-- The pointer of the container of the named schemas. -/
  container : String
  /-- The name of the document in messages. -/
  source : String
  definitions : List (String × Node)

namespace Graph

/-- The schema of a name. -/
def get? (graph : Graph) (name : String) : Option Node := graph.definitions.lookup name

/-- Whether a schema has the name. -/
def contains (graph : Graph) (name : String) : Bool := (graph.get? name).isSome

end Graph

/-- The value at keys into a value; null stands for none. -/
def descend (value : Value) : List String → Option Value
  | [] => if value.isNull then none else some value
  | key :: keys =>
    match value with
    | .map entries => (Value.lookup key entries).bind fun v => descend v keys
    | _ => none

/-- The first container that the document has, with its pointer and its members. -/
def findContainer (document : Value) : Except Fault (String × Members) :=
  match containers.findSome? fun c => (descend document c).map fun v => (containerPath c, v) with
  | none => .ok (containerPath ["components", "schemas"], [])
  | some (path, .map entries) => .ok (path, entries)
  | some (path, _) => .error ⟨path, .containerNotObject⟩

/-- The name of the root model, if the root of the document is one: the requested name, the
title of the document, or `Root`. -/
def rootNameOf (members : Members) (requested : Option String) : Option String :=
  if Value.hasKey "openapi" members || Value.hasKey "swagger" members then none
  else if Value.hasKey "properties" members || !(combinationsOf members).isEmpty then
    let title := (textOf "title" members).filter (!·.isEmpty)
    some (Naming.className ((requested.filter (!·.isEmpty)).getD (title.getD "Root")))
  else none

/-- Entries of a container that are no schemas: texts, and comments. -/
def isComment (entry : Value × Value) : Bool :=
  entry.2.asStr?.isSome || "_comment".toList.isPrefixOf entry.1.keyText.toList

/-- Reads a named schema. -/
def readDefinition (root : Option String) (container : String) (entry : Value × Value) :
    Reading (String × Node) := do
  match entry.1.asStr? with
  | none => .failAbout entry.1 container (.schemaName entry.1)
  | some name =>
    if name.isEmpty then .fail container (.schemaName entry.1)
    else return (name, ← parse root entry.2 (container ++ "/" ++ Pointer.escape name))

/-- The schemas of a document. -/
def Graph.ofDocument (document : Value) (requested : Option String) (source : String) :
    Reading Graph := do
  match document with
  | .map members =>
    let (container, entries) ← liftExcept (findContainer document)
    let root := rootNameOf members requested
    let definitions ← (entries.filter (!isComment ·)).mapM (readDefinition root container)
    match root with
    | none => return ⟨"", container, source, definitions⟩
    | some name =>
      if definitions.any (·.1 == name) then .fail "#" (.rootCollision name)
      else
        let node ← parse root document "#"
        return ⟨name, container, source, (name, node) :: definitions⟩
  | _ => .fail source .documentNotObject
where
  liftExcept {α : Type} : Except Fault α → Reading α
    | .ok a => pure a
    | .error fault => throw fault

end WireModel.Schema
