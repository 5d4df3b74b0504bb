import WireModel.Document
import WireModel.Files.Tree

/-!
# Document files

The name of a document file tells its format: YAML if it ends in `.yaml` or `.yml` in either
case, and JSON otherwise.
-/

namespace WireModel.Files

/-- The format of the document file of a path. -/
def formatOf (place : Place) : Format :=
  let suffix := String.ofList (place.suffix.toList.map Char.toLower)
  if suffix == ".yaml" || suffix == ".yml" then .yaml else .json

/-- The value of a document file. -/
def readDocument (root : Tree) (place : Place) : Except Schema.Fault Value := do
  let source := place.render
  match root.read place with
  | .error .nullCharacter => throw ⟨source, .nullCharacter⟩
  | .error fault =>
    throw ⟨source, .unreadable (fault.message ++ ": " ++ Text.quoted source)⟩
  | .ok content =>
    let text ← Document.decode content source
    Document.readText text source (some (formatOf place))

theorem readDocument_of_fault {root : Tree} {place : Place} {fault : Fault}
    (h : root.read place = .error fault) (hn : fault ≠ .nullCharacter) :
    readDocument root place =
      .error ⟨place.render, .unreadable (fault.message ++ ": " ++ Text.quoted place.render)⟩ := by
  cases fault <;> first | exact absurd rfl hn | (simp only [readDocument, h]; rfl)

end WireModel.Files
