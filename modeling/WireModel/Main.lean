import WireModel.Command.Run

/-!
# The command line

The outer layer: the paths that the words of a command line mention are read into a file tree,
the command runs on it, and what it changed is written back.
-/

namespace WireModel.Main

open Files (Place Tree)

/-- The texts in a word that may be paths. -/
def mentioned (word : String) : List String :=
  [word, String.ofList (word.toList.drop 2)] ++ ((Command.splitAssignment word).2).toList

/-- What is at a path of the disk. -/
def readDisk (place : Place) : IO (Option Tree) := do
  let path ← try some <$> IO.FS.realPath place.render catch _ => pure none
  match path with
  | none => return none
  | some path =>
    if ← path.isDir then return some (.directory [])
    else
      try return some (.file (← IO.FS.readBinFile path).toList) catch _ => return none

/-- Adds a path of the disk with all directories above it to a tree. -/
def addPath (tree : Tree) (place : Place) : IO Tree := do
  let mut tree := tree
  for n in List.range (place.length + 1) do
    let here := place.take n
    if (tree.at? here).isNone then
      if let some found ← readDisk here then tree := Tree.put found tree here
  return tree

/-- Writes what is new in a tree to the disk. -/
def writeBack (before after : Tree) : IO Unit := do
  for (place, content) in after.listing [] do
    match content, before.at? place with
    | none, some (.directory _) => pure ()
    | none, _ => IO.FS.createDirAll place.render
    | some content, some (.file old) =>
      unless content == old do IO.FS.writeBinFile place.render ⟨content.toArray⟩
    | some content, _ => IO.FS.writeBinFile place.render ⟨content.toArray⟩

end WireModel.Main

open WireModel in
def main (words : List String) : IO UInt32 := do
  let directory := Files.Place.parts (← IO.currentDir).toString
  let mut tree ← Main.addPath (.directory []) directory
  for text in words.flatMap Main.mentioned do
    tree ← Main.addPath tree (Files.Place.ofText directory text).simplify
  let outcome := Command.run ⟨tree, directory⟩ words
  for warning in outcome.warnings do
    IO.eprintln ("WARNING " ++ warning.message)
  Main.writeBack tree outcome.tree
  if let some message := outcome.unexpected then IO.eprintln message
  if outcome.exitCode == 0 then IO.print outcome.output else IO.eprint outcome.output
  return outcome.exitCode.toUInt32
