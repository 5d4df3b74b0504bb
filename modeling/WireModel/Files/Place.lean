import WireModel.Pointer
import WireModel.Text.Search

/-!
# Paths

A path is a list of parts between slashes; empty parts and single dots say nothing. A part `..`
leads back to the directory above. Paths are taken from the root of the file tree, and a text
that does not start with a slash from a directory that is given with it.
-/

namespace WireModel.Files

/-- The parts of a path. -/
abbrev Place := List String

namespace Place

/-- The parts of a text. -/
def parts (text : String) : Place :=
  ((Pointer.splitSlash text.toList).map String.ofList).filter fun part =>
    !part.isEmpty && part != "."

/-- Whether a text is a path from the root. -/
def isAbsolute (text : String) : Bool := ['/'].isPrefixOf text.toList

/-- The path that a text means in a directory. -/
def ofText (directory : Place) (text : String) : Place :=
  if isAbsolute text then parts text else directory ++ parts text

/-- A path as text. -/
def render (place : Place) : String := "/" ++ String.intercalate "/" place

/-- The last part of a path; the root has none. -/
def name (place : Place) : String := place.getLast?.getD ""

/-- Whether a part has a NUL character, which no path may have. -/
def hasNull (place : Place) : Bool := place.any fun part => part.toList.contains (Char.ofNat 0)

/-- The most octets that a part may have. -/
def maxPartSize : Nat := 255

/-- Whether a part is too long for the name of a file or a directory. -/
def isTooLong (part : String) : Bool := maxPartSize < part.utf8ByteSize

/-- Takes every part `..` together with the part before it. -/
def simplify (place : Place) : Place :=
  place.foldl (fun before part => if part == ".." then before.dropLast else before ++ [part]) []

/-- What a name ends with from its last dot on, if the dot is neither its first nor its last
character. -/
def suffix (place : Place) : String :=
  let reversed := place.name.toList.reverse
  let ending := reversed.takeWhile (· != '.')
  match reversed.dropWhile (· != '.') with
  | '.' :: _ :: _ => if ending.isEmpty then "" else String.ofList ('.' :: ending.reverse)
  | _ => ""

theorem simplify_of_not_mem {place : Place} (h : ".." ∉ place) : simplify place = place := by
  have fold (before : Place) :
      place.foldl (fun before part => if part == ".." then before.dropLast else before ++ [part])
        before = before ++ place := by
    induction place generalizing before with
    | nil => simp
    | cons part rest ih =>
        simp only [List.mem_cons, not_or] at h
        have differs : (part == "..") = false := by
          simp only [beq_eq_false_iff_ne]; exact fun e => h.1 e.symm
        rw [List.foldl_cons, ih h.2]
        simp [differs]
  simpa [simplify] using fold []

end Place
end WireModel.Files
