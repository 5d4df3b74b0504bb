import WireModel.Files.Place

/-!
# File trees

Files and directories as a value. `at?` looks up a path without `..`; `resolve` follows any path
step by step and finds such a path for it, as everything on the way has to exist.
-/

namespace WireModel.Files

/-- A file or a directory. -/
inductive Tree where
  | file (content : List UInt8)
  | directory (members : List (String × Tree))
  deriving Inhabited

/-- Why a path leads nowhere. -/
inductive Fault where
  | missing
  | isDirectory
  | notDirectory
  | alreadyThere
  | nameTooLong
  /-- No path has a NUL character. -/
  | nullCharacter
  deriving DecidableEq

def Fault.message : Fault → String
  | .missing => "[Errno 2] No such file or directory"
  | .isDirectory => "[Errno 21] Is a directory"
  | .notDirectory => "[Errno 20] Not a directory"
  | .alreadyThere => "[Errno 17] File exists"
  | .nameTooLong => "[Errno 36] File name too long"
  | .nullCharacter => "embedded null byte"

namespace Tree

/-! ## Looking up -/

def isDirectory : Tree → Bool
  | .directory _ => true
  | .file _ => false

/-- The member of a directory. -/
def member? (t : Tree) (name : String) : Option Tree :=
  match t with
  | .directory members => members.lookup name
  | .file _ => none

/-- What is at a path without `..`. -/
def at? (t : Tree) : Place → Option Tree
  | [] => some t
  | part :: rest => (t.member? part).bind fun child => child.at? rest

/-- Follows a path from a directory on. -/
def resolveFrom (root : Tree) (here : Place) : Place → Except Fault Place
  | [] => .ok here
  | part :: rest =>
    match root.at? here with
    | some (.directory _) =>
      if part == ".." then resolveFrom root here.dropLast rest
      else if Place.isTooLong part then .error .nameTooLong
      else if (root.at? (here ++ [part])).isSome then resolveFrom root (here ++ [part]) rest
      else .error .missing
    | _ => .error .notDirectory

/-- The path without `..` to what a path leads to. -/
def resolve (root : Tree) (place : Place) : Except Fault Place :=
  if place.hasNull then .error .nullCharacter else root.resolveFrom [] place

/-- What a path leads to. -/
def find (root : Tree) (place : Place) : Except Fault Tree :=
  match root.resolve place with
  | .error fault => .error fault
  | .ok here =>
    match root.at? here with
    | some t => .ok t
    | none => .error .missing

/-- Whether a path leads to anything. -/
def hasPlace (root : Tree) (place : Place) : Bool :=
  match root.find place with
  | .ok _ => true
  | .error _ => false

/-- Whether a path leads to anything, where a name that is too long is no answer. -/
def probe (root : Tree) (place : Place) : Except Fault Bool :=
  match root.find place with
  | .ok _ => .ok true
  | .error .nameTooLong => .error .nameTooLong
  | .error _ => .ok false

/-- The content of the file that a path leads to. -/
def read (root : Tree) (place : Place) : Except Fault (List UInt8) :=
  match root.find place with
  | .error fault => .error fault
  | .ok (.file content) => .ok content
  | .ok (.directory _) => .error .isDirectory

/-! ## Changing -/

/-- Puts a member into a list of members: in its place if it is there, otherwise at the end. -/
def putMember (name : String) (t : Tree) : List (String × Tree) → List (String × Tree)
  | [] => [(name, t)]
  | (n, old) :: rest => if n == name then (n, t) :: rest else (n, old) :: putMember name t rest

/-- Puts something at a path without `..`; what is not a directory has no members. -/
def put (new : Tree) (t : Tree) : Place → Tree
  | [] => new
  | part :: rest =>
    match t with
    | .file content => .file content
    | .directory members =>
      let child := (members.lookup part).getD (.directory [])
      .directory (putMember part (put new child rest) members)

/-- Makes a directory in one that exists. The path is given backwards. -/
def makeDirectory (root : Tree) : List String → Except Fault Tree
  | [] => .error .alreadyThere
  | name :: above =>
    if Place.hasNull [name] then .error .nullCharacter
    else match root.resolve above.reverse with
    | .error fault => .error fault
    | .ok here =>
      match root.at? here with
      | some (.directory _) =>
        if Place.isTooLong name then .error .nameTooLong
        else if name == ".." || (root.at? (here ++ [name])).isSome then .error .alreadyThere
        else .ok (put (.directory []) root (here ++ [name]))
      | _ => .error .notDirectory

/-- Takes away what is at a path without `..`. -/
def remove (t : Tree) : Place → Tree
  | [] => t
  | [name] =>
    match t with
    | .file content => .file content
    | .directory members => .directory (members.filter fun entry => entry.1 != name)
  | part :: below =>
    match t with
    | .file content => .file content
    | .directory members =>
      match members.lookup part with
      | none => .directory members
      | some child => .directory (putMember part (child.remove below) members)

/-- Where a file of a path belongs: the directory has to exist. -/
def destination (root : Tree) (place : Place) : Except Fault Place :=
  if place.hasNull then .error .nullCharacter
  else match root.resolve place.dropLast with
  | .error fault => .error fault
  | .ok here =>
    match root.at? here with
    | some (.directory _) =>
      if Place.isTooLong place.name then .error .nameTooLong
      else if place.name == ".." || place.isEmpty then .error .isDirectory
      else .ok (here ++ [place.name])
    | _ => .error .notDirectory

/-- Writes a file into a directory that exists, in place of a file of its name. -/
def write (root : Tree) (place : Place) (content : List UInt8) : Except Fault Tree :=
  match root.destination place with
  | .error fault => .error fault
  | .ok here =>
    match root.at? here with
    | some (.directory _) => .error .isDirectory
    | _ => .ok (put (.file content) root here)

/-- Makes an empty file where there is nothing yet: its path without `..`, and the changed tree. -/
def create (root : Tree) (place : Place) : Except Fault (Place × Tree) :=
  match root.destination place with
  | .error fault => .error fault
  | .ok here =>
    if (root.at? here).isSome then .error .alreadyThere
    else .ok (here, put (.file []) root here)

/-- Moves a file, which takes the place of another one. The source is a path without `..`. -/
def replace (root : Tree) (source target : Place) : Except Fault Tree :=
  match root.at? source with
  | some (.file content) => (root.remove source).write target content
  | some (.directory _) => .error .isDirectory
  | none => .error .missing

/-! ## Listing -/

mutual

/-- Everything below a directory: the path of each file with its content, and of each
directory. -/
def listing (above : Place) : Tree → List (Place × Option (List UInt8))
  | .file _ => []
  | .directory members => listMembers above members

def listMembers (above : Place) : List (String × Tree) → List (Place × Option (List UInt8))
  | [] => []
  | (name, .file content) :: rest => (above ++ [name], some content) :: listMembers above rest
  | (name, .directory members) :: rest =>
    (above ++ [name], none) :: listMembers (above ++ [name]) members ++ listMembers above rest

end

/-- Everything below a place in the order of its paths from there, which are written as texts. -/
def contents (root : Tree) (place : Place) : List (String × Option (List UInt8)) :=
  let entries := ((root.at? place).map (listing [])).getD []
  (entries.map fun (below, content) => (String.intercalate "/" below, content)).mergeSort
    fun a b => a.1 ≤ b.1

/-- Puts a file, or a directory without a content, at a place with all directories above it. A
directory that is there stays as it is. -/
def plant (root : Tree) (place : Place) (content : Option (List UInt8)) : Tree :=
  match root.at? place, content with
  | some (.directory _), _ => root
  | some (.file _), none => root
  | _, some octets => put (.file octets) root place
  | none, none => put (.directory []) root place

/-! ## Laws -/

theorem lookup_putMember (name : String) (t : Tree) (members : List (String × Tree)) :
    (putMember name t members).lookup name = some t := by
  induction members with
  | nil => simp [putMember]
  | cons entry rest ih =>
      obtain ⟨n, old⟩ := entry
      simp only [putMember]
      by_cases h : n = name
      · subst h; simp
      · have : (name == n) = false := by simpa [beq_eq_false_iff_ne] using fun e => h e.symm
        simp [h, List.lookup_cons, this, ih]

theorem lookup_putMember_of_ne {name other : String} (h : other ≠ name) (t : Tree)
    (members : List (String × Tree)) :
    (putMember name t members).lookup other = members.lookup other := by
  induction members with
  | nil =>
      have : (other == name) = false := by simpa [beq_eq_false_iff_ne] using h
      simp [putMember, List.lookup_cons, this]
  | cons entry rest ih =>
      obtain ⟨n, old⟩ := entry
      simp only [putMember]
      by_cases same : n = name
      · subst same
        have : (other == n) = false := by simpa [beq_eq_false_iff_ne] using h
        simp [List.lookup_cons, this]
      · simp [same, List.lookup_cons, ih]

theorem find_root (root : Tree) : root.find [] = .ok root := rfl

end Tree
end WireModel.Files
