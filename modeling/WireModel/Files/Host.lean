import WireModel.Files.Tree

/-!
# The host of a file tree

A tree says what a call to the operating system finds and does. The host may refuse a call that the
tree allows, for want of a permission or of space, and it chooses the random part of the names of
temporary files. A call that is refused changes nothing, except that a text may be in its temporary
file in part. Taking away a temporary file that was just made is never refused.
-/

namespace WireModel.Files

/-- A call that may be refused. -/
inductive Call where
  /-- Tells what is at a path. -/
  | look (place : Place)
  | read (place : Place)
  | makeDirectory (place : Place)
  /-- Makes an empty file where there is none. -/
  | create (place : Place)
  /-- Writes a text into a temporary file. -/
  | fill (place : Place)
  | replace (source target : Place)
  /-- Opens a file to be written, which makes or empties it. -/
  | overwrite (place : Place)

/-- Why a host refuses a call. -/
structure Refusal where
  number : Nat
  text : String

def Refusal.message (refusal : Refusal) : String :=
  "[Errno " ++ Decimal.ofNat refusal.number ++ "] " ++ refusal.text

/-- What a host decides in addition to the tree. -/
structure Host where
  refuses : Tree → Call → Option Refusal
  /-- What is in a file when a text could not be written to its end. -/
  torn : List UInt8 → List UInt8
  /-- The random part of the name of a temporary file; later attempts have smaller numbers. -/
  random : Tree → Nat → String

namespace Host

/-- The length of the random part of the name of a temporary file. -/
def randomLength : Nat := 8

/-- A host that refuses nothing. -/
def plain : Host where
  refuses _ _ := none
  torn := id
  random _ attempt :=
    let digits := (Decimal.ofNat attempt).toList
    String.ofList (List.replicate (randomLength - digits.length) '0' ++ digits)

/-- Whether a path leads to anything that the host lets see. -/
def sees (host : Host) (t : Tree) (place : Place) : Bool :=
  (host.refuses t (.look place)).isNone && t.hasPlace place

end Host
end WireModel.Files
