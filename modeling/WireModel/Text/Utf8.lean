import WireModel.Text.Hex
import WireModel.Decimal.Text

/-!
# UTF-8

Octets to text. A malformed sequence is described by its place and by what is wrong with it;
its extent is the longest part that some well-formed sequence starts with.
-/

namespace WireModel.Text.Utf8

-- powers are those of the core library, whatever else is in scope
attribute [local instance (high)] instPowNat

/-- What is wrong with a sequence of octets. -/
inductive Fault where
  | invalidStart
  | invalidContinuation
  | unexpectedEnd
  deriving DecidableEq

def Fault.message : Fault → String
  | .invalidStart => "invalid start byte"
  | .invalidContinuation => "invalid continuation byte"
  | .unexpectedEnd => "unexpected end of data"

/-- The first character of a list of octets with the number of octets it takes, or the fault
with the number of octets that it spoils. -/
inductive Step where
  | char (c : Char) (size : Nat)
  | fault (f : Fault) (size : Nat)

/-- Octets after the first of a sequence. -/
def isContinuation (b : UInt8) : Bool := 0x80 ≤ b && b < 0xC0

/-- The least and the greatest second octet after a first one. -/
def secondRange (first : UInt8) : UInt8 × UInt8 :=
  if first == 0xE0 then (0xA0, 0xBF)
  else if first == 0xED then (0x80, 0x9F)
  else if first == 0xF0 then (0x90, 0xBF)
  else if first == 0xF4 then (0x80, 0x8F)
  else (0x80, 0xBF)

/-- The length of the sequence that an octet starts. -/
def sequenceLength (first : UInt8) : Nat :=
  if first < 0x80 then 1
  else if first < 0xC2 then 0
  else if first < 0xE0 then 2
  else if first < 0xF0 then 3
  else if first < 0xF5 then 4
  else 0

/-- The payload of the octets after the first. -/
def payload (start : Nat) (octets : List UInt8) : Nat :=
  octets.foldl (fun n b => n * 64 + b.toNat % 64) start

/-- Reads the first character. -/
def step (first : UInt8) (rest : List UInt8) : Step :=
  let (low, high) := secondRange first
  let good (i : Nat) (b : UInt8) : Bool := if i == 0 then low ≤ b && b ≤ high else isContinuation b
  match sequenceLength first with
  | 0 => .fault .invalidStart 1
  | 1 => .char (Char.ofNat first.toNat) 1
  | n + 1 =>
    let tail := rest.take n
    let sound := (tail.zipIdx.takeWhile fun (b, i) => good i b).length
    if sound < tail.length then .fault .invalidContinuation (sound + 1)
    else if tail.length < n then .fault .unexpectedEnd (tail.length + 1)
    else .char (Char.ofNat (payload (first.toNat % 2 ^ (6 - n)) tail)) (n + 1)

/-- A malformed text: where the fault is, and the octets it spoils. -/
structure Malformed where
  position : Nat
  octets : List UInt8
  fault : Fault

def Malformed.message (m : Malformed) : String :=
  let place :=
    match m.octets with
    | [b] => "byte 0x" ++ String.ofList (hex 2 b.toNat) ++ " in position " ++
        Decimal.ofNat m.position
    | bs => "bytes in position " ++ Decimal.ofNat m.position ++ "-" ++
        Decimal.ofNat (m.position + bs.length - 1)
  "'utf-8' codec can't decode " ++ place ++ ": " ++ m.fault.message

/-- The characters of a list of octets; `read` holds those read so far, last one first. -/
def decodeFrom : Nat → Nat → List UInt8 → List Char → Except Malformed (List Char)
  | 0, _, _, read => .ok read.reverse
  | _, _, [], read => .ok read.reverse
  | fuel + 1, position, first :: rest, read =>
    match step first rest with
    | .char c size => decodeFrom fuel (position + size) (rest.drop (size - 1)) (c :: read)
    | .fault f size => .error ⟨position, (first :: rest).take size, f⟩

/-- The text that a list of octets encodes. -/
def decode (octets : List UInt8) : Except Malformed String :=
  (decodeFrom octets.length 0 octets []).map String.ofList

/-- The characters of a list of octets, with U+FFFD for each malformed part. -/
def decodeLossyFrom : Nat → List UInt8 → List Char
  | 0, _ => []
  | _, [] => []
  | fuel + 1, first :: rest =>
    match step first rest with
    | .char c size => c :: decodeLossyFrom fuel (rest.drop (size - 1))
    | .fault _ size => Char.ofNat 0xFFFD :: decodeLossyFrom fuel (rest.drop (size - 1))

def decodeLossy (octets : List UInt8) : List Char := decodeLossyFrom octets.length octets

/-- The octets of a text. -/
def encode (s : String) : List UInt8 := s.toUTF8.toList

end WireModel.Text.Utf8
