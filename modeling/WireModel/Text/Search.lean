/-!
# Parts of texts

Whether a text occurs in another one, the order of texts by their characters, and how much two
texts have in common: the longest part that both have, and then what is common before it and
behind it. The measure finds what a mistyped word was meant to be.
-/

namespace WireModel.Text

/-! ## Occurrences -/

/-- Whether a list of characters occurs in another one. -/
def occursIn (part : List Char) : List Char → Bool
  | [] => part.isEmpty
  | c :: rest => part.isPrefixOf (c :: rest) || occursIn part rest

/-- Whether every part of the text ends with the given one. -/
def endsWith (cs suffix : List Char) : Bool := suffix.reverse.isPrefixOf cs.reverse

/-- Replaces every occurrence of a part of a text, from the left. -/
def replaceAll (old new : List Char) : List Char → List Char
  | [] => []
  | c :: rest =>
    if old.isPrefixOf (c :: rest) then
      new ++ replaceAll old new (rest.drop (old.length - 1))
    else c :: replaceAll old new rest
  termination_by cs => cs.length
  decreasing_by all_goals simp only [List.length_drop, List.length_cons]; omega

/-- Texts in increasing order of their characters, each once. -/
def sortedDistinct (texts : List String) : List String :=
  (texts.eraseDups).mergeSort fun a b => a ≤ b

theorem occursIn_append_left {part before after : List Char} :
    occursIn part (before ++ part ++ after) = true := by
  induction before with
  | nil =>
      cases part with
      | nil => cases after <;> simp [occursIn]
      | cons c rest => simp [occursIn, List.isPrefixOf_iff_prefix]
  | cons c rest ih => simp only [List.cons_append, occursIn, ih, Bool.or_true]

/-! ## Close texts -/

/-- The length of what two texts start with. -/
def commonPrefix : List Char → List Char → Nat
  | a :: as, b :: bs => if a == b then commonPrefix as bs + 1 else 0
  | _, _ => 0

/-- A part that two texts have in common: where it starts in each, and its length. -/
structure Common where
  first : Nat
  second : Nat
  size : Nat

/-- The longest common part; of several the one that starts first. -/
def longestCommon (as bs : List Char) : Common :=
  let starts := (List.range as.length).flatMap fun i => (List.range bs.length).map fun j => (i, j)
  starts.foldl (fun best (i, j) =>
    let size := commonPrefix (as.drop i) (bs.drop j)
    if best.size < size then ⟨i, j, size⟩ else best) ⟨0, 0, 0⟩

/-- The number of characters that two texts have in common. Every step takes a character of
the first text, so its length is enough fuel. -/
def commonCount : Nat → List Char → List Char → Nat
  | 0, _, _ => 0
  | fuel + 1, as, bs =>
    let common := longestCommon as bs
    if common.size = 0 then 0
    else
      commonCount fuel (as.take common.first) (bs.take common.second) + common.size +
        commonCount fuel (as.drop (common.first + common.size))
          (bs.drop (common.second + common.size))

/-- Whether three fifths of two texts are common. -/
def areClose (common total : Nat) : Bool := 3 * total ≤ 5 * (2 * common)

/-- Up to three of the candidates that are closest to a text, in order of their characters. -/
def closest (text : String) (candidates : List String) : List String :=
  let measured := candidates.map fun candidate =>
    (commonCount candidate.length candidate.toList text.toList, candidate.length + text.length,
      candidate)
  let close := measured.filter fun (common, total, _) => areClose common total
  let sorted := close.mergeSort fun (c, t, s) (d, u, r) =>
    d * t < c * u || (d * t == c * u && r ≤ s)
  sortedDistinct ((sorted.take 3).map fun (_, _, candidate) => candidate)

theorem commonPrefix_self (cs : List Char) : commonPrefix cs cs = cs.length := by
  induction cs with
  | nil => rfl
  | cons c rest ih => simp [commonPrefix, ih]

end WireModel.Text
