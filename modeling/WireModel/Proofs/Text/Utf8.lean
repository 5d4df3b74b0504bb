import Mathlib.Algebra.Group.Nat.Defs
import Mathlib.Data.List.TakeWhile
import WireModel.Text.Utf8

/-!
# UTF-8 is read as it is written

The decoder takes a character exactly from the octets that encode it.

* **`spells_iff`**: the octets that one step takes for a character, told by their numbers, are its
  encoding.
* **`decode_encode`**, **`encode_of_decode`**: a text is read from its octets, and from no others.
* **`decodeLossy_encode`**: the reader that goes past malformed octets reads the same text.
* **`decode_take`**: octets that end inside of a character are malformed at that character, and by
  their end alone.
-/

namespace WireModel.Text.Utf8

open String (utf8EncodeChar)

/-! ## The octets of a character -/

/-- Whether an octet may stand at a place behind the first one. -/
def fits (first : UInt8) (i : Nat) (b : UInt8) : Bool :=
  if i == 0 then (secondRange first).1 ≤ b && b ≤ (secondRange first).2 else isContinuation b

/-- The number that octets stand for. -/
def number (first : UInt8) : List UInt8 → Nat
  | [] => first.toNat
  | tail => payload (first.toNat % 2 ^ (6 - tail.length)) tail

/-- The octets that are read as a character: as many as the first one says, each in its range. -/
structure Spells (first : UInt8) (tail : List UInt8) (c : Char) : Prop where
  length : sequenceLength first = tail.length + 1
  fits : ∀ i b, tail[i]? = some b → fits first i b = true
  number : c.toNat = number first tail

theorem sequenceLength_iff {first : UInt8} {n : Nat} :
    sequenceLength first = n + 1 ↔
      (n = 0 ∧ first.toNat < 0x80) ∨ (n = 1 ∧ 0xC2 ≤ first.toNat ∧ first.toNat < 0xE0) ∨
      (n = 2 ∧ 0xE0 ≤ first.toNat ∧ first.toNat < 0xF0) ∨
      (n = 3 ∧ 0xF0 ≤ first.toNat ∧ first.toNat < 0xF5) := by
  unfold sequenceLength
  simp only [UInt8.lt_iff_toNat_lt, UInt8.reduceToNat]
  split
  · omega
  split
  · omega
  split
  · omega
  split
  · omega
  split
  · omega
  · omega

theorem fits_later {first b : UInt8} {i : Nat} :
    fits first (i + 1) b = true ↔ 0x80 ≤ b.toNat ∧ b.toNat < 0xC0 := by
  change isContinuation b = true ↔ _
  rw [isContinuation, Bool.and_eq_true, decide_eq_true_iff, decide_eq_true_iff,
    UInt8.le_iff_toNat_le, UInt8.lt_iff_toNat_lt]
  rfl

/-- The second octet keeps the number from being one of fewer octets, a surrogate or too large. -/
theorem fits_second_iff {first b : UInt8} :
    fits first 0 b = true ↔ 0x80 ≤ b.toNat ∧ b.toNat < 0xC0 ∧
      (first.toNat = 0xE0 → 0xA0 ≤ b.toNat) ∧ (first.toNat = 0xED → b.toNat < 0xA0) ∧
      (first.toNat = 0xF0 → 0x90 ≤ b.toNat) ∧ (first.toNat = 0xF4 → b.toNat < 0x90) := by
  have eqs (n : UInt8) : (first == n) = true ↔ first.toNat = n.toNat := by
    rw [beq_iff_eq, UInt8.toNat_inj]
  unfold fits secondRange
  rw [beq_self_eq_true, if_pos rfl, Bool.and_eq_true, decide_eq_true_iff, decide_eq_true_iff,
    UInt8.le_iff_toNat_le, UInt8.le_iff_toNat_le]
  simp only [eqs, UInt8.reduceToNat]
  split
  · simp only [UInt8.reduceToNat]
    omega
  split
  · simp only [UInt8.reduceToNat]
    omega
  split
  · simp only [UInt8.reduceToNat]
    omega
  split
  · simp only [UInt8.reduceToNat]
    omega
  · simp only [UInt8.reduceToNat]
    omega

theorem number_two (first x : UInt8) :
    number first [x] = first.toNat % 32 * 64 + x.toNat % 64 := rfl

theorem number_three (first x y : UInt8) :
    number first [x, y] = (first.toNat % 16 * 64 + x.toNat % 64) * 64 + y.toNat % 64 := rfl

theorem number_four (first x y z : UInt8) :
    number first [x, y, z] =
      ((first.toNat % 8 * 64 + x.toNat % 64) * 64 + y.toNat % 64) * 64 + z.toNat % 64 := rfl

theorem utf8EncodeChar_of_spells {first : UInt8} {tail : List UInt8} {c : Char}
    (h : Spells first tail c) : utf8EncodeChar c = first :: tail := by
  -- one case for each length: the ranges of the octets rule out a shorter encoding
  obtain ⟨size, fits, same⟩ := h
  have same : c.val.toNat = _ := same
  have range := sequenceLength_iff.mp size
  rcases tail with _ | ⟨x, _ | ⟨y, _ | ⟨z, _ | ⟨w, more⟩⟩⟩⟩
  · rw [number] at same
    rw [List.length_nil] at range
    rw [utf8EncodeChar, same, if_pos (by omega), UInt8.ofNat_toNat]
  · have hx := fits_second_iff.mp (fits 0 x rfl)
    rw [number_two] at same
    rw [List.length_singleton] at range
    rw [utf8EncodeChar, if_neg (by omega), if_pos (by omega)]
    simp only [List.cons.injEq, ← UInt8.toNat_inj, UInt8.toNat_ofNat', and_true]
    omega
  · have hx := fits_second_iff.mp (fits 0 x rfl)
    have hy := fits_later.mp (fits 1 y rfl)
    rw [number_three] at same
    simp only [List.length_cons, List.length_nil] at range
    rw [utf8EncodeChar, if_neg (by omega), if_neg (by omega), if_pos (by omega)]
    simp only [List.cons.injEq, ← UInt8.toNat_inj, UInt8.toNat_ofNat', and_true]
    omega
  · have hx := fits_second_iff.mp (fits 0 x rfl)
    have hy := fits_later.mp (fits 1 y rfl)
    have hz := fits_later.mp (fits 2 z rfl)
    rw [number_four] at same
    simp only [List.length_cons, List.length_nil] at range
    rw [utf8EncodeChar, if_neg (by omega), if_neg (by omega), if_neg (by omega)]
    simp only [List.cons.injEq, ← UInt8.toNat_inj, UInt8.toNat_ofNat', and_true]
    omega
  · simp only [List.length_cons] at range
    omega

theorem isScalar (c : Char) : c.toNat < 0xD800 ∨ 0xDFFF < c.toNat ∧ c.toNat < 0x110000 := c.valid

theorem exists_spells (c : Char) :
    ∃ first tail, utf8EncodeChar c = first :: tail ∧ Spells first tail c := by
  -- the encoder has one branch for each length
  have scalar := isScalar c
  have same : c.toNat = c.val.toNat := rfl
  rw [utf8EncodeChar]
  split
  · refine ⟨_, _, rfl, sequenceLength_iff.mpr (.inl ⟨rfl, ?_⟩), nofun, ?_⟩
    · rw [UInt8.toNat_ofNat']
      omega
    · rw [number, UInt8.toNat_ofNat']
      omega
  split
  · refine ⟨_, _, rfl, sequenceLength_iff.mpr (.inr (.inl ⟨rfl, ?_⟩)), ?_, ?_⟩
    · rw [UInt8.toNat_ofNat']
      omega
    · rintro (_ | i) b h
      · cases h
        rw [fits_second_iff]
        simp only [UInt8.toNat_ofNat']
        omega
      · cases h
    · simp only [number_two, UInt8.toNat_ofNat']
      omega
  split
  · refine ⟨_, _, rfl, sequenceLength_iff.mpr (.inr (.inr (.inl ⟨rfl, ?_⟩))), ?_, ?_⟩
    · rw [UInt8.toNat_ofNat']
      omega
    · rintro (_ | _ | i) b h
      · cases h
        rw [fits_second_iff]
        simp only [UInt8.toNat_ofNat']
        omega
      · cases h
        rw [fits_later, UInt8.toNat_ofNat']
        omega
      · cases h
    · simp only [number_three, UInt8.toNat_ofNat']
      omega
  · refine ⟨_, _, rfl, sequenceLength_iff.mpr (.inr (.inr (.inr ⟨rfl, ?_⟩))), ?_, ?_⟩
    · rw [UInt8.toNat_ofNat']
      omega
    · rintro (_ | _ | _ | i) b h
      · cases h
        rw [fits_second_iff]
        simp only [UInt8.toNat_ofNat']
        omega
      · cases h
        rw [fits_later, UInt8.toNat_ofNat']
        omega
      · cases h
        rw [fits_later, UInt8.toNat_ofNat']
        omega
      · cases h
    · simp only [number_four, UInt8.toNat_ofNat']
      omega

/-- **What is read as a character is its encoding.** -/
theorem spells_iff {first : UInt8} {tail : List UInt8} {c : Char} :
    Spells first tail c ↔ utf8EncodeChar c = first :: tail := by
  refine ⟨utf8EncodeChar_of_spells, fun same => ?_⟩
  obtain ⟨first', tail', same', spells⟩ := exists_spells c
  obtain ⟨rfl, rfl⟩ := List.cons.inj (same.symm.trans same')
  exact spells

/-! ## Steps -/

theorem all_fit_iff {first : UInt8} {tail : List UInt8} :
    ¬(tail.zipIdx.takeWhile fun (b, i) => fits first i b).length < tail.length ↔
      ∀ i b, tail[i]? = some b → fits first i b = true := by
  have short := (List.takeWhile_prefix fun (b, i) => fits first i b : _ <+: tail.zipIdx)
  have whole : ¬(tail.zipIdx.takeWhile fun (b, i) => fits first i b).length < tail.length ↔
      (tail.zipIdx.takeWhile fun (b, i) => fits first i b) = tail.zipIdx := by
    constructor
    · intro long
      refine short.eq_of_length ?_
      have := short.length_le
      rw [List.length_zipIdx] at this ⊢
      omega
    · intro same
      rw [same, List.length_zipIdx]
      omega
  rw [whole, List.takeWhile_eq_self_iff]
  constructor
  · intro all i b found
    exact all (b, i) (List.mem_zipIdx_iff_getElem?.mpr found)
  · rintro all ⟨b, i⟩ mem
    exact all i b (List.mem_zipIdx_iff_getElem?.mp mem)

/-- A step that finds more than one octet to read. -/
theorem step_eq {first : UInt8} {n : Nat} (size : sequenceLength first = n + 2)
    (rest : List UInt8) :
    step first rest =
      if ((rest.take (n + 1)).zipIdx.takeWhile fun (b, i) => fits first i b).length <
          (rest.take (n + 1)).length then
        .fault .invalidContinuation
          (((rest.take (n + 1)).zipIdx.takeWhile fun (b, i) => fits first i b).length + 1)
      else if (rest.take (n + 1)).length < n + 1 then
        .fault .unexpectedEnd ((rest.take (n + 1)).length + 1)
      else .char (Char.ofNat (payload (first.toNat % 2 ^ (6 - (n + 1))) (rest.take (n + 1))))
        (n + 2) := by
  unfold step
  rw [size]
  rfl

theorem step_of_spells {first : UInt8} {tail : List UInt8} {c : Char} (h : Spells first tail c)
    (rest : List UInt8) : step first (tail ++ rest) = .char c (tail.length + 1) := by
  obtain ⟨size, all, same⟩ := h
  cases tail with
  | nil =>
    rw [number] at same
    unfold step
    rw [size, ← same, Char.ofNat_toNat]
    rfl
  | cons b tail =>
    rw [number, List.length_cons] at same
    · rw [step_eq size, List.take_left' List.length_cons, if_neg (all_fit_iff.mpr all),
        if_neg (by rw [List.length_cons]; omega), ← same, Char.ofNat_toNat]
      rfl
    · nofun

/-- Octets that end before the character does are refused for that alone. -/
theorem step_of_part {first : UInt8} {part more : List UInt8} {c : Char}
    (h : Spells first (part ++ more) c) (ends : more ≠ []) :
    step first part = .fault .unexpectedEnd (part.length + 1) := by
  obtain ⟨size, all, -⟩ := h
  have left : 0 < more.length := List.length_pos_iff.mpr ends
  rw [List.length_append] at size
  obtain ⟨n, count⟩ : ∃ n, part.length + more.length = n + 1 :=
    ⟨part.length + more.length - 1, by omega⟩
  rw [count] at size
  have whole : part.take (n + 1) = part := List.take_of_length_le (by omega)
  have fit : ∀ i b, part[i]? = some b → fits first i b = true := by
    intro i b found
    obtain ⟨inside, -⟩ := List.getElem?_eq_some_iff.mp found
    refine all i b ?_
    rw [List.getElem?_append_left inside, found]
  rw [step_eq size, whole, if_neg (all_fit_iff.mpr fit), if_pos (by omega)]

/-- Numbers of octets in their ranges are numbers of characters. -/
theorem isValidChar_number {first : UInt8} {tail : List UInt8}
    (size : sequenceLength first = tail.length + 1)
    (fits : ∀ i b, tail[i]? = some b → fits first i b = true) :
    (number first tail).isValidChar := by
  have range := sequenceLength_iff.mp size
  rcases tail with _ | ⟨x, _ | ⟨y, _ | ⟨z, _ | ⟨w, more⟩⟩⟩⟩
  · rw [List.length_nil] at range
    rw [number]
    exact .inl (by omega)
  · have hx := fits_second_iff.mp (fits 0 x rfl)
    rw [List.length_singleton] at range
    rw [number_two]
    exact .inl (by omega)
  · have hx := fits_second_iff.mp (fits 0 x rfl)
    have hy := fits_later.mp (fits 1 y rfl)
    simp only [List.length_cons, List.length_nil] at range
    rw [number_three, Nat.isValidChar]
    omega
  · have hx := fits_second_iff.mp (fits 0 x rfl)
    have hy := fits_later.mp (fits 1 y rfl)
    have hz := fits_later.mp (fits 2 z rfl)
    simp only [List.length_cons, List.length_nil] at range
    rw [number_four, Nat.isValidChar]
    omega
  · simp only [List.length_cons] at range
    omega

theorem spells_ofNat {first : UInt8} (tail : List UInt8)
    (size : sequenceLength first = tail.length + 1)
    (fits : ∀ i b, tail[i]? = some b → fits first i b = true) :
    Spells first tail (Char.ofNat (number first tail)) where
  length := size
  fits := fits
  number := by
    rw [Char.ofNat, dif_pos (isValidChar_number size fits)]
    rfl

/-- A step takes the octets of a character. -/
theorem spells_of_step {first : UInt8} {rest : List UInt8} {c : Char} {size : Nat}
    (h : step first rest = .char c size) :
    ∃ tail, rest = tail ++ rest.drop (size - 1) ∧ size = tail.length + 1 ∧ Spells first tail c := by
  rcases length : sequenceLength first with _ | _ | n
  · unfold step at h
    rw [length] at h
    cases h
  · unfold step at h
    rw [length] at h
    cases h
    exact ⟨[], rfl, rfl, spells_ofNat [] length nofun⟩
  · rw [step_eq length] at h
    split at h
    · cases h
    rename_i all
    split at h
    · cases h
    rename_i long
    cases h
    have count : (rest.take (n + 1)).length = n + 1 := by
      have := List.length_take_le (n + 1) rest
      omega
    refine ⟨rest.take (n + 1), (List.take_append_drop _ _).symm, by rw [count], ?_⟩
    have spells := spells_ofNat (rest.take (n + 1)) (by rw [count, length])
      (all_fit_iff.mp all)
    have same : number first (rest.take (n + 1)) =
        payload (first.toNat % 2 ^ (6 - (n + 1))) (rest.take (n + 1)) := by
      rw [number, count]
      intro none
      rw [none] at count
      cases count
    rwa [same] at spells

/-! ## Texts -/

theorem toList_loop (bytes : ByteArray) (i : Nat) (read : List UInt8) :
    ByteArray.toList.loop bytes i read = read.reverse ++ bytes.data.toList.drop i := by
  induction i, read using ByteArray.toList.loop.induct bytes with
  | case1 i read inside ih =>
    have bound : i < bytes.data.toList.length := by simpa using inside
    have found : bytes.get! i = bytes.data.toList[i] := by
      rw [ByteArray.get!, Array.getElem_toList]
      exact getElem!_pos bytes.data i bound
    rw [ByteArray.toList.loop, if_pos inside, ih, List.drop_eq_getElem_cons bound, found,
      List.reverse_cons, List.append_assoc, List.singleton_append]
  | case2 i read outside =>
    have bound : bytes.data.toList.length ≤ i := by simpa using outside
    rw [ByteArray.toList.loop, if_neg outside, List.drop_eq_nil_of_le bound, List.append_nil]

/-- The octets of a text are those of its characters, one after the other. -/
theorem encode_eq (s : String) : encode s = s.toList.flatMap utf8EncodeChar := by
  obtain ⟨cs, rfl⟩ : ∃ cs, s = String.ofList cs := ⟨s.toList, String.ofList_toList.symm⟩
  rw [encode, String.toUTF8, ByteArray.toList, toList_loop, List.drop_zero, List.reverse_nil,
    List.nil_append, String.toByteArray_ofList, String.toList_ofList]
  exact List.toList_data_toByteArray

theorem utf8EncodeChar_ne_nil (c : Char) : utf8EncodeChar c ≠ [] := by
  obtain ⟨first, tail, same, -⟩ := exists_spells c
  rw [same]
  nofun

theorem length_le_encode (cs : List Char) : cs.length ≤ (cs.flatMap utf8EncodeChar).length := by
  induction cs with
  | nil => exact Nat.le_refl 0
  | cons c cs ih =>
    have := List.length_pos_iff.mpr (utf8EncodeChar_ne_nil c)
    rw [List.flatMap_cons, List.length_append, List.length_cons]
    omega

/-- Reading goes over the octets of whole characters. -/
theorem decodeFrom_append (cs : List Char) (fuel position : Nat) (rest : List UInt8)
    (read : List Char) :
    decodeFrom (cs.length + fuel) position (cs.flatMap utf8EncodeChar ++ rest) read =
      decodeFrom fuel (position + (cs.flatMap utf8EncodeChar).length) rest
        (cs.reverse ++ read) := by
  induction cs generalizing position read with
  | nil =>
    rw [List.length_nil, Nat.zero_add]
    rfl
  | cons c cs ih =>
    obtain ⟨first, tail, same, spells⟩ := exists_spells c
    have next := step_of_spells spells (cs.flatMap utf8EncodeChar ++ rest)
    rw [List.length_cons, Nat.succ_add, List.flatMap_cons, same, List.append_assoc,
      List.cons_append, decodeFrom, next]
    dsimp only
    rw [Nat.add_sub_cancel, List.drop_left, ih, List.reverse_cons, List.append_assoc,
      List.singleton_append, List.length_append, List.length_cons]
    congr 1
    omega

theorem decodeFrom_nil (fuel position : Nat) (read : List Char) :
    decodeFrom fuel position [] read = .ok read.reverse := by
  cases fuel with
  | zero => rfl
  | succ fuel => rfl

/-- Characters that are read from octets have these octets. -/
theorem octets_of_decodeFrom {fuel position : Nat} {octets : List UInt8} {read cs : List Char}
    (enough : octets.length ≤ fuel) (h : decodeFrom fuel position octets read = .ok cs) :
    ∃ more, cs = read.reverse ++ more ∧ octets = more.flatMap utf8EncodeChar := by
  induction fuel generalizing position octets read with
  | zero =>
    obtain rfl := List.length_eq_zero_iff.mp (Nat.le_zero.mp enough)
    cases h
    exact ⟨[], (List.append_nil _).symm, rfl⟩
  | succ fuel ih =>
    cases octets with
    | nil =>
      cases h
      exact ⟨[], (List.append_nil _).symm, rfl⟩
    | cons first rest =>
      rw [decodeFrom] at h
      split at h
      · rename_i c size next
        obtain ⟨tail, split, count, spells⟩ := spells_of_step next
        -- a step takes an octet at least, so the fuel is enough for what is left
        have bound : (rest.drop (size - 1)).length ≤ fuel := by
          rw [List.length_drop]
          rw [List.length_cons] at enough
          omega
        obtain ⟨more, rfl, left⟩ := ih bound h
        refine ⟨c :: more, ?_, ?_⟩
        · rw [List.reverse_cons, List.append_assoc, List.singleton_append]
        · rw [List.flatMap_cons, spells_iff.mp spells, List.cons_append, ← left, ← split]
      · cases h

/-- **A text is read from its octets.** -/
theorem decode_encode (s : String) : decode (encode s) = .ok s := by
  have bound := length_le_encode s.toList
  obtain ⟨fuel, count⟩ := Nat.exists_eq_add_of_le bound
  have reading := decodeFrom_append s.toList fuel 0 [] []
  rw [List.append_nil, decodeFrom_nil, List.append_nil, List.reverse_reverse, ← count] at reading
  rw [decode, encode_eq, reading]
  exact congrArg Except.ok String.ofList_toList

/-- **A text is read from no other octets.** -/
theorem encode_of_decode {octets : List UInt8} {s : String} (h : decode octets = .ok s) :
    encode s = octets := by
  rw [decode] at h
  cases read : decodeFrom octets.length 0 octets [] with
  | error m =>
    rw [read] at h
    cases h
  | ok cs =>
    rw [read] at h
    cases h
    obtain ⟨more, rfl, same⟩ := octets_of_decodeFrom (Nat.le_refl _) read
    rw [encode_eq, String.toList_ofList, same]

theorem decodeLossyFrom_encode {cs : List Char} {fuel : Nat} (enough : cs.length ≤ fuel) :
    decodeLossyFrom fuel (cs.flatMap utf8EncodeChar) = cs := by
  induction cs generalizing fuel with
  | nil =>
    cases fuel with
    | zero => rfl
    | succ fuel => rfl
  | cons c cs ih =>
    obtain ⟨first, tail, same, spells⟩ := exists_spells c
    have next := step_of_spells spells (cs.flatMap utf8EncodeChar)
    cases fuel with
    | zero => cases enough
    | succ fuel =>
      rw [List.flatMap_cons, same, List.cons_append, decodeLossyFrom, next]
      dsimp only
      rw [Nat.add_sub_cancel, List.drop_left, ih (Nat.le_of_succ_le_succ enough)]

/-- Reading past malformed parts changes nothing where there are none. -/
theorem decodeLossy_encode (cs : List Char) : decodeLossy (cs.flatMap utf8EncodeChar) = cs :=
  decodeLossyFrom_encode (length_le_encode cs)

/-- The octet of an ASCII character. -/
theorem utf8EncodeChar_of_lt {c : Char} (small : c.toNat < 0x80) :
    utf8EncodeChar c = [c.toUInt8] := by
  have same : c.toNat = c.val.toNat := rfl
  rw [utf8EncodeChar, if_pos (by omega)]
  rfl

/-- The first octets of some characters are some of the characters and a part of the next. -/
theorem take_flatMap (cs : List Char) (k : Nat) :
    ∃ whole left part, cs = whole ++ left ∧
      (cs.flatMap utf8EncodeChar).take k = whole.flatMap utf8EncodeChar ++ part ∧
      (part = [] ∨
        ∃ c more, left.head? = some c ∧ utf8EncodeChar c = part ++ more ∧ more ≠ []) := by
  induction cs generalizing k with
  | nil => exact ⟨[], [], [], rfl, List.take_nil, .inl rfl⟩
  | cons c cs ih =>
    by_cases inside : k < (utf8EncodeChar c).length
    · refine ⟨[], c :: cs, (utf8EncodeChar c).take k, rfl, ?_, .inr ⟨c, (utf8EncodeChar c).drop k,
        rfl, (List.take_append_drop _ _).symm, ?_⟩⟩
      · rw [List.flatMap_cons, List.take_append_of_le_length (Nat.le_of_lt inside)]
        rfl
      · intro none
        have := congrArg List.length none
        rw [List.length_drop, List.length_nil] at this
        omega
    · obtain ⟨whole, left, part, rfl, same, ends⟩ := ih (k - (utf8EncodeChar c).length)
      refine ⟨c :: whole, left, part, rfl, ?_, ends⟩
      rw [List.flatMap_cons, List.take_append, List.take_of_length_le (by omega), same,
        List.flatMap_cons, List.append_assoc]

/-- **The first octets of a text** are those of its first characters, or end inside of the next one
and are malformed there. -/
theorem decode_take (s : String) (k : Nat) :
    ∃ whole left part, s.toList = whole ++ left ∧
      (encode s).take k = encode (String.ofList whole) ++ part ∧ part.length < 4 ∧
      (part = [] ∧ decode ((encode s).take k) = .ok (String.ofList whole) ∨
        part ≠ [] ∧ decode ((encode s).take k) =
          .error ⟨(encode (String.ofList whole)).length, part, .unexpectedEnd⟩) := by
  obtain ⟨whole, left, part, split, same, ends⟩ := take_flatMap s.toList k
  have octets : encode (String.ofList whole) = whole.flatMap utf8EncodeChar := by
    rw [encode_eq, String.toList_ofList]
  rw [← encode_eq, ← octets] at same
  have short : part.length < 4 := by
    rcases ends with rfl | ⟨c, more, -, spelled, ends⟩
    · exact Nat.zero_lt_succ 3
    · have size := congrArg List.length spelled
      rw [String.length_utf8EncodeChar, List.length_append] at size
      have := c.utf8Size_le_four
      have := List.length_pos_iff.mpr ends
      omega
  refine ⟨whole, left, part, split, same, short, ?_⟩
  cases part with
  | nil =>
    rw [same, List.append_nil, decode_encode]
    exact .inl ⟨rfl, rfl⟩
  | cons first part =>
    rcases ends with none | ⟨c, more, -, spelled, ends⟩
    · cases none
    obtain ⟨fuel, count⟩ := Nat.exists_eq_add_of_le (length_le_encode whole)
    -- whole characters are read first; the step behind them meets the end of the octets
    have fails : decodeFrom (whole.length + (fuel + 1 + part.length)) 0
        (whole.flatMap utf8EncodeChar ++ first :: part) [] =
          .error ⟨(whole.flatMap utf8EncodeChar).length, first :: part, .unexpectedEnd⟩ := by
      rw [decodeFrom_append, Nat.add_right_comm, decodeFrom,
        step_of_part (spells_iff.mpr spelled) ends, Nat.zero_add]
      dsimp only
      rw [List.take_of_length_le (Nat.le_of_eq List.length_cons)]
    refine .inr ⟨nofun, ?_⟩
    rw [same, octets, decode]
    have size : (whole.flatMap utf8EncodeChar ++ first :: part).length =
        whole.length + (fuel + 1 + part.length) := by
      rw [List.length_append, count, List.length_cons]
      omega
    rw [size, fails]
    rfl

end WireModel.Text.Utf8
