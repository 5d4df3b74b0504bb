import WireModel.Output.Writer
import WireModel.Proofs.Success
import WireModel.Proofs.Text.Lines
import WireModel.Proofs.Text.Utf8

/-!
# The marker of generated files

The writer reads the top of a file chunk by chunk, as characters, and looks for the marker in its
first lines.

* **`bearsMarker_of_carriesMarker`**: what it takes for generated has the octets of the marker in
  one of its first lines.
* **`carriesMarker_encode`**: a text that starts with the marker, or with few short lines before it,
  is taken for generated.
-/

namespace WireModel.Output

open String (utf8EncodeChar)
open Text (fileLines isNewline linesFrom occursIn KeepsNewlines)
open Text.Utf8 (decode encode encode_eq encode_of_decode decode_encode decode_take)

/-! ## The top of a file -/

/-- Octets as characters of their own. -/
def octetChars (octets : List UInt8) : List Char := octets.map fun b => Char.ofNat b.toNat

/-- Whether the marker stands in one of the first lines of a file, whatever else is there. -/
def bearsMarker (content : List UInt8) : Bool :=
  ((fileLines (octetChars content)).take markerLines).any (occursIn Generation.marker.toList)

/-- The characters that were read are the start of a file, up to the end of its first lines. -/
structure IsHead (content : List UInt8) (cs : List Char) : Prop where
  start : ∃ more, content = cs.flatMap utf8EncodeChar ++ more ∧
    (more = [] ∨ markerLines < (fileLines (cs ++ ['.'])).length)

theorem decodeHead_whole {octets : List UInt8} {cs : List Char}
    (h : decodeHead octets true = some cs) : octets = cs.flatMap utf8EncodeChar := by
  unfold decodeHead at h
  split at h
  · rename_i s read
    cases h
    rw [← encode_of_decode read, encode_eq]
  · rw [if_neg (by simp)] at h
    cases h

theorem decodeHead_part {octets : List UInt8} {cs : List Char}
    (h : decodeHead octets false = some cs) : cs.flatMap utf8EncodeChar <+: octets := by
  unfold decodeHead at h
  split at h
  · rename_i s read
    cases h
    rw [← encode_of_decode read, encode_eq]
  · split at h
    · split at h
      · rename_i s read
        cases h
        rw [← encode_eq, encode_of_decode read]
        exact List.take_prefix _ _
      · cases h
    · cases h

theorem isHead_of_headOf {octets : List UInt8} {chunks read : Nat} {cs : List Char}
    (h : headOf octets chunks read = some cs) : IsHead octets cs := by
  induction chunks generalizing read with
  | zero =>
    rw [headOf] at h
    exact ⟨[], by rw [List.append_nil]; exact decodeHead_whole h, .inl rfl⟩
  | succ chunks ih =>
    rw [headOf] at h
    obtain ⟨part, decoded, h⟩ := Option.bind_eq_some_iff.mp h
    split at h
    · rename_i complete
      cases h
      obtain ⟨more, split⟩ := (decodeHead_part decoded).trans (List.take_prefix _ _)
      exact ⟨more, split.symm, .inr complete⟩
    · split at h
      · exact ⟨[], by rw [List.append_nil]; exact decodeHead_whole h, .inl rfl⟩
      · exact ih h

/-! ## What is taken for generated -/

theorem octetChars_append (a b : List UInt8) :
    octetChars (a ++ b) = octetChars a ++ octetChars b := List.map_append

theorem octetChars_flatMap (cs : List Char) :
    octetChars (cs.flatMap utf8EncodeChar) = cs.flatMap fun c => octetChars (utf8EncodeChar c) := by
  rw [octetChars, List.map_flatMap]
  rfl

theorem toNat_octetChar (b : UInt8) : (Char.ofNat b.toNat).toNat = b.toNat := by
  have small := b.toNat_lt
  have valid : b.toNat.isValidChar := .inl (by omega)
  rw [Char.ofNat, dif_pos valid]
  rfl

/-- Characters of one octet are the only ones with an octet below 128. -/
theorem small_of_mem {c : Char} {b : UInt8} (mem : b ∈ utf8EncodeChar c) (small : b.toNat < 0x80) :
    utf8EncodeChar c = [b] ∧ c.toNat = b.toNat := by
  obtain ⟨first, tail, same, size, fits, number⟩ := Text.Utf8.exists_spells c
  have high : ∀ d ∈ tail, 0x80 ≤ d.toNat := by
    intro d mem
    obtain ⟨i, found⟩ := List.mem_iff_getElem?.mp mem
    cases i with
    | zero => exact (Text.Utf8.fits_second_iff.mp (fits 0 d found)).1
    | succ i => exact (Text.Utf8.fits_later.mp (fits (i + 1) d found)).1
  rw [same] at mem ⊢
  rcases List.mem_cons.mp mem with rfl | mem
  · cases tail with
    | nil => exact ⟨rfl, number⟩
    | cons d tail =>
      have range := Text.Utf8.sequenceLength_iff.mp size
      rw [List.length_cons] at range
      omega
  · have := high b mem
    omega

theorem keepsNewlines_octets : KeepsNewlines fun c => octetChars (utf8EncodeChar c) where
  same c newline := by
    have either : c = '\n' ∨ c = '\r' := by simpa [isNewline] using newline
    rcases either with rfl | rfl <;> decide
  plain c other := by
    refine ⟨?_, fun d mem => ?_⟩
    · intro none
      exact Text.Utf8.utf8EncodeChar_ne_nil c (List.map_eq_nil_iff.mp none)
    · obtain ⟨b, there, rfl⟩ := List.mem_map.mp mem
      by_contra newline
      rw [Bool.not_eq_false] at newline
      have low : b.toNat < 0x80 := by
        have either : Char.ofNat b.toNat = '\n' ∨ Char.ofNat b.toNat = '\r' := by
          simpa [isNewline] using newline
        rw [← toNat_octetChar b]
        rcases either with same | same <;> rw [same] <;> decide
      have number := (small_of_mem there low).2
      rw [← number, Char.ofNat_toNat, other] at newline
      cases newline

/-- The marker has one octet for each of its characters. -/
theorem marker_octets :
    (Generation.marker.toList.flatMap fun c => octetChars (utf8EncodeChar c)) =
      Generation.marker.toList := by decide

/-- **What is taken for generated** has the octets of the marker in one of its first lines. -/
theorem bearsMarker_of_carriesMarker {content : List UInt8} (h : carriesMarker content = true) :
    bearsMarker content = true := by
  unfold carriesMarker at h
  split at h
  · cases h
  rename_i cs read
  obtain ⟨more, split, ends⟩ := (isHead_of_headOf read).start
  obtain ⟨line, mem, marked⟩ := List.any_eq_true.mp h
  have lines : (fileLines (octetChars content)).take markerLines =
      ((fileLines cs).take markerLines).map
        (·.flatMap fun c => octetChars (utf8EncodeChar c)) := by
    rw [List.map_take, ← Text.fileLines_flatMap keepsNewlines_octets, ← octetChars_flatMap, split,
      octetChars_append]
    rcases ends with rfl | complete
    · change (fileLines (_ ++ [])).take _ = _
      rw [List.append_nil]
    · refine Text.take_linesFrom_append ?_ _
      -- the lines that were looked at are complete, and what is behind them adds to none
      have point : octetChars (cs.flatMap utf8EncodeChar) ++ ['.'] =
          (cs ++ ['.']).flatMap fun c => octetChars (utf8EncodeChar c) := by
        rw [List.flatMap_append, octetChars_flatMap]
        rfl
      change _ < (fileLines _).length
      rw [point, Text.fileLines_flatMap keepsNewlines_octets, List.length_map]
      exact complete
  rw [bearsMarker, lines, List.any_eq_true]
  refine ⟨_, List.mem_map_of_mem mem, ?_⟩
  obtain ⟨before, after, rfl⟩ := Text.occursIn_iff.mp marked
  rw [List.flatMap_append, List.flatMap_append, marker_octets]
  exact Text.occursIn_append_left

/-! ## What is generated -/

theorem decodeHead_take (s : String) (k : Nat) :
    ∃ cs, decodeHead ((encode s).take k) false = some cs ∧ cs <+: s.toList ∧
      (cs = s.toList ∨ k < (cs.flatMap utf8EncodeChar).length + 4) := by
  by_cases all : (encode s).length ≤ k
  · refine ⟨s.toList, ?_, List.prefix_refl _, .inl rfl⟩
    rw [List.take_of_length_le all, decodeHead, decode_encode]
  obtain ⟨cs, left, part, split, same, short, read⟩ := decode_take s k
  have octets : encode (String.ofList cs) = cs.flatMap utf8EncodeChar := by
    rw [encode_eq, String.toList_ofList]
  refine ⟨cs, ?_, ⟨left, split.symm⟩, .inr ?_⟩
  -- a character that the chunk cuts off is left for the next one
  · rcases read with ⟨-, read⟩ | ⟨-, read⟩
    · rw [decodeHead, read]
      dsimp only
      rw [String.toList_ofList]
    · rw [decodeHead, read]
      dsimp only
      rw [if_pos (by decide), same, List.take_left, decode_encode]
      dsimp only
      rw [String.toList_ofList]
  · have size := congrArg List.length same
    rw [List.length_take, List.length_append, octets] at size
    omega

/-- The head of a text is known: all of it, or as much as the next chunk has. -/
theorem exists_headOf (s : String) (chunks read : Nat) :
    ∃ cs, headOf (encode s) chunks read = some cs ∧ cs <+: s.toList ∧
      (cs = s.toList ∨ read + chunkSize < (cs.flatMap utf8EncodeChar).length + 4) := by
  have whole : decodeHead (encode s) true = some s.toList := by rw [decodeHead, decode_encode]
  induction chunks generalizing read with
  | zero => exact ⟨_, whole, List.prefix_refl _, .inl rfl⟩
  | succ chunks ih =>
    obtain ⟨cs, decoded, start, long⟩ := decodeHead_take s (read + chunkSize)
    rw [headOf, decoded]
    dsimp only [Option.bind_eq_bind, Option.bind_some]
    split
    · exact ⟨cs, rfl, start, long⟩
    · split
      · exact ⟨_, whole, List.prefix_refl _, .inl rfl⟩
      · obtain ⟨cs, found, start, much⟩ := ih (read + chunkSize)
        refine ⟨cs, found, start, much.imp_right fun much => ?_⟩
        omega

/-- Characters at the start of a text are in its head, if they are few. -/
theorem prefix_head {s : String} {start cs : List Char}
    (begins : start <+: s.toList) (few : (start.flatMap utf8EncodeChar).length + 4 ≤ chunkSize)
    (head : cs <+: s.toList)
    (long : cs = s.toList ∨ 0 + chunkSize < (cs.flatMap utf8EncodeChar).length + 4) :
    start <+: cs := by
  rcases long with rfl | long
  · exact begins
  rcases List.prefix_or_prefix_of_prefix begins head with within | beyond
  · exact within
  · obtain ⟨more, rfl⟩ := beyond
    rw [List.flatMap_append, List.length_append] at few
    omega

/-- **A text that starts with the marker** on one of its first lines is taken for generated. -/
theorem carriesMarker_encode {s : String} (before : List (List Char)) (start : List Char)
    (few : before.length < markerLines)
    (plain : ∀ line ∈ before, line.any isNewline = false)
    (goes : (start ++ Generation.marker.toList).any isNewline = false)
    (begins : before.flatMap (· ++ ['\n']) ++ (start ++ Generation.marker.toList) <+: s.toList)
    (short : ((before.flatMap (· ++ ['\n']) ++ (start ++ Generation.marker.toList)).flatMap
      utf8EncodeChar).length + 4 ≤ chunkSize) :
    carriesMarker (encode s) = true := by
  obtain ⟨cs, found, head, long⟩ := exists_headOf s ((encode s).length / chunkSize + 1) 0
  obtain ⟨rest, rfl⟩ := prefix_head begins short head long
  rw [carriesMarker, found]
  dsimp only
  have some : (start ++ Generation.marker.toList).reverse ++ [] ≠ [] := by
    rw [List.append_nil, List.reverse_append]
    exact List.append_ne_nil_of_left_ne_nil (by decide) _
  obtain ⟨first, leads, contains⟩ := @Text.head?_linesFrom isNewline rest _ some
  obtain ⟨later, lines⟩ := List.head?_eq_some_iff.mp leads
  have plain : ∀ line ∈ before, ∀ c ∈ line, isNewline c = false := fun line mem c here =>
    Bool.eq_false_iff.mpr (List.any_eq_false.mp (plain line mem) c here)
  have goes : ∀ c ∈ start ++ Generation.marker.toList, isNewline c = false := fun c here =>
    Bool.eq_false_iff.mpr (List.any_eq_false.mp goes c here)
  -- the line of the marker may go on behind it, in what else is read of the file
  have cut : fileLines
      (before.flatMap (· ++ ['\n']) ++ (start ++ Generation.marker.toList) ++ rest) =
      before ++ first :: later := by
    rw [fileLines, List.append_assoc, Text.linesFrom_lines plain, Text.linesFrom_append goes, lines]
  rw [List.append_nil, List.reverse_reverse] at contains
  rw [cut, List.any_eq_true]
  refine ⟨first, ?_, Text.occursIn_iff.mpr ?_⟩
  · rw [List.take_append, List.mem_append]
    right
    obtain ⟨n, count⟩ := Nat.exists_eq_add_of_lt few
    rw [count, Nat.add_assoc, Nat.add_sub_cancel_left, List.take_succ_cons]
    exact List.mem_cons_self
  · obtain ⟨behind, rfl⟩ := contains
    exact ⟨start, behind, rfl⟩

end WireModel.Output
