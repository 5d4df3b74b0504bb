import WireModel.Pointer
import WireModel.Proofs.Decimal.Numerals
import WireModel.Proofs.Lists
import WireModel.Value.Basic

/-!
# What pointers denote

A pointer is a list of keys into a document. Each key is written as a token, with tildes and slashes
escaped, behind a slash; in a fragment octets of the text may be written as a percent sign and two
hexadecimal digits.

* **`unescape_escape`**: a token stands for the key that it was made from.
* **`Spells`**: a fragment is written for some keys, and for no others (`Spells.unique`).
* **`Value.at?`**: the value at keys into a document.
-/

namespace WireModel

namespace Pointer

/-! ## Tokens -/

theorem toList_escape (s : String) : (escape s).toList = s.toList.flatMap escapeChar := by
  rw [escape, String.toList_ofList]

theorem slash_not_mem_escapeChar (c : Char) : '/' ∉ escapeChar c := by
  unfold escapeChar
  by_cases tilde : c = '~'
  · subst tilde
    decide
  · by_cases slash : c = '/'
    · subst slash
      decide
    · simpa [tilde, slash] using Ne.symm slash

theorem slash_not_mem_escape (s : String) : '/' ∉ (escape s).toList := by
  rw [toList_escape]
  intro mem
  obtain ⟨c, -, slash⟩ := List.mem_flatMap.mp mem
  exact slash_not_mem_escapeChar c slash

/-- How a character is written when only tildes are escaped. -/
def escapeTilde (c : Char) : List Char := if c == '~' then ['~', '0'] else [c]

theorem unescapeOne_of_ne {digit replacement c : Char} {rest : List Char} (other : c ≠ '~') :
    unescapeOne digit replacement (c :: rest) = c :: unescapeOne digit replacement rest := by
  rw [unescapeOne]
  rintro c' rest' rfl
  exact absurd rfl other

theorem unescapeOne_slashes (cs : List Char) :
    unescapeOne '1' '/' (cs.flatMap escapeChar) = cs.flatMap escapeTilde := by
  induction cs with
  | nil => rw [List.flatMap_nil, List.flatMap_nil, unescapeOne]
  | cons c cs ih =>
    rw [List.flatMap_cons, List.flatMap_cons]
    by_cases tilde : c = '~'
    · subst tilde
      show unescapeOne '1' '/' ('~' :: '0' :: cs.flatMap escapeChar) =
        '~' :: '0' :: cs.flatMap escapeTilde
      rw [unescapeOne, if_neg (by decide), unescapeOne_of_ne (by decide), ih]
    · by_cases slash : c = '/'
      · subst slash
        show unescapeOne '1' '/' ('~' :: '1' :: cs.flatMap escapeChar) =
          '/' :: cs.flatMap escapeTilde
        rw [unescapeOne, if_pos (by decide), ih]
      · have plain : escapeChar c = [c] := by simp [escapeChar, tilde, slash]
        have same : escapeTilde c = [c] := by simp [escapeTilde, tilde]
        rw [plain, same, List.singleton_append, List.singleton_append, unescapeOne_of_ne tilde, ih]

theorem unescapeOne_tildes (cs : List Char) :
    unescapeOne '0' '~' (cs.flatMap escapeTilde) = cs := by
  induction cs with
  | nil => rw [List.flatMap_nil, unescapeOne]
  | cons c cs ih =>
    rw [List.flatMap_cons]
    by_cases tilde : c = '~'
    · subst tilde
      show unescapeOne '0' '~' ('~' :: '0' :: cs.flatMap escapeTilde) = _
      rw [unescapeOne, if_pos (by decide), ih]
    · have same : escapeTilde c = [c] := by simp [escapeTilde, tilde]
      rw [same, List.singleton_append, unescapeOne_of_ne tilde, ih]

/-- A token stands for the key that it was made from. -/
theorem unescape_escape (s : String) : unescape (escape s) = s := by
  rw [unescape, toList_escape, unescapeList, unescapeOne_slashes, unescapeOne_tildes,
    String.ofList_toList]

/-! ## Pointers -/

/-- A pointer without its leading `#`: each key as a token behind a slash. -/
def text (keys : List String) : List Char := keys.flatMap fun key => '/' :: (escape key).toList

/-- The place in a document that keys lead to. -/
def place (keys : List String) : String := String.ofList ('#' :: text keys)

/-- A text without slashes goes on the first part. -/
theorem splitSlash_append {part : List Char} (whole : '/' ∉ part) {rest first : List Char}
    {parts : List (List Char)} (split : splitSlash rest = first :: parts) :
    splitSlash (part ++ rest) = (part ++ first) :: parts := by
  induction part with
  | nil => exact split
  | cons c part ih =>
    obtain ⟨other, whole⟩ := not_or.mp ((not_congr List.mem_cons).mp whole)
    rw [List.cons_append, splitSlash, if_neg (by simpa using Ne.symm other), ih whole]
    rfl

/-- By induction on the keys: a part of a text ends where the next token begins. -/
theorem splitSlash_append_text {part : List Char} (whole : '/' ∉ part) (keys : List String) :
    splitSlash (part ++ text keys) = part :: keys.map fun key => (escape key).toList := by
  induction keys generalizing part with
  | nil =>
    have split := splitSlash_append whole (show splitSlash (text []) = [] :: [] from rfl)
    rwa [List.append_nil] at split
  | cons key keys ih =>
    have next := ih (slash_not_mem_escape key)
    have first : splitSlash (text (key :: keys)) =
        [] :: (key :: keys).map fun key => (escape key).toList := by
      show splitSlash ('/' :: ((escape key).toList ++ text keys)) = _
      rw [splitSlash, if_pos (by decide), next, List.map_cons]
    have split := splitSlash_append whole first
    rwa [List.append_nil] at split

theorem text_injective {keys others : List String} (same : text keys = text others) :
    keys = others := by
  have split := splitSlash_append_text List.not_mem_nil keys
  rw [same, splitSlash_append_text List.not_mem_nil others] at split
  have tokens := (List.cons.inj split).2
  have back (l : List String) :
      (l.map fun key => (escape key).toList).map (fun cs => unescape (String.ofList cs)) = l := by
    rw [List.map_map]
    refine (List.map_congr_left fun key _ => ?_).trans (List.map_id l)
    show unescape (String.ofList (escape key).toList) = key
    rw [String.ofList_toList, unescape_escape]
  rw [← back keys, ← tokens, back others]

theorem place_injective {keys others : List String} (same : place keys = place others) :
    keys = others :=
  text_injective (List.cons.inj (String.ofList_injective same)).2

theorem place_append (keys : List String) (key : String) :
    place (keys ++ [key]) = place keys ++ "/" ++ escape key := by
  apply String.toList_injective
  simp [place, text]

theorem place_keyword (keys : List String) {key text : String} (h : text = "/" ++ escape key) :
    place keys ++ text = place (keys ++ [key]) := by
  rw [h, ← String.append_assoc, place_append]

theorem escape_ofNat (n : Nat) : escape (Decimal.ofNat n) = Decimal.ofNat n := by
  have plain : ∀ c ∈ Decimal.natDigits n, escapeChar c = [c] := by
    intro c mem
    have digit := Decimal.isDigit_natDigits n c mem
    have noTilde : (c == '~') = false := by
      rw [beq_eq_false_iff_ne]
      rintro rfl
      exact absurd digit (by decide)
    have noSlash : (c == '/') = false := by
      rw [beq_eq_false_iff_ne]
      rintro rfl
      exact absurd digit (by decide)
    simp [escapeChar, noTilde, noSlash]
  rw [escape, Decimal.ofNat, String.toList_ofList]
  congr 1
  rw [List.flatMap_congr plain, List.flatMap_singleton']

theorem place_index (keys : List String) (i : Nat) :
    place keys ++ "/" ++ Decimal.ofNat i = place (keys ++ [Decimal.ofNat i]) := by
  rw [place_append, escape_ofNat]

/-! ## Fragments -/

/-- The octets of a text. -/
def octetsOf (cs : List Char) : List UInt8 := cs.flatMap String.utf8EncodeChar

/-- The octets that a fragment stands for; nothing if a percent sign is not followed by two
hexadecimal digits. -/
def fragmentOctets : List Char → Option (List UInt8)
  | '%' :: a :: b :: rest =>
    match Text.hexValue? a, Text.hexValue? b with
    | some high, some low => (fragmentOctets rest).map (UInt8.ofNat (16 * high + low) :: ·)
    | _, _ => none
  | c :: rest =>
    if c = '%' then none else (fragmentOctets rest).map (String.utf8EncodeChar c ++ ·)
  | [] => some []

/-- A reference is written for keys: its fragment stands for the octets of the pointer to them. -/
def Spells (pointer : String) (keys : List String) : Prop :=
  ∃ fragment, pointer.toList = '#' :: fragment ∧ fragmentOctets fragment = some (octetsOf (text keys))

theorem octetsOf_injective {cs ds : List Char} (same : octetsOf cs = octetsOf ds) : cs = ds := by
  apply String.ofList_injective
  apply String.toByteArray_inj.mp
  rw [String.toByteArray_ofList, String.toByteArray_ofList]
  exact congrArg List.toByteArray same

/-- A reference is written for one list of keys at most. -/
theorem Spells.unique {pointer : String} {keys others : List String} (h : Spells pointer keys)
    (h' : Spells pointer others) : keys = others := by
  obtain ⟨fragment, same, octets⟩ := h
  obtain ⟨fragment', same', octets'⟩ := h'
  rw [same] at same'
  cases same'
  rw [octets] at octets'
  exact text_injective (octetsOf_injective (Option.some.inj octets'))

theorem fragmentOctets_of_plain {cs : List Char} (plain : '%' ∉ cs) :
    fragmentOctets cs = some (octetsOf cs) := by
  induction cs with
  | nil => rfl
  | cons c cs ih =>
    obtain ⟨other, plain⟩ := not_or.mp ((not_congr List.mem_cons).mp plain)
    rw [fragmentOctets, if_neg (Ne.symm other), ih plain]
    · rfl
    · rintro a b rest rfl
      exact absurd rfl other

/-- A place without a percent sign is written for its keys. -/
theorem spells_of_place {pointer : String} {keys : List String} (same : place keys = pointer)
    (plain : '%' ∉ pointer.toList) : Spells pointer keys := by
  subst same
  rw [place, String.toList_ofList] at plain
  have plain := (not_or.mp ((not_congr List.mem_cons).mp plain)).2
  exact ⟨text keys, String.toList_ofList, fragmentOctets_of_plain plain⟩

theorem fragmentOctets_ne_nil {c : Char} {cs : List Char} :
    fragmentOctets (c :: cs) ≠ some [] := by
  unfold fragmentOctets
  split
  · split
    · intro same
      obtain ⟨_, -, same⟩ := Option.map_eq_some_iff.mp same
      cases same
    · nofun
  · split
    · nofun
    · intro same
      obtain ⟨_, -, same⟩ := Option.map_eq_some_iff.mp same
      have none := congrArg List.length (List.append_eq_nil_iff.mp same).1
      rw [String.length_utf8EncodeChar] at none
      exact absurd none (Nat.ne_of_gt (Char.utf8Size_pos _))
  · rename_i empty
    cases empty

/-- Only the pointer to the root is written for no keys. -/
theorem Spells.eq_of_nil {pointer : String} (h : Spells pointer []) : pointer = "#" := by
  obtain ⟨fragment, same, octets⟩ := h
  cases fragment with
  | nil => exact String.toList_injective same
  | cons c cs => exact absurd octets fragmentOctets_ne_nil

end Pointer

/-! ## Values -/

namespace Value

/-- The value under a key of a mapping, or at an index of a list. -/
def child? : Value → String → Option Value
  | .map entries, key => lookup key entries
  | .list items, key => (items.zipIdx.find? fun item => Decimal.ofNat item.2 == key).map Prod.fst
  | _, _ => none

theorem child?_list (items : List Value) (i : Nat) :
    (list items).child? (Decimal.ofNat i) = items[i]? := by
  have same : (fun item : Value × Nat => Decimal.ofNat item.2 == Decimal.ofNat i) =
      fun item => item.2 == 0 + i := by
    funext item
    rw [Bool.eq_iff_iff, beq_iff_eq, beq_iff_eq, Nat.zero_add]
    exact Decimal.ofNat_injective.eq_iff
  rw [child?, same]
  exact find?_zipIdx items i 0

/-- The value at keys into a value. -/
def at? (v : Value) (keys : List String) : Option Value := keys.foldlM child? v

theorem at?_singleton (v : Value) (key : String) : v.at? [key] = v.child? key := by
  rw [at?, List.foldlM_cons]
  exact Option.bind_fun_some _

theorem at?_append (v : Value) (keys others : List String) :
    v.at? (keys ++ others) = (v.at? keys).bind fun w => w.at? others :=
  List.foldlM_append

end Value
end WireModel
