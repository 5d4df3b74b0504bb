import WireModel.Proofs.Schema.Places
import WireModel.Proofs.Text.Utf8

/-!
# References to named schemas

A reference to a schema is the place of its name, in which percent signs are written as octets. It
is split at its slashes first; then octets and escapes are read in each part. Any name comes out
again, whatever tildes, slashes and percent signs are in it.

* **`percentDecode_quote`**: percent signs that are written as octets are read back, and nothing
  else is changed.
* **`splitSlash_quote`**: writing percent signs as octets makes no slash and takes none away.
* **`keys_quote_text`**: a pointer gives the keys that it was made from.
* **`reference_reads_back`**: a key is read back from its token, and a name from a reference to it.
-/

namespace WireModel

namespace Pointer

/-! ## Quoted percent signs -/

/-- How a character is written in a fragment. -/
def quoteChar (c : Char) : List Char := if c == '%' then ['%', '2', '5'] else [c]

/-- Characters with each percent sign written as an octet. -/
def quote (cs : List Char) : List Char := cs.flatMap quoteChar

theorem quoteChar_of_ne {c : Char} (other : c ≠ '%') : quoteChar c = [c] := by
  rw [quoteChar, if_neg (by simpa using other)]

theorem quote_cons (c : Char) (cs : List Char) : quote (c :: cs) = quoteChar c ++ quote cs :=
  List.flatMap_cons

theorem quote_append (cs ds : List Char) : quote (cs ++ ds) = quote cs ++ quote ds :=
  List.flatMap_append

/-- Without percent signs there is nothing to quote. -/
theorem quote_of_not_mem {cs : List Char} (plain : '%' ∉ cs) : quote cs = cs := by
  have same : ∀ c ∈ cs, quoteChar c = [c] := fun c mem => quoteChar_of_ne fun percent =>
    plain (percent ▸ mem)
  rw [quote, List.flatMap_congr same, List.flatMap_singleton']

theorem mem_quoteChar {c d : Char} (mem : d ∈ quoteChar c) : d = c ∨ d ∈ ['2', '5'] := by
  by_cases percent : c = '%'
  · subst percent
    exact List.mem_cons.mp mem
  · rw [quoteChar_of_ne percent] at mem
    exact .inl (List.mem_singleton.mp mem)

theorem percent_mem_quote {cs : List Char} (mem : '%' ∈ cs) : '%' ∈ quote cs :=
  List.mem_flatMap.mpr ⟨'%', mem, List.mem_cons_self⟩

/-! ## Reading percent signs -/

theorem percentOctets_of_ne {c : Char} {rest : List Char} (other : c ≠ '%') :
    percentOctets (c :: rest) = c.toUInt8 :: percentOctets rest := by
  rw [percentOctets]
  rintro a b more rfl
  exact absurd rfl other

/-- The octets of a quoted ASCII text are those of the text. -/
theorem percentOctets_quote {cs : List Char} (ascii : ∀ c ∈ cs, c.toNat < 0x80) :
    percentOctets (quote cs) = cs.flatMap String.utf8EncodeChar := by
  induction cs with
  | nil => rfl
  | cons c cs ih =>
    obtain ⟨here, ascii⟩ := List.forall_mem_cons.mp ascii
    rw [quote_cons, List.flatMap_cons, Text.Utf8.utf8EncodeChar_of_lt here, ← ih ascii]
    by_cases percent : c = '%'
    · subst percent
      show percentOctets ('%' :: '2' :: '5' :: quote cs) = '%'.toUInt8 :: percentOctets (quote cs)
      rw [percentOctets]
      rfl
    · rw [quoteChar_of_ne percent, List.singleton_append, percentOctets_of_ne percent,
        List.singleton_append]

/-- ASCII characters go on the run that was begun. -/
theorem percentDecodeFrom_append {cs : List Char} (ascii : ∀ c ∈ cs, c.toNat < 0x80)
    (rest run : List Char) :
    percentDecodeFrom (cs ++ rest) run = percentDecodeFrom rest (cs.reverse ++ run) := by
  induction cs generalizing run with
  | nil => rfl
  | cons c cs ih =>
    obtain ⟨here, ascii⟩ := List.forall_mem_cons.mp ascii
    rw [List.cons_append, percentDecodeFrom, if_pos here, ih ascii, List.reverse_cons,
      List.append_assoc, List.singleton_append]

/-- By induction on the characters: the run that was begun is a quoted ASCII text, and is read as
that text where it ends. -/
theorem percentDecodeFrom_quote (cs run : List Char) (ascii : ∀ c ∈ run, c.toNat < 0x80) :
    percentDecodeFrom (quote cs) (quote run).reverse = run ++ cs := by
  induction cs generalizing run with
  | nil =>
    show Text.Utf8.decodeLossy (percentOctets (quote run).reverse.reverse) = _
    rw [List.reverse_reverse, percentOctets_quote ascii, Text.Utf8.decodeLossy_encode,
      List.append_nil]
  | cons c cs ih =>
    by_cases small : c.toNat < 0x80
    · have digits : ∀ d ∈ ['2', '5'], d.toNat < 0x80 := by simp
      have quoted : ∀ d ∈ quoteChar c, d.toNat < 0x80 := by
        intro d mem
        rcases mem_quoteChar mem with rfl | digit
        · exact small
        · exact digits d digit
      have longer : ∀ d ∈ run ++ [c], d.toNat < 0x80 :=
        List.forall_mem_append.mpr ⟨ascii, List.forall_mem_singleton.mpr small⟩
      have begun : (quoteChar c).reverse ++ (quote run).reverse = (quote (run ++ [c])).reverse := by
        rw [← List.reverse_append, quote_append, quote_cons]
        exact congrArg List.reverse (congrArg _ (List.append_nil _).symm)
      rw [quote_cons, percentDecodeFrom_append quoted, begun, ih _ longer, List.append_assoc,
        List.singleton_append]
    · have other : c ≠ '%' := by
        rintro rfl
        exact small (by decide)
      have next : percentDecodeFrom (quote cs) [] = cs := ih [] nofun
      rw [quote_cons, quoteChar_of_ne other, List.singleton_append, percentDecodeFrom,
        if_neg small, List.reverse_reverse, percentOctets_quote ascii,
        Text.Utf8.decodeLossy_encode]
      exact congrArg (run ++ c :: ·) next

/-- Quoted percent signs are read back. -/
theorem percentDecode_quote (cs : List Char) : percentDecode (quote cs) = cs := by
  by_cases percent : '%' ∈ cs
  · have quoted : (quote cs).contains '%' = true := List.contains_iff_mem.mpr
      (percent_mem_quote percent)
    have read : percentDecodeFrom (quote cs) [] = cs := percentDecodeFrom_quote cs [] nofun
    rw [percentDecode, if_pos quoted, read]
  · rw [quote_of_not_mem percent, percentDecode_of_not_mem percent]

/-! ## Parts of pointers -/

/-- The parts of a quoted text are the quoted parts. -/
theorem splitSlash_quote (cs : List Char) :
    splitSlash (quote cs) = (splitSlash cs).map quote := by
  induction cs with
  | nil => rfl
  | cons c cs ih =>
    by_cases slash : c = '/'
    · subst slash
      show [] :: splitSlash (quote cs) = [] :: (splitSlash cs).map quote
      rw [ih]
    · obtain ⟨first, parts, split⟩ := List.exists_cons_of_ne_nil (splitSlash_ne_nil cs)
      have whole : '/' ∉ quoteChar c := by
        intro mem
        rcases mem_quoteChar mem with same | digit
        · exact slash same.symm
        · exact absurd digit (by decide)
      rw [split, List.map_cons] at ih
      rw [quote_cons, splitSlash_append whole ih, splitSlash, if_neg (by simpa using slash), split]
      rfl

/-- **A pointer gives the keys that it was made from.** -/
theorem keys_quote_text (key : String) (others : List String) :
    keys (quote ((escape key).toList ++ text others)) = key :: others := by
  have read (key : String) : String.ofList (unescapeList (percentDecode
      (quote (escape key).toList))) = key := by
    rw [percentDecode_quote]
    exact unescape_escape key
  rw [keys, splitSlash_quote, splitSlash_append_text (slash_not_mem_escape key), List.map_cons,
    List.map_cons, List.map_map, List.map_map, read]
  exact congrArg (key :: ·) ((List.map_congr_left fun other _ => read other).trans (List.map_id _))

end Pointer

namespace Schema

open Pointer (quote escape unescape)

/-! ## Names in containers -/

theorem nameIn_append {name : String} (some : name ≠ "") (container : List String) :
    nameIn container (container ++ [name]) = .some name := by
  have named : ¬name.isEmpty = true := by simpa using some
  rw [nameIn, if_pos (List.isPrefixOf_iff_prefix.mpr (List.prefix_append _ _)), List.drop_left]
  exact if_neg named

/-- The keys of a name in one container lead to no other name in another one. -/
theorem findSome?_nameIn {container : List String} (mem : container ∈ containers) {name : String}
    (some : name ≠ "") :
    containers.findSome? (fun other => nameIn other (container ++ [name])) = .some name := by
  cases found : containers.findSome? fun other => nameIn other (container ++ [name]) with
  | none =>
    have absent := List.findSome?_eq_none_iff.mp found container mem
    rw [nameIn_append some] at absent
    cases absent
  | some other =>
    obtain ⟨_, -, named⟩ := List.exists_of_findSome?_eq_some found
    obtain ⟨-, same⟩ := List.append_inj' (nameIn_eq named) rfl
    rw [(List.cons.inj same).1]

/-! ## References -/

/-- The reference to a name in a container: the escaped name, with percent signs as octets, behind
the path of the container. -/
def referenceText (container : List String) (name : String) : String :=
  containerPath container ++ "/" ++ String.ofList (quote (escape name).toList)

/-- It is the quoted place of the name. -/
theorem toList_referenceText {container : List String} (mem : container ∈ containers)
    (name : String) :
    (referenceText container name).toList = quote (Pointer.place (container ++ [name])).toList := by
  have plain : ∀ other ∈ containers, '%' ∉ (containerPath other ++ "/").toList := by decide
  have behind (token : String) : (containerPath container ++ "/" ++ token).toList =
      (containerPath container ++ "/").toList ++ token.toList := String.toList_append
  rw [referenceText, Pointer.place_append, ← containerPath_eq mem, behind, behind,
    Pointer.quote_append, Pointer.quote_of_not_mem (plain container mem), String.toList_ofList]

/-- The fragment of a reference gives the keys of the name. -/
theorem exists_fragment_referenceText {container : List String} (mem : container ∈ containers)
    (name : String) :
    ∃ fragment, (referenceText container name).toList = '#' :: '/' :: fragment ∧
      Pointer.keys fragment = container ++ [name] := by
  rw [toList_referenceText mem]
  cases keys : container ++ [name] with
  | nil => exact absurd keys (by simp)
  | cons first others =>
    refine ⟨_, ?_, Pointer.keys_quote_text first others⟩
    rw [Pointer.place, String.toList_ofList]
    rfl

theorem targetOf_referenceText (root : Option String) {container : List String}
    (mem : container ∈ containers) {name : String} (some : name ≠ "") :
    targetOf root (referenceText container name) = .ok name := by
  obtain ⟨fragment, chars, keys⟩ := exists_fragment_referenceText mem name
  unfold targetOf
  rw [chars]
  split
  · rename_i alone
    cases alone
  · rename_i same
    cases same
    rw [keys, findSome?_nameIn mem some]
  · rename_i noSlash same
    cases same
    exact absurd rfl (noSlash fragment)
  · rename_i noHash
    exact absurd rfl (noHash _)

theorem readReference_of_targetOf {root : Option String} {reference target : String}
    (some : reference ≠ "") (h : targetOf root reference = .ok target) (path : String) :
    readReference root (.str reference) path = pure (reference, target) := by
  have text : ¬reference.isEmpty = true := by simpa using some
  simp only [readReference, Value.asStr?, if_neg text, h]

/-- **Names survive tokens and references.** A key is read back from its token, which has no slash;
and a reference to a name in a container is read as the name, whatever characters it has. -/
theorem reference_reads_back :
    (∀ key : String, unescape (escape key) = key ∧ '/' ∉ (escape key).toList) ∧
    ∀ (root : Option String) (path : String), ∀ container ∈ containers, ∀ name ≠ "",
      readReference root (.str (referenceText container name)) path =
        pure (referenceText container name, name) := by
  constructor
  · intro key
    exact ⟨Pointer.unescape_escape key, Pointer.slash_not_mem_escape key⟩
  · intro root path container mem name some
    refine readReference_of_targetOf ?_ (targetOf_referenceText root mem some) path
    obtain ⟨fragment, chars, -⟩ := exists_fragment_referenceText mem name
    intro none
    rw [none] at chars
    cases chars

/-- A name of signs that are escaped and quoted, of digits that escapes end with, and of more than
ASCII. -/
theorem signs_are_read_back :
    ["components", "schemas"] ∈ containers ∧ "~1/%2541é~" ≠ "" ∧
      referenceText ["components", "schemas"] "~1/%2541é~" =
        "#/components/schemas/~01~1%252541é~0" ∧
      readReference none (.str "#/components/schemas/~01~1%252541é~0") "#" =
        pure ("#/components/schemas/~01~1%252541é~0", "~1/%2541é~") := by
  have written : referenceText ["components", "schemas"] "~1/%2541é~" =
      "#/components/schemas/~01~1%252541é~0" := by decide +kernel
  have mem : ["components", "schemas"] ∈ containers := by decide
  have some : "~1/%2541é~" ≠ "" := by decide
  have read := reference_reads_back.2 none "#" _ mem _ some
  rw [written] at read
  exact ⟨mem, some, written, read⟩

end Schema

end WireModel
