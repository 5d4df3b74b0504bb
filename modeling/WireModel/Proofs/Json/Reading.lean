import WireModel.Json.Reader
import WireModel.Proofs.Decimal.Numerals
import WireModel.Proofs.Success
import WireModel.Proofs.Value.Plain

/-!
# What JSON text denotes

Text that reads as JSON denotes a JSON value, whose integers have no more digits than the text
may have. So it can be shown (`read_ok`), and an integer that is too long is a fault of the
reader alone.
-/

namespace WireModel

namespace Value

/-! ## Entries -/

theorem mem_setKey {key : String} {v : Value} :
    ∀ {entries : List (Value × Value)} {entry : Value × Value}, entry ∈ setKey key v entries →
      entry ∈ entries ∨ ∃ k, entry = (k, v) ∧ (k = .str key)
  | [], entry, mem => by
    rw [setKey, List.mem_singleton] at mem
    exact .inr ⟨_, mem, rfl⟩
  | (k, w) :: rest, entry, mem => by
    rw [setKey] at mem
    split at mem
    · rename_i same
      rcases List.mem_cons.mp mem with rfl | mem
      · exact .inr ⟨k, rfl, isText_iff.mp same⟩
      · exact .inl (List.mem_cons_of_mem _ mem)
    · rcases List.mem_cons.mp mem with rfl | mem
      · exact .inl List.mem_cons_self
      · exact (mem_setKey mem).imp_left (List.mem_cons_of_mem _)

theorem keys_setKey_nodup {key : String} {v : Value} :
    ∀ {entries : List (Value × Value)}, (entries.map fun entry => asStr? entry.1).Nodup →
      ((setKey key v entries).map fun entry => asStr? entry.1).Nodup
  | [], _ => List.nodup_singleton _
  | (k, w) :: rest, distinct => by
    rw [setKey]
    split
    · exact distinct
    · rename_i other
      obtain ⟨fresh, distinct⟩ := List.nodup_cons.mp distinct
      refine List.nodup_cons.mpr ⟨fun mem => ?_, keys_setKey_nodup distinct⟩
      obtain ⟨entry, mem, same⟩ := List.mem_map.mp mem
      rcases mem_setKey mem with mem | ⟨_, rfl, rfl⟩
      · exact fresh (List.mem_map.mpr ⟨entry, mem, same⟩)
      · cases k <;> cases same
        exact other (isText_iff.mpr rfl)

/-- A JSON mapping with an entry more is a JSON mapping. -/
theorem isJson_setKey {key : String} {v : Value} {entries : List (Value × Value)}
    (json : (map entries).isJson = true) (new : v.isJson = true) :
    (map (setKey key v entries)).isJson = true := by
  obtain ⟨all, distinct⟩ := isJson_map.mp json
  refine isJson_map.mpr ⟨fun entry mem => ?_, keys_setKey_nodup distinct⟩
  rcases mem_setKey mem with mem | ⟨k, rfl, rfl⟩
  · exact all entry mem
  · exact ⟨⟨key, rfl⟩, new⟩

theorem isTellable_setKey {key : String} {v : Value} {entries : List (Value × Value)}
    (tellable : (map entries).isTellable = true) (new : v.isTellable = true) :
    (map (setKey key v entries)).isTellable = true := by
  refine isTellable_map.mpr fun entry mem => ?_
  rcases mem_setKey mem with mem | ⟨k, rfl, rfl⟩
  · exact isTellable_map.mp tellable entry mem
  · exact ⟨rfl, new⟩

end Value

namespace Json

/-- A JSON value that can be shown. -/
def IsTold (v : Value) : Prop := v.isJson = true ∧ v.isTellable = true

theorem isTold_list {items : List Value} (all : ∀ v ∈ items, IsTold v) : IsTold (.list items) :=
  ⟨Value.isJson_list.mpr fun v mem => (all v mem).1,
    Value.isTellable_list.mpr fun v mem => (all v mem).2⟩

/-! ## Scalars -/

theorem readWhole_ok {c after : Cursor} {whole : List Char}
    (h : readWhole c = some (whole, after)) : ∀ d ∈ whole, d.isDigit = true := by
  unfold readWhole at h
  split at h
  · cases h
    exact List.forall_mem_singleton.mpr rfl
  · split at h
    · cases h
      exact fun d mem => List.all_eq_true.mp List.all_takeWhile d mem
    · cases h
  · cases h

theorem readNumber_ok {c after : Cursor} {v : Value} (h : readNumber c = .ok (v, after)) :
    IsTold v := by
  unfold readNumber at h
  dsimp only at h
  split at h
  · cases h
  · rename_i whole afterWhole found
    split at h
    · split at h
      · cases h
      · rename_i few
        have short := Decimal.isWritable_toNat (readWhole_ok found) (Nat.le_of_not_lt few)
        cases h
        split
        · exact ⟨rfl, (Decimal.isWritable_neg _).trans short⟩
        · exact ⟨rfl, short⟩
    · cases h
      exact ⟨rfl, rfl⟩

theorem readScalar_ok {c after : Cursor} {v : Value} (h : readScalar c = .ok (v, after)) :
    IsTold v := by
  unfold readScalar at h
  split at h
  · rename_i word w found
    cases h
    have mem := List.mem_of_find?_eq_some found
    simp only [words, List.mem_cons, Prod.mk.injEq, List.not_mem_nil, or_false] at mem
    rcases mem with h | h | h | h | h | h <;> exact h.2 ▸ ⟨rfl, rfl⟩
  · exact readNumber_ok h

/-! ## Values -/

theorem readValue_ok_of {fuel : Nat}
    (elements : ∀ {c after items v}, (∀ w ∈ items, IsTold w) →
      readElements fuel c items = .ok (v, after) → IsTold v)
    (members : ∀ {c after entries v}, IsTold (.map entries) →
      readMembers fuel c entries = .ok (v, after) → IsTold v)
    {c after : Cursor} {v : Value} (h : readValue (fuel + 1) c = .ok (v, after)) : IsTold v := by
  unfold readValue at h
  split at h
  · obtain ⟨⟨s, rest⟩, -, same⟩ := map_eq_ok.mp h
    cases same
    exact ⟨rfl, rfl⟩
  · dsimp only at h
    split at h
    · cases h
      exact ⟨rfl, rfl⟩
    · exact elements (List.forall_mem_nil _) h
  · dsimp only at h
    split at h
    · cases h
      exact ⟨rfl, rfl⟩
    · exact members ⟨rfl, rfl⟩ h
  · exact readScalar_ok h

/-- All that is read can be shown, the elements and members read before included. -/
theorem reads_ok : ∀ fuel : Nat,
    (∀ {c after v}, readValue fuel c = .ok (v, after) → IsTold v) ∧
    (∀ {c after items v}, (∀ w ∈ items, IsTold w) →
      readElements fuel c items = .ok (v, after) → IsTold v) ∧
    ∀ {c after entries v}, IsTold (.map entries) →
      readMembers fuel c entries = .ok (v, after) → IsTold v
  | 0 => by refine ⟨fun h => ?_, fun _ h => ?_, fun _ h => ?_⟩ <;> cases h
  | fuel + 1 => by
    obtain ⟨value, elements, members⟩ := reads_ok fuel
    refine ⟨readValue_ok_of elements members, fun {c after items v} all h => ?_,
      fun {c after entries v} told h => ?_⟩
    · unfold readElements at h
      split at h
      · cases h
      · rename_i w next found
        have all : ∀ u ∈ w :: items, IsTold u := List.forall_mem_cons.mpr ⟨value found, all⟩
        dsimp only at h
        split at h
        · cases h
          exact isTold_list fun u mem => all u (List.mem_reverse.mp mem)
        · exact elements all h
        · cases h
    · unfold readMembers at h
      split at h
      · cases h
      split at h
      · cases h
      dsimp only at h
      split at h
      · cases h
      split at h
      · cases h
      · rename_i w next found
        obtain ⟨json, tellable⟩ := value found
        have told (key : String) : IsTold (.map (Value.setKey key w entries)) :=
          ⟨Value.isJson_setKey told.1 json, Value.isTellable_setKey told.2 tellable⟩
        split at h
        · cases h
          exact told _
        · exact members (told _) h
        · cases h

/-- What JSON text denotes is a JSON value that can be shown. -/
theorem read_ok {text : String} {v : Value} (h : read text = .ok v) :
    v.isJson = true ∧ v.isTellable = true := by
  unfold read readList at h
  split at h
  · cases h
  split at h
  · cases h
  · rename_i found
    dsimp only at h
    split at h
    · cases h
      exact (reads_ok _).1 found
    · cases h

/-! ## Integers that are too long -/

/-- Too many digits in front of a comma are an integer that is too long. -/
theorem readNumber_overlong {d : Char} (digits tail : List Char) (position : Nat)
    (first : d.isDigit = true) (nonzero : d ≠ '0') (all : ∀ c ∈ digits, c.isDigit = true)
    (many : Decimal.maxDigits ≤ digits.length) :
    readNumber ⟨d :: digits ++ ',' :: tail, position⟩ = .error (.overlong (digits.length + 1)) := by
  have minus : d ≠ '-' := by
    rintro rfl
    cases first
  have taken : (d :: digits ++ ',' :: tail).takeWhile Char.isDigit = d :: digits := by
    rw [List.takeWhile_append_of_pos (List.forall_mem_cons.mpr ⟨first, all⟩)]
    simp
  have whole : readWhole ⟨d :: digits ++ ',' :: tail, position⟩ =
      some (d :: digits, ⟨',' :: tail, position + (digits.length + 1)⟩) := by
    rw [readWhole]
    -- a first digit other than zero takes all digits behind it
    split
    · rename_i same
      cases same
      exact absurd rfl nonzero
    · rename_i d' rest _ same
      cases same
      rw [if_pos first, Cursor.takeWhile, taken]
      simp [Cursor.skip]
    · rename_i same
      cases same
  have sign : ((d :: digits ++ ',' :: tail).head? == some '-') = false := by simpa using minus
  have long : Decimal.maxDigits < (d :: digits).length := by
    rw [List.length_cons]
    omega
  unfold readNumber
  simp only [sign, Bool.false_eq_true, if_false, whole]
  exact if_pos long

/-- A fault in the first value of an object is one of the object. -/
theorem readValue_error_of_member {fuel position : Nat} {key rest : List Char} {fault : Fault}
    (named : ∀ position, ∃ name after, readString ⟨key ++ '"' :: ':' :: rest, position⟩ =
      .ok (name, ⟨':' :: rest, after⟩))
    (blank : rest.takeWhile Cursor.isBlank = [])
    (fails : ∀ position, readValue fuel ⟨rest, position⟩ = .error fault) :
    readValue (fuel + 2) ⟨'\x7b' :: '"' :: (key ++ '"' :: ':' :: rest), position⟩ =
      .error fault := by
  obtain ⟨name, after, named⟩ := named (position + 1 + 1)
  have skipped : (Cursor.mk rest (after + 1)).skipBlanks = ⟨rest, after + 1⟩ := by
    rw [Cursor.skipBlanks, blank]
    rfl
  have value : readMembers (fuel + 1) ⟨'"' :: (key ++ '"' :: ':' :: rest), position + 1⟩ [] =
      .error fault := by
    have quoted : (Cursor.mk ('"' :: (key ++ '"' :: ':' :: rest)) (position + 1)).skip 1 =
        ⟨key ++ '"' :: ':' :: rest, position + 1 + 1⟩ := rfl
    have colon : (Cursor.mk (':' :: rest) after).skipBlanks = ⟨':' :: rest, after⟩ := rfl
    have next : (Cursor.mk (':' :: rest) after).skip 1 = ⟨rest, after + 1⟩ := rfl
    have first : ((some '"' : Option Char) != some '"') = false := rfl
    have mark : ((some ':' : Option Char) != some ':') = false := rfl
    simp only [readMembers, List.head?_cons, first, mark, Bool.false_eq_true,
      if_false, quoted, named, colon, next, skipped, fails]
  exact value

end Json
end WireModel
