import WireModel.Codec.Model
import WireModel.Proofs.Success
import WireModel.Proofs.Value.Plain

/-!
# When combinators succeed

For each combinator what its success says about the codecs that it is made of. Containers come
in two forms: from a success to the successes of its parts (`..._ok`), and from parts that
succeed at every place, with some relation between each part and its result, to a result with
the same relation between the parts (`exists_..._ok`).
-/

namespace WireModel.Codec

variable {c : Codec} {v w : Value} {path : Path}

theorem fail_ne_ok {α : Type} {cause : Cause} {a : α} :
    (Outcome.fail path cause : Outcome α) ≠ .ok a := by
  intro h
  cases h

theorem failAbout_ne_ok {α : Type} {shown : List Value} {cause : Cause} {a : α} :
    (Outcome.failAbout shown path cause : Outcome α) ≠ .ok a := by
  intro h
  cases h

theorem isNull_iff {v : Value} : v.isNull = true ↔ v = .null := by
  cases v <;> simp [Value.isNull]

theorem isUnset_iff {v : Value} : v.isUnset = true ↔ v = .unset := by
  cases v <;> simp [Value.isUnset]

/-! ## Values -/

theorem nullable_run_ok_iff :
    (nullable c).run v path = .ok w ↔
      v = .null ∧ w = .null ∨ v ≠ .null ∧ c.run v path = .ok w := by
  simp only [nullable]
  by_cases h : v = .null
  · subst h
    simp [Value.isNull, eq_comm]
  · simp [h, isNull_iff]

theorem element_ok_iff :
    c.element path v = .ok w ↔ (v = .null → c.acceptsNull = true) ∧ c.run v path = .ok w := by
  simp only [element]
  by_cases h : v = .null
  · subst h
    cases c.acceptsNull <;> simp [Value.isNull, fail_ne_ok]
  · simp [h, isNull_iff]

theorem elements_ok :
    ∀ {i : Nat} {vs ws : List Value}, c.elements path i vs = .ok ws →
      List.Forall₂ (fun v w => ∃ place, c.element place v = .ok w) vs ws
  | _, [], ws, h => by
    cases h
    exact .nil
  | i, v :: rest, ws, h => by
    simp only [elements, bind_eq_ok, pure_eq_ok] at h
    obtain ⟨w, hw, ws', hws, rfl⟩ := h
    exact .cons ⟨_, hw⟩ (elements_ok hws)

theorem exists_elements_ok {R : Value → Value → Prop} :
    ∀ {i : Nat} {vs : List Value},
      (∀ v ∈ vs, ∀ place, ∃ w, c.element place v = .ok w ∧ R v w) →
        ∃ ws, c.elements path i vs = .ok ws ∧ List.Forall₂ R vs ws
  | _, [], _ => ⟨[], rfl, .nil⟩
  | i, v :: rest, h => by
    obtain ⟨w, hw, r⟩ := h v List.mem_cons_self (path.push (.index i))
    obtain ⟨ws, hws, rs⟩ :=
      exists_elements_ok (i := i + 1) fun v hv => h v (List.mem_cons_of_mem _ hv)
    refine ⟨w :: ws, ?_, .cons r rs⟩
    simp only [elements, bind_eq_ok, pure_eq_ok]
    exact ⟨w, hw, ws, hws, rfl⟩

theorem listOf_run_ok (h : c.listOf.run v path = .ok w) :
    ∃ vs ws, v.elements? = some vs ∧ w = .list ws ∧
      List.Forall₂ (fun v w => ∃ place, c.element place v = .ok w) vs ws := by
  simp only [listOf] at h
  split at h
  · rename_i vs hv
    obtain ⟨ws, hws, rfl⟩ := map_eq_ok.mp h
    exact ⟨vs, ws, hv, rfl, elements_ok hws⟩
  · exact absurd h fail_ne_ok

theorem exists_listOf_run_ok (path : Path) {R : Value → Value → Prop} {vs : List Value}
    (hv : v.elements? = some vs)
    (h : ∀ v ∈ vs, ∀ place, ∃ w, c.element place v = .ok w ∧ R v w) :
    ∃ ws, c.listOf.run v path = .ok (.list ws) ∧ List.Forall₂ R vs ws := by
  obtain ⟨ws, hws, rs⟩ : ∃ ws, c.elements path 0 vs = .ok ws ∧ _ := exists_elements_ok h
  refine ⟨ws, ?_, rs⟩
  simp only [listOf, hv]
  exact map_eq_ok.mpr ⟨ws, hws, rfl⟩

/-- What becomes of an entry of a mapping: its key stays. -/
def EntryOk (c : Codec) (entry result : Value × Value) : Prop :=
  result.1 = entry.1 ∧ entry.1.isTellable = true ∧ ∃ place, c.element place entry.2 = .ok result.2

theorem entries_ok :
    ∀ {entries results : List (Value × Value)}, c.entries path entries = .ok results →
      List.Forall₂ (EntryOk c) entries results
  | [], results, h => by
    cases h
    exact .nil
  | (k, v) :: rest, results, h => by
    simp only [entries] at h
    split at h
    · rename_i tellable
      simp only [bind_eq_ok, pure_eq_ok] at h
      obtain ⟨w, hw, ws, hws, rfl⟩ := h
      exact .cons ⟨rfl, tellable, _, hw⟩ (entries_ok hws)
    · simp only [bind_eq_ok] at h
      obtain ⟨_, h, _⟩ := h
      exact absurd h fail_ne_ok

theorem exists_entries_ok {R : Value × Value → Value → Prop} :
    ∀ {entries : List (Value × Value)},
      (∀ entry ∈ entries, entry.1.isTellable = true ∧
        ∀ place, ∃ w, c.element place entry.2 = .ok w ∧ R entry w) →
        ∃ results, c.entries path entries = .ok results ∧
          List.Forall₂ (fun entry result => result.1 = entry.1 ∧ R entry result.2)
            entries results
  | [], _ => ⟨[], rfl, .nil⟩
  | (k, v) :: rest, h => by
    obtain ⟨tellable, some⟩ := h (k, v) List.mem_cons_self
    obtain ⟨w, hw, r⟩ := some (path.push (.key k))
    obtain ⟨results, hresults, rs⟩ :=
      exists_entries_ok fun entry he => h entry (List.mem_cons_of_mem _ he)
    refine ⟨(k, w) :: results, ?_, .cons ⟨rfl, r⟩ rs⟩
    simp only [entries, tellable, if_true, bind_eq_ok, pure_eq_ok]
    exact ⟨w, hw, results, hresults, rfl⟩

theorem dictOf_run_ok (h : c.dictOf.run v path = .ok w) :
    ∃ entries results, v = .map entries ∧ w = .map results ∧
      List.Forall₂ (EntryOk c) entries results := by
  simp only [dictOf] at h
  split at h
  · rename_i members hv
    obtain ⟨results, hresults, rfl⟩ := map_eq_ok.mp h
    cases v <;> cases hv
    exact ⟨_, results, rfl, rfl, entries_ok hresults⟩
  · exact absurd h fail_ne_ok

theorem exists_dictOf_run_ok (path : Path) {R : Value × Value → Value → Prop}
    {entries : List (Value × Value)}
    (h : ∀ entry ∈ entries, entry.1.isTellable = true ∧
      ∀ place, ∃ w, c.element place entry.2 = .ok w ∧ R entry w) :
    ∃ results, c.dictOf.run (.map entries) path = .ok (.map results) ∧
      List.Forall₂ (fun entry result => result.1 = entry.1 ∧ R entry result.2)
        entries results := by
  obtain ⟨results, hresults, rs⟩ : ∃ results, c.entries path entries = .ok results ∧ _ :=
    exists_entries_ok h
  exact ⟨results, map_eq_ok.mpr ⟨results, hresults, rfl⟩, rs⟩

/-! ## Alternatives -/

theorem firstMatch_run_ok_iff {options : List ((Value → Bool) × Codec)} {description : String} :
    (firstMatch options description).run v path = .ok w ↔
      ∃ option, options.find? (fun option => option.1 v) = some option ∧
        option.2.run v path = .ok w := by
  simp only [firstMatch]
  split
  · rename_i option found
    simp [found]
  · rename_i missing
    simp [missing, fail_ne_ok]

theorem selectVariant_ok_iff {α : Type} {members : List (Value × Value)} {property : String}
    {cases : List (String × α)} {selected : α} :
    selectVariant members property cases path = .ok selected ↔
      ∃ tag, Value.lookup property members = some (.str tag) ∧
        cases.reverse.lookup tag = some selected := by
  simp only [selectVariant]
  cases hv : Value.lookup property members with
  | none => simp [failAbout_ne_ok]
  | some v =>
    cases v with
    | str tag =>
      cases hs : cases.reverse.lookup tag <;>
        simp [Option.filter, Value.isUnset, Value.asStr?, hs, failAbout_ne_ok]
    | unset => simp [Option.filter, Value.isUnset, failAbout_ne_ok]
    | _ => simp [Option.filter, Value.isUnset, Value.asStr?, failAbout_ne_ok]

theorem requireMapping_ok_iff {model : String} {members : List (Value × Value)} :
    requireMapping model v path = .ok members ↔ v = .map members := by
  cases v <;> simp [requireMapping, fail_ne_ok]

/-! ## Fields -/

@[simp] theorem ruleOf_wireName (model : String) (f : FieldContract) :
    (ruleOf model f).wireName = f.wireName := rfl

@[simp] theorem ruleOf_required (model : String) (f : FieldContract) :
    (ruleOf model f).required = f.required := rfl

@[simp] theorem ruleOf_nullable (model : String) (f : FieldContract) :
    (ruleOf model f).nullable = f.nullable := rfl

theorem decodeField_ok_iff {rule : FieldRule} {members : List (Value × Value)} :
    decodeField rule c members path = .ok w ↔
      (Value.lookup rule.wireName members = none ∧ rule.required = false ∧ w = .unset) ∨
      (Value.lookup rule.wireName members = some .null ∧ rule.nullable = true ∧ w = .null) ∨
      ∃ v, Value.lookup rule.wireName members = some v ∧ v ≠ .null ∧
        c.run v (path.push (.field rule.wireName)) = .ok w := by
  simp only [decodeField]
  cases Value.lookup rule.wireName members with
  | none => cases rule.required <;> simp [fail_ne_ok, @eq_comm _ w]
  | some v =>
    by_cases h : v = .null
    · subst h
      cases rule.nullable <;> simp [Value.isNull, fail_ne_ok, @eq_comm _ w]
    · simp [h, isNull_iff]

theorem decodeFields_ok_iff {models : ModelCodec} {r : RecordContract}
    {members : List (Value × Value)} :
    decodeFields models r members path = .ok w ↔
      ∃ fields, w = .record r.name fields ∧
        List.Forall₂ (fun f field => field.1 = f.attributeName ∧
          decodeField (ruleOf r.name f) (f.plan.decoder models) members path = .ok field.2)
          r.fields fields := by
  simp only [decodeFields, bind_eq_ok, mapM_eq_ok, pure_eq_ok]
  constructor
  · rintro ⟨fields, hfields, rfl⟩
    refine ⟨fields, rfl, hfields.imp ?_⟩
    rintro f field ⟨v, hv, rfl⟩
    exact ⟨rfl, hv⟩
  · rintro ⟨fields, rfl, hfields⟩
    refine ⟨fields, hfields.imp ?_, rfl⟩
    rintro f ⟨name, v⟩ ⟨rfl, hv⟩
    exact ⟨v, hv, rfl⟩

theorem encodeField_ok_iff {rule : FieldRule} {members result : List (Value × Value)} :
    encodeField rule c v path members = .ok result ↔
      (v = .unset ∧ rule.required = false ∧ result = members) ∨
      (v = .null ∧ rule.nullable = true ∧
        result = Value.setKey rule.wireName .null members) ∨
      v ≠ .unset ∧ v ≠ .null ∧ ∃ w, c.run v (path.push (.field rule.wireName)) = .ok w ∧
        result = Value.setKey rule.wireName w members := by
  simp only [encodeField]
  by_cases unset : v = .unset
  · subst unset
    cases rule.required <;> simp [Value.isUnset, fail_ne_ok, @eq_comm _ result]
  · by_cases null : v = .null
    · subst null
      cases rule.nullable <;>
        simp [Value.isNull, Value.isUnset, fail_ne_ok, @eq_comm _ result]
    · simp [unset, null, isNull_iff, isUnset_iff, map_eq_ok, @eq_comm _ result]

/-- What encoding makes of the value of a field: nothing if it is unset. -/
def FieldWrites (models : ModelCodec) (path : Path) (fields : List (String × Value))
    (f : FieldContract) (written : Option Value) : Prop :=
  match written with
  | none => Value.attributeOf fields f.attributeName = .unset ∧ f.required = false
  | some w =>
    Value.attributeOf fields f.attributeName = .null ∧ f.nullable = true ∧ w = .null ∨
    Value.attributeOf fields f.attributeName ≠ .unset ∧ Value.attributeOf fields f.attributeName ≠ .null ∧
      (f.plan.encoder models).run (Value.attributeOf fields f.attributeName)
        (path.push (.field f.wireName)) = .ok w

/-- The entries that encoding writes for fields. -/
def writtenEntries (fs : List FieldContract) (written : List (Option Value)) :
    List (Value × Value) :=
  (fs.zip written).filterMap fun p => p.2.map fun w => (.str p.1.wireName, w)

theorem setKey_of_lookup_eq_none {key : String} {entries : List (Value × Value)}
    (h : Value.lookup key entries = none) (v : Value) :
    Value.setKey key v entries = entries ++ [(.str key, v)] := by
  induction entries with
  | nil => rfl
  | cons entry rest ih =>
    obtain ⟨k, w⟩ := entry
    simp only [Value.lookup] at h
    split at h
    · cases h
    · rename_i other
      simp [Value.setKey, other, ih h]

theorem lookup_append_str {key other : String} {entries : List (Value × Value)} {v : Value}
    (h : Value.lookup key entries = none) (ne : other ≠ key) :
    Value.lookup key (entries ++ [(.str other, v)]) = none := by
  induction entries with
  | nil => simp [Value.lookup, Value.isText, ne]
  | cons entry rest ih =>
    obtain ⟨k, w⟩ := entry
    simp only [Value.lookup] at h
    split at h
    · cases h
    · rename_i different
      simp [Value.lookup, different, ih h]

/-- Fields with distinct wire names are written one behind the other. -/
theorem foldlM_encodeField_ok_iff {models : ModelCodec} {model : String}
    {fields : List (String × Value)} {fs : List FieldContract}
    (distinct : (fs.map (·.wireName)).Nodup) {members result : List (Value × Value)}
    (fresh : ∀ f ∈ fs, Value.lookup f.wireName members = none) :
    fs.foldlM (fun members f => encodeField (ruleOf model f) (f.plan.encoder models)
        (Value.attributeOf fields f.attributeName) path members) members = .ok result ↔
      ∃ written, List.Forall₂ (FieldWrites models path fields) fs written ∧
        result = members ++ writtenEntries fs written := by
  -- the wire names behind are fresh in what is written so far, so each field appends its entry
  induction fs generalizing members with
  | nil =>
    simp only [List.foldlM_nil, pure_eq_ok, List.forall₂_nil_left_iff, exists_eq_left]
    simp [writtenEntries, @eq_comm _ result]
  | cons f fs ih =>
    have first : Value.lookup f.wireName members = none := fresh f List.mem_cons_self
    have others : ∀ g ∈ fs, Value.lookup g.wireName members = none :=
      fun g hg => fresh g (List.mem_cons_of_mem _ hg)
    have apart : ∀ w, ∀ g ∈ fs,
        Value.lookup g.wireName (members ++ [(.str f.wireName, w)]) = none := by
      intro w g hg
      refine lookup_append_str (others g hg) fun same => ?_
      exact (List.nodup_cons.mp distinct).1 (List.mem_map.mpr ⟨g, hg, same.symm⟩)
    have rest := (List.nodup_cons.mp distinct).2
    simp only [List.foldlM_cons, bind_eq_ok, encodeField_ok_iff, ruleOf_wireName,
      ruleOf_required, ruleOf_nullable, setKey_of_lookup_eq_none first,
      List.forall₂_cons_left_iff]
    constructor
    · -- an unset field, a null field, and a field with a value
      rintro ⟨middle, ⟨unset, required, rfl⟩ | ⟨null, nullable, rfl⟩ |
        ⟨unset, null, w, hw, rfl⟩, h⟩
      · obtain ⟨written, hwritten, rfl⟩ := (ih rest others).mp h
        exact ⟨none :: written, ⟨none, written, ⟨unset, required⟩, hwritten, rfl⟩,
          by simp [writtenEntries]⟩
      · obtain ⟨written, hwritten, rfl⟩ := (ih rest (apart _)).mp h
        exact ⟨some .null :: written, ⟨some .null, written, .inl ⟨null, nullable, rfl⟩, hwritten,
          rfl⟩, by simp [writtenEntries]⟩
      · obtain ⟨written, hwritten, rfl⟩ := (ih rest (apart _)).mp h
        exact ⟨some w :: written, ⟨some w, written, .inr ⟨unset, null, hw⟩, hwritten, rfl⟩,
          by simp [writtenEntries]⟩
    · rintro ⟨_, ⟨first | w, written, hfirst, hwritten, rfl⟩, rfl⟩
      · refine ⟨members, .inl ⟨hfirst.1, hfirst.2, rfl⟩, (ih rest others).mpr ⟨written, hwritten, ?_⟩⟩
        simp [writtenEntries]
      · refine ⟨members ++ [(.str f.wireName, w)], ?_,
          (ih rest (apart w)).mpr ⟨written, hwritten, by simp [writtenEntries]⟩⟩
        rcases hfirst with ⟨null, nullable, rfl⟩ | ⟨unset, null, hw⟩
        · exact .inr (.inl ⟨null, nullable, rfl⟩)
        · exact .inr (.inr ⟨unset, null, w, hw, rfl⟩)

theorem encodeFields_ok_iff {models : ModelCodec} {r : RecordContract}
    (distinct : (r.fields.map (·.wireName)).Nodup) {fields : List (String × Value)} :
    encodeFields models r fields path = .ok w ↔
      ∃ written, List.Forall₂ (FieldWrites models path fields) r.fields written ∧
        w = .map (writtenEntries r.fields written) := by
  simp only [encodeFields, bind_eq_ok, pure_eq_ok]
  constructor
  · rintro ⟨members, h, rfl⟩
    obtain ⟨written, hwritten, rfl⟩ :=
      (foldlM_encodeField_ok_iff distinct fun _ _ => rfl).mp h
    exact ⟨written, hwritten, rfl⟩
  · rintro ⟨written, hwritten, rfl⟩
    exact ⟨writtenEntries r.fields written,
      (foldlM_encodeField_ok_iff distinct fun _ _ => rfl).mpr ⟨written, hwritten, rfl⟩, rfl⟩

end WireModel.Codec
