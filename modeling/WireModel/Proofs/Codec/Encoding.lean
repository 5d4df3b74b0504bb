import WireModel.Proofs.Codec.Decoding
import WireModel.Proofs.Table.Conformance

/-!
# Encoders write what the table can write

The encoders of contracts against the table that the contracts are derived from. An encoder
gives a plain result exactly for the values that the table can write: in one direction by
induction on the fuel (`writable_of_encodeModel`), in the other by induction on what is written
and one round of the encoders without fuel (`written_of_writable`).
-/

namespace WireModel.Codec

open Types (WireType)

variable {table : Table} {contracts : Contracts} {models : ModelCodec}

/-! ## Plans -/

theorem encoder_acceptsNull {t : WireType} {p : Plan} (h : Plan.Implements table t p) :
    (p.encoder models).acceptsNull = t.isNullable := by
  have same : (p.encoder models).acceptsNull = (p.decoder models).acceptsNull := by
    cases p <;> rfl
  rw [same, decoder_acceptsNull h]

theorem structural_encoder (models : ModelCodec) : Structural table (Plan.encoder models) :=
  ⟨fun _ => rfl, fun _ => rfl, fun _ => rfl, encoder_acceptsNull⟩

theorem encoders_eq_map (models : ModelCodec) (options : List (Predicate × Plan)) :
    Plan.encoders models options =
      options.map fun option => (option.1.holdsOfDecoded, option.2.encoder models) := by
  induction options with
  | nil => rfl
  | cons option rest ih => rw [Plan.encoders, List.map_cons, ih]

/-- The predicates of options decide the shape of decoded values. -/
theorem holdsOfDecoded_iff (v : Value) (t : WireType) (p : Predicate)
    (h : Contract.predicateFor table t = .ok p) :
    p.holdsOfDecoded v = true ↔ table.HasShape RecordReading.held v t := by
  rw [Predicate.holdsOfDecoded_eq]
  exact Table.predicateFor_holds_iff h

theorem firstMatch_encoder_run_ok_iff {options : List (Predicate × Plan)} {description : String}
    {v e : Value} {path : Path} :
    ((Plan.firstMatch options description).encoder models).run v path = .ok e ↔
      ∃ option, options.find? (fun option => option.1.holdsOfDecoded v) = some option ∧
        (option.2.encoder models).run v path = .ok e := by
  simp only [Plan.encoder, firstMatch_run_ok_iff, encoders_eq_map, exists_find?_map]

theorem dispatch_encoder_run_ok_iff {disc : Schema.Discriminator} {v e : Value} {path : Path} :
    ((Plan.dispatch disc.property disc.mapping).encoder models).run v path = .ok e ↔
      ∃ model fields, v = .record model fields ∧ model ∈ WireType.targets (some disc) ∧
        models model true v path = .ok e := by
  simp only [Plan.encoder, Plan.dispatchEncoder, WireType.targets]
  cases v with
  | record model fields =>
    have target : (disc.mapping.any fun entry => entry.2 == model) = true ↔
        model ∈ disc.mapping.map (·.2) := by
      simp
    simp only [target]
    split
    · rename_i mem
      constructor
      · intro h
        exact ⟨model, fields, rfl, mem, h⟩
      · rintro ⟨_, _, same, -, h⟩
        cases same
        exact h
    · rename_i mem
      constructor
      · intro h
        exact absurd h fail_ne_ok
      · rintro ⟨_, _, same, mem', -⟩
        cases same
        exact absurd mem' mem
  | _ => simp [fail_ne_ok]

/-! ## What encoders make plain is writable -/

/-- The encoder of a type's plan gives something plain for writable values only, if the encoders
of models do. -/
theorem writable_of_encoder
    (model : ∀ name ignoring v e path, models name ignoring v path = .ok e → e.isPlain = true →
      table.Writable ignoring (.model name) v)
    {t : WireType} {p : Plan} (hp : Plan.Implements table t p) {v e : Value} {path : Path}
    (h : (p.encoder models).run v path = .ok e) (plain : e.isPlain = true) :
    table.Writable false t v := by
  induction t using WireType.induct generalizing p v e path with
  | primitive kind format =>
    cases hp
    cases h
    exact .primitive plain
  | enum name values kind =>
    cases hp
    obtain ⟨member, rfl⟩ := enumOf_run_ok_iff.mp h
    exact .enum plain member
  | optional inner ih => exact .optional (ih hp h plain)
  | nullable inner ih =>
    obtain ⟨q, rfl, hq⟩ := hp
    rcases nullable_run_ok_iff.mp h with ⟨rfl, rfl⟩ | ⟨some, h⟩
    · exact .null
    · exact .nullable some (ih hq h plain)
  | sequence element ih =>
    obtain ⟨q, rfl, hq⟩ := hp
    obtain ⟨items, es, hitems, rfl, all⟩ := listOf_run_ok h
    have plains := Value.isPlain_list.mp plain
    refine .sequence hitems (fun w mem null => ?_) fun w mem => ?_
    · obtain ⟨x, -, place, h⟩ := exists_right_of_forall₂ all mem
      rw [← encoder_acceptsNull hq]
      exact (element_ok_iff.mp h).1 null
    · obtain ⟨x, mem, place, h⟩ := exists_right_of_forall₂ all mem
      exact ih hq (element_ok_iff.mp h).2 (plains x mem)
  | mapping value ih =>
    obtain ⟨q, rfl, hq⟩ := hp
    obtain ⟨entries, results, rfl, rfl, all⟩ := dictOf_run_ok h
    have plains := Value.isPlain_map.mp plain
    refine .mapping (fun entry mem => ?_) (fun entry mem null => ?_) fun entry mem => ?_
    all_goals obtain ⟨result, mem', key, tellable, place, h⟩ := exists_right_of_forall₂ all mem
    · exact ⟨key ▸ (plains result mem').1, tellable⟩
    · rw [← encoder_acceptsNull hq]
      exact (element_ok_iff.mp h).1 null
    · exact ih hq (element_ok_iff.mp h).2 (plains result mem').2
  | model name =>
    cases hp
    exact model name false v e path h plain
  | union name mode disc variants ih =>
    cases disc with
    | some disc =>
      cases hp
      obtain ⟨m, fields, rfl, target, h⟩ := dispatch_encoder_run_ok_iff.mp h
      exact .tagged target (model m true _ e path h plain)
    | none =>
      obtain ⟨options, description, rfl, all⟩ := hp
      obtain ⟨option, found, h⟩ := firstMatch_encoder_run_ok_iff.mp h
      obtain ⟨t, first, ht⟩ := all.isFirst_of_find? (holdsOfDecoded_iff v) found
      exact .untagged first (ih t first.mem ht h plain)

/-! ## Records -/

theorem wireNames_nodup {r : RecordModel} {c : RecordContract}
    (hc : RecordContract.Implements table r c) (distinct : (r.fields.map Field.wireName).Nodup) :
    (c.fields.map (·.wireName)).Nodup := by
  rwa [← map_eq_map_of_forall₂ hc.fields fun _ _ h => h.wireName.symm]

/-- Every field of a record with its contract and with what is written for it. -/
theorem exists_fieldWrites {r : RecordModel} {c : RecordContract}
    (hc : RecordContract.Implements table r c) {fields : List (String × Value)} {path : Path}
    {written : List (Option Value)}
    (all : List.Forall₂ (FieldWrites models path fields) c.fields written) {f : Field}
    (mem : f ∈ r.fields) :
    ∃ fc o, FieldContract.Implements table f fc ∧ (fc, o) ∈ c.fields.zip written ∧
      FieldWrites models path fields fc o := by
  obtain ⟨fc, hmem, hfc⟩ := exists_right_of_forall₂ hc.fields mem
  obtain ⟨o, hzip⟩ := exists_zip_of_mem_left all.length_eq hmem
  exact ⟨fc, o, hfc, hzip, zip_of_forall₂ all _ hzip⟩

/-- What is written for a field: nothing, null, or what its encoder makes of its value. -/
theorem exists_fieldWrites_of {f : Field} {fc : FieldContract}
    (hfc : FieldContract.Implements table f fc) {fields : List (String × Value)} {path : Path}
    {Q : Value → Prop}
    (unset : Value.attributeOf fields f.attributeName = .unset → f.required = false)
    (null : Value.attributeOf fields f.attributeName = .null → f.nullable = true)
    (other : Value.attributeOf fields f.attributeName ≠ .unset →
      Value.attributeOf fields f.attributeName ≠ .null →
      ∃ w, (fc.plan.encoder models).run (Value.attributeOf fields f.attributeName)
        (path.push (.field fc.wireName)) = .ok w ∧ Q w) :
    ∃ o, FieldWrites models path fields fc o ∧
      (o = none ∧ Value.attributeOf fields f.attributeName = .unset ∨
        o = some .null ∧ Value.attributeOf fields f.attributeName = .null ∨
        ∃ w, o = some w ∧ Value.attributeOf fields f.attributeName ≠ .unset ∧
          Value.attributeOf fields f.attributeName ≠ .null ∧ Q w) := by
  simp only [← hfc.attributeName, ← hfc.required, ← hfc.nullable] at unset null other ⊢
  by_cases isUnset : Value.attributeOf fields fc.attributeName = .unset
  · exact ⟨none, ⟨isUnset, unset isUnset⟩, .inl ⟨rfl, isUnset⟩⟩
  · by_cases isNull : Value.attributeOf fields fc.attributeName = .null
    · exact ⟨some .null, .inl ⟨isNull, null isNull, rfl⟩, .inr (.inl ⟨rfl, isNull⟩)⟩
    · obtain ⟨w, hw, q⟩ := other isUnset isNull
      exact ⟨some w, .inr ⟨isUnset, isNull, hw⟩, .inr (.inr ⟨w, rfl, isUnset, isNull, q⟩)⟩

theorem mem_writtenEntries {fs : List FieldContract} {written : List (Option Value)}
    {entry : Value × Value} :
    entry ∈ writtenEntries fs written ↔
      ∃ f w, (f, some w) ∈ fs.zip written ∧ entry = (.str f.wireName, w) := by
  simp only [writtenEntries, List.mem_filterMap, Option.map_eq_some_iff]
  constructor
  · rintro ⟨⟨f, o⟩, mem, w, rfl, rfl⟩
    exact ⟨f, w, mem, rfl⟩
  · rintro ⟨f, w, mem, rfl⟩
    exact ⟨(f, some w), mem, w, rfl, rfl⟩

theorem writable_of_encodeFields (wf : table.WellFormed)
    (model : ∀ name ignoring v e path, models name ignoring v path = .ok e → e.isPlain = true →
      table.Writable ignoring (.model name) v)
    {name : String} {ignoring : Bool} {r : RecordModel} {c : RecordContract}
    (found : table.record? name = some r) (hc : RecordContract.Implements table r c)
    {fields : List (String × Value)} {e : Value} {path : Path}
    (h : encodeFields models c fields path = .ok e) (plain : e.isPlain = true) :
    table.Writable ignoring (.model name) (.record name fields) := by
  have distinct := wireNames_nodup hc (wf.wireNames (Table.record_mem found))
  obtain ⟨written, all, rfl⟩ := (encodeFields_ok_iff distinct).mp h
  have plains := Value.isPlain_map.mp plain
  refine .record found (fun f mem unset => ?_) (fun f mem null => ?_) fun f mem unset null => ?_
  all_goals
    obtain ⟨fc, o, hfc, hzip, writes⟩ := exists_fieldWrites hc all mem
    rw [← hfc.attributeName] at *
  · -- unset: nothing is written for it, which only an optional field allows
    cases o with
    | none => exact hfc.required ▸ writes.2
    | some w => simp [FieldWrites, unset] at writes
  · -- null: it is written as it is, which only a nullable field allows
    cases o with
    | none => simp [FieldWrites, null] at writes
    | some w =>
      rcases writes with ⟨-, nullable, -⟩ | ⟨-, notNull, -⟩
      · exact hfc.nullable ▸ nullable
      · exact absurd null notNull
  · -- anything else: its entry is plain, so its value is writable
    cases o with
    | none => exact absurd writes.1 unset
    | some w =>
      rcases writes with ⟨null', -⟩ | ⟨-, -, h⟩
      · exact absurd null' null
      · have mem := mem_writtenEntries.mpr ⟨fc, w, hzip, rfl⟩
        exact writable_of_encoder model hfc.plan h (plains _ mem).2

/-! ## Models -/

theorem writable_of_encodeStep (wf : table.WellFormed) (impl : contracts.Implement table)
    (model : ∀ name ignoring v e path, models name ignoring v path = .ok e → e.isPlain = true →
      table.Writable ignoring (.model name) v)
    {name : String} {ignoring : Bool} {v e : Value} {path : Path}
    (h : encodeStep contracts models name ignoring v path = .ok e) (plain : e.isPlain = true) :
    table.Writable ignoring (.model name) v := by
  unfold encodeStep at h
  cases found : table.get? name with
  | none =>
    rw [impl.none found] at h
    exact absurd h fail_ne_ok
  | some m =>
    obtain ⟨c, hget, hc⟩ := impl.some found
    rw [hget] at h
    cases hc with
    | union _ hbody => exact .named found (writable_of_encoder model hbody h plain)
    | @record r c hc =>
      have hr := Table.record?_eq_some.mpr found
      cases v <;> try exact absurd h fail_ne_ok
      rename_i m fields
      dsimp only at h
      split at h
      · -- an instance of the record itself
        rename_i same
        rw [beq_iff_eq] at same
        subst same
        exact writable_of_encodeFields wf model hr hc h plain
      · -- an instance of another record of the family, which takes the flag
        rename_i other
        rw [beq_iff_eq] at other
        split at h
        · rename_i target
          simp only [Bool.and_eq_true, List.contains_eq_mem, decide_eq_true_eq,
            Bool.not_eq_true', hc.discriminator] at target
          rw [target.2]
          exact .family hr other target.1 (model m true _ e path h plain)
        · exact absurd h fail_ne_ok

/-- Whatever an encoder of a model makes plain with any fuel is writable. -/
theorem writable_of_encodeModel (wf : table.WellFormed) (impl : contracts.Implement table)
    (fuel : Nat) :
    ∀ name ignoring v e path, encodeModel contracts fuel name ignoring v path = .ok e →
      e.isPlain = true → table.Writable ignoring (.model name) v := by
  induction fuel with
  | zero =>
    intro name ignoring v e path h
    exact absurd h fail_ne_ok
  | succ fuel ih =>
    intro name ignoring v e path h plain
    rw [encodeModel_succ] at h
    exact writable_of_encodeStep wf impl ih h plain

/-! ## What is writable is written -/

/-- The encoders of contracts take a value of a type, with results of some property. -/
def Written (table : Table) (contracts : Contracts) (ignoring : Bool) (t : WireType) (v : Value)
    (Q : Value → Prop) : Prop :=
  Succeeds table (Plan.encoder (encoders contracts)) (encoders contracts) ignoring t v Q

/-- An instance is encoded by the contract of its own model, whether or not its discriminator is
ignored. -/
theorem encoders_own_ok_iff {name : String} {c : RecordContract}
    (hget : contracts.get? name = some (.record c)) {ignoring : Bool}
    {fields : List (String × Value)} {e : Value} {path : Path} :
    encoders contracts name ignoring (.record name fields) path = .ok e ↔
      encodeFields (encoders contracts) c fields path = .ok e := by
  rw [encoders_ok_iff]
  simp [encodeStep, hget]

/-- An instance of another model is encoded where the discriminator leads to that. -/
theorem encoders_family_ok {name model : String} {c : RecordContract}
    (hget : contracts.get? name = some (.record c)) (other : model ≠ name)
    (target : model ∈ WireType.targets c.discriminator) {fields : List (String × Value)}
    {e : Value} {path : Path}
    (h : encoders contracts model true (.record model fields) path = .ok e) :
    encoders contracts name false (.record model fields) path = .ok e := by
  refine encoders_ok_iff.mpr ?_
  simp [encodeStep, hget, other, target, h]

/-- An instance of a union's alternative is encoded by the plan of the union. -/
theorem encoders_union_ok {name : String} {u : UnionContract}
    (hget : contracts.get? name = some (.union u)) {ignoring : Bool} {v e : Value} {path : Path}
    (h : (u.body.encoder (encoders contracts)).run v path = .ok e) :
    encoders contracts name ignoring v path = .ok e := by
  refine encoders_ok_iff.mpr ?_
  simp only [encodeStep, hget]
  exact h

theorem writtenEntries_nodup {fs : List FieldContract} (distinct : (fs.map (·.wireName)).Nodup) :
    ∀ written : List (Option Value), ((writtenEntries fs written).map Prod.fst).Nodup := by
  induction fs with
  | nil => exact fun _ => .nil
  | cons f fs ih =>
    obtain ⟨fresh, distinct⟩ := List.nodup_cons.mp distinct
    intro written
    cases written with
    | nil => exact .nil
    | cons o written =>
      have rest := ih distinct written
      cases o with
      | none => exact rest
      | some w =>
        refine List.nodup_cons.mpr ⟨fun mem => ?_, rest⟩
        obtain ⟨entry, mem, key⟩ := List.mem_map.mp mem
        obtain ⟨g, x, pair, rfl⟩ := mem_writtenEntries.mp mem
        refine fresh (List.mem_map.mpr ⟨g, (List.of_mem_zip pair).1, ?_⟩)
        exact Value.str.inj key

/-- The fields of an instance are encoded if each of them is; the entries are those of the
fields that have something to write. -/
theorem exists_encodeFields_ok {r : RecordModel} {c : RecordContract}
    (hc : RecordContract.Implements table r c) (distinct : (r.fields.map Field.wireName).Nodup)
    {fields : List (String × Value)} {Q : Field → Option Value → Prop} (path : Path)
    (each : ∀ f ∈ r.fields, ∀ fc, FieldContract.Implements table f fc →
      ∃ o, FieldWrites models path fields fc o ∧ Q f o) :
    ∃ entries, encodeFields models c fields path = .ok (.map entries) ∧
      (entries.map Prod.fst).Nodup ∧
      (∀ entry ∈ entries, ∃ f ∈ r.fields, entry.1 = .str f.wireName ∧ Q f (some entry.2)) ∧
      ∀ f ∈ r.fields, Q f none ∨ ∃ w, (.str f.wireName, w) ∈ entries := by
  -- the fields of the contract are those of the model, so what is known is carried over
  have contracts : ∀ fc ∈ c.fields, ∃ o, FieldWrites models path fields fc o ∧
      ∃ f ∈ r.fields, f.wireName = fc.wireName ∧ Q f o := by
    intro fc mem
    obtain ⟨f, mem, hfc⟩ := exists_left_of_forall₂ hc.fields mem
    obtain ⟨o, writes, q⟩ := each f mem fc hfc
    exact ⟨o, writes, f, mem, hfc.wireName.symm, q⟩
  obtain ⟨written, all⟩ := exists_forall₂ contracts
  have names := wireNames_nodup hc distinct
  refine ⟨writtenEntries c.fields written,
    (encodeFields_ok_iff names).mpr ⟨written, all.imp fun _ _ h => h.1, rfl⟩,
    writtenEntries_nodup names written, ?_, ?_⟩
  · intro entry mem
    obtain ⟨fc, w, pair, rfl⟩ := mem_writtenEntries.mp mem
    obtain ⟨-, f, hf, same, q⟩ := zip_of_forall₂ all _ pair
    exact ⟨f, hf, by rw [same], q⟩
  · -- wire names are distinct, so the entry under the name of a field is the field's own
    intro f hf
    obtain ⟨fc, o, hfc, mem, -⟩ := exists_fieldWrites hc (all.imp fun _ _ h => h.1) hf
    obtain ⟨-, g, hg, same, q⟩ := zip_of_forall₂ all _ mem
    have eq : g = f := List.inj_on_of_nodup_map distinct hg hf (same.trans hfc.wireName)
    subst eq
    cases o with
    | none => exact .inl q
    | some w => exact .inr ⟨w, mem_writtenEntries.mpr ⟨fc, w, mem, by rw [same]⟩⟩

/-- Null and absence apart, encoding is what the encoders do. -/
theorem encode_eq_encoders {name : String} {ignoring : Bool} {v : Value} (some : v ≠ .null)
    (set : v ≠ .unset) :
    encode contracts name v ignoring = encoders contracts name ignoring v ⟨name, []⟩ := by
  have notNull : v.isNull = false := by simpa [← isNull_iff] using some
  have notUnset : v.isUnset = false := by cases v <;> first | rfl | exact absurd rfl set
  simp [encode, encoders, notNull, notUnset]

/-- The fields of an instance are made plain if each value that is neither unset nor null is. -/
theorem exists_plain_fields {r : RecordModel} {c : RecordContract}
    (hc : RecordContract.Implements table r c) (distinct : (r.fields.map Field.wireName).Nodup)
    {fields : List (String × Value)}
    (unset : ∀ f ∈ r.fields,
      Value.attributeOf fields f.attributeName = .unset → f.required = false)
    (null : ∀ f ∈ r.fields, Value.attributeOf fields f.attributeName = .null → f.nullable = true)
    (other : ∀ f ∈ r.fields, Value.attributeOf fields f.attributeName ≠ .unset →
      Value.attributeOf fields f.attributeName ≠ .null →
      Written table contracts false f.type (Value.attributeOf fields f.attributeName)
        fun e => e.isPlain = true) (path : Path) :
    ∃ e, encodeFields (encoders contracts) c fields path = .ok e ∧ e.isPlain = true := by
  have each : ∀ f ∈ r.fields, ∀ fc, FieldContract.Implements table f fc →
      ∃ o, FieldWrites (encoders contracts) path fields fc o ∧
        ∀ w, o = some w → w.isPlain = true := by
    intro f mem fc hfc
    obtain ⟨o, writes, cases⟩ := exists_fieldWrites_of hfc (unset f mem) (null f mem)
      fun isSet some => (other f mem isSet some).plan fc.plan hfc.plan rfl _
    refine ⟨o, writes, ?_⟩
    rcases cases with ⟨rfl, -⟩ | ⟨rfl, -⟩ | ⟨w, rfl, -, -, plain⟩
    · nofun
    · rintro w ⟨⟩
      rfl
    · rintro w ⟨⟩
      exact plain
  obtain ⟨entries, he, -, plains, -⟩ := exists_encodeFields_ok hc distinct
    (Q := fun _ o => ∀ w, o = some w → w.isPlain = true) path each
  refine ⟨_, he, Value.isPlain_map.mpr fun entry mem => ?_⟩
  obtain ⟨f, -, key, plain⟩ := plains entry mem
  exact ⟨by rw [key]; rfl, plain _ rfl⟩

/-- Whatever is writable is written, and the result is plain. -/
theorem written_of_writable (wf : table.WellFormed) (impl : contracts.Implement table)
    {ignoring : Bool} {t : WireType} {v : Value} (h : table.Writable ignoring t v) :
    Written table contracts ignoring t v fun e => e.isPlain = true := by
  induction h with
  | primitive plain =>
    refine .of_plan nofun fun p hp path => ?_
    cases hp
    exact ⟨_, rfl, plain⟩
  | enum plain member =>
    refine .of_plan nofun fun p hp path => ?_
    cases hp
    exact ⟨_, enumOf_run_ok_iff.mpr ⟨member, rfl⟩, plain⟩
  | optional _ ih => exact ih.optional
  | null => exact .null (structural_encoder _) rfl
  | nullable some _ ih => exact ih.nullable (structural_encoder _) some
  | @sequence _ t v items hitems nulls _ ih =>
    refine .sequence (structural_encoder _) hitems nulls ih fun es all => ?_
    refine Value.isPlain_list.mpr fun e mem => ?_
    obtain ⟨w, -, plain⟩ := exists_left_of_forall₂ all mem
    exact plain
  | @mapping _ t entries keys nulls _ ih =>
    refine .mapping (structural_encoder _) (R := fun _ e => e.isPlain = true)
      (fun entry mem => (keys entry mem).2) nulls ih fun results all => ?_
    refine Value.isPlain_map.mpr fun result mem => ?_
    obtain ⟨entry, mem, key, plain⟩ := exists_left_of_forall₂ all mem
    exact ⟨key ▸ (keys entry mem).1, plain⟩
  | @record _ name r fields found unset null _ ih =>
    refine .of_model rfl fun path => ?_
    obtain ⟨_, hget, hc⟩ := impl.some (Table.record?_eq_some.mp found)
    cases hc with
    | record hc =>
      have distinct := wf.wireNames (Table.record_mem found)
      obtain ⟨e, he, plain⟩ := exists_plain_fields hc distinct unset null ih path
      exact ⟨e, (encoders_own_ok_iff hget).mpr he, plain⟩
  | family found other target _ ih =>
    refine .of_model rfl fun path => ?_
    obtain ⟨_, hget, hc⟩ := impl.some (Table.record?_eq_some.mp found)
    cases hc with
    | record hc =>
      obtain ⟨e, he, plain⟩ := ih.model _ rfl path
      exact ⟨e, encoders_family_ok hget other (hc.discriminator ▸ target) he, plain⟩
  | named found _ ih =>
    refine .of_model rfl fun path => ?_
    obtain ⟨_, hget, hc⟩ := impl.some found
    cases hc with
    | union _ hbody =>
      obtain ⟨e, he, plain⟩ := ih.plan _ hbody rfl path
      exact ⟨e, encoders_union_ok hget he, plain⟩
  | tagged target _ ih =>
    refine .of_plan nofun fun p hp path => ?_
    cases hp
    obtain ⟨e, he, plain⟩ := ih.model _ rfl path
    exact ⟨e, dispatch_encoder_run_ok_iff.mpr ⟨_, _, rfl, target, he⟩, plain⟩
  | untagged first _ ih =>
    refine .of_plan nofun fun p hp path => ?_
    obtain ⟨options, description, rfl, all⟩ := hp
    obtain ⟨option, found, hplan⟩ := all.exists_find? (holdsOfDecoded_iff _) first
    obtain ⟨e, he, plain⟩ := ih.plan _ hplan rfl path
    exact ⟨e, firstMatch_encoder_run_ok_iff.mpr ⟨option, found, he⟩, plain⟩

end WireModel.Codec
