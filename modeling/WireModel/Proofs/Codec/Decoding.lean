import WireModel.Proofs.Codec.Combinators
import WireModel.Proofs.Codec.Fuel
import WireModel.Proofs.Plan.Derivation
import WireModel.Proofs.Table.Conformance
import WireModel.Proofs.Table.WellFormed

/-!
# Decoders read what the table allows

The decoders of contracts against the table that the contracts are derived from. Whatever they
accept is read by the table (`reads_of_decoders`), by induction on the fuel; whatever conforms
they accept (`exists_decoders_ok`), by induction on the conformance and one round of the
decoders without fuel. Both go plan by plan along the type that the plan implements.
-/

namespace WireModel.Codec

open Types (WireType)

variable {table : Table} {contracts : Contracts} {models : ModelCodec}

/-! ## Plans -/

theorem decoder_acceptsNull {t : WireType} {p : Plan} (h : Plan.Implements table t p) :
    (p.decoder models).acceptsNull = t.isNullable := by
  induction t using WireType.induct generalizing p with
  | nullable inner _ =>
    obtain ⟨q, rfl, -⟩ := h
    rfl
  | optional inner ih => exact ih h
  | sequence element _ =>
    obtain ⟨q, rfl, -⟩ := h
    rfl
  | mapping value _ =>
    obtain ⟨q, rfl, -⟩ := h
    rfl
  | union name mode d variants _ =>
    cases d with
    | some d =>
      cases h
      rfl
    | none =>
      obtain ⟨options, description, rfl, -⟩ := h
      rfl
  | _ =>
    cases h
    rfl

theorem decoders_eq_map (models : ModelCodec) (options : List (Predicate × Plan)) :
    Plan.decoders models options =
      options.map fun option => (option.1.holdsOfWire, option.2.decoder models) := by
  induction options with
  | nil => rfl
  | cons option rest ih => rw [Plan.decoders, List.map_cons, ih]

/-- The predicates of options decide the shape of wire forms. -/
theorem holdsOfWire_iff (d : Value) (t : WireType) (p : Predicate)
    (h : Contract.predicateFor table t = .ok p) :
    p.holdsOfWire d = true ↔ table.HasShape RecordReading.wire d t := by
  rw [Predicate.holdsOfWire_eq]
  exact Table.predicateFor_holds_iff h

theorem firstMatch_decoder_run_ok_iff {options : List (Predicate × Plan)} {description : String}
    {d v : Value} {path : Path} :
    ((Plan.firstMatch options description).decoder models).run d path = .ok v ↔
      ∃ option, options.find? (fun option => option.1.holdsOfWire d) = some option ∧
        (option.2.decoder models).run d path = .ok v := by
  simp only [Plan.decoder, firstMatch_run_ok_iff, decoders_eq_map, exists_find?_map]

theorem selectVariant_ok_iff_chosen {members : List (Value × Value)} {d : Schema.Discriminator}
    {target : String} {path : Path} :
    selectVariant members d.property d.mapping path = .ok target ↔
      d.chosen members = some target := by
  rw [selectVariant_ok_iff, Schema.Discriminator.chosen]
  cases Value.lookup d.property members with
  | none => simp
  | some v => cases v <;> simp [Value.asStr?]

theorem dispatch_decoder_run_ok_iff {disc : Schema.Discriminator} {d v : Value} {path : Path} :
    ((Plan.dispatch disc.property disc.mapping).decoder models).run d path = .ok v ↔
      ∃ members target, d = .map members ∧ disc.chosen members = some target ∧
        models target false d path = .ok v := by
  simp only [Plan.decoder, dispatchOn, bind_eq_ok, requireMapping_ok_iff, selectVariant_map,
    map_eq_ok, selectVariant_ok_iff_chosen]
  constructor
  · rintro ⟨members, rfl, _, ⟨target, chosen, rfl⟩, h⟩
    exact ⟨members, target, rfl, chosen, h⟩
  · rintro ⟨members, target, rfl, chosen, h⟩
    exact ⟨members, rfl, _, ⟨target, chosen, rfl⟩, h⟩

/-! ## What decoders accept is read -/

/-- The decoder of a type's plan reads it if the decoders of models do. -/
theorem reads_of_decoder
    (model : ∀ name ignoring d v path, d.isJson = true → models name ignoring d path = .ok v →
      table.Reads ignoring (.model name) d v)
    {t : WireType} {p : Plan} (hp : Plan.Implements table t p) {d v : Value} {path : Path}
    (json : d.isJson = true) (h : (p.decoder models).run d path = .ok v) :
    table.Reads false t d v := by
  induction t using WireType.induct generalizing p d v path with
  | primitive kind format =>
    cases hp
    cases h
    exact .primitive
  | enum name values kind =>
    cases hp
    obtain ⟨member, rfl⟩ := enumOf_run_ok_iff.mp h
    exact .enum member
  | optional inner ih => exact .optional (ih hp json h)
  | nullable inner ih =>
    obtain ⟨q, rfl, hq⟩ := hp
    rcases nullable_run_ok_iff.mp h with ⟨rfl, rfl⟩ | ⟨some, h⟩
    · exact .null
    · exact .nullable some (ih hq json h)
  | sequence element ih =>
    obtain ⟨q, rfl, hq⟩ := hp
    obtain ⟨items, vs, hitems, rfl, all⟩ := listOf_run_ok h
    -- a JSON value with elements is a list; tuples have them too
    cases d <;> cases hitems <;> try cases json
    have jsons := Value.isJson_list.mp json
    refine .sequence all.length_eq (fun d mem null => ?_) fun p mem => ?_
    · obtain ⟨w, mem⟩ := exists_zip_of_mem_left all.length_eq mem
      obtain ⟨place, h⟩ := zip_of_forall₂ all _ mem
      rw [← decoder_acceptsNull hq]
      exact (element_ok_iff.mp h).1 null
    · obtain ⟨place, h⟩ := zip_of_forall₂ all p mem
      exact ih hq (jsons _ (List.of_mem_zip mem).1) (element_ok_iff.mp h).2
  | mapping value ih =>
    obtain ⟨q, rfl, hq⟩ := hp
    obtain ⟨entries, results, rfl, rfl, all⟩ := dictOf_run_ok h
    have jsons := (Value.isJson_map.mp json).1
    have keys := map_eq_map_of_forall₂ all fun _ _ h => h.1.symm
    refine .mapping keys (fun entry mem null => ?_) fun p mem => ?_
    · obtain ⟨w, mem⟩ := exists_zip_of_mem_left all.length_eq mem
      obtain ⟨-, -, place, h⟩ := zip_of_forall₂ all _ mem
      rw [← decoder_acceptsNull hq]
      exact (element_ok_iff.mp h).1 null
    · obtain ⟨-, -, place, h⟩ := zip_of_forall₂ all p mem
      exact ih hq (jsons _ (List.of_mem_zip mem).1).2 (element_ok_iff.mp h).2
  | model name =>
    cases hp
    exact model name false d v path json h
  | union name mode disc variants ih =>
    cases disc with
    | some disc =>
      cases hp
      obtain ⟨members, target, rfl, chosen, h⟩ := dispatch_decoder_run_ok_iff.mp h
      exact .tagged chosen (model target false _ v path json h)
    | none =>
      obtain ⟨options, description, rfl, all⟩ := hp
      obtain ⟨option, found, h⟩ := firstMatch_decoder_run_ok_iff.mp h
      obtain ⟨t, first, ht⟩ := all.isFirst_of_find? (holdsOfWire_iff d) found
      exact .untagged first (ih t first.mem ht json h)

/-! ## Records -/

theorem lookup_eq_of_nodup {name : String} {v : Value} :
    ∀ {fields : List (String × Value)}, (fields.map Prod.fst).Nodup → (name, v) ∈ fields →
      fields.lookup name = some v
  | (k, w) :: rest, distinct, mem => by
    simp only [List.lookup_cons]
    rcases List.mem_cons.mp mem with same | mem
    · cases same
      simp
    · obtain ⟨fresh, distinct⟩ := List.nodup_cons.mp distinct
      have other : (name == k) = false := by
        rw [beq_eq_false_iff_ne]
        intro same
        exact fresh (List.mem_map.mpr ⟨_, mem, same⟩)
      simp only [other]
      exact lookup_eq_of_nodup distinct mem

/-- The decoded fields of a record, field by field of its model. -/
theorem decodeFields_ok {r : RecordModel} {c : RecordContract}
    (hc : RecordContract.Implements table r c)
    (distinct : (r.fields.map Field.attributeName).Nodup) {members : List (Value × Value)}
    {v : Value} {path : Path} (h : decodeFields models c members path = .ok v) :
    ∃ fields, v = .record r.name fields ∧
      fields.map Prod.fst = r.fields.map Field.attributeName ∧
      ∀ f ∈ r.fields, ∃ fc, FieldContract.Implements table f fc ∧
        decodeField (ruleOf r.name fc) (fc.plan.decoder models) members path =
          .ok (Value.attributeOf fields f.attributeName) := by
  obtain ⟨fields, rfl, all⟩ := decodeFields_ok_iff.mp h
  rw [hc.name] at all ⊢
  have names : fields.map Prod.fst = r.fields.map Field.attributeName := by
    rw [← map_eq_map_of_forall₂ all fun _ _ h => h.1.symm]
    exact (map_eq_map_of_forall₂ hc.fields fun _ _ h => h.attributeName.symm).symm
  refine ⟨fields, rfl, names, fun f mem => ?_⟩
  obtain ⟨fc, mem, hfc⟩ := exists_right_of_forall₂ hc.fields mem
  obtain ⟨⟨name, w⟩, mem, rfl, hw⟩ := exists_right_of_forall₂ all mem
  refine ⟨fc, hfc, ?_⟩
  rw [Value.attributeOf, ← hfc.attributeName, lookup_eq_of_nodup (names ▸ distinct) mem]
  exact hw

/-- What is decoded with the fields of the chosen record is read. -/
theorem reads_of_decodeFields (wf : table.WellFormed)
    (model : ∀ name ignoring d v path, d.isJson = true → models name ignoring d path = .ok v →
      table.Reads ignoring (.model name) d v)
    {name : String} {ignoring : Bool} {r s : RecordModel} {c : RecordContract}
    {members : List (Value × Value)} {v : Value} {path : Path}
    (found : table.record? name = some r) (chosen : table.chosen ignoring r members = some s)
    (mem : .record s ∈ table.models) (hc : RecordContract.Implements table s c)
    (json : (Value.map members).isJson = true)
    (h : decodeFields models c members path = .ok v) :
    table.Reads ignoring (.model name) (.map members) v := by
  obtain ⟨fields, rfl, names, all⟩ := decodeFields_ok hc (wf.attributes mem) h
  refine .record found chosen names (fun f hf absent => ?_) (fun f hf null => ?_)
    fun f hf d present some => ?_
  all_goals
    obtain ⟨fc, hfc, h⟩ := all f hf
    simp only [decodeField_ok_iff, ruleOf_wireName, ruleOf_required, ruleOf_nullable,
      hfc.wireName, hfc.required, hfc.nullable] at h
  · simpa [absent] using h
  · simpa [null] using h
  · simp only [present, Option.some.injEq, some, reduceCtorEq, false_and, false_or] at h
    obtain ⟨_, rfl, -, h⟩ := h
    exact reads_of_decoder model hfc.plan (Value.isJson_of_lookup json present) h

/-- What is read as a record under its name is read wherever the record is chosen. -/
theorem reads_of_reads_ignoring {name target : String} {ignoring : Bool} {r s : RecordModel}
    {members : List (Value × Value)} {v : Value} (found : table.record? name = some r)
    (chosen : table.chosen ignoring r members = some s) (there : table.record? target = some s)
    (h : table.Reads true (.model target) (.map members) v) :
    table.Reads ignoring (.model name) (.map members) v := by
  cases h with
  | record found' chosen' names absent null present =>
    rw [there] at found'
    cases found'
    rw [Table.chosen_ignoring] at chosen'
    cases chosen'
    exact .record found chosen names absent null present
  | named union _ =>
    rw [Table.record?_eq_some.mp there] at union
    cases union

/-! ## Models -/

theorem reads_of_decodeStep (wf : table.WellFormed) (impl : contracts.Implement table)
    (model : ∀ name ignoring d v path, d.isJson = true → models name ignoring d path = .ok v →
      table.Reads ignoring (.model name) d v)
    {name : String} {ignoring : Bool} {d v : Value} {path : Path} (json : d.isJson = true)
    (h : decodeStep contracts models name ignoring d path = .ok v) :
    table.Reads ignoring (.model name) d v := by
  unfold decodeStep at h
  cases found : table.get? name with
  | none =>
    rw [impl.none found] at h
    exact absurd h fail_ne_ok
  | some m =>
    obtain ⟨c, hget, hc⟩ := impl.some found
    rw [hget] at h
    cases hc with
    | union _ hbody => exact .named found (reads_of_decoder model hbody json h)
    | @record r c hc =>
      have hr := Table.record?_eq_some.mpr found
      simp only [bind_eq_ok, requireMapping_ok_iff] at h
      -- whether the record asks for its tag is the same question in the contract and in the table
      obtain ⟨members, rfl, h⟩ := h
      have mem := Table.mem_of_get? found
      rw [hc.discriminator] at h
      cases hd : r.discriminator.filter fun d =>
          !ignoring && Value.hasKey d.property members with
      | none =>
        rw [hd] at h
        exact reads_of_decodeFields wf model hr (by simp [Table.chosen, hd]) mem hc json h
      | some disc =>
        rw [hd] at h
        simp only [bind_eq_ok, selectVariant_ok_iff_chosen] at h
        obtain ⟨target, chosen, h⟩ := h
        obtain ⟨own, -⟩ := Option.filter_eq_some_iff.mp hd
        obtain ⟨tag, hmem⟩ := Table.mem_of_chosen chosen
        obtain ⟨s, hs⟩ := wf.targets mem own hmem
        have hs := Table.record?_eq_some.mpr hs
        have chosen : table.chosen ignoring r members = some s := by
          simp [Table.chosen, hd, chosen, hs]
        -- the tag leads to the record itself, or to another one that is told not to ask again
        split at h
        · rename_i same
          rw [beq_iff_eq] at same
          rw [same, hr] at hs
          cases hs
          exact reads_of_decodeFields wf model hr chosen mem hc json h
        · exact reads_of_reads_ignoring hr chosen hs (model target true _ v path json h)

/-- Whatever a decoder of a model accepts with any fuel is read. -/
theorem reads_of_decodeModel (wf : table.WellFormed) (impl : contracts.Implement table)
    (fuel : Nat) :
    ∀ name ignoring d v path, d.isJson = true →
      decodeModel contracts fuel name ignoring d path = .ok v →
        table.Reads ignoring (.model name) d v := by
  induction fuel with
  | zero =>
    intro name ignoring d v path _ h
    exact absurd h fail_ne_ok
  | succ fuel ih =>
    intro name ignoring d v path json h
    rw [decodeModel_succ] at h
    exact reads_of_decodeStep wf impl ih json h

/-! ## What conforms is accepted -/

/-- The fields of a mapping that conforms to a record are decoded. -/
theorem exists_decodeFields_ok {s : RecordModel} {c : RecordContract}
    (hc : RecordContract.Implements table s c) {members : List (Value × Value)} {path : Path}
    (absent : ∀ f ∈ s.fields, Value.lookup f.wireName members = none → f.required = false)
    (null : ∀ f ∈ s.fields, Value.lookup f.wireName members = some .null → f.nullable = true)
    (present : ∀ f ∈ s.fields, ∀ d, Value.lookup f.wireName members = some d → d ≠ .null →
      ∀ p, Plan.Implements table f.type p → ∀ path, ∃ v, (p.decoder models).run d path = .ok v) :
    ∃ v, decodeFields models c members path = .ok v := by
  have all : ∀ fc ∈ c.fields, ∃ field : String × Value, field.1 = fc.attributeName ∧
      decodeField (ruleOf c.name fc) (fc.plan.decoder models) members path = .ok field.2 := by
    intro fc hfc
    obtain ⟨f, hf, himp⟩ := exists_left_of_forall₂ hc.fields hfc
    have some : ∃ v, decodeField (ruleOf c.name fc) (fc.plan.decoder models) members path =
        .ok v := by
      simp only [decodeField_ok_iff, ruleOf_wireName, ruleOf_required, ruleOf_nullable,
        himp.wireName, himp.required, himp.nullable]
      -- the three ways to accept a field: it is absent, null, or its value is taken
      cases hd : Value.lookup f.wireName members with
      | none => exact ⟨_, .inl ⟨rfl, absent f hf hd, rfl⟩⟩
      | some d =>
        by_cases isNull : d = .null
        · subst isNull
          exact ⟨_, .inr (.inl ⟨rfl, null f hf hd, rfl⟩)⟩
        · obtain ⟨v, hv⟩ := present f hf d hd isNull fc.plan himp.plan _
          exact ⟨v, .inr (.inr ⟨d, rfl, isNull, hv⟩)⟩
    obtain ⟨v, hv⟩ := some
    exact ⟨(fc.attributeName, v), rfl, hv⟩
  obtain ⟨fields, hfields⟩ := exists_forall₂ all
  exact ⟨_, decodeFields_ok_iff.mpr ⟨fields, rfl, hfields⟩⟩

/-- A codec for plans, with codecs for models, takes a value of a type: at every place it has a
result with some property. The flag only counts for a model. -/
structure Succeeds (table : Table) (codec : Plan → Codec) (models : ModelCodec)
    (ignoring : Bool) (t : WireType) (v : Value) (Q : Value → Prop) : Prop where
  plan : ∀ p, Plan.Implements table t p → ignoring = false →
    ∀ path, ∃ w, (codec p).run v path = .ok w ∧ Q w
  model : ∀ name, t = .model name → ∀ path, ∃ w, models name ignoring v path = .ok w ∧ Q w

theorem Succeeds.of_plan {codec : Plan → Codec} {ignoring : Bool} {t : WireType} {v : Value}
    {Q : Value → Prop} (other : ∀ name, t ≠ .model name)
    (h : ∀ p, Plan.Implements table t p → ∀ path, ∃ w, (codec p).run v path = .ok w ∧ Q w) :
    Succeeds table codec models ignoring t v Q :=
  ⟨fun p hp _ => h p hp, fun name same => absurd same (other name)⟩

theorem Succeeds.of_model {codec : Plan → Codec} {ignoring : Bool} {name : String} {v : Value}
    {Q : Value → Prop} (call : codec (.call name) = Plan.modelCodec models name)
    (h : ∀ path, ∃ w, models name ignoring v path = .ok w ∧ Q w) :
    Succeeds table codec models ignoring (.model name) v Q := by
  refine ⟨fun p hp unignored path => ?_, fun name' same => ?_⟩
  · cases hp
    subst unignored
    rw [call]
    exact h path
  · cases same
    exact h

/-- A codec for plans that takes what is nullable, sequences and mappings by the codecs of what
they hold, and that takes null where the type does. Decoders and encoders are of this kind. -/
structure Structural (table : Table) (codec : Plan → Codec) : Prop where
  nullable : ∀ q, codec (.nullable q) = (codec q).nullable
  eachElement : ∀ q, codec (.eachElement q) = (codec q).listOf
  eachValue : ∀ q, codec (.eachValue q) = (codec q).dictOf
  acceptsNull : ∀ {t q}, Plan.Implements table t q → (codec q).acceptsNull = t.isNullable

theorem structural_decoder (models : ModelCodec) : Structural table (Plan.decoder models) :=
  ⟨fun _ => rfl, fun _ => rfl, fun _ => rfl, decoder_acceptsNull⟩

section Structural

variable {codec : Plan → Codec} {ignoring : Bool} {t : WireType} {v : Value}

/-- Whatever results are known to have for one reason or another they have together, since a
codec gives one result at a place. -/
theorem Succeeds.all {α : Type} {P : α → Prop} {Q : α → Value → Prop} (some : ∃ a, P a)
    (h : ∀ a, P a → Succeeds table codec models ignoring t v (Q a)) :
    Succeeds table codec models ignoring t v fun w => ∀ a, P a → Q a w := by
  obtain ⟨a, ha⟩ := some
  constructor
  · intro p hp unignored path
    obtain ⟨w, hw, -⟩ := (h a ha).plan p hp unignored path
    refine ⟨w, hw, fun b hb => ?_⟩
    obtain ⟨w', hw', q⟩ := (h b hb).plan p hp unignored path
    cases hw.symm.trans hw'
    exact q
  · intro name same path
    obtain ⟨w, hw, -⟩ := (h a ha).model name same path
    refine ⟨w, hw, fun b hb => ?_⟩
    obtain ⟨w', hw', q⟩ := (h b hb).model name same path
    cases hw.symm.trans hw'
    exact q

theorem Succeeds.optional {Q : Value → Prop}
    (h : Succeeds table codec models false t v Q) :
    Succeeds table codec models ignoring (.optional t) v Q :=
  .of_plan nofun fun p hp path => h.plan p hp rfl path

theorem Succeeds.null (structural : Structural table codec) {Q : Value → Prop} (q : Q .null) :
    Succeeds table codec models ignoring (.nullable t) .null Q := by
  refine .of_plan nofun fun p hp path => ?_
  obtain ⟨inner, rfl, -⟩ := hp
  rw [structural.nullable]
  exact ⟨.null, rfl, q⟩

theorem Succeeds.nullable (structural : Structural table codec) {Q : Value → Prop}
    (some : v ≠ .null) (h : Succeeds table codec models false t v Q) :
    Succeeds table codec models ignoring (.nullable t) v Q := by
  refine .of_plan nofun fun p hp path => ?_
  obtain ⟨inner, rfl, implements⟩ := hp
  obtain ⟨w, hw, q⟩ := h.plan inner implements rfl path
  rw [structural.nullable]
  exact ⟨w, nullable_run_ok_iff.mpr (.inr ⟨some, hw⟩), q⟩

/-- As an element of a sequence or a mapping, a value is not null where its type does not take
that. -/
theorem Succeeds.element (structural : Structural table codec) {Q : Value → Prop}
    (h : Succeeds table codec models false t v Q) (null : v = .null → t.isNullable = true)
    {q : Plan} (hq : Plan.Implements table t q) (place : Path) :
    ∃ w, (codec q).element place v = .ok w ∧ Q w := by
  obtain ⟨w, hw, result⟩ := h.plan q hq rfl place
  rw [← structural.acceptsNull hq] at null
  exact ⟨w, element_ok_iff.mpr ⟨null, hw⟩, result⟩

/-- A sequence is taken if its elements are; the results stand in their order. -/
theorem Succeeds.sequence (structural : Structural table codec) {R : Value → Value → Prop}
    {Q : Value → Prop} {items : List Value} (hitems : v.elements? = some items)
    (nulls : ∀ w ∈ items, w = .null → t.isNullable = true)
    (each : ∀ w ∈ items, Succeeds table codec models false t w (R w))
    (whole : ∀ ws, List.Forall₂ R items ws → Q (.list ws)) :
    Succeeds table codec models ignoring (.sequence t) v Q := by
  refine .of_plan nofun fun p hp path => ?_
  obtain ⟨q, rfl, hq⟩ := hp
  obtain ⟨ws, h, all⟩ := exists_listOf_run_ok path hitems fun w mem =>
    (each w mem).element structural (nulls w mem) hq
  rw [structural.eachElement]
  exact ⟨_, h, whole ws all⟩

/-- A mapping is taken if its values are; the results stand under the same keys. -/
theorem Succeeds.mapping (structural : Structural table codec)
    {R : Value × Value → Value → Prop} {Q : Value → Prop} {entries : List (Value × Value)}
    (keys : ∀ entry ∈ entries, entry.1.isTellable = true)
    (nulls : ∀ entry ∈ entries, entry.2 = .null → t.isNullable = true)
    (each : ∀ entry ∈ entries, Succeeds table codec models false t entry.2 (R entry))
    (whole : ∀ results, List.Forall₂ (fun entry result => result.1 = entry.1 ∧
      R entry result.2) entries results → Q (.map results)) :
    Succeeds table codec models ignoring (.mapping t) (.map entries) Q := by
  refine .of_plan nofun fun p hp path => ?_
  obtain ⟨q, rfl, hq⟩ := hp
  obtain ⟨results, h, all⟩ := exists_dictOf_run_ok path fun entry mem =>
    ⟨keys entry mem, (each entry mem).element structural (nulls entry mem) hq⟩
  rw [structural.eachValue]
  exact ⟨_, h, whole results all⟩

end Structural

/-- The decoders of contracts take a wire form of a type. -/
def Accepted (table : Table) (contracts : Contracts) (ignoring : Bool) (t : WireType)
    (d : Value) : Prop :=
  Succeeds table (Plan.decoder (decoders contracts)) (decoders contracts) ignoring t d
    fun _ => True

/-- A record whose discriminator is ignored, or that has none for a mapping, decodes its own
fields. -/
theorem decoders_record_ok {name : String} {ignoring : Bool} {c : RecordContract}
    {members : List (Value × Value)} {path : Path}
    (hget : contracts.get? name = some (.record c))
    (own : (c.discriminator.filter fun d =>
      !ignoring && Value.hasKey d.property members) = none)
    (h : ∃ v, decodeFields (decoders contracts) c members path = .ok v) :
    ∃ v, decoders contracts name ignoring (.map members) path = .ok v := by
  obtain ⟨v, hv⟩ := h
  refine ⟨v, decoders_ok_iff.mpr ?_⟩
  simp only [decodeStep, hget, requireMapping, ok_bind, own]
  exact hv

theorem exists_record_ok (impl : contracts.Implement table)
    {name : String} {ignoring : Bool} {r s : RecordModel} {members : List (Value × Value)}
    (found : table.record? name = some r) (chosen : table.chosen ignoring r members = some s)
    (fields : ∀ c, RecordContract.Implements table s c → ∀ path,
      ∃ v, decodeFields (decoders contracts) c members path = .ok v) (path : Path) :
    ∃ v, decoders contracts name ignoring (.map members) path = .ok v := by
  obtain ⟨_, hget, hc⟩ := impl.some (Table.record?_eq_some.mp found)
  cases hc with
  | @record r c hc =>
    cases hd : r.discriminator.filter fun d =>
        !ignoring && Value.hasKey d.property members with
    | none =>
      simp only [Table.chosen, hd, Option.some.injEq] at chosen
      subst chosen
      exact decoders_record_ok hget (by rw [hc.discriminator, hd]) (fields c hc path)
    | some disc =>
      simp only [Table.chosen, hd, Option.bind_eq_some_iff] at chosen
      obtain ⟨target, chosen, hs⟩ := chosen
      -- a record that its own tag leads to decodes its fields without another round
      by_cases same : target = name
      · subst same
        rw [found] at hs
        cases hs
        obtain ⟨v, hv⟩ := fields c hc path
        refine ⟨v, decoders_ok_iff.mpr ?_⟩
        simp only [decodeStep, hget, requireMapping, ok_bind, hc.discriminator, hd]
        refine bind_eq_ok.mpr ⟨target, selectVariant_ok_iff_chosen.mpr chosen, ?_⟩
        simpa using hv
      · obtain ⟨_, hget', hc'⟩ := impl.some (Table.record?_eq_some.mp hs)
        cases hc' with
        | @record s c' hc' =>
          obtain ⟨v, hv⟩ : ∃ v, decoders contracts target true (.map members) path = .ok v :=
            decoders_record_ok hget' (by simp) (fields c' hc' path)
          refine ⟨v, decoders_ok_iff.mpr ?_⟩
          simp only [decodeStep, hget, requireMapping, ok_bind, hc.discriminator, hd]
          refine bind_eq_ok.mpr ⟨target, selectVariant_ok_iff_chosen.mpr chosen, ?_⟩
          simpa [same] using hv

/-- Whatever conforms is accepted. -/
theorem accepted_of_conforms (impl : contracts.Implement table)
    {ignoring : Bool} {t : WireType} {d : Value} (h : table.Conforms ignoring t d)
    (json : d.isJson = true) : Accepted table contracts ignoring t d := by
  induction h with
  | primitive =>
    refine .of_plan (by simp) fun p hp path => ?_
    cases hp
    exact ⟨_, rfl, trivial⟩
  | enum member =>
    refine .of_plan (by simp) fun p hp path => ?_
    cases hp
    exact ⟨_, enumOf_run_ok_iff.mpr ⟨member, rfl⟩, trivial⟩
  | optional _ ih => exact (ih json).optional
  | null => exact .null (structural_decoder _) trivial
  | @nullable _ _ d _ ih =>
    by_cases null : d = .null
    · subst null
      exact .null (structural_decoder _) trivial
    · exact (ih json).nullable (structural_decoder _) null
  | @sequence _ t items nulls _ ih =>
    have jsons := Value.isJson_list.mp json
    exact .sequence (structural_decoder _) rfl nulls (fun d mem => ih d mem (jsons d mem))
      fun _ _ => trivial
  | @mapping _ t entries nulls _ ih =>
    have jsons := (Value.isJson_map.mp json).1
    refine .mapping (structural_decoder _) (R := fun _ _ => True) (fun entry mem => ?_) nulls
      (fun entry mem => ih entry mem (jsons entry mem).2) fun _ _ => trivial
    -- the keys of a JSON object are texts, which the path of an element can show
    obtain ⟨⟨key, hkey⟩, -⟩ := jsons entry mem
    rw [hkey]
    rfl
  | record found chosen absent null _ ih =>
    refine .of_model rfl fun path => ?_
    have fields : ∀ c, RecordContract.Implements table _ c → ∀ path,
        ∃ v, decodeFields (decoders contracts) c _ path = .ok v := fun c hc path =>
      exists_decodeFields_ok hc absent null fun f hf d present some p hp path =>
        have accepted := ih f hf d present some (Value.isJson_of_lookup json present)
        (accepted.plan p hp rfl path).imp fun _ h => h.1
    obtain ⟨v, hv⟩ := exists_record_ok impl found chosen fields path
    exact ⟨v, hv, trivial⟩
  | @named _ name u d found _ ih =>
    refine .of_model rfl fun path => ?_
    obtain ⟨_, hget, hc⟩ := impl.some found
    cases hc with
    | union _ hbody =>
      obtain ⟨v, hv, -⟩ := (ih json).plan _ hbody rfl path
      refine ⟨v, decoders_ok_iff.mpr ?_, trivial⟩
      simp only [decodeStep, hget]
      exact hv
  | tagged chosen _ ih =>
    refine .of_plan (by simp) fun p hp path => ?_
    cases hp
    obtain ⟨v, hv, -⟩ := (ih json).model _ rfl path
    exact ⟨v, dispatch_decoder_run_ok_iff.mpr ⟨_, _, rfl, chosen, hv⟩, trivial⟩
  | untagged first _ ih =>
    refine .of_plan (by simp) fun p hp path => ?_
    obtain ⟨options, description, rfl, all⟩ := hp
    obtain ⟨option, found, hplan⟩ := all.exists_find? (holdsOfWire_iff _) first
    obtain ⟨v, hv, -⟩ := (ih json).plan _ hplan rfl path
    exact ⟨v, firstMatch_decoder_run_ok_iff.mpr ⟨option, found, hv⟩, trivial⟩

/-! ## Decoding -/

/-- Null and absence apart, decoding is what the decoders do. -/
theorem decode_eq_decoders {name : String} {ignoring : Bool} {d : Value} (some : d ≠ .null)
    (set : d ≠ .unset) :
    decode contracts name d ignoring = decoders contracts name ignoring d ⟨name, []⟩ := by
  have notNull : d.isNull = false := by simpa [← isNull_iff] using some
  have notUnset : d.isUnset = false := by cases d <;> first | rfl | exact absurd rfl set
  simp [decode, decoders, notNull, notUnset]

theorem ne_unset_of_isJson {d : Value} (json : d.isJson = true) : d ≠ .unset := by
  rintro rfl
  cases json

theorem reads_of_decode_ok (wf : table.WellFormed) (impl : contracts.Implement table)
    {name : String} {ignoring : Bool} {d v : Value} (json : d.isJson = true) (some : d ≠ .null)
    (h : decode contracts name d ignoring = .ok v) : table.Reads ignoring (.model name) d v := by
  rw [decode_eq_decoders some (ne_unset_of_isJson json)] at h
  exact reads_of_decodeModel wf impl _ _ _ _ _ _ json h

/-- Decoding succeeds exactly on null, which stays as it is, and on what conforms. -/
theorem exists_decode_ok_iff (wf : table.WellFormed) (impl : contracts.Implement table)
    {name : String} {ignoring : Bool} {d : Value} (json : d.isJson = true) :
    (∃ v, decode contracts name d ignoring = .ok v) ↔
      d = .null ∨ table.Conforms ignoring (.model name) d := by
  by_cases null : d = .null
  · subst null
    exact ⟨fun _ => .inl rfl, fun _ => ⟨.null, rfl⟩⟩
  · constructor
    · rintro ⟨v, hv⟩
      exact .inr (reads_of_decode_ok wf impl json null hv).conforms
    · rintro (isNull | conforms)
      · exact absurd isNull null
      · obtain ⟨v, hv, -⟩ := (accepted_of_conforms impl conforms json).model name rfl ⟨name, []⟩
        rw [decode_eq_decoders null (ne_unset_of_isJson json)]
        exact ⟨v, hv⟩

end WireModel.Codec
