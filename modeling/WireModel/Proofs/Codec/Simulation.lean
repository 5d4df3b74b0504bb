import WireModel.Proofs.Codec.Encoding
import WireModel.Proofs.Table.Alike

/-!
# Codecs of tables that differ in names

If tables differ in the names of models only, so do the results of their codecs, as long as the
values differ in these names only. By induction on the fuel of the one codec; the other one has as
much as it needs (`Direction.simulates`). One step follows the alike types, plan by plan. It needs
one more unit of fuel on the side where a union has a name, which is why all types of a smaller
fuel are carried along, not only the models.

Decoding and encoding are the two directions through one plan. They only differ at records and at
discriminated unions, so all the rest is proved once.
-/

namespace WireModel.Codec

open Types (WireType)

variable {R : String → String → Prop}

/-! ## Codecs -/

/-- What the first codec makes of a value, the second makes of the value with other names, at any
place. -/
structure Simulates (R : String → String → Prop) (c c' : Codec) : Prop where
  acceptsNull : c'.acceptsNull = c.acceptsNull
  run : ∀ {v v' w : Value} {path : Path} (path' : Path), v.Renamed R v' → c.run v path = .ok w →
    ∃ w', c'.run v' path' = .ok w' ∧ w.Renamed R w'

namespace Simulates

theorem identity : Simulates R identity identity where
  acceptsNull := rfl
  run _ renamed ok := by
    cases ok
    exact ⟨_, rfl, renamed⟩

theorem enumOf {values : List Value} (plain : ∀ v ∈ values, v.isPlain = true) :
    Simulates R (enumOf values) (enumOf values) where
  acceptsNull := rfl
  run _ renamed ok := by
    obtain ⟨member, rfl⟩ := enumOf_run_ok_iff.mp ok
    have same := renamed.eq_of_isPlain (Value.isPlain_of_member plain member)
    exact ⟨_, enumOf_run_ok_iff.mpr ⟨same ▸ member, rfl⟩, renamed⟩

variable {c c' : Codec}

theorem nullable (h : Simulates R c c') : Simulates R (nullable c) (nullable c') where
  acceptsNull := rfl
  run {v v'} _ _ path' renamed ok := by
    rcases nullable_run_ok_iff.mp ok with ⟨rfl, rfl⟩ | ⟨some, ok⟩
    · have null : v' = .null := renamed.eq_of_isPlain rfl
      exact ⟨.null, nullable_run_ok_iff.mpr (.inl ⟨null, rfl⟩), .scalar rfl⟩
    · obtain ⟨w', ok', same⟩ := h.run path' renamed ok
      have some' : v' ≠ .null := by
        rwa [ne_eq, ← isNull_iff, renamed.isNull_eq, isNull_iff]
      exact ⟨w', nullable_run_ok_iff.mpr (.inr ⟨some', ok'⟩), same⟩

theorem element (h : Simulates R c c') {v v' w : Value} {path : Path} (path' : Path)
    (renamed : v.Renamed R v') (ok : c.element path v = .ok w) :
    ∃ w', c'.element path' v' = .ok w' ∧ w.Renamed R w' := by
  obtain ⟨null, ok⟩ := element_ok_iff.mp ok
  obtain ⟨w', ok', same⟩ := h.run path' renamed ok
  refine ⟨w', element_ok_iff.mpr ⟨fun null' => ?_, ok'⟩, same⟩
  rw [← isNull_iff, renamed.isNull_eq, isNull_iff] at null'
  rw [h.acceptsNull]
  exact null null'

theorem elements (h : Simulates R c c') {vs vs' ws : List Value}
    (renamed : List.Forall₂ (Value.Renamed R) vs vs') {path : Path} (path' : Path) {i : Nat}
    (ok : c.elements path i vs = .ok ws) :
    ∃ ws', c'.elements path' i vs' = .ok ws' ∧ List.Forall₂ (Value.Renamed R) ws ws' := by
  induction renamed generalizing i ws with
  | nil =>
    cases ok
    exact ⟨[], rfl, .nil⟩
  | cons first _ ih =>
    simp only [Codec.elements, bind_eq_ok, pure_eq_ok] at ok ⊢
    obtain ⟨w, here, ws, rest, rfl⟩ := ok
    obtain ⟨w', here', same⟩ := h.element (path'.push (.index i)) first here
    obtain ⟨ws', rest', all⟩ := ih rest
    exact ⟨w' :: ws', ⟨w', here', ws', rest', rfl⟩, .cons same all⟩

theorem listOf (h : Simulates R c c') : Simulates R c.listOf c'.listOf where
  acceptsNull := rfl
  run {v v' w path} path' renamed ok := by
    simp only [Codec.listOf] at ok ⊢
    cases items : v.elements? with
    | none =>
      rw [items] at ok
      exact absurd ok fail_ne_ok
    | some vs =>
      rw [items] at ok
      obtain ⟨vs', items', all⟩ := renamed.exists_elements items
      obtain ⟨ws, inner, rfl⟩ := map_eq_ok.mp ok
      obtain ⟨ws', ok', same⟩ := h.elements all path' inner
      rw [items']
      exact ⟨.list ws', map_eq_ok.mpr ⟨ws', ok', rfl⟩, .of_list same⟩

theorem entries (h : Simulates R c c') {entries entries' results : List (Value × Value)}
    (renamed : Value.EntriesRenamed R entries entries') {path : Path} (path' : Path)
    (ok : c.entries path entries = .ok results) :
    ∃ results', c'.entries path' entries' = .ok results' ∧
      Value.EntriesRenamed R results results' := by
  induction renamed generalizing results with
  | nil =>
    cases ok
    exact ⟨[], rfl, .nil⟩
  | @cons entry entry' _ _ first _ ih =>
    obtain ⟨key, v⟩ := entry
    obtain ⟨key', v'⟩ := entry'
    obtain ⟨rfl, first⟩ := first
    simp only [Codec.entries] at ok ⊢
    split at ok
    · simp only [bind_eq_ok, pure_eq_ok] at ok ⊢
      obtain ⟨w, here, ws, rest, rfl⟩ := ok
      obtain ⟨w', here', same⟩ := h.element (path'.push (.key key')) first here
      obtain ⟨ws', rest', all⟩ := ih rest
      rename_i tellable
      rw [if_pos tellable]
      simp only [bind_eq_ok, pure_eq_ok]
      exact ⟨(key', w') :: ws', ⟨w', here', ws', rest', rfl⟩, .cons ⟨rfl, same⟩ all⟩
    · obtain ⟨_, failed, -⟩ := bind_eq_ok.mp ok
      exact absurd failed fail_ne_ok

theorem dictOf (h : Simulates R c c') : Simulates R c.dictOf c'.dictOf where
  acceptsNull := rfl
  run {v v' w path} path' renamed ok := by
    simp only [Codec.dictOf] at ok ⊢
    cases v with
    | map members =>
      obtain ⟨results, inner, rfl⟩ := map_eq_ok.mp ok
      obtain ⟨members', rfl, all⟩ := renamed.exists_entries
      obtain ⟨results', ok', same⟩ := h.entries all path' inner
      exact ⟨.map results', map_eq_ok.mpr ⟨results', ok', rfl⟩, .of_map same⟩
    | _ => exact absurd ok fail_ne_ok

end Simulates

/-! ## Directions -/

/-- The two directions through a plan. -/
inductive Direction where
  | decoding
  | encoding

namespace Direction

/-- The codec of a plan. -/
def codec : Direction → ModelCodec → Plan → Codec
  | .decoding, models, p => p.decoder models
  | .encoding, models, p => p.encoder models

/-- How options are told apart. -/
def reading : Direction → RecordReading
  | .decoding => .wire
  | .encoding => .held

/-- One round of the codecs of models. -/
def step : Direction → Contracts → ModelCodec → ModelCodec
  | .decoding => decodeStep
  | .encoding => encodeStep

/-- The codecs of models with some fuel. -/
def bounded : Direction → Contracts → Nat → ModelCodec
  | .decoding => decodeModel
  | .encoding => encodeModel

/-- The codecs of models, each with the fuel that is enough for its value. -/
def models : Direction → Contracts → ModelCodec
  | .decoding => decoders
  | .encoding => encoders

variable (o : Direction) {contracts : Contracts} {models : ModelCodec} {name : String}
  {ignoring : Bool} {v w : Value} {path : Path}

theorem bounded_zero_ne_ok : o.bounded contracts 0 name ignoring v path ≠ .ok w := by
  cases o <;> exact fail_ne_ok

theorem bounded_succ (n : Nat) :
    o.bounded contracts (n + 1) = o.step contracts (o.bounded contracts n) := by
  cases o <;> rfl

theorem models_ok_iff :
    o.models contracts name ignoring v path = .ok w ↔
      o.step contracts (o.models contracts) name ignoring v path = .ok w := by
  cases o
  · exact decoders_ok_iff
  · exact encoders_ok_iff

theorem step_of_none (missing : contracts.get? name = none) :
    o.step contracts models name ignoring v path ≠ .ok w := by
  cases o
  · simp [step, decodeStep, missing, fail_ne_ok]
  · simp [step, encodeStep, missing, fail_ne_ok]

theorem step_of_union {u : UnionContract} (found : contracts.get? name = some (.union u)) :
    o.step contracts models name ignoring v path = (o.codec models u.body).run v path := by
  cases o
  · simp [step, decodeStep, found, codec]
  · simp [step, encodeStep, found, codec]

/-- The first option that takes the value is taken. -/
theorem firstMatch_ok_iff {options : List (Predicate × Plan)} {description : String} :
    (o.codec models (.firstMatch options description)).run v path = .ok w ↔
      ∃ option, options.find? (fun option => option.1.holds o.reading v) = some option ∧
        (o.codec models option.2).run v path = .ok w := by
  cases o
  · simp only [codec, reading, firstMatch_decoder_run_ok_iff, Predicate.holdsOfWire_eq]
  · simp only [codec, reading, firstMatch_encoder_run_ok_iff, Predicate.holdsOfDecoded_eq]

theorem codec_acceptsNull {table : Table} {t : WireType} {p : Plan}
    (implements : Plan.Implements table t p) :
    (o.codec models p).acceptsNull = t.isNullable := by
  cases o
  · exact decoder_acceptsNull implements
  · exact encoder_acceptsNull implements

theorem reading_agrees : Table.RecordReading.Agrees R o.reading := by
  cases o
  · exact Table.wire_agrees
  · exact Table.held_agrees

end Direction

/-! ## Plans -/

section

variable {o : Direction} {left right : Table} {models models' : ModelCodec}

/-- The codecs of models do the same under other names. -/
def ModelsSimulate (R : String → String → Prop) (models models' : ModelCodec) : Prop :=
  ∀ {a b} ignoring, R a b → Simulates R ⟨false, models a ignoring⟩ ⟨false, models' b ignoring⟩

/-- The codecs of all plans for two types do the same. -/
def TypesSimulate (o : Direction) (R : String → String → Prop) (left right : Table)
    (models models' : ModelCodec) (t u : WireType) : Prop :=
  ∀ {p p'}, Plan.Implements left t p → Plan.Implements right u p' →
    Simulates R (o.codec models p) (o.codec models' p')

/-- A discriminator chooses the same model. -/
theorem chosen_eq (disc : Schema.Discriminator) {members members' : List (Value × Value)}
    (renamed : Value.EntriesRenamed R members members') :
    disc.chosen members' = disc.chosen members := by
  rw [Schema.Discriminator.chosen, Schema.Discriminator.chosen]
  rcases renamed.lookup disc.property with ⟨none, none'⟩ | ⟨v, v', some, some', same⟩
  · rw [none, none']
  · rw [some, some', Option.bind_some, Option.bind_some, same.asStr?_eq]

/-- Discriminators choose models by the same names. -/
theorem ModelsSimulate.dispatch (model : ModelsSimulate R models models')
    {disc : Schema.Discriminator} (functional : ∀ a b b', R a b → R a b' → b = b')
    (targets : ∀ target ∈ WireType.targets (some disc), R target target) :
    Simulates R (o.codec models (.dispatch disc.property disc.mapping))
      (o.codec models' (.dispatch disc.property disc.mapping)) where
  acceptsNull := by cases o <;> rfl
  run {v v' w path} path' renamed ok := by
    cases o with
    | decoding =>
      obtain ⟨members, target, rfl, chosen, ok⟩ := dispatch_decoder_run_ok_iff.mp ok
      obtain ⟨members', rfl, same⟩ := renamed.exists_entries
      obtain ⟨tag, mem⟩ := Table.mem_of_chosen chosen
      obtain ⟨w', ok', result⟩ :=
        (model false (targets _ (List.mem_map.mpr ⟨_, mem, rfl⟩))).run path' renamed ok
      have chosen' := (chosen_eq disc same).trans chosen
      exact ⟨w', dispatch_decoder_run_ok_iff.mpr ⟨members', target, rfl, chosen', ok'⟩, result⟩
    | encoding =>
      obtain ⟨name, fields, rfl, target, ok⟩ := dispatch_encoder_run_ok_iff.mp ok
      obtain ⟨name', fields', rfl, same, -⟩ := renamed.exists_record
      obtain rfl : name = name' := functional _ _ _ (targets _ target) same
      obtain ⟨w', ok', result⟩ := (model true same).run path' renamed ok
      exact ⟨w', dispatch_encoder_run_ok_iff.mpr ⟨name, fields', rfl, target, ok'⟩, result⟩

variable (tables : Table.TablesAlike R left right)
include tables

/-- Unions whose variants are alike choose alike variants. -/
theorem ModelsSimulate.union (model : ModelsSimulate R models models')
    {name name' : Option String} {mode mode' : Schema.Combination}
    {d : Option Schema.Discriminator} {variants others : List WireType}
    (targets : ∀ target ∈ WireType.targets d, R target target)
    (same : variants.length = others.length)
    (alike : ∀ q ∈ variants.zip others, Table.Alike R left right q.1 q.2)
    (each : ∀ q ∈ variants.zip others, TypesSimulate o R left right models models' q.1 q.2) :
    TypesSimulate o R left right models models' (.union name mode d variants)
      (.union name' mode' d others) := by
  intro p p' implements implements'
  cases d with
  | some disc =>
    cases implements
    cases implements'
    exact model.dispatch tables.functional targets
  | none =>
    obtain ⟨options, description, rfl, all⟩ := implements
    obtain ⟨options', description', rfl, all'⟩ := implements'
    refine ⟨by cases o <;> rfl, fun {v v' w path} path' renamed ok => ?_⟩
    obtain ⟨option, found, ok⟩ := o.firstMatch_ok_iff.mp ok
    obtain ⟨t, first, ht⟩ :=
      all.isFirst_of_find? (fun _ _ h => Table.predicateFor_holds_iff h) found
    have pairs : List.Forall₂ (fun t u => Table.Alike R left right t u ∧
        TypesSimulate o R left right models models' t u) variants others :=
      forall₂_of_zip same fun q mem => ⟨alike q mem, each q mem⟩
    obtain ⟨u, first', -, simulates⟩ := Table.exists_isFirst pairs (fun t u both =>
      ⟨fun h => h.alike tables o.reading_agrees renamed both.1,
        fun h => h.alike tables.symm o.reading_agrees renamed.symm both.1.symm⟩) first
    obtain ⟨option', found', hu⟩ :=
      all'.exists_find? (fun _ _ h => Table.predicateFor_holds_iff h) first'
    obtain ⟨w', ok', same⟩ := (simulates ht hu).run path' renamed ok
    exact ⟨w', o.firstMatch_ok_iff.mpr ⟨option', found', ok'⟩, same⟩

/-- Plans of alike types, given the models in them. A union with a name on the one side only is met
by a call of a model there and by its alternatives on the other side. -/
theorem ModelsSimulate.types (model : ModelsSimulate R models models')
    (named : ∀ {a u}, left.get? a = some (.union u) → ∀ {t p'}, Table.Alike R left right u.type t →
      Plan.Implements right t p' → Simulates R ⟨false, models a false⟩ (o.codec models' p'))
    (body : ∀ {b u}, right.get? b = some (.union u) → ∃ p', Plan.Implements right u.type p' ∧
      ∀ {v w path}, (o.codec models' p').run v path = .ok w → models' b false v path = .ok w)
    {t u : WireType} (alike : Table.Alike R left right t u) :
    TypesSimulate o R left right models models' t u := by
  induction alike with
  | primitive =>
    intro p p' implements implements'
    cases implements
    cases implements'
    cases o <;> exact .identity
  | enum plain =>
    intro p p' implements implements'
    cases implements
    cases implements'
    cases o <;> exact .enumOf plain
  | optional _ ih => exact fun h h' => ih h h'
  | nullable _ ih =>
    rintro _ _ ⟨q, rfl, hq⟩ ⟨q', rfl, hq'⟩
    cases o <;> exact .nullable (ih hq hq')
  | sequence _ ih =>
    rintro _ _ ⟨q, rfl, hq⟩ ⟨q', rfl, hq'⟩
    cases o <;> exact .listOf (ih hq hq')
  | mapping _ ih =>
    rintro _ _ ⟨q, rfl, hq⟩ ⟨q', rfl, hq'⟩
    cases o <;> exact .dictOf (ih hq hq')
  | model name =>
    intro p p' implements implements'
    cases implements
    cases implements'
    cases o <;> exact model false name
  | union targets same all ih => exact model.union tables targets same all ih
  | namedLeft found targets same all _ =>
    intro p p' implements implements'
    cases implements
    cases o <;> exact named found (.union targets same all) implements'
  | @namedRight name mode _ b u found targets same all ih =>
    intro p p' implements implements'
    cases implements'
    obtain ⟨p', implements', enough⟩ := body found
    have inner : Simulates R (o.codec models p) (o.codec models' p') :=
      model.union tables targets same all ih implements implements'
    refine ⟨?_, fun path' renamed ok => ?_⟩
    · have byName : Plan.Implements right (.model b) (.call b) := rfl
      rw [o.codec_acceptsNull byName, o.codec_acceptsNull implements]
      rfl
    · obtain ⟨w', ok', same⟩ := inner.run path' renamed ok
      refine ⟨w', ?_, same⟩
      cases o <;> exact enough ok'

omit tables

/-! ## Records -/

/-- Contracts of fields that differ in the names of models. -/
structure FieldSimulates (o : Direction) (R : String → String → Prop) (models models' : ModelCodec)
    (f f' : FieldContract) : Prop where
  attributeName : f'.attributeName = f.attributeName
  wireName : f'.wireName = f.wireName
  required : f'.required = f.required
  nullable : f'.nullable = f.nullable
  plan : Simulates R (o.codec models f.plan) (o.codec models' f'.plan)

theorem fields_simulate
    (types : ∀ {t u}, Table.Alike R left right t u → TypesSimulate o R left right models models' t u)
    {r s : RecordModel} (alike : Table.RecordsAlike R left right r s) {c c' : RecordContract}
    (implements : RecordContract.Implements left r c)
    (implements' : RecordContract.Implements right s c') :
    List.Forall₂ (FieldSimulates o R models models') c.fields c'.fields := by
  refine (forall₂_comp implements.fields.flip (forall₂_comp alike.fields implements'.fields)).imp ?_
  rintro f' g' ⟨f, hf, g, same, hg⟩
  exact ⟨by rw [hg.attributeName, same.attributeName, hf.attributeName],
    by rw [hg.wireName, same.wireName, hf.wireName],
    by rw [hg.required, same.required, hf.required],
    by rw [hg.nullable, same.nullable, hf.nullable], types same.type hf.plan hg.plan⟩

theorem FieldSimulates.decode {f f' : FieldContract}
    (h : FieldSimulates .decoding R models models' f f') {model model' : String}
    {members members' : List (Value × Value)} (renamed : Value.EntriesRenamed R members members')
    {path : Path} (path' : Path) {w : Value}
    (ok : decodeField (ruleOf model f) (f.plan.decoder models) members path = .ok w) :
    ∃ w', decodeField (ruleOf model' f') (f'.plan.decoder models') members' path' = .ok w' ∧
      w.Renamed R w' := by
  simp only [decodeField_ok_iff, ruleOf_wireName, ruleOf_required, ruleOf_nullable, h.wireName,
    h.required, h.nullable] at ok ⊢
  rcases renamed.lookup f.wireName with ⟨absent, absent'⟩ | ⟨v, v', there, there', same⟩
  · simp only [absent, absent', reduceCtorEq, false_and, exists_false, or_false, true_and] at ok ⊢
    obtain ⟨optional, rfl⟩ := ok
    exact ⟨.unset, ⟨optional, rfl⟩, .scalar rfl⟩
  · simp only [there, there', reduceCtorEq, false_and, false_or, Option.some.injEq,
      exists_eq_left'] at ok ⊢
    rcases ok with ⟨rfl, nullable, rfl⟩ | ⟨some, ok⟩
    · exact ⟨.null, .inl ⟨same.eq_of_isPlain rfl, nullable, rfl⟩, .scalar rfl⟩
    · obtain ⟨w', ok', result⟩ := h.plan.run _ same ok
      refine ⟨w', .inr ⟨?_, ok'⟩, result⟩
      rwa [ne_eq, ← isNull_iff, same.isNull_eq, isNull_iff]

theorem decodeFields_simulates {c c' : RecordContract} (name : R c.name c'.name)
    (fields : List.Forall₂ (FieldSimulates .decoding R models models') c.fields c'.fields)
    {members members' : List (Value × Value)} (renamed : Value.EntriesRenamed R members members')
    {path : Path} (path' : Path) {w : Value} (ok : decodeFields models c members path = .ok w) :
    ∃ w', decodeFields models' c' members' path' = .ok w' ∧ w.Renamed R w' := by
  obtain ⟨values, rfl, all⟩ := decodeFields_ok_iff.mp ok
  obtain ⟨values', all', same⟩ : ∃ values', List.Forall₂ (fun f' value' =>
      value'.1 = f'.attributeName ∧ decodeField (ruleOf c'.name f') (f'.plan.decoder models')
        members' path' = .ok value'.2) c'.fields values' ∧ Value.EntriesRenamed R values values' := by
    refine exists_square fields all ?_
    rintro f f' ⟨_, v⟩ h ⟨rfl, ok⟩
    obtain ⟨w', ok', same⟩ := h.decode renamed path' ok
    exact ⟨(f'.attributeName, w'), ⟨rfl, ok'⟩, h.attributeName, same⟩
  exact ⟨_, decodeFields_ok_iff.mpr ⟨values', rfl, all'⟩, .of_record name same⟩

theorem FieldSimulates.encode {f f' : FieldContract}
    (h : FieldSimulates .encoding R models models' f f') {model model' : String}
    {v v' : Value} (renamed : v.Renamed R v') {members members' result : List (Value × Value)}
    (before : Value.EntriesRenamed R members members') {path : Path} (path' : Path)
    (ok : encodeField (ruleOf model f) (f.plan.encoder models) v path members = .ok result) :
    ∃ result', encodeField (ruleOf model' f') (f'.plan.encoder models') v' path' members' =
      .ok result' ∧ Value.EntriesRenamed R result result' := by
  simp only [encodeField_ok_iff, ruleOf_wireName, ruleOf_required, ruleOf_nullable, h.wireName,
    h.required, h.nullable] at ok ⊢
  rcases ok with ⟨rfl, optional, rfl⟩ | ⟨rfl, nullable, rfl⟩ | ⟨set, some, w, ok, rfl⟩
  · have unset : v' = .unset := by rw [← isUnset_iff, renamed.isUnset_eq]; rfl
    exact ⟨members', .inl ⟨unset, optional, rfl⟩, before⟩
  · exact ⟨_, .inr (.inl ⟨renamed.eq_of_isPlain rfl, nullable, rfl⟩),
      before.setKey _ (.scalar rfl)⟩
  · obtain ⟨w', ok', same⟩ := h.plan.run _ renamed ok
    refine ⟨_, .inr (.inr ⟨?_, ?_, w', ok', rfl⟩), before.setKey _ same⟩
    · rwa [ne_eq, ← isUnset_iff, renamed.isUnset_eq, isUnset_iff]
    · rwa [ne_eq, ← isNull_iff, renamed.isNull_eq, isNull_iff]

theorem encodeFields_simulates {c c' : RecordContract}
    (fields : List.Forall₂ (FieldSimulates .encoding R models models') c.fields c'.fields)
    {values values' : List (String × Value)} (renamed : Value.EntriesRenamed R values values')
    {path : Path} (path' : Path) {w : Value} (ok : encodeFields models c values path = .ok w) :
    ∃ w', encodeFields models' c' values' path' = .ok w' ∧ w.Renamed R w' := by
  simp only [encodeFields, bind_eq_ok, pure_eq_ok] at ok ⊢
  obtain ⟨members, ok, rfl⟩ := ok
  -- the induction needs it for any entries that are written before
  suffices ∀ {before before' result : List (Value × Value)}, Value.EntriesRenamed R before before' →
      c.fields.foldlM (fun members f => encodeField (ruleOf c.name f) (f.plan.encoder models)
        (Value.attributeOf values f.attributeName) path members) before = .ok result →
      ∃ result', c'.fields.foldlM (fun members f => encodeField (ruleOf c'.name f)
        (f.plan.encoder models') (Value.attributeOf values' f.attributeName) path' members) before' =
          .ok result' ∧ Value.EntriesRenamed R result result' by
    obtain ⟨members', ok', same⟩ := this .nil ok
    exact ⟨.map members', ⟨members', ok', rfl⟩, .of_map same⟩
  generalize c.fields = fs at fields
  generalize c'.fields = fs' at fields
  induction fields with
  | nil =>
    intro before before' result same ok
    cases ok
    exact ⟨before', rfl, same⟩
  | @cons f f' _ _ first _ ih =>
    intro before before' result same ok
    rw [List.foldlM_cons] at ok ⊢
    obtain ⟨middle, here, rest⟩ := bind_eq_ok.mp ok
    have value : (Value.attributeOf values f.attributeName).Renamed R
        (Value.attributeOf values' f'.attributeName) := by
      rw [first.attributeName]
      exact renamed.attributeOf _
    obtain ⟨middle', here', same'⟩ := first.encode value same path' here
    obtain ⟨result', rest', same⟩ := ih same' rest
    exact ⟨result', bind_eq_ok.mpr ⟨middle', here', rest'⟩, same⟩

/-! ## Models -/

/-- A record decodes its own fields unless its discriminator leads elsewhere. -/
theorem decodeStep_record_ok_iff {contracts : Contracts} {name : String} {c : RecordContract}
    (found : contracts.get? name = some (.record c)) {ignoring : Bool} {v w : Value} {path : Path} :
    decodeStep contracts models name ignoring v path = .ok w ↔
      ∃ members, v = .map members ∧
        match c.discriminator.filter fun d => !ignoring && Value.hasKey d.property members with
        | none => decodeFields models c members path = .ok w
        | some d => ∃ target, d.chosen members = some target ∧
            if target = name then decodeFields models c members path = .ok w
            else models target true v path = .ok w := by
  simp only [decodeStep, found, bind_eq_ok, requireMapping_ok_iff]
  refine exists_congr fun members => and_congr_right fun _ => ?_
  cases c.discriminator.filter fun d => !ignoring && Value.hasKey d.property members with
  | none => rfl
  | some d =>
    simp only [bind_eq_ok, selectVariant_ok_iff_chosen, beq_iff_eq]
    refine exists_congr fun target => and_congr_right fun _ => ?_
    split <;> rfl

/-- One round of decoding a record. -/
theorem decodeStep_simulates (tables : Table.TablesAlike R left right)
    (model : ModelsSimulate R models models')
    (types : ∀ {t u}, Table.Alike R left right t u →
      TypesSimulate .decoding R left right models models' t u)
    {contracts contracts' : Contracts} {a b : String} (name : R a b) {r s : RecordModel}
    (alike : Table.RecordsAlike R left right r s) {c c' : RecordContract}
    (found : contracts.get? a = some (.record c)) (found' : contracts'.get? b = some (.record c'))
    (implements : RecordContract.Implements left r c)
    (implements' : RecordContract.Implements right s c') {ignoring : Bool} {v v' w : Value}
    {path : Path} (path' : Path) (renamed : v.Renamed R v')
    (ok : decodeStep contracts models a ignoring v path = .ok w) :
    ∃ w', decodeStep contracts' models' b ignoring v' path' = .ok w' ∧ w.Renamed R w' := by
  have own : R c.name c'.name := by
    rw [implements.name, implements'.name]
    exact alike.name
  have disc : c'.discriminator = c.discriminator := by
    rw [implements'.discriminator, alike.discriminator, implements.discriminator]
  have fields := fields_simulate types alike implements implements'
  obtain ⟨members, rfl, ok⟩ := (decodeStep_record_ok_iff found).mp ok
  obtain ⟨members', rfl, same⟩ := renamed.exists_entries
  -- both records ask for the same property, so one case distinction serves both sides
  suffices ∃ w', (match c.discriminator.filter fun d =>
        !ignoring && Value.hasKey d.property members with
      | none => decodeFields models' c' members' path' = .ok w'
      | some d => ∃ target, d.chosen members' = some target ∧
          if target = b then decodeFields models' c' members' path' = .ok w'
          else models' target true (.map members') path' = .ok w') ∧ w.Renamed R w' by
    obtain ⟨w', ok', result⟩ := this
    refine ⟨w', (decodeStep_record_ok_iff found').mpr ⟨members', rfl, ?_⟩, result⟩
    simpa only [disc, same.hasKey_eq] using ok'
  cases hd : c.discriminator.filter fun d => !ignoring && Value.hasKey d.property members with
  | none =>
    rw [hd] at ok
    exact decodeFields_simulates own fields same path' ok
  | some d =>
    rw [hd] at ok
    obtain ⟨target, chosen, ok⟩ := ok
    -- models that discriminators lead to keep their names
    have fixed : R target target := by
      obtain ⟨tag, mem⟩ := Table.mem_of_chosen chosen
      refine alike.targets target ?_
      rw [← implements.discriminator, (Option.filter_eq_some_iff.mp hd).1]
      exact List.mem_map.mpr ⟨_, mem, rfl⟩
    have here : target = a ↔ target = b :=
      ⟨fun eq => tables.functional _ _ _ fixed (eq ▸ name),
        fun eq => tables.injective _ _ _ fixed (eq ▸ name)⟩
    have chosen' := (chosen_eq d same).trans chosen
    split at ok
    · rename_i eq
      obtain ⟨w', ok', result⟩ := decodeFields_simulates own fields same path' ok
      exact ⟨w', ⟨target, chosen', by rwa [if_pos (here.mp eq)]⟩, result⟩
    · rename_i ne
      obtain ⟨w', ok', result⟩ := (model true fixed).run path' renamed ok
      exact ⟨w', ⟨target, chosen', by rwa [if_neg (ne ∘ here.mpr)]⟩, result⟩

/-- A record encodes its own instances, and leaves those that its discriminator leads to to their
models. -/
theorem encodeStep_record_ok_iff {contracts : Contracts} {name : String} {c : RecordContract}
    (found : contracts.get? name = some (.record c)) {ignoring : Bool} {model : String}
    {fields : List (String × Value)} {w : Value} {path : Path} :
    encodeStep contracts models name ignoring (.record model fields) path = .ok w ↔
      if model = name then encodeFields models c fields path = .ok w
      else model ∈ WireType.targets c.discriminator ∧ ignoring = false ∧
        models model true (.record model fields) path = .ok w := by
  simp only [encodeStep, found, beq_iff_eq]
  split
  · rfl
  · by_cases mem : model ∈ WireType.targets c.discriminator <;> cases ignoring <;>
      simp [mem, fail_ne_ok]

/-- One round of encoding a record. -/
theorem encodeStep_simulates (tables : Table.TablesAlike R left right)
    (model : ModelsSimulate R models models')
    (types : ∀ {t u}, Table.Alike R left right t u →
      TypesSimulate .encoding R left right models models' t u)
    {contracts contracts' : Contracts} {a b : String} (name : R a b) {r s : RecordModel}
    (alike : Table.RecordsAlike R left right r s) {c c' : RecordContract}
    (found : contracts.get? a = some (.record c)) (found' : contracts'.get? b = some (.record c'))
    (implements : RecordContract.Implements left r c)
    (implements' : RecordContract.Implements right s c') {ignoring : Bool} {v v' w : Value}
    {path : Path} (path' : Path) (renamed : v.Renamed R v')
    (ok : encodeStep contracts models a ignoring v path = .ok w) :
    ∃ w', encodeStep contracts' models' b ignoring v' path' = .ok w' ∧ w.Renamed R w' := by
  have fields := fields_simulate types alike implements implements'
  obtain ⟨own, values, rfl⟩ : ∃ own values, v = .record own values := by
    cases v with
    | record own values => exact ⟨own, values, rfl⟩
    | _ => simp [encodeStep, found, fail_ne_ok] at ok
  obtain ⟨own', values', rfl, same, all⟩ := renamed.exists_record
  rw [encodeStep_record_ok_iff found] at ok
  -- the correspondence of names is one to one, so both sides see their own instance or neither
  have here : own = a ↔ own' = b :=
    ⟨fun eq => tables.functional _ _ _ same (eq ▸ name),
      fun eq => tables.injective _ _ _ same (eq ▸ name)⟩
  simp only [encodeStep_record_ok_iff found']
  split at ok
  · rename_i eq
    obtain ⟨w', ok', result⟩ := encodeFields_simulates fields all path' ok
    exact ⟨w', by rwa [if_pos (here.mp eq)], result⟩
  · rename_i ne
    obtain ⟨target, unignored, ok⟩ := ok
    obtain ⟨w', ok', result⟩ := (model true same).run path' renamed ok
    have fixed : R own own := by
      rw [implements.discriminator] at target
      exact alike.targets own target
    have target' : own' ∈ WireType.targets c'.discriminator := by
      rw [← tables.functional _ _ _ fixed same, implements'.discriminator, alike.discriminator,
        ← implements.discriminator]
      exact target
    refine ⟨w', ?_, result⟩
    rw [if_neg (ne ∘ here.mpr)]
    exact ⟨target', unignored, ok'⟩

variable {contracts contracts' : Contracts}

/-- One round of the codecs of models, after some rounds of the one codec and all of the other. -/
theorem ModelsSimulate.step (tables : Table.TablesAlike R left right)
    (implement : contracts.Implement left) (implement' : contracts'.Implement right)
    (model : ModelsSimulate R models models')
    (types : ∀ {t u}, Table.Alike R left right t u → TypesSimulate o R left right models models' t u)
    (round : ∀ {b ignoring v w path}, o.step contracts' models' b ignoring v path = .ok w →
      models' b ignoring v path = .ok w) :
    ModelsSimulate R (o.step contracts models) models' := by
  intro a b ignoring name
  refine ⟨rfl, fun {v v' w path} path' renamed ok => ?_⟩
  suffices ∃ w', o.step contracts' models' b ignoring v' path' = .ok w' ∧ w.Renamed R w' by
    obtain ⟨w', ok', same⟩ := this
    exact ⟨w', round ok', same⟩
  -- models that correspond are of the same kind
  cases found : left.get? a with
  | none => exact absurd ok (o.step_of_none (implement.none found))
  | some m =>
    obtain ⟨c, hget, hc⟩ := implement.some found
    cases hc with
    | record hc =>
      obtain ⟨s, found', alike⟩ := tables.exists_record name found
      obtain ⟨_, hget', hc'⟩ := implement'.some found'
      cases hc' with
      | record hc' =>
        cases o with
        | decoding =>
          exact decodeStep_simulates tables model types name alike hget hget' hc hc' path' renamed ok
        | encoding =>
          exact encodeStep_simulates tables model types name alike hget hget' hc hc' path' renamed ok
    | union _ hbody =>
      obtain ⟨_, found', alike⟩ := tables.exists_union name found
      obtain ⟨_, hget', hc'⟩ := implement'.some found'
      cases hc' with
      | union _ hbody' =>
        have ran := (o.step_of_union hget).symm.trans ok
        simp only [o.step_of_union hget']
        exact (types alike hbody hbody').run path' renamed ran

/-- A union under a name is as nullable as its alternatives: not at all. -/
theorem isNullable_of_alike {u : UnionModel} {t : WireType} (h : Table.Alike R left right u.type t) :
    t.isNullable = false := by
  obtain ⟨name, mode, discriminator, variants⟩ := u
  cases h <;> rfl

/-- The codecs of models with any fuel, and those of all types over them. -/
theorem Direction.simulates (o : Direction) (tables : Table.TablesAlike R left right)
    (implement : contracts.Implement left) (implement' : contracts'.Implement right) (n : Nat) :
    ModelsSimulate R (o.bounded contracts n) (o.models contracts') ∧
      ∀ {t u}, Table.Alike R left right t u →
        TypesSimulate o R left right (o.bounded contracts n) (o.models contracts') t u := by
  -- on the right there is no fuel to run out of, so a name is worth as much as its alternatives
  have body : ∀ {b u}, right.get? b = some (.union u) → ∃ p', Plan.Implements right u.type p' ∧
      ∀ {v w path}, (o.codec (o.models contracts') p').run v path = .ok w →
        o.models contracts' b false v path = .ok w := by
    intro b u found
    obtain ⟨_, hget, hc⟩ := implement'.some found
    cases hc with
    | union _ hbody =>
      refine ⟨_, hbody, fun {v w path} ok => o.models_ok_iff.mpr ?_⟩
      rwa [o.step_of_union hget]
  -- on the fuel of the left side, models and types together
  induction n with
  | zero =>
    have model : ModelsSimulate R (o.bounded contracts 0) (o.models contracts') :=
      fun _ _ => ⟨rfl, fun _ _ ok => absurd ok o.bounded_zero_ne_ok⟩
    refine ⟨model, model.types tables (fun {_ _} _ {_ _} alike implements => ?_) body⟩
    refine ⟨?_, fun _ _ ok => absurd ok o.bounded_zero_ne_ok⟩
    rw [o.codec_acceptsNull implements, isNullable_of_alike alike]
  | succ n ih =>
    obtain ⟨model, types⟩ := ih
    have next : ModelsSimulate R (o.bounded contracts (n + 1)) (o.models contracts') := by
      rw [o.bounded_succ]
      exact model.step tables implement implement' types o.models_ok_iff.mpr
    refine ⟨next, next.types tables (fun {_ _} found {_ _} alike implements => ?_) body⟩
    refine ⟨?_, fun path' renamed ok => ?_⟩
    · rw [o.codec_acceptsNull implements, isNullable_of_alike alike]
    · -- The name takes one unit of fuel, and the alternatives have what is left.
      obtain ⟨_, hget, hc⟩ := implement.some found
      cases hc with
      | union _ hbody =>
        rw [o.bounded_succ] at ok
        have ran := (o.step_of_union hget).symm.trans ok
        exact (types alike hbody implements).run path' renamed ran

/-! ## Decoding and encoding -/

variable (tables : Table.TablesAlike R left right) (implement : contracts.Implement left)
  (implement' : contracts'.Implement right)
include tables implement implement'

/-- What one name decodes, its counterpart decodes to the same under other names. -/
theorem decode_simulates {a b : String} (name : R a b) {v v' w : Value} (renamed : v.Renamed R v')
    {ignoring : Bool} (ok : decode contracts a v ignoring = .ok w) :
    ∃ w', decode contracts' b v' ignoring = .ok w' ∧ w.Renamed R w' := by
  unfold decode at ok ⊢
  rw [renamed.isNull_eq, renamed.isUnset_eq]
  split at ok
  · cases ok
    exact ⟨v', by rw [if_pos ‹_›], renamed⟩
  · rw [if_neg ‹_›]
    obtain ⟨model, -⟩ :=
      Direction.decoding.simulates tables implement implement' (modelBound contracts v)
    exact (model ignoring name).run _ renamed ok

theorem encode_simulates {a b : String} (name : R a b) {v v' w : Value} (renamed : v.Renamed R v')
    {ignoring : Bool} (ok : encode contracts a v ignoring = .ok w) :
    ∃ w', encode contracts' b v' ignoring = .ok w' ∧ w.Renamed R w' := by
  unfold encode at ok ⊢
  rw [renamed.isNull_eq, renamed.isUnset_eq]
  split at ok
  · cases ok
    exact ⟨v', by rw [if_pos ‹_›], renamed⟩
  · rw [if_neg ‹_›]
    obtain ⟨model, -⟩ :=
      Direction.encoding.simulates tables implement implement' (modelBound contracts v)
    exact (model ignoring name).run _ renamed ok

end

end WireModel.Codec
