import WireModel.Proofs.Emit.Expressions

/-!
# Every table has a module

The module of a ready table is written from its models and their contracts. Each look-up on the way
succeeds: contracts are found by the names of models, fields by their wire names, and the names of
classes and functions because the table is closed. So the text of a module hinges on the values
that the table mentions (`moduleText_writes`).
-/

namespace WireModel

/-! ## Contracts -/

theorem Table.get?_of_mem {table : Table} (distinct : table.names.Nodup) {m : Model}
    (mem : m ∈ table.models) : table.get? m.name = some m := by
  obtain ⟨m', found⟩ := mem_names_iff.mp (List.mem_map.mpr ⟨m, mem, rfl⟩)
  have same := List.inj_on_of_nodup_map distinct (mem_of_get? found) mem (name_of_get? found)
  rw [found, same]

/-- Whether the contract of a field is the one of a field, with its default. -/
def FieldContract.Describes (table : Table) (f : Field) (c : FieldContract) : Prop :=
  FieldContract.Implements table f c ∧ c.default = f.default

namespace Contract

variable {table : Table}

theorem ofField_describes {model : String} {f : Field} {c : FieldContract}
    (h : (ofField table model f).Gives c) : FieldContract.Describes table f c := by
  refine ⟨ofField_implements h, ?_⟩
  obtain ⟨plan, -, h⟩ := h.bind
  rw [← Logged.gives_pure_iff.mp h]

/-- The contract of a record describes its fields. -/
theorem ofModel_record {r : RecordModel} {c : Contract} (h : (ofModel table (.record r)).Gives c) :
    ∃ rc : RecordContract, c = .record rc ∧ rc.discriminator = r.discriminator ∧
      List.Forall₂ (FieldContract.Describes table) r.fields rc.fields := by
  obtain ⟨fields, hfields, h⟩ := h.bind
  rw [← Logged.gives_pure_iff.mp h]
  exact ⟨_, rfl, rfl, hfields.mapM.imp fun _ _ => ofField_describes⟩

/-- The contract of a union has the plan of its type. -/
theorem ofModel_union {u : UnionModel} {c : Contract} (h : (ofModel table (.union u)).Gives c) :
    ∃ uc : UnionContract, c = .union uc ∧ Plan.Implements table u.type uc.body := by
  obtain ⟨body, hbody, h⟩ := h.bind
  rw [← Logged.gives_pure_iff.mp h]
  exact ⟨_, rfl, Plan.planOf_implements hbody⟩

/-- Each model finds its contract by its name. -/
theorem exists_get?_of_derive {contracts : Contracts} (distinct : table.names.Nodup)
    (h : (derive table).Gives contracts) {m : Model} (mem : m ∈ table.models) :
    ∃ c, contracts.get? m.name = some c ∧ (ofModel table m).Gives c := by
  have rel := find?_rel (fun h => (ofModel_implements h).name_eq) h.mapM m.name
  have found := Table.get?_of_mem distinct mem
  rw [Table.get?] at found
  rw [found] at rel
  cases hc : contracts.find? (·.name == m.name) with
  | none =>
    rw [hc] at rel
    cases rel
  | some c =>
    rw [hc] at rel
    cases rel with
    | some rel => exact ⟨c, hc, rel⟩

end Contract

namespace Emit

open Types (WireType)

variable {table : Table}

theorem annotateValues_writes {whole : Prop} {values : List Value} (trees : ∀ v ∈ values, v.Tree)
    (enough : whole → ∀ v ∈ values, v.isTellable = true) :
    Writes whole (annotateValues values) (∀ v ∈ values, v.isTellable = true) :=
  (literals_writes trees enough).bind_pure

/-! ## Records -/

theorem mem_declarationOrder {fields : List FieldContract} {c : FieldContract} :
    c ∈ declarationOrder fields ↔ c ∈ fields := by
  simp only [declarationOrder, List.mem_append, List.mem_filter]
  cases c.required && c.default.isNone <;> simp

theorem defaultText_writes {whole : Prop} {v : Value} (tree : v.Tree)
    (enough : whole → v.isTellable = true) :
    Writes whole (defaultText v) (v.isTellable = true) := by
  refine ((literal_writes tree).imp enough id).bind_left fun text _ => ?_
  split
  · exact .pure
  · exact .pure
  · exact .pure

theorem known_of_otherTargets {name target : String} {d : Schema.Discriminator}
    (known : ∀ entry ∈ d.mapping, entry.2 ∈ table.names) (there : target ∈ otherTargets name d) :
    target ∈ table.names := by
  obtain ⟨entry, mem, rfl⟩ :=
    List.mem_map.mp (List.mem_eraseDups.mp (List.mem_filter.mp there).1)
  exact known entry mem

section Records

variable (ready : table.Ready) {r : RecordModel} (mem : .record r ∈ table.models)

include ready mem

/-- The declaration of a field shows its default. -/
theorem declaration_writes {late : Bool} {f g : Field} (own : f ∈ r.fields) (here : g ∈ r.fields)
    {c : FieldContract} (describes : FieldContract.Describes table f c) :
    Writes table.IsTellable (declaration (Names.ofTable table) late g c)
      (∀ v, f.default = some v → v.isTellable = true) := by
  unfold declaration
  refine ((annotate_writes ready (.field mem here)).bind fun base _ => ?_).mono And.right
  dsimp only
  cases given : c.default with
  | none =>
    rw [describes.2] at given
    refine Hinges.pure.mono fun _ v same => ?_
    rw [given] at same
    cases same
  | some v =>
    rw [describes.2] at given
    have mentions : table.Mentions v := .default mem own given
    have enough : table.IsTellable → v.isTellable = true := fun told => told v mentions
    refine (defaultText_writes (ready.tree mentions) enough).bind_pure.mono fun told w same => ?_
    rw [given] at same
    cases same
    exact told

/-- The text of a field shows its default, and has the expressions of its plan. -/
theorem fieldText_writes {late : Bool} {f : Field} (own : f ∈ r.fields) {c : FieldContract}
    (describes : FieldContract.Describes table f c) :
    Writes table.IsTellable (fieldText (Names.ofTable table) late r c)
        (∀ v, f.default = some v → v.isTellable = true) ∧
      ∀ text, fieldText (Names.ofTable table) late r c = .ok text →
        Writes table.IsTellable text.decoder.render f.type.IsTellable ∧
        Writes table.IsTellable text.encoder.render f.type.IsTellable := by
  obtain ⟨g, found⟩ : ∃ g, r.fields.find? (·.wireName == c.wireName) = some g := by
    rw [← Option.isSome_iff_exists, List.find?_isSome]
    exact ⟨f, own, by rw [describes.1.wireName, beq_self_eq_true]⟩
  have occurs : table.Occurs f.type := .field mem own
  have expresses (direction : Direction) : Expresses table.IsTellable
      (planExpr (Names.ofTable table) direction c.plan) f.type.IsTellable :=
    planExpr_expresses ready describes.1.plan occurs
  obtain ⟨decoder, hdecoder, decodes⟩ := expresses .decode
  obtain ⟨encoder, hencoder, encodes⟩ := expresses .encode
  simp only [fieldText, found, hdecoder, hencoder]
  constructor
  · refine Hinges.bind_pure ?_
    exact declaration_writes ready mem own (List.mem_of_find?_eq_some found) describes
  · intro text made
    obtain ⟨_, -, made⟩ := bind_eq_ok.mp made
    cases made
    exact ⟨decodes, encodes⟩

/-- A choice by the discriminator of a record has a text. -/
theorem dispatchText_ok {d : Schema.Discriminator} (tagged : r.discriminator = some d) :
    ∃ text, dispatchText (Names.ofTable table) r.name d = .ok text := by
  have known : ∀ entry ∈ d.mapping, entry.2 ∈ table.names := fun entry there =>
    ready.targets mem (m := .record r) tagged there
  obtain ⟨decodeCases, hdecode, -⟩ := exists_mapM_eq_ok (P := fun _ => True) (l := d.mapping)
    (f := fun entry => do
      let choice ← if entry.2 == r.name then pure "None"
        else modelFunction (Names.ofTable table) .decode entry.2
      return Json.quote entry.1 ++ ": " ++ choice) fun entry there => by
    obtain ⟨function, found⟩ := modelFunction_ofTable (known entry there) .decode
    dsimp only
    split
    · exact ⟨_, rfl, trivial⟩
    · exact ⟨_, bind_eq_ok.mpr ⟨function, found, rfl⟩, trivial⟩
  obtain ⟨encodeCases, hencode, -⟩ := exists_mapM_eq_ok (P := fun _ => True)
    (l := otherTargets r.name d)
    (f := fun target => do
      return (← (Names.ofTable table).classOf target) ++ ": " ++
        (← modelFunction (Names.ofTable table) .encode target)) fun target there => by
    have target := known_of_otherTargets known there
    obtain ⟨c, hc⟩ := Names.classOf_ofTable (.inr target)
    obtain ⟨function, found⟩ := modelFunction_ofTable target .encode
    exact ⟨_, bind_eq_ok.mpr ⟨c, hc, bind_eq_ok.mpr ⟨function, found, rfl⟩⟩, trivial⟩
  exact ⟨_, bind_eq_ok.mpr ⟨decodeCases, hdecode, bind_eq_ok.mpr ⟨encodeCases, hencode, rfl⟩⟩⟩

section

variable {late : Bool} {fields : List FieldContract}
  (described : List.Forall₂ (FieldContract.Describes table) r.fields fields)

include described

/-- The texts of the fields of a record show the defaults. -/
theorem fieldTexts_writes : Writes table.IsTellable
    ((declarationOrder fields).mapM (fieldText (Names.ofTable table) late r))
    (∀ f ∈ r.fields, ∀ v, f.default = some v → v.isTellable = true) := by
  have all : Writes table.IsTellable
      ((declarationOrder fields).mapM (fieldText (Names.ofTable table) late r))
      (∀ c ∈ declarationOrder fields, ∀ v, c.default = some v → v.isTellable = true) := by
    refine .mapM fun c there => ?_
    obtain ⟨f, own, describes⟩ := exists_left_of_forall₂ described (mem_declarationOrder.mp there)
    rw [describes.2]
    exact (fieldText_writes ready mem own describes).1
  refine all.mono fun told f own v same => ?_
  obtain ⟨c, there, describes⟩ := exists_right_of_forall₂ described own
  exact told c (mem_declarationOrder.mpr there) v (describes.2.trans same)

/-- The lines of the fields of a record show what their types mention. -/
theorem fieldLines_writes {texts : List FieldText} {model : String}
    (made : (declarationOrder fields).mapM (fieldText (Names.ofTable table) late r) = .ok texts) :
    Writes table.IsTellable (texts.mapM (decodeLines model)) (∀ f ∈ r.fields, f.type.IsTellable) ∧
      Writes table.IsTellable (texts.mapM (encodeLines model)) True := by
  have made := mapM_eq_ok.mp made
  -- each text is that of a field, whose expressions show what its type mentions
  have source : ∀ text ∈ texts, ∃ f ∈ r.fields,
      Writes table.IsTellable text.decoder.render f.type.IsTellable ∧
        Writes table.IsTellable text.encoder.render f.type.IsTellable := by
    intro text there
    obtain ⟨c, there, hc⟩ := exists_left_of_forall₂ made there
    obtain ⟨f, own, describes⟩ := exists_left_of_forall₂ described (mem_declarationOrder.mp there)
    exact ⟨f, own, (fieldText_writes ready mem own describes).2 text hc⟩
  constructor
  · have all : Writes table.IsTellable (texts.mapM (decodeLines model))
        (∀ text ∈ texts, ∃ s, text.decoder.render = .ok s) := by
      refine .mapM fun text there => ?_
      obtain ⟨f, -, decodes, -⟩ := source text there
      exact decodes.self.bind_pure
    refine all.mono fun rendered f own => ?_
    obtain ⟨c, there, describes⟩ := exists_right_of_forall₂ described own
    obtain ⟨text, there, hc⟩ := exists_right_of_forall₂ made (mem_declarationOrder.mpr there)
    obtain ⟨s, hs⟩ := rendered text there
    exact ((fieldText_writes ready mem own describes).2 text hc).1.shown s hs
  · have all : Writes table.IsTellable (texts.mapM (encodeLines model)) (∀ _ ∈ texts, True) := by
      refine .mapM fun text there => ?_
      obtain ⟨f, -, -, encodes⟩ := source text there
      exact encodes.bind_pure.mono fun _ => trivial
    exact all.mono fun _ => trivial

end

/-- A choice among models, if there is one, has a text, and the models have classes. -/
theorem exists_dispatch : (∃ dispatch,
      r.discriminator.mapM (dispatchText (Names.ofTable table) r.name) = .ok dispatch) ∧
    ∃ others, ((r.discriminator.map (otherTargets r.name)).getD []).mapM
      (Names.ofTable table).classOf = .ok others := by
  cases own : r.discriminator with
  | none => exact ⟨⟨none, rfl⟩, [], rfl⟩
  | some d =>
    obtain ⟨text, made⟩ := dispatchText_ok ready mem own
    obtain ⟨others, found, -⟩ := exists_mapM_eq_ok (P := fun _ => True)
      (f := (Names.ofTable table).classOf) (l := otherTargets r.name d) fun target there => by
        have known := known_of_otherTargets
          (fun entry there => ready.targets mem (m := .record r) own there) there
        obtain ⟨c, hc⟩ := Names.classOf_ofTable (.inr known)
        exact ⟨c, hc, trivial⟩
    exact ⟨⟨some text, by rw [Option.mapM_some, made]; rfl⟩, others, found⟩

/-- The block of a record shows all that the record mentions. -/
theorem recordBlock_writes {late : Bool} {c : RecordContract}
    (tagged : c.discriminator = r.discriminator)
    (described : List.Forall₂ (FieldContract.Describes table) r.fields c.fields) :
    Writes table.IsTellable (recordBlock (Names.ofTable table) late r c)
      (Model.record r).IsTellable := by
  have here : r.name ∈ table.names := List.mem_map.mpr ⟨_, mem, rfl⟩
  obtain ⟨className, hclass⟩ := Names.classOf_ofTable (.inr here)
  obtain ⟨base, hbase⟩ := Names.baseOf_ofTable here
  obtain ⟨⟨dispatch, hdispatch⟩, others, hothers⟩ := exists_dispatch ready mem
  unfold recordBlock
  rw [tagged]
  refine .bind_of_ok hclass (.bind_of_ok hbase ?_)
  refine ((fieldTexts_writes ready mem described).bind (Q := ∀ f ∈ r.fields, f.type.IsTellable)
    fun texts made => ?_).mono fun told f own => ⟨told.2 f own, told.1 f own⟩
  obtain ⟨decodes, encodes⟩ := fieldLines_writes ready mem described made
  refine .bind_of_ok hdispatch (.bind_of_ok hothers ?_)
  refine decodes.bind_left fun _ _ => encodes.bind_left fun _ _ => ?_
  exact .pure

end Records

/-! ## Unions -/

section Unions

variable (ready : table.Ready)

include ready

/-- The predicates of a union's options are selected by its variants. -/
theorem selectsAll_of_implementsAll {ts : List WireType} {options : List (Predicate × Plan)}
    (h : Plan.ImplementsAll table ts options) (occurs : ∀ t ∈ ts, table.Occurs t) :
    Contract.SelectsAll table [] ts (options.map (·.1)) := by
  induction ts generalizing options with
  | nil =>
    cases h
    exact .nil
  | cons t rest ih =>
    obtain ⟨p, plan, others, rfl, hp, -, hothers⟩ := h
    obtain ⟨first, rest⟩ := List.forall_mem_cons.mp occurs
    obtain ⟨p', hp', selects⟩ := Contract.predicateFor_selects ready.closed first
    obtain rfl : p = p' := Except.ok.inj (hp.symm.trans hp')
    exact .cons selects (ih hothers rest)

theorem unionCheck_writes {u : UnionModel} (occurs : table.Occurs u.type) {body : Plan}
    (implements : Plan.Implements table u.type body) :
    Writes table.IsTellable (unionCheck (Names.ofTable table) body) True := by
  rw [UnionModel.type] at implements
  cases tagged : u.discriminator with
  | some d =>
    rw [tagged] at implements
    cases implements
    exact .of_ok rfl
  | none =>
    rw [tagged] at implements
    obtain ⟨options, description, rfl, all⟩ := implements
    have selects := selectsAll_of_implementsAll ready all fun _ mem => occurs.variant mem
    have express : ExpressAll table.IsTellable
        (predicateExprs (Names.ofTable table) .decode (options.map Prod.fst)) True :=
      predicateExprs_express ready selects fun _ mem => occurs.variant mem
    obtain ⟨es, made, written⟩ := express
    refine .bind_of_ok made ?_
    exact (call_writes (renderAll_writes_singleton (list_writes written))).bind_pure

/-- The block of a union shows all that its variants mention. -/
theorem unionBlock_writes {late : Bool} {u : UnionModel} (mem : .union u ∈ table.models)
    {c : UnionContract} (implements : Plan.Implements table u.type c.body) :
    Writes table.IsTellable (unionBlock (Names.ofTable table) late u c)
      (Model.union u).IsTellable := by
  have here : u.name ∈ table.names := List.mem_map.mpr ⟨_, mem, rfl⟩
  have occurs : table.Occurs u.type := .union mem
  obtain ⟨title, htitle⟩ := Names.classOf_ofTable (.inr here)
  obtain ⟨base, hbase⟩ := Names.baseOf_ofTable here
  have expresses (direction : Direction) : Expresses table.IsTellable
      (planExpr (Names.ofTable table) direction c.body) u.type.IsTellable :=
    planExpr_expresses ready implements occurs
  obtain ⟨decoder, hdecoder, decodes⟩ := expresses .decode
  obtain ⟨encoder, hencoder, encodes⟩ := expresses .encode
  have annotated : Writes table.IsTellable
      (annotate (Names.ofTable table) (.union none u.mode none u.variants)) True :=
    (annotateAll_writes ready fun _ mem => occurs.variant mem).bind_pure
  unfold unionBlock
  refine .bind_of_ok htitle (.bind_of_ok hbase ?_)
  refine ((unionCheck_writes ready occurs implements).bind fun check _ => ?_).mono And.right
  refine (annotated.bind fun variants _ => ?_).mono And.right
  refine .bind_of_ok hdecoder (.bind_of_ok hencoder ?_)
  refine decodes.bind_left fun _ _ => (encodes.mono fun _ => trivial).bind_left fun _ _ => ?_
  exact .pure

end Unions

/-! ## Modules -/

theorem recordContract_eq {contracts : Contracts} {name : String} {c : RecordContract}
    (found : contracts.get? name = some (.record c)) : recordContract contracts name = .ok c := by
  rw [recordContract, found]

theorem unionContract_eq {contracts : Contracts} {name : String} {c : UnionContract}
    (found : contracts.get? name = some (.union c)) : unionContract contracts name = .ok c := by
  rw [unionContract, found]

theorem enumAlias_writes (ready : table.Ready) {e : NamedEnum} (mem : e ∈ table.enums) :
    Writes table.IsTellable (enumAlias (Names.ofTable table) e)
      (∀ v ∈ e.values, v.isTellable = true) := by
  obtain ⟨c, hc⟩ := Names.classOf_ofTable (.inl (List.mem_map.mpr ⟨e, mem, rfl⟩))
  have trees : ∀ v ∈ e.values, v.Tree := fun v own => ready.tree (.enum mem own)
  have enough : table.IsTellable → ∀ v ∈ e.values, v.isTellable = true :=
    fun told v own => told v (.enum mem own)
  exact .bind_of_ok hc (annotateValues_writes trees enough).bind_pure

/-- The blocks of the records show all that the records mention. -/
theorem recordBlocks_writes (ready : table.Ready) {contracts : Contracts}
    (derives : (Contract.derive table).Gives contracts) (late : Bool) :
    Writes table.IsTellable (table.models.filterMapM fun
      | .record r => do
        return some (← recordBlock (Names.ofTable table) late r
          (← recordContract contracts r.name))
      | .union _ => pure none) (∀ m ∈ table.models, m.isRecord = true → m.IsTellable) := by
  refine .filterMapM fun m mem => ?_
  cases m with
  | union u => exact Hinges.pure.mono fun _ => by rintro ⟨⟩
  | record r =>
    obtain ⟨c, found, made⟩ := Contract.exists_get?_of_derive ready.distinct derives mem
    obtain ⟨rc, rfl, tagged, described⟩ := Contract.ofModel_record made
    refine .bind_of_ok (recordContract_eq found) ?_
    exact (recordBlock_writes ready mem tagged described).bind_pure.mono fun told _ => told

/-- The blocks of the unions show all that the unions mention. -/
theorem unionBlocks_writes (ready : table.Ready) {contracts : Contracts}
    (derives : (Contract.derive table).Gives contracts) (late : Bool) :
    Writes table.IsTellable (table.models.filterMapM fun
      | .record _ => pure none
      | .union u => do
        return some (← unionBlock (Names.ofTable table) late u
          (← unionContract contracts u.name)))
      (∀ m ∈ table.models, m.isRecord = false → m.IsTellable) := by
  refine .filterMapM fun m mem => ?_
  cases m with
  | record r => exact Hinges.pure.mono fun _ => by rintro ⟨⟩
  | union u =>
    obtain ⟨c, found, made⟩ := Contract.exists_get?_of_derive ready.distinct derives mem
    obtain ⟨uc, rfl, implements⟩ := Contract.ofModel_union made
    refine .bind_of_ok (unionContract_eq found) ?_
    exact (unionBlock_writes ready mem implements).bind_pure.mono fun told _ => told

/-- The module of a ready table is written exactly if all that the table mentions can be shown, and
nothing else is in its way. -/
theorem moduleText_writes (ready : table.Ready) {contracts : Contracts}
    (derives : (Contract.derive table).Gives contracts) (late : Bool) (comment : String) :
    Writes table.IsTellable (moduleText late comment table contracts) table.IsTellable := by
  have records := recordBlocks_writes ready derives late
  have unions := unionBlocks_writes ready derives late
  have aliases : Writes table.IsTellable (table.enums.mapM (enumAlias (Names.ofTable table)))
      (∀ e ∈ table.enums, ∀ v ∈ e.values, v.isTellable = true) :=
    .mapM fun e mem => enumAlias_writes ready mem
  refine (aliases.bind fun _ _ => records.bind fun _ _ => unions.bind_pure).mono ?_
  rintro ⟨enums, ofRecords, ofUnions⟩
  refine Table.isTellable_iff.mpr ⟨enums, fun m mem => ?_⟩
  cases kind : m.isRecord with
  | true => exact ofRecords m mem kind
  | false => exact ofUnions m mem kind

end Emit
end WireModel
