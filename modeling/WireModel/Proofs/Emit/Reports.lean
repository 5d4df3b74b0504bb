import WireModel.Emit.Report
import WireModel.Proofs.Emit.Modules

/-!
# Every table has a report

A report is a tree of texts, flags and the values that its table mentions, so its JSON text hinges
on these values alone (`reportText_writes`). What a document shows is put together in the same way
as the document (`Value.Shows`).
-/

namespace WireModel

/-! ## JSON text of trees -/

namespace Json

variable {layout : Layout}

theorem writeItems_eq_mapM (level : Nat) (items : List Value) :
    writeItems layout level items = items.mapM (write layout level) := by
  induction items with
  | nil => rfl
  | cons v rest ih => rw [writeItems, List.mapM_cons, ih]

/-- The text of an entry of a mapping. -/
def writeEntry (layout : Layout) (level : Nat) (entry : Value × Value) : Except Refusal String := do
  let key ← keyText entry.1
  let text ← write layout level entry.2
  return quote key ++ ": " ++ text

theorem writeEntries_eq_mapM (level : Nat) (entries : List (Value × Value)) :
    writeEntries layout level entries = entries.mapM (writeEntry layout level) := by
  induction entries with
  | nil => rfl
  | cons entry rest ih =>
    rw [writeEntries, List.mapM_cons, ih, writeEntry]
    simp only [bind_assoc, pure_bind]

theorem write_hinges {v : Value} (tree : v.Tree) : ∀ {level : Nat},
    Hinges Refusal.overlong (v.isTellable = true) (write layout level v) (v.isTellable = true) := by
  induction tree with
  | null | bool | float | str => exact (Hinges.of_ok rfl).mono fun _ => rfl
  -- integers alone can be too long to be shown; lists and mappings pass that on
  | @int n =>
    intro level
    rw [write, integerText, Value.isTellable]
    split
    · rename_i short
      exact (Hinges.of_ok rfl).mono fun _ => short
    · rename_i long
      exact .of_error long
  | @list items _ ih =>
    intro level
    rw [write, writeItems_eq_mapM, Value.isTellable_list]
    refine Hinges.bind_pure (.mapM fun v mem => ?_)
    exact (ih v mem).imp (fun all => all v mem) id
  | @map entries keys _ ih =>
    intro level
    rw [write, writeEntries_eq_mapM, Value.isTellable_map]
    refine Hinges.bind_pure (.mapM fun entry mem => ?_)
    obtain ⟨key, text⟩ := keys entry mem
    have written : keyText entry.1 = .ok key := by rw [text, keyText]
    refine (Hinges.bind_of_ok written (ih entry mem).bind_pure).imp ?_ fun told => ?_
    · exact fun all => (all entry mem).2
    · exact ⟨by rw [text]; rfl, told⟩

end Json

/-! ## Documents -/

namespace Value

theorem tree_ofFields {fields : List (String × Value)} :
    (ofFields fields).Tree ↔ ∀ field ∈ fields, field.2.Tree := by
  constructor
  · rintro (_ | _ | _ | _ | _ | _ | ⟨-, trees⟩) field mem
    exact trees _ (List.mem_map.mpr ⟨field, mem, rfl⟩)
  · refine fun h => .map (fun entry mem => ?_) fun entry mem => ?_
    · obtain ⟨field, -, rfl⟩ := List.mem_map.mp mem
      exact ⟨field.1, rfl⟩
    · obtain ⟨field, there, rfl⟩ := List.mem_map.mp mem
      exact h field there

theorem isTellable_ofFields {fields : List (String × Value)} :
    (ofFields fields).isTellable = true ↔ ∀ field ∈ fields, field.2.isTellable = true := by
  rw [ofFields, isTellable_map, List.forall_mem_map]
  exact forall₂_congr fun field _ => and_iff_right rfl

/-- A tree that can be shown if `whole` holds, and only if `shown` holds. -/
structure Shows (whole : Prop) (v : Value) (shown : Prop) : Prop where
  tree : v.Tree
  ok : whole → v.isTellable = true
  shown : v.isTellable = true → shown

namespace Shows

variable {α : Type} {whole P Q : Prop} {v : Value} {key : String}
  {fields others : List (String × Value)}

theorem mono (h : Shows whole v P) (needed : P → Q) : Shows whole v Q :=
  ⟨h.tree, h.ok, fun told => needed (h.shown told)⟩

theorem text {s : String} : Shows whole (.str s) True := ⟨.str, fun _ => rfl, fun _ => trivial⟩

theorem bool {b : Bool} : Shows whole (.bool b) True := ⟨.bool, fun _ => rfl, fun _ => trivial⟩

theorem values {values : List Value} (trees : ∀ v ∈ values, v.Tree)
    (enough : whole → ∀ v ∈ values, v.isTellable = true) :
    Shows whole (.list values) (∀ v ∈ values, v.isTellable = true) :=
  ⟨.list trees, fun all => isTellable_list.mpr (enough all), isTellable_list.mp⟩

theorem list_map {f : α → Value} {P : α → Prop} {l : List α}
    (h : ∀ a ∈ l, Shows whole (f a) (P a)) : Shows whole (.list (l.map f)) (∀ a ∈ l, P a) := by
  have all : Shows whole (.list (l.map f)) (∀ v ∈ l.map f, v.isTellable = true) :=
    values (List.forall_mem_map.mpr fun a mem => (h a mem).tree)
    fun all => List.forall_mem_map.mpr fun a mem => (h a mem).ok all
  exact all.mono fun told a mem => (h a mem).shown (told _ (List.mem_map_of_mem mem))

theorem list_nil : Shows whole (.list []) True :=
  (values (List.forall_mem_nil _) fun _ => List.forall_mem_nil _).mono fun _ => trivial

theorem list_cons {items : List Value} (first : Shows whole v P)
    (rest : Shows whole (.list items) Q) : Shows whole (.list (v :: items)) (P ∧ Q) := by
  have trees : ∀ w ∈ items, w.Tree := by
    cases rest.tree with
    | list trees => exact trees
  refine ⟨.list (List.forall_mem_cons.mpr ⟨first.tree, trees⟩), fun all => ?_, fun told => ?_⟩
  · exact isTellable_list.mpr (List.forall_mem_cons.mpr
      ⟨first.ok all, isTellable_list.mp (rest.ok all)⟩)
  · have both := List.forall_mem_cons.mp (isTellable_list.mp told)
    exact ⟨first.shown both.1, rest.shown (isTellable_list.mpr both.2)⟩

theorem texts {texts : List String} : Shows whole (.ofTexts texts) True :=
  (list_map (P := fun _ => True) fun _ _ => text).mono fun _ => trivial

/-! A mapping is put together from its fields. -/

theorem fields_map {f : α → String × Value} {P : α → Prop} {l : List α}
    (h : ∀ a ∈ l, Shows whole (f a).2 (P a)) :
    Shows whole (.ofFields (l.map f)) (∀ a ∈ l, P a) where
  tree := tree_ofFields.mpr (List.forall_mem_map.mpr fun a mem => (h a mem).tree)
  ok all := isTellable_ofFields.mpr (List.forall_mem_map.mpr fun a mem => (h a mem).ok all)
  shown told a mem := (h a mem).shown (isTellable_ofFields.mp told _ (List.mem_map_of_mem mem))

theorem fields_nil : Shows whole (.ofFields []) True := ⟨tree_ofFields.mpr nofun,
  fun _ => isTellable_ofFields.mpr nofun, fun _ => trivial⟩

theorem fields_append (first : Shows whole (.ofFields fields) P)
    (second : Shows whole (.ofFields others) Q) :
    Shows whole (.ofFields (fields ++ others)) (P ∧ Q) where
  tree := tree_ofFields.mpr (List.forall_mem_append.mpr
    ⟨tree_ofFields.mp first.tree, tree_ofFields.mp second.tree⟩)
  ok all := isTellable_ofFields.mpr (List.forall_mem_append.mpr
    ⟨isTellable_ofFields.mp (first.ok all), isTellable_ofFields.mp (second.ok all)⟩)
  shown told := by
    have both := List.forall_mem_append.mp (isTellable_ofFields.mp told)
    exact ⟨first.shown (isTellable_ofFields.mpr both.1),
      second.shown (isTellable_ofFields.mpr both.2)⟩

theorem field (h : Shows whole v P) : Shows whole (.ofFields [(key, v)]) P :=
  (fields_map (f := fun v => (key, v)) (P := fun _ => P) (l := [v]) fun w mem => by
    rwa [List.mem_singleton.mp mem]).mono fun told => told v List.mem_cons_self

theorem cons (first : Shows whole v P) (rest : Shows whole (.ofFields fields) Q) :
    Shows whole (.ofFields ((key, v) :: fields)) (P ∧ Q) := first.field.fields_append rest

/-- A text shows nothing. -/
theorem cons_text {s : String} (rest : Shows whole (.ofFields fields) P) :
    Shows whole (.ofFields ((key, .str s) :: fields)) P := (text.cons rest).mono And.right

end Shows
end Value

/-! ## Types -/

namespace Types

open Value (Shows)
open Schema (Discriminator)

variable {whole P : Prop}

theorem textMapping_shows {entries : List (String × String)} :
    Shows whole (textMapping entries) True := by
  -- texts are put in one after another, each under a new key or in place of another text
  suffices texts : ∀ found : List (String × Value), (∀ field ∈ found, ∃ s, field.2 = .str s) →
      ∀ field ∈ entries.foldl textMapping.put found, ∃ s, field.2 = .str s by
    have all : Shows whole (.ofFields ((entries.foldl textMapping.put []).map id))
        (∀ field ∈ entries.foldl textMapping.put [], True) := by
      refine Shows.fields_map fun field mem => ?_
      obtain ⟨s, same⟩ := texts [] nofun field mem
      rw [id, same]
      exact .text
    rw [List.map_id] at all
    exact all.mono fun _ => trivial
  induction entries with
  | nil => exact fun _ => id
  | cons entry rest ih =>
    intro found texts
    refine ih _ fun field mem => ?_
    unfold textMapping.put at mem
    split at mem
    · obtain ⟨old, there, rfl⟩ := List.mem_map.mp mem
      dsimp only
      split
      · exact ⟨_, rfl⟩
      · exact texts old there
    · rcases List.mem_append.mp mem with there | here
      · exact texts field there
      · rw [List.mem_singleton.mp here]
        exact ⟨_, rfl⟩

theorem exportDiscriminator_shows {d : Discriminator} : Shows whole (exportDiscriminator d) True :=
  textMapping_shows.field.cons_text

theorem optionalText_shows {key : String} {text : Option String} :
    Shows whole (.ofFields (optionalText key text)) True := by
  unfold optionalText
  split
  · split
    · exact .fields_nil
    · exact Shows.text.field
  · exact .fields_nil

/-- The values that a type mentions are trees that can be shown if `whole` holds. -/
def WireType.Told (whole : Prop) (t : WireType) : Prop :=
  ∀ v, t.Mentions v → v.Tree ∧ (whole → v.isTellable = true)

theorem WireType.Told.inside {t u : WireType} (told : t.Told whole) (mem : u ∈ t.inside) :
    u.Told whole := by
  rintro v ⟨name, values, kind, part, own⟩
  exact told v ⟨name, values, kind, part_of_inside mem part, own⟩

/-- A discriminator as a member of a document, if there is one. -/
theorem discriminator_shows {discriminator : Option Discriminator} :
    Shows whole (.ofFields (match discriminator with
      | some d => [("discriminator", exportDiscriminator d)]
      | none => [])) True := by
  cases discriminator with
  | none => exact .fields_nil
  | some d => exact exportDiscriminator_shows.field

/-- The document of a type shows all that the type mentions. -/
theorem toDocument_shows {t : WireType} (told : t.Told whole) :
    Shows whole t.toDocument t.IsTellable := by
  induction t using WireType.induct with
  | primitive kind format =>
    refine (Shows.text.field.cons_text.fields_append optionalText_shows).mono fun _ => ?_
    exact WireType.isTellable_primitive
  | model name => exact Shows.text.field.cons_text.mono fun _ => WireType.isTellable_model
  | optional inner ih =>
    have inner := ih (told.inside List.mem_cons_self)
    exact inner.field.cons_text.mono WireType.isTellable_optional.mpr
  | nullable inner ih =>
    have inner := ih (told.inside List.mem_cons_self)
    exact inner.field.cons_text.mono WireType.isTellable_nullable.mpr
  | sequence element ih =>
    have element := ih (told.inside List.mem_cons_self)
    exact element.field.cons_text.mono WireType.isTellable_sequence.mpr
  | mapping value ih =>
    have key : Shows whole (.ofFields [("kind", .str "primitive"), ("type", .str "string")]) True :=
      Shows.text.field.cons_text
    have value := ih (told.inside List.mem_cons_self)
    exact (key.cons value.field).cons_text.mono fun both => WireType.isTellable_mapping.mpr both.2
  -- the values of an enumeration are the only ones in the document of a type
  | enum name values kind =>
    have mentioned : ∀ v ∈ values, v.Tree ∧ (whole → v.isTellable = true) := fun v mem =>
      told v ⟨name, values, kind, .refl, mem⟩
    have named : Shows whole (.ofOption .str name) True := by
      cases name with
      | none => exact ⟨.null, fun _ => rfl, fun _ => trivial⟩
      | some n => exact .text
    have listed := Shows.values (fun v mem => (mentioned v mem).1) fun all v mem =>
      (mentioned v mem).2 all
    refine (named.cons listed.field.cons_text).cons_text.mono fun both => ?_
    exact WireType.isTellable_enum.mpr both.2
  | union name mode discriminator variants ih =>
    have listed : Shows whole (.list (toDocuments variants)) (∀ t ∈ variants, t.IsTellable) := by
      rw [toDocuments_eq_map]
      exact .list_map fun t mem => ih t mem (told.inside mem)
    refine ((listed.field.cons_text.cons_text.fields_append optionalText_shows).fields_append
      discriminator_shows).mono fun all => ?_
    exact WireType.isTellable_union.mpr all.1.1

end Types

open Types (WireType)
open Value (Shows)

variable {table : Table}

theorem Table.Ready.told (ready : table.Ready) {t : WireType} (occurs : table.Occurs t) :
    t.Told table.IsTellable := by
  rintro v ⟨name, values, kind, part, mem⟩
  have mentions : table.Mentions v := .type (occurs.part part) mem
  exact ⟨ready.tree mentions, fun tellable => tellable v mentions⟩

/-! ## Contracts -/

theorem values_shows (ready : table.Ready) {name : Option String} {values : List Value}
    {kind : Schema.Kind} (occurs : table.Occurs (.enum name values kind)) :
    Shows table.IsTellable (.list values) True :=
  (Shows.values (Emit.trees_of_occurs ready occurs) fun tellable v mem =>
    tellable v (.type occurs mem)).mono fun _ => trivial

mutual

theorem predicate_shows (ready : table.Ready) : ∀ {seen : List String} {t : WireType}
    {p : Predicate}, Contract.Selects table seen t p → table.Occurs t →
      Shows table.IsTellable p.toDocument True
  | _, _, _, .optional h, occurs => predicate_shows ready h occurs.optional
  | _, _, _, .nullable h, occurs => predicate_shows ready h occurs.nullable
  | _, _, _, .primitive, _ => Shows.text.field.cons_text
  | _, _, _, .enum, occurs => (values_shows ready occurs).field.cons_text
  | _, _, _, .sequence, _ | _, _, _, .mapping, _ => Shows.text.field
  | _, _, _, .record _, _ => Shows.texts.field.cons_text.cons_text
  | _, _, _, .again _ _, _ => Shows.list_nil.field.cons_text
  | _, _, _, .named found _ all, _ => by
    have occurs := Table.Occurs.of_get? found
    exact (predicates_show ready all fun _ mem => occurs.variant mem).field.cons_text
  | _, _, _, .union all, occurs =>
    (predicates_show ready all fun _ mem => occurs.variant mem).field.cons_text

theorem predicates_show (ready : table.Ready) : ∀ {seen : List String} {ts : List WireType}
    {ps : List Predicate}, Contract.SelectsAll table seen ts ps → (∀ t ∈ ts, table.Occurs t) →
      Shows table.IsTellable (.list (Predicate.toDocuments ps)) True
  | _, _, _, .nil, _ => .list_nil
  | _, _, _, .cons h all, occurs => by
    have first := predicate_shows ready h (occurs _ List.mem_cons_self)
    have rest := predicates_show ready all fun t mem => occurs t (List.mem_cons_of_mem _ mem)
    exact (first.list_cons rest).mono And.left

end

theorem enumName_shows {whole : Prop} {name : Option String} :
    Shows whole (.ofFields (match name with
      | some n => if n.isEmpty then [] else [("name", .str n)]
      | none => [])) True := by
  split
  · split
    · exact .fields_nil
    · exact Shows.text.field
  · exact .fields_nil

theorem dispatch_shows {whole : Prop} {property : String} {cases : List (String × String)} :
    Shows whole (Plan.dispatch property cases).toDocument True := by
  have listed : Shows whole (.list (cases.map fun entry =>
      .ofFields [("value", .str entry.1), ("model", .str entry.2)])) (∀ _ ∈ cases, True) :=
    .list_map fun _ _ => Shows.text.field.cons_text
  exact (listed.mono fun _ => trivial).field.cons_text.cons_text

mutual

theorem plan_shows (ready : table.Ready) : ∀ {t : WireType} {p : Plan},
    Plan.Implements table t p → table.Occurs t → Shows table.IsTellable p.toDocument True
  | .primitive .., _, h, _ => by
    cases h
    exact Shows.text.field.cons_text
  | .enum name values kind, _, h, occurs => by
    cases h
    exact ((values_shows ready occurs).field.cons_text.fields_append enumName_shows).mono And.left
  | .nullable inner, _, h, occurs => by
    obtain ⟨q, rfl, h⟩ := h
    exact (plan_shows ready h occurs.nullable).field.cons_text
  | .optional inner, _, h, occurs => plan_shows ready (t := inner) h occurs.optional
  | .sequence element, _, h, occurs => by
    obtain ⟨q, rfl, h⟩ := h
    exact (plan_shows ready h occurs.sequence).field.cons_text
  | .mapping value, _, h, occurs => by
    obtain ⟨q, rfl, h⟩ := h
    exact (plan_shows ready h occurs.mapping).field.cons_text
  | .model name, _, h, _ => by
    cases h
    exact Shows.text.field.cons_text
  | .union _ _ (some d) _, _, h, _ => by
    cases h
    exact dispatch_shows
  | .union _ _ none variants, _, h, occurs => by
    obtain ⟨options, description, rfl, h⟩ := h
    exact (options_show ready h fun _ mem => occurs.variant mem).field.cons_text

theorem options_show (ready : table.Ready) : ∀ {ts : List WireType}
    {options : List (Predicate × Plan)}, Plan.ImplementsAll table ts options →
      (∀ t ∈ ts, table.Occurs t) →
        Shows table.IsTellable (.list (Plan.optionDocuments options)) True
  | [], _, h, _ => by
    cases h
    exact .list_nil
  | t :: rest, _, h, occurs => by
    obtain ⟨p, plan, others, rfl, hp, hplan, hothers⟩ := h
    have here := occurs t List.mem_cons_self
    obtain ⟨p', hp', selects⟩ := Contract.predicateFor_selects ready.closed here
    obtain rfl : p = p' := Except.ok.inj (hp.symm.trans hp')
    have chosen := predicate_shows ready selects here
    have plan := plan_shows ready hplan here
    have rest := options_show ready hothers fun t mem => occurs t (List.mem_cons_of_mem _ mem)
    exact ((chosen.cons plan.field).list_cons rest).mono fun _ => trivial

end

theorem contract_shows (ready : table.Ready) {m : Model} (mem : m ∈ table.models) {c : Contract}
    (made : (Contract.ofModel table m).Gives c) : Shows table.IsTellable c.toDocument True := by
  cases m with
  | record r =>
    obtain ⟨rc, rfl, -, described⟩ := Contract.ofModel_record made
    have fields : Shows table.IsTellable (.list (rc.fields.map FieldContract.toDocument))
        (∀ _ ∈ rc.fields, True) := by
      refine .list_map fun fc there => ?_
      obtain ⟨f, own, describes⟩ := exists_left_of_forall₂ described there
      have plan := plan_shows ready describes.1.plan (.field mem own)
      exact ((plan.cons Shows.text.field.cons_text).cons_text.cons_text).mono fun _ => trivial
    have tagged : Shows table.IsTellable (.ofFields (match rc.discriminator with
        | some d => [("discriminator", (Plan.dispatch d.property d.mapping).toDocument)]
        | none => [])) True := by
      split
      · exact dispatch_shows.field
      · exact .fields_nil
    exact (((Shows.texts.cons fields.field).cons_text.cons_text).fields_append tagged).mono
      fun _ => trivial
  | union u =>
    obtain ⟨uc, rfl, implements⟩ := Contract.ofModel_union made
    exact (plan_shows ready implements (.union mem)).field.cons_text.cons_text

/-! ## Models -/

theorem discriminatorMember_shows {whole : Prop} {discriminator : Option Schema.Discriminator} :
    Shows whole (.ofFields (discriminatorMember discriminator)) True := by
  cases discriminator with
  | none => exact .fields_nil
  | some d => exact Types.exportDiscriminator_shows.field

theorem default_shows {whole : Prop} {default : Option Value} :
    (∀ v, default = some v → v.Tree) →
      (whole → ∀ v, default = some v → v.isTellable = true) →
        Shows whole (.ofFields (match default with
          | some v => [("default", v)]
          | none => [])) (∀ v, default = some v → v.isTellable = true) := by
  intro trees enough
  cases default with
  | none => exact Value.Shows.fields_nil.mono fun _ => by rintro _ ⟨⟩
  | some v =>
    have shows : Shows whole v (v.isTellable = true) :=
      ⟨trees v rfl, fun all => enough all v rfl, id⟩
    refine shows.field.mono fun told w same => ?_
    cases same
    exact told

/-- The document of a model shows all that the model mentions. -/
theorem model_shows (ready : table.Ready) {m : Model} (mem : m ∈ table.models) :
    Shows table.IsTellable m.toDocument m.IsTellable := by
  cases m with
  | record r =>
    have fields : Shows table.IsTellable (.list (r.fields.map Field.toDocument))
        (∀ f ∈ r.fields, f.type.IsTellable ∧ ∀ v, f.default = some v → v.isTellable = true) := by
      refine .list_map fun f own => ?_
      have type := Types.toDocument_shows (ready.told (.field mem own))
      -- a default is what the table mentions, so it can be shown if all that is can
      have mentions {v : Value} (given : f.default = some v) : table.Mentions v :=
        .default mem own given
      have default := default_shows (fun v given => ready.tree (mentions given))
        fun (tellable : table.IsTellable) v given => tellable v (mentions given)
      refine (((type.cons (Shows.bool.cons Shows.bool.field)).cons_text.cons_text).fields_append
        default).mono fun all => ⟨all.1.1, all.2⟩
    have parents : Shows table.IsTellable (.ofFields
        (if r.parents.isEmpty then [] else [("parents", .ofTexts r.parents)])) True := by
      split
      · exact .fields_nil
      · exact Shows.texts.field
    have named : Shows table.IsTellable (.ofFields [("name", .str r.name), ("kind", .str "object")])
        True := Shows.text.field.cons_text
    have described : Shows table.IsTellable
        (.ofFields (Types.optionalText "description" r.description)) True :=
      Types.optionalText_shows
    have top := named.fields_append described
    refine (((top.fields_append fields.field).fields_append parents).fields_append
      discriminatorMember_shows).mono fun all => ?_
    exact all.1.1.2
  | union u =>
    have occurs : table.Occurs u.type := .union mem
    have variants : Shows table.IsTellable (.list (Types.toDocuments u.variants))
        (∀ t ∈ u.variants, t.IsTellable) := by
      rw [Types.toDocuments_eq_map]
      exact .list_map fun t there => Types.toDocument_shows (ready.told (occurs.variant there))
    exact ((variants.field.cons_text.cons_text.cons_text).fields_append
      discriminatorMember_shows).mono fun all => WireType.isTellable_union.mpr all.1

/-! ## Reports -/

namespace Emit

theorem report_shows (ready : table.Ready) {contracts : Contracts}
    (derives : (Contract.derive table).Gives contracts) (comment : String) :
    Shows table.IsTellable (report comment table contracts) table.IsTellable := by
  have enums : Shows table.IsTellable
      (.ofFields (table.enums.map fun e => (e.name, e.type.toDocument)))
      (∀ e ∈ table.enums, ∀ v ∈ e.values, v.isTellable = true) := by
    refine .fields_map fun e mem => ?_
    refine (Types.toDocument_shows ?_).mono WireType.isTellable_enum.mp
    rintro v ⟨_, _, _, part, own⟩
    cases part
    have mentions : table.Mentions v := .enum mem own
    exact ⟨ready.tree mentions, fun tellable => tellable v mentions⟩
  have models : Shows table.IsTellable (.list (table.models.map Model.toDocument))
      (∀ m ∈ table.models, m.IsTellable) := .list_map fun m mem => model_shows ready mem
  have contracts' : Shows table.IsTellable contracts.toDocument (∀ _ ∈ contracts, True) := by
    refine .fields_map fun c there => ?_
    obtain ⟨m, mem, made⟩ := exists_left_of_forall₂ derives.mapM there
    exact contract_shows ready mem made
  refine (Shows.texts.cons (enums.cons (models.cons contracts'.field))).mono fun all => ?_
  exact Table.isTellable_iff.mpr ⟨all.2.1, all.2.2.1⟩

/-- The report of a ready table is written exactly if all that the table mentions can be shown, and
nothing else is in its way. -/
theorem reportText_writes (ready : table.Ready) {contracts : Contracts}
    (derives : (Contract.derive table).Gives contracts) (comment : String) :
    Hinges (Fault.notJson .overlong) table.IsTellable (reportText comment table contracts)
      table.IsTellable := by
  have shows := report_shows ready derives comment
  have written : Hinges Json.Refusal.overlong table.IsTellable
      (Json.writeIndented (report comment table contracts)) table.IsTellable :=
    (Json.write_hinges shows.tree).imp shows.ok shows.shown
  unfold reportText
  cases made : Json.writeIndented (report comment table contracts) with
  | ok text => exact (Hinges.of_ok rfl).mono fun _ => written.shown text made
  | error refusal =>
    obtain rfl := written.fault refusal made
    refine .of_error fun all => ?_
    obtain ⟨text, found⟩ := written.ok all
    cases made.symm.trans found

end Emit
end WireModel
