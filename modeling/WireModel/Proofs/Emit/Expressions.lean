import WireModel.Emit.Module
import WireModel.Proofs.Emit.Hinges
import WireModel.Proofs.Table.Mentions

/-!
# Every plan has an expression

The names of a table cover all its models and enumerations, so the annotation of each type, and the
expression of each predicate and of each plan, finds the names that it uses. What remains that may
fail is an integer that is too long, in the values of an enumeration.
-/

namespace WireModel

open Types (WireType)

theorem Table.Ready.tree {table : Table} (ready : table.Ready) {v : Value}
    (mentions : table.Mentions v) : v.Tree := Value.tree_of_isJson (ready.json v mentions)

namespace Emit

/-! ## Names -/

theorem exists_lookup {α : Type} {key : String} {entries : List (String × α)}
    (mem : key ∈ entries.map Prod.fst) : ∃ a, entries.lookup key = some a := by
  obtain ⟨entry, there, rfl⟩ := List.mem_map.mp mem
  refine Option.ne_none_iff_exists'.mp fun none => ?_
  simpa using List.lookup_eq_none_iff.mp none entry there

namespace Names

theorem classes_foldl_addClass : ∀ (added : List String) (names : Names),
    (added.foldl addClass names).classes.map Prod.fst = names.classes.map Prod.fst ++ added
  | [], names => (List.append_nil _).symm
  | name :: rest, names => by
    rw [List.foldl_cons, classes_foldl_addClass rest]
    simp [addClass]

theorem classes_foldl_addFunctions : ∀ (added : List String) (names : Names),
    (added.foldl addFunctions names).classes = names.classes
  | [], _ => rfl
  | name :: rest, names => by
    rw [List.foldl_cons, classes_foldl_addFunctions rest]
    rfl

theorem bases_foldl_addFunctions : ∀ (added : List String) (names : Names),
    (added.foldl addFunctions names).bases.map Prod.fst = names.bases.map Prod.fst ++ added
  | [], names => (List.append_nil _).symm
  | name :: rest, names => by
    rw [List.foldl_cons, bases_foldl_addFunctions rest]
    simp [addFunctions]

variable {table : Table} {name : String}

theorem classOf_ofTable (mem : name ∈ table.enums.map NamedEnum.name ∨ name ∈ table.names) :
    ∃ c, (ofTable table).classOf name = .ok c := by
  obtain ⟨c, found⟩ : ∃ c, (ofTable table).classes.lookup name = some c := by
    refine exists_lookup ?_
    rw [ofTable, classes_foldl_addFunctions, classes_foldl_addClass]
    simpa using mem
  exact ⟨c, by rw [classOf, found]⟩

theorem baseOf_ofTable (mem : name ∈ table.names) :
    ∃ base, (ofTable table).baseOf name = .ok base := by
  obtain ⟨base, found⟩ : ∃ base, (ofTable table).bases.lookup name = some base := by
    refine exists_lookup ?_
    rw [ofTable, bases_foldl_addFunctions]
    exact List.mem_append_right _ mem
  exact ⟨base, by rw [baseOf, found]⟩

end Names

theorem modelFunction_ofTable {table : Table} {name : String} (mem : name ∈ table.names)
    (direction : Direction) :
    ∃ function, modelFunction (Names.ofTable table) direction name = .ok function := by
  obtain ⟨base, found⟩ := Names.baseOf_ofTable mem
  exact ⟨_, bind_eq_ok.mpr ⟨base, found, rfl⟩⟩

/-! ## Rendering -/

section Rendering

variable {whole P Q : Prop} {e e' : Expr} {es : List Expr}

theorem renderAll_writes_nil : Writes whole (Expr.renderAll []) True := .of_ok rfl

theorem renderAll_writes_cons (first : Writes whole e.render P)
    (rest : Writes whole (Expr.renderAll es) Q) :
    Writes whole (Expr.renderAll (e :: es)) (P ∧ Q) :=
  first.bind fun _ _ => rest.bind_pure

theorem renderAll_writes_singleton (h : Writes whole e.render P) :
    Writes whole (Expr.renderAll [e]) P :=
  (renderAll_writes_cons h renderAll_writes_nil).mono And.left

theorem call_writes {name : String} (h : Writes whole (Expr.renderAll es) P) :
    Writes whole (Expr.call name es).render P :=
  .bind_of_ok rfl h.bind_pure

theorem list_writes (h : Writes whole (Expr.renderAll es) P) :
    Writes whole (Expr.list es).render P := h.bind_pure

theorem pair_writes (first : Writes whole e.render P) (second : Writes whole e'.render Q) :
    Writes whole (Expr.pair e e').render (P ∧ Q) :=
  first.bind fun _ _ => second.bind_pure

theorem own_writes {name : String} : Writes whole (Expr.own name).render True := .of_ok rfl

theorem support_writes {name : String} : Writes whole (Expr.support name).render True := .of_ok rfl

theorem text_writes {s : String} : Writes whole (Expr.literal (.str s)).render True := .of_ok rfl

theorem tupleLiteral_writes {values : List Value} (trees : ∀ v ∈ values, v.Tree)
    (enough : whole → ∀ v ∈ values, v.isTellable = true) :
    Writes whole (Expr.tupleLiteral values).render (∀ v ∈ values, v.isTellable = true) :=
  (literals_writes trees enough).map

/-- A mapping whose keys are texts and whose values are names is always written. -/
theorem dict_writes {entries : List (Value × Expr)}
    (plain : ∀ entry ∈ entries, ∃ tag name, entry = (.str tag, .own name)) :
    Writes whole (Expr.dict entries).render True := by
  suffices all : Writes whole (Expr.renderEntries entries) True from all.bind_pure
  induction entries with
  | nil => exact .of_ok rfl
  | cons entry rest ih =>
    obtain ⟨tag, name, rfl⟩ := plain entry List.mem_cons_self
    have rest := ih fun entry mem => plain entry (List.mem_cons_of_mem _ mem)
    exact .bind_of_ok (literal_str tag) (.bind_of_ok rfl rest.bind_pure)

end Rendering

/-- There is an expression, and its text hinges on what it shows. -/
def Expresses (whole : Prop) (x : Except Fault Expr) (shown : Prop) : Prop :=
  ∃ e, x = .ok e ∧ Writes whole e.render shown

/-- There are expressions, and their texts hinge on what they show. -/
def ExpressAll (whole : Prop) (x : Except Fault (List Expr)) (shown : Prop) : Prop :=
  ∃ es, x = .ok es ∧ Writes whole (Expr.renderAll es) shown

/-! ## Annotations -/

section Annotations

variable {table : Table}

theorem trees_of_occurs (ready : table.Ready) {name : Option String} {values : List Value}
    {kind : Schema.Kind} (occurs : table.Occurs (.enum name values kind)) : ∀ v ∈ values, v.Tree :=
  fun _ mem => ready.tree (.type occurs mem)

mutual

/-- Every type of a table has an annotation, if all that the table mentions can be shown. -/
theorem annotate_writes (ready : table.Ready) : ∀ {t : WireType}, table.Occurs t →
    Writes table.IsTellable (annotate (Names.ofTable table) t) True
  | .primitive .., _ => .of_ok rfl
  | .enum name values kind, occurs => by
    rw [annotate]
    split
    · exact .of_ok rfl
    · have enough : table.IsTellable → ∀ v ∈ values, v.isTellable = true :=
        fun tellable v mem => tellable v (.type occurs mem)
      exact (literals_writes (trees_of_occurs ready occurs) enough).bind_pure.mono fun _ => trivial
  | .sequence _, occurs => (annotate_writes ready occurs.sequence).bind_pure
  | .mapping _, occurs => (annotate_writes ready occurs.mapping).bind_pure
  | .model name, occurs => by
    have known := ready.closed occurs name List.mem_cons_self
    obtain ⟨c, found⟩ := Names.classOf_ofTable (.inr known)
    exact .of_ok found
  | .union _ _ _ _, occurs => (annotateAll_writes ready fun _ mem => occurs.variant mem).bind_pure
  | .nullable _, occurs => (annotate_writes ready occurs.nullable).bind_pure
  | .optional inner, occurs => annotate_writes ready (t := inner) occurs.optional

theorem annotateAll_writes (ready : table.Ready) : ∀ {ts : List WireType},
    (∀ t ∈ ts, table.Occurs t) → Writes table.IsTellable (annotateAll (Names.ofTable table) ts) True
  | [], _ => .of_ok rfl
  | t :: rest, occurs => by
    have first := annotate_writes ready (occurs t List.mem_cons_self)
    have rest := annotateAll_writes ready fun t mem => occurs t (List.mem_cons_of_mem _ mem)
    exact first.bind_left fun _ _ => rest.bind_pure

end

end Annotations

/-! ## Predicates -/

section Predicates

variable {table : Table} {direction : Direction}

mutual

theorem predicateExpr_expresses (ready : table.Ready) : ∀ {seen : List String} {t : WireType}
    {p : Predicate}, Contract.Selects table seen t p → table.Occurs t →
      Expresses table.IsTellable (predicateExpr (Names.ofTable table) direction p) True
  | _, _, _, .optional h, occurs => predicateExpr_expresses ready h occurs.optional
  | _, _, _, .nullable h, occurs => predicateExpr_expresses ready h occurs.nullable
  | _, _, _, .primitive, _ => ⟨_, rfl, call_writes (renderAll_writes_singleton text_writes)⟩
  | _, _, _, .enum, occurs => by
    refine ⟨_, rfl, call_writes (renderAll_writes_singleton ?_)⟩
    refine (tupleLiteral_writes (trees_of_occurs ready occurs) ?_).mono fun _ => trivial
    exact fun tellable v mem => tellable v (.type occurs mem)
  | _, _, _, .sequence, _ => ⟨_, rfl, support_writes⟩
  | _, _, _, .mapping, _ => ⟨_, rfl, support_writes⟩
  | _, _, _, @Contract.Selects.record _ _ _ r found, _ => by
    have known : r.name ∈ table.names := List.mem_map.mpr ⟨_, Table.mem_of_get? found, rfl⟩
    cases direction with
    | decode =>
      obtain ⟨base, hbase⟩ := Names.baseOf_ofTable known
      exact ⟨_, bind_eq_ok.mpr ⟨base, hbase, rfl⟩, own_writes⟩
    | encode =>
      obtain ⟨c, hc⟩ := Names.classOf_ofTable (.inr known)
      exact ⟨_, bind_eq_ok.mpr ⟨c, hc, rfl⟩, call_writes (renderAll_writes_singleton own_writes)⟩
  | _, _, _, .again _ _, _ =>
    ⟨_, rfl, call_writes (renderAll_writes_singleton (list_writes renderAll_writes_nil))⟩
  | _, _, _, .named found _ all, _ => by
    have occurs := Table.Occurs.of_get? found
    obtain ⟨es, made, written⟩ := predicateExprs_express ready all fun _ mem => occurs.variant mem
    exact ⟨_, bind_eq_ok.mpr ⟨es, made, rfl⟩,
      call_writes (renderAll_writes_singleton (list_writes written))⟩
  | _, _, _, .union all, occurs => by
    obtain ⟨es, made, written⟩ := predicateExprs_express ready all fun _ mem => occurs.variant mem
    exact ⟨_, bind_eq_ok.mpr ⟨es, made, rfl⟩,
      call_writes (renderAll_writes_singleton (list_writes written))⟩

theorem predicateExprs_express (ready : table.Ready) : ∀ {seen : List String} {ts : List WireType}
    {ps : List Predicate}, Contract.SelectsAll table seen ts ps → (∀ t ∈ ts, table.Occurs t) →
      ExpressAll table.IsTellable (predicateExprs (Names.ofTable table) direction ps) True
  | _, _, _, .nil, _ => ⟨[], rfl, renderAll_writes_nil⟩
  | _, _, _, .cons h all, occurs => by
    obtain ⟨e, made, written⟩ := predicateExpr_expresses ready h (occurs _ List.mem_cons_self)
    obtain ⟨es, others, rest⟩ := predicateExprs_express ready all fun t mem =>
      occurs t (List.mem_cons_of_mem _ mem)
    refine ⟨e :: es, ?_, (renderAll_writes_cons written rest).mono And.left⟩
    exact bind_eq_ok.mpr ⟨e, made, bind_eq_ok.mpr ⟨es, others, rfl⟩⟩

end

end Predicates

/-! ## Plans -/

section Plans

variable {table : Table} (ready : table.Ready) {direction : Direction} {whole : Prop}

theorem renderAll_writes : ∀ {es : List Expr}, (∀ e ∈ es, Writes whole e.render True) →
    Writes whole (Expr.renderAll es) True
  | [], _ => renderAll_writes_nil
  | e :: es, h => by
    have rest := renderAll_writes fun e mem => h e (List.mem_cons_of_mem _ mem)
    exact (renderAll_writes_cons (h e List.mem_cons_self) rest).mono And.left

/-- A choice among models of the table is always written. -/
theorem dispatchExpr_expresses {property : String} {cases : List (String × String)}
    (known : ∀ entry ∈ cases, entry.2 ∈ table.names) :
    Expresses whole (dispatchExpr (Names.ofTable table) direction property cases) True := by
  cases direction with
  -- a dictionary from the tags to functions
  | decode =>
    obtain ⟨entries, made, plain⟩ : ∃ entries, (cases.mapM fun entry => do
        let function ← modelFunction (Names.ofTable table) .decode entry.2
        return (Value.str entry.1, Expr.own function)) =
          .ok entries ∧ ∀ entry ∈ entries, ∃ tag name, entry = (.str tag, .own name) := by
      refine exists_mapM_eq_ok fun entry mem => ?_
      obtain ⟨function, found⟩ := modelFunction_ofTable (known entry mem) .decode
      exact ⟨_, bind_eq_ok.mpr ⟨function, found, rfl⟩, entry.1, function, rfl⟩
    refine ⟨_, bind_eq_ok.mpr ⟨entries, made, rfl⟩, call_writes ?_⟩
    exact (renderAll_writes_cons text_writes
      (renderAll_writes_singleton (dict_writes plain))).mono And.left
  -- a check and a function for each model, whatever tags lead to it
  | encode =>
    obtain ⟨options, made, written⟩ : ∃ options, ((cases.map (·.2)).eraseDups.mapM fun model => do
        let check := Expr.call "is_model" [.own (← (Names.ofTable table).classOf model)]
        return Expr.pair check (.own (← modelFunction (Names.ofTable table) .encode model))) =
          .ok options ∧ ∀ e ∈ options, Writes whole e.render True := by
      refine exists_mapM_eq_ok fun model mem => ?_
      obtain ⟨entry, there, rfl⟩ := List.mem_map.mp (List.mem_eraseDups.mp mem)
      obtain ⟨c, hc⟩ := Names.classOf_ofTable (.inr (known entry there))
      obtain ⟨function, found⟩ := modelFunction_ofTable (known entry there) .encode
      refine ⟨_, bind_eq_ok.mpr ⟨c, hc, bind_eq_ok.mpr ⟨function, found, rfl⟩⟩, ?_⟩
      exact (pair_writes (call_writes (renderAll_writes_singleton own_writes)) own_writes).mono
        And.left
    refine ⟨_, bind_eq_ok.mpr ⟨options, made, rfl⟩, call_writes ?_⟩
    exact (renderAll_writes_cons (list_writes (renderAll_writes written))
      (renderAll_writes_singleton text_writes)).mono And.left

include ready

theorem targets_of_occurs {name : Option String} {mode : Schema.Combination}
    {d : Schema.Discriminator} {variants : List WireType}
    (occurs : table.Occurs (.union name mode (some d) variants)) :
    ∀ entry ∈ d.mapping, entry.2 ∈ table.names := by
  intro entry mem
  refine ready.closed occurs _ ?_
  rw [WireType.refs]
  exact List.mem_append_right _ (List.mem_map.mpr ⟨entry, mem, rfl⟩)

/-- A union that is told apart by a discriminator mentions nothing. -/
theorem isTellable_of_tagged {name : Option String} {mode : Schema.Combination}
    {d : Schema.Discriminator} {variants : List WireType}
    (occurs : table.Occurs (.union name mode (some d) variants)) :
    (WireType.union name mode (some d) variants).IsTellable := by
  refine WireType.isTellable_union.mpr fun t mem => ?_
  obtain ⟨n, rfl⟩ := ready.variants occurs t mem
  exact WireType.isTellable_model

mutual

/-- The plan of a type has an expression, which shows all that the type mentions. -/
theorem planExpr_expresses : ∀ {t : WireType} {p : Plan}, Plan.Implements table t p →
    table.Occurs t →
      Expresses table.IsTellable (planExpr (Names.ofTable table) direction p) t.IsTellable
  | .primitive .., _, h, _ => by
    cases h
    exact ⟨_, rfl, support_writes.mono fun _ => WireType.isTellable_primitive⟩
  | .enum name values kind, _, h, occurs => by
    cases h
    refine ⟨_, rfl, call_writes (renderAll_writes_singleton ?_)⟩
    refine (tupleLiteral_writes (trees_of_occurs ready occurs) ?_).mono
      WireType.isTellable_enum.mpr
    exact fun tellable v mem => tellable v (.type occurs mem)
  | .nullable inner, _, h, occurs => by
    obtain ⟨q, rfl, h⟩ := h
    obtain ⟨e, made, written⟩ := planExpr_expresses h occurs.nullable
    exact ⟨_, bind_eq_ok.mpr ⟨e, made, rfl⟩, (call_writes (renderAll_writes_singleton written)).mono
      WireType.isTellable_nullable.mpr⟩
  | .optional inner, _, h, occurs => by
    obtain ⟨e, made, written⟩ := planExpr_expresses (t := inner) h occurs.optional
    exact ⟨e, made, written.mono WireType.isTellable_optional.mpr⟩
  | .sequence element, _, h, occurs => by
    obtain ⟨q, rfl, h⟩ := h
    obtain ⟨e, made, written⟩ := planExpr_expresses h occurs.sequence
    exact ⟨_, bind_eq_ok.mpr ⟨e, made, rfl⟩, (call_writes (renderAll_writes_singleton written)).mono
      WireType.isTellable_sequence.mpr⟩
  | .mapping value, _, h, occurs => by
    obtain ⟨q, rfl, h⟩ := h
    obtain ⟨e, made, written⟩ := planExpr_expresses h occurs.mapping
    exact ⟨_, bind_eq_ok.mpr ⟨e, made, rfl⟩, (call_writes (renderAll_writes_singleton written)).mono
      WireType.isTellable_mapping.mpr⟩
  | .model name, _, h, occurs => by
    cases h
    have known := ready.closed occurs name List.mem_cons_self
    obtain ⟨function, found⟩ := modelFunction_ofTable known direction
    exact ⟨_, bind_eq_ok.mpr ⟨function, found, rfl⟩,
      own_writes.mono fun _ => WireType.isTellable_model⟩
  | .union _ _ (some d) _, _, h, occurs => by
    cases h
    obtain ⟨e, made, written⟩ := dispatchExpr_expresses (targets_of_occurs ready occurs)
    exact ⟨e, made, written.mono fun _ => isTellable_of_tagged ready occurs⟩
  | .union _ _ none variants, _, h, occurs => by
    obtain ⟨options, description, rfl, h⟩ := h
    obtain ⟨es, made, written⟩ := optionExprs_express h fun _ mem => occurs.variant mem
    refine ⟨_, bind_eq_ok.mpr ⟨es, made, rfl⟩, call_writes ?_⟩
    refine (renderAll_writes_cons (list_writes written)
      (renderAll_writes_singleton text_writes)).mono fun all => ?_
    exact WireType.isTellable_union.mpr all.1

theorem optionExprs_express : ∀ {ts : List WireType} {options : List (Predicate × Plan)},
    Plan.ImplementsAll table ts options → (∀ t ∈ ts, table.Occurs t) →
      ExpressAll table.IsTellable (optionExprs (Names.ofTable table) direction options)
        (∀ t ∈ ts, t.IsTellable)
  | [], _, h, _ => by
    cases h
    exact ⟨[], rfl, renderAll_writes_nil.mono fun _ => nofun⟩
  | t :: rest, _, h, occurs => by
    obtain ⟨p, plan, others, rfl, hp, hplan, hothers⟩ := h
    have first := occurs t List.mem_cons_self
    obtain ⟨p', hp', selects⟩ := Contract.predicateFor_selects ready.closed first
    obtain rfl : p = p' := Except.ok.inj (hp.symm.trans hp')
    obtain ⟨check, hcheck, checked⟩ := predicateExpr_expresses ready selects first
    obtain ⟨e, made, written⟩ := planExpr_expresses hplan first
    obtain ⟨es, rest', all⟩ := optionExprs_express hothers fun t mem =>
      occurs t (List.mem_cons_of_mem _ mem)
    refine ⟨.pair check e :: es, ?_, (renderAll_writes_cons (pair_writes checked written) all).mono
      fun told => List.forall_mem_cons.mpr ⟨told.1.2, told.2⟩⟩
    exact bind_eq_ok.mpr ⟨check, hcheck, bind_eq_ok.mpr ⟨e, made, bind_eq_ok.mpr ⟨es, rest', rfl⟩⟩⟩

end

end Plans

end Emit
end WireModel
