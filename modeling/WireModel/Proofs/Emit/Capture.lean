import WireModel.Proofs.Emit.Definitions
import WireModel.Proofs.Emit.Words

/-!
# What captures a name

The functions of a module have parameters and variables of their own, and use builtins; a class may
have an attribute called like the function that makes the defaults of later fields. Among the names
that are given only classes can clash with them, and only if something is called so: what the module
imports is reserved, but these names are not.

* **`Hygienic`**: inside of the functions each name refers to what it is written for.
* **`Unshadowed`**: no attribute stands in front of a default expression that uses its name.
* **`captured_iff`**: when names are captured, exactly, for every table that is built.
-/

namespace WireModel.Emit

/-! ## References -/

/-- The parameters and the variables of the functions of a module. -/
def localNames : List String :=
  ["data", "value", "path", "ignore_discriminator", "variant", "encoder", "result"]

/-- The builtins that a module uses. -/
def builtinNames : List String :=
  ["type", "isinstance", "dict", "bool", "str", "list", "int", "float"]

/-- The names that modules bind or use beyond those that they import or are given. -/
def templateNames : List String := localNames ++ builtinNames ++ ["__all__"]

/-- What a name refers to: something bound around the place where it stands, or by the whole module,
or a builtin. -/
inductive Referent where
  | inner
  | outer
  | builtin
  deriving DecidableEq

/-- What a name refers to in a function or a class that binds some names, inside of a module that
binds others. -/
def refer (inner outer : List String) (name : String) : Referent :=
  if name ∈ inner then .inner else if name ∈ outer then .outer else .builtin

theorem refer_eq_outer_iff {inner outer : List String} {name : String} :
    refer inner outer name = .outer ↔ name ∉ inner ∧ name ∈ outer := by
  unfold refer
  split
  · simp [*]
  · split <;> simp [*]

theorem refer_eq_builtin_iff {inner outer : List String} {name : String} :
    refer inner outer name = .builtin ↔ name ∉ inner ∧ name ∉ outer := by
  unfold refer
  split
  · simp [*]
  · split <;> simp [*]

/-- Inside of the functions of a module each name refers to what it is written for. -/
structure Hygienic (names : Names) (text : String) : Prop where
  /-- A class or a function of a model is what the module defines, once, under its name. -/
  own : ∀ name ∈ names.given, refer localNames (boundNames text) name = .outer ∧
    (boundNames text).count name = 1
  /-- A name that is imported is what is imported. -/
  imported : ∀ name ∈ boundNames text, name ∈ reservedNames →
    refer localNames (boundNames text) name = .outer ∧ name ∉ names.given
  builtin : ∀ name ∈ builtinNames, refer localNames (boundNames text) name = .builtin

/-- In a class, no attribute stands in front of a default expression that uses its name. -/
def Unshadowed (c : RecordContract) : Prop :=
  (declarationOrder c.fields).Pairwise fun g f => ∀ expr, defaultExpr f = .ok (some expr) →
    ∀ name ∈ defaultNames, name ∈ namesIn expr → g.attributeName ≠ name

/-- A record has a field called `field` in front of one whose default is made anew. Fields that have
to be given are in front of all others. -/
def Shadows (c : RecordContract) : Prop :=
  ∃ g f, g.attributeName = "field" ∧ needsFactory f.default = true ∧
    ([g, f].Sublist c.fields ∨
      g ∈ c.fields ∧ f ∈ c.fields ∧ g.required = true ∧ g.default = none)

/-! ## Functions -/

theorem isOwnOnly_of_mem_templateNames : ∀ name ∈ templateNames, Names.isOwnOnly name = true := by
  decide +kernel

/-- The functions of a module refer to what they are written for exactly unless a model or a named
enumeration is called like one of their names. -/
theorem hygienic_iff {table : Table} {imported exports : List String} {text : String}
    (bound : boundNames text = imported ++ exports ++ ["__all__"])
    (reserved : ∀ name ∈ imported, name ∈ reservedNames)
    (perm : exports.Perm (Names.ofTable table).given) :
    Hygienic (Names.ofTable table) text ↔
      ∀ name ∈ templateNames, name ∉ table.enums.map NamedEnum.name ++ table.names := by
  obtain ⟨-, apart⟩ := (Names.Sound.ofTable table).given_nodup
  have given_iff {name : String} (known : name ∈ templateNames) :
      name ∈ (Names.ofTable table).given ↔ name ∈ table.enums.map NamedEnum.name ++ table.names :=
    Names.mem_given_iff table (isOwnOnly_of_mem_templateNames name known)
  have there : ∀ name ∈ (Names.ofTable table).given, name ∈ boundNames text := by
    intro name mem
    rw [bound]
    exact List.mem_append_left _ (List.mem_append_right _ (perm.symm.subset mem))
  constructor
  · -- something that is called so gets the name, and loses it where the templates have their own
    intro h name known called
    have given := (given_iff known).mpr called
    obtain ⟨refers, once⟩ := h.own name given
    rcases List.mem_append.mp known with fixed | list
    · rcases List.mem_append.mp fixed with inner | builtin
      · exact (refer_eq_outer_iff.mp refers).1 inner
      · exact (refer_eq_builtin_iff.mp (h.builtin name builtin)).2 (there name given)
    · -- the list of exports is bound behind all blocks, so this name would be bound twice
      rw [bound, count_bound reserved perm given, if_pos (List.mem_singleton.mp list)] at once
      cases once
  · intro uncalled
    have ungiven : ∀ name ∈ templateNames, name ∉ (Names.ofTable table).given :=
      fun name known given => uncalled name known ((given_iff known).mp given)
    refine ⟨fun name mem => ⟨?_, ?_⟩, fun name mem known => ⟨?_, fun given => ?_⟩,
      fun name known => ?_⟩
    · -- the names that are given, then those that are imported, then the builtin ones
      refine refer_eq_outer_iff.mpr ⟨fun inner => ?_, there name mem⟩
      exact ungiven name (List.mem_append_left _ (List.mem_append_left _ inner)) mem
    · rw [bound, count_bound reserved perm mem, if_neg]
      rintro rfl
      exact ungiven _ (by decide) mem
    · have outside : ∀ name ∈ reservedNames, name ∉ localNames := by decide
      exact refer_eq_outer_iff.mpr ⟨outside name known, mem⟩
    · exact apart name given known
    · have outside : ∀ name ∈ builtinNames,
          name ∉ localNames ∧ name ∉ reservedNames ∧ name ∉ ["__all__"] := by decide
      obtain ⟨notLocal, notReserved, notList⟩ := outside name known
      refine refer_eq_builtin_iff.mpr ⟨notLocal, ?_⟩
      rw [bound, List.mem_append, List.mem_append]
      rintro ((import_ | export_) | list)
      · exact notReserved (reserved name import_)
      · refine ungiven name ?_ (perm.subset export_)
        exact List.mem_append_left _ (List.mem_append_right _ known)
      · exact notList list

/-! ## Classes -/

/-- A field is declared before one that has a default exactly if it is in front of it, or has to be
given. -/
theorem sublist_declarationOrder_iff {fields : List FieldContract} {g f : FieldContract}
    (given : f.default ≠ none) : [g, f].Sublist (declarationOrder fields) ↔
      [g, f].Sublist fields ∨
        g ∈ fields ∧ f ∈ fields ∧ g.required = true ∧ g.default = none := by
  have last : (f.required && f.default.isNone) = false := by
    rw [Option.isNone_eq_false_iff.mpr (Option.isSome_iff_ne_none.mpr given), Bool.and_false]
  have first_iff :
      (g.required && g.default.isNone) = true ↔ g.required = true ∧ g.default = none := by
    rw [Bool.and_eq_true, Option.isNone_iff_eq_none]
  unfold declarationOrder
  constructor
  · intro sub
    obtain ⟨front, back, same, inFront, inBack⟩ := List.sublist_append_iff.mp sub
    -- a field with a default is never in the first half, so at most the earlier one is
    rcases List.append_eq_cons_iff.mp same.symm with ⟨rfl, rfl⟩ | ⟨front', rfl, same⟩
    · exact .inl (inBack.trans List.filter_sublist)
    · obtain ⟨here, first⟩ := List.mem_filter.mp (inFront.subset List.mem_cons_self)
      have there : f ∈ fields := by
        have declared := sub.subset (List.mem_cons_of_mem g List.mem_cons_self)
        exact mem_declarationOrder.mp declared
      exact .inr ⟨here, there, first_iff.mp first⟩
  · have before (here : g ∈ fields) (there : f ∈ fields)
        (first : g.required = true ∧ g.default = none) :
        [g, f].Sublist (fields.filter (fun c => c.required && c.default.isNone) ++
          fields.filter fun c => !(c.required && c.default.isNone)) := by
      have front : g ∈ fields.filter fun c => c.required && c.default.isNone :=
        List.mem_filter.mpr ⟨here, first_iff.mpr first⟩
      have back : f ∈ fields.filter fun c => !(c.required && c.default.isNone) :=
        List.mem_filter.mpr ⟨there, by rw [last]; rfl⟩
      exact (List.singleton_sublist.mpr front).append (List.singleton_sublist.mpr back)
    rintro (sub | ⟨here, there, first⟩)
    · -- both have defaults and keep their order, unless the one in front has to be given
      by_cases first : g.required = true ∧ g.default = none
      · exact before (sub.subset (by simp)) (sub.subset (by simp)) first
      · refine List.Sublist.trans ?_ (List.sublist_append_right _ _)
        have kept := sub.filter fun c => !(c.required && c.default.isNone)
        rwa [List.filter_cons_of_pos, List.filter_cons_of_pos, List.filter_nil] at kept
        · rw [last]
          rfl
        · rw [Bool.eq_false_iff.mpr fun given => first (first_iff.mp given)]
          rfl
    · exact before here there first

/-- No attribute has a capital. -/
theorem attributeName_ne_unset (name : String) : Naming.attributeName name ≠ "UNSET" := by
  intro same
  have small := Naming.isSmall_attributeName name 'U' (by rw [same]; decide)
  exact absurd small (by decide)

/-- In a class whose default expressions can be written, an attribute stands in front of a default
expression that uses its name exactly if it is called `field` and that default is made anew. -/
theorem unshadowed_iff {c : RecordContract}
    (written : ∀ f ∈ c.fields, ∃ default, defaultExpr f = .ok default)
    (attributes : ∀ f ∈ c.fields, f.attributeName ≠ "UNSET") : Unshadowed c ↔ ¬Shadows c := by
  rw [Unshadowed, List.pairwise_iff_forall_sublist]
  constructor
  · -- the default that is made anew uses the function `field`, which the attribute hides
    rintro apart ⟨g, f, called, factory, order⟩
    obtain ⟨v, given⟩ : ∃ v, f.default = some v := by
      cases same : f.default with
      | none =>
        rw [same] at factory
        cases factory
      | some v => exact ⟨v, rfl⟩
    have sub := (sublist_declarationOrder_iff (by rw [given]; nofun)).mpr order
    have mem : f ∈ c.fields := mem_declarationOrder.mp (sub.subset (by simp))
    obtain ⟨default, told⟩ := written f mem
    obtain ⟨expr, rfl⟩ : ∃ expr, default = some expr := by
      rw [defaultExpr, given] at told
      obtain ⟨expr, -, same⟩ := map_eq_ok.mp told
      exact ⟨expr, same.symm⟩
    exact apart sub expr told "field" (by decide) ((names_defaultExpr told).1.mpr factory) called
  · intro unshadowed g f sub expr told name known used called
    have mem : g ∈ c.fields := mem_declarationOrder.mp (sub.subset List.mem_cons_self)
    -- default expressions use `field` and `UNSET`, and no attribute has a capital
    simp only [defaultNames, List.mem_cons, List.not_mem_nil, or_false] at known
    rcases known with rfl | rfl
    · have factory := (names_defaultExpr told).1.mp used
      have given : f.default ≠ none := by
        intro none
        rw [none] at factory
        cases factory
      exact unshadowed ⟨g, f, called, factory, (sublist_declarationOrder_iff given).mp sub⟩
    · exact attributes g mem called

/-! ## Modules -/

theorem mem_of_recordContract {contracts : Contracts} {name : String} {c : RecordContract}
    (found : recordContract contracts name = .ok c) : .record c ∈ contracts := by
  unfold recordContract at found
  split at found
  · rename_i there
    cases found
    exact List.mem_of_find?_eq_some there
  · cases found

/-- If a module is written, then all default expressions of its classes are. -/
theorem exists_defaultExpr {late : Bool} {table : Table} {contracts : Contracts}
    {blocks : List Block} (made : blocksOf late table contracts = .ok blocks) {r : RecordModel}
    (mem : .record r ∈ table.models) {c : RecordContract}
    (found : recordContract contracts r.name = .ok c) {f : FieldContract} (own : f ∈ c.fields) :
    ∃ default, defaultExpr f = .ok default := by
  obtain ⟨c', block, found', built, -⟩ := exists_recordBlock made mem
  rw [found] at found'
  cases found'
  obtain ⟨g, line, -, declared, -⟩ := recordBlock_declares block built f own
  obtain ⟨base, default, -, told, -⟩ := declaration_reads line declared
  exact ⟨default, told⟩

/-- A module imports what its default expressions use. -/
theorem mem_importedNames {late : Bool} {table : Table} {contracts : Contracts}
    {blocks : List Block} (derives : (Contract.derive table).outcome.1 = .ok contracts)
    {c : RecordContract} (mem : .record c ∈ contracts) {f : FieldContract} (own : f ∈ c.fields)
    {expr : String} (told : defaultExpr f = .ok (some expr)) {name : String}
    (known : name ∈ defaultNames) (used : name ∈ namesIn expr) :
    name ∈ importedNames late table blocks := by
  simp only [defaultNames, List.mem_cons, List.not_mem_nil, or_false] at known
  rcases known with rfl | rfl
  · have factory := (names_defaultExpr told).1.mp used
    obtain ⟨r, g, there, field, describes⟩ := exists_described derives mem own
    rw [describes.2] at factory
    have records : table.models.any Model.isRecord = true :=
      List.any_eq_true.mpr ⟨_, there, rfl⟩
    have factories :
        (table.models.any fun m => m.fields.any fun f => needsFactory f.default) = true :=
      List.any_eq_true.mpr ⟨_, there, List.any_eq_true.mpr ⟨g, field, factory⟩⟩
    have here : "field" ∈ dataclassImports table := by
      rw [dataclassImports, if_pos records, if_pos factories]
      decide
    simp [importedNames, here]
  · have here : "UNSET" ∈ importOrder ("UNSET" :: blocks.flatMap (·.imports)) :=
      mem_importOrder.mpr List.mem_cons_self
    simp [importedNames, here]

/-- **Names are captured only if something is called so.** For every table that a document has: a
name that the functions of its module bind or use, or that of the list of exports, is given to a
class exactly if a model or a named enumeration is called so, and never to a function. If the module
is written, then inside of its functions every given name refers to what the module defines under
it, once, every import to what is imported and every builtin to itself exactly unless something is
called so.

No attribute of a class is called `UNSET`. One called `field` is declared before a default
expression that uses the function of this name exactly if the class has such a default behind it, or
has to be given that attribute. In a class without this, all names of the default expressions refer
to what the module imports. -/
theorem captured_iff {document : Value} {requested : Option String} {source : String}
    {graph : Schema.Graph} {options : Options} {definitions : List (String × Types.Definition)}
    {table : Table} {contracts : Contracts}
    (keys : ∀ container entries, Schema.findContainer document = .ok (container, entries) →
      (entries.map Prod.fst).Nodup)
    (loads : (Schema.Graph.ofDocument document requested source).outcome.1 = .ok graph)
    (resolves : (Types.resolve graph).outcome.1 = .ok definitions)
    (builds : Table.build options definitions = .ok table)
    (derives : (Contract.derive table).outcome.1 = .ok contracts) :
    let names := Names.ofTable table
    let called := table.enums.map NamedEnum.name ++ table.names
    (∀ name ∈ templateNames, (name ∈ names.classes.map Prod.snd ↔ name ∈ called) ∧
      ∀ base ∈ names.bases, name ∉ functionNames base.2) ∧
    (∀ c, .record c ∈ contracts → ∀ f ∈ c.fields, f.attributeName ≠ "UNSET") ∧
    ∀ late comment text, moduleText late comment table contracts = .ok text →
      (Hygienic names text ↔ ∀ name ∈ templateNames, name ∉ called) ∧
      ∀ r c, .record r ∈ table.models → recordContract contracts r.name = .ok c →
        (Unshadowed c ↔ ¬Shadows c) ∧
        (Unshadowed c → ∀ before f after expr, declarationOrder c.fields = before ++ f :: after →
          defaultExpr f = .ok (some expr) → ∀ name ∈ namesIn expr, name ∈ defaultNames →
            refer (before.map (·.attributeName)) (boundNames text) name = .outer) := by
  have distinct := Table.called_nodup keys loads resolves builds
  have attributes : ∀ c, .record c ∈ contracts → ∀ f ∈ c.fields, f.attributeName ≠ "UNSET" := by
    intro c mem f own
    obtain ⟨name, same⟩ := exists_attributeName builds derives c mem f own
    rw [same]
    exact attributeName_ne_unset name
  refine ⟨fun name known => ?_, attributes, fun late comment text written => ?_⟩
  · have own := isOwnOnly_of_mem_templateNames name known
    exact ⟨Names.mem_classes_iff table own, fun base _ => Names.not_mem_functionNames own base.2⟩
  obtain ⟨blocks, exports, made, bound, reserved, perm, -⟩ :=
    moduleText_reads (isWord_of_derive builds derives) distinct text written
  refine ⟨hygienic_iff bound reserved perm, fun r c mem found => ⟨?_, ?_⟩⟩
  · have known : .record c ∈ contracts := mem_of_recordContract found
    exact unshadowed_iff (fun f own => exists_defaultExpr made mem found own) (attributes c known)
  · intro apart before f after expr order told name used known
    have own : f ∈ c.fields := by
      rw [← mem_declarationOrder, order]
      exact List.mem_append_right _ List.mem_cons_self
    refine refer_eq_outer_iff.mpr ⟨fun shadowed => ?_, ?_⟩
    · -- only attributes in front of the field are in its way
      obtain ⟨g, earlier, same⟩ := List.mem_map.mp shadowed
      rw [Unshadowed, order, List.pairwise_append] at apart
      exact apart.2.2 g earlier f List.mem_cons_self expr told name known used same
    · have imported : name ∈ importedNames late table blocks :=
        mem_importedNames derives (mem_of_recordContract found) own told known used
      rw [bound]
      exact List.mem_append_left _ (List.mem_append_left _ imported)

/-- A schema of an object with two properties, of which the second has a list as its default. -/
def taggedSchema (first : String) : Value :=
  .ofFields [("type", .str "object"), ("properties", .ofFields [(first, text),
    ("tags", .ofFields [("type", .str "array"), ("items", text), ("default", .list [])])])]
where
  text : Value := .ofFields [("type", .str "string")]

/-- The attributes of a class in the order of their declarations, with their default expressions. -/
def declared (c : RecordContract) : List (String × Option (Option String)) :=
  (declarationOrder c.fields).map fun f => (f.attributeName, (defaultExpr f).toOption)

/-- The only model with its contract, if it is a record. -/
def onlyRecord? : List Model → Contracts → Option (RecordModel × RecordContract)
  | [.record r], [.record c] => some (r, c)
  | _, _ => none

/-- A model that is called like nothing else in a module, with tags. -/
def postDocument : Value := .ofFields [("definitions", .ofFields [("Post", taggedSchema "title")])]

/-- In its module every name refers to what it is written for. -/
theorem post_is_hygienic :
    (∀ container entries, Schema.findContainer postDocument = .ok (container, entries) →
      (entries.map Prod.fst).Nodup) ∧
    ∃ graph definitions table contracts text,
      (Schema.Graph.ofDocument postDocument none "posts").outcome.1 = .ok graph ∧
      (Types.resolve graph).outcome.1 = .ok definitions ∧
      Table.build {} definitions = .ok table ∧
      (Contract.derive table).outcome.1 = .ok contracts ∧
      moduleText true "" table contracts = .ok text ∧ Hygienic (Names.ofTable table) text := by
  have json : postDocument.isJson = true := by decide +kernel
  have keys : ∀ container entries, Schema.findContainer postDocument = .ok (container, entries) →
      (entries.map Prod.fst).Nodup := fun _ _ found =>
    Value.keys_nodup_of_isJson (Schema.isJson_of_findContainer json found)
  obtain ⟨graph, definitions, table, contracts, text, loads, resolves, builds, derives, written,
    uncalled⟩ := exists_text postDocument "posts" (p := fun table _ _ => templateNames.all fun name =>
      !(table.enums.map NamedEnum.name ++ table.names).contains name) (by decide +kernel)
  obtain ⟨-, -, modules⟩ := captured_iff keys loads resolves builds derives
  refine ⟨keys, graph, definitions, table, contracts, text, loads, resolves, builds, derives,
    written, (modules true "" text written).1.mpr fun name known => ?_⟩
  simpa using List.all_eq_true.mp uncalled name known

/-- A model that is called like a parameter, with an attribute that is called like a function. -/
def valueDocument : Value :=
  .ofFields [("definitions", .ofFields [("value", taggedSchema "field")])]

/-- **A parameter captures a class, and an attribute a function.** The encoder checks whether its
argument is an instance of itself, and the default of the tags is a call of what is unset. -/
theorem value_is_captured : ∃ graph definitions table contracts text r c block,
    (Schema.Graph.ofDocument valueDocument none "values").outcome.1 = .ok graph ∧
    (Types.resolve graph).outcome.1 = .ok definitions ∧
    Table.build {} definitions = .ok table ∧
    (Contract.derive table).outcome.1 = .ok contracts ∧
    moduleText true "" table contracts = .ok text ∧
    "value" ∈ (Names.ofTable table).classes.map Prod.snd ∧
    ¬Hygienic (Names.ofTable table) text ∧
    table.models = [.record r] ∧ contracts = [.record c] ∧
    recordBlock (Names.ofTable table) true r c = .ok block ∧
    "    if not isinstance(value, value):" ∈ block.lines ∧
    declared c = [("field", some (some "UNSET")),
      ("tags", some (some "field(default_factory=lambda: [])"))] ∧ ¬Unshadowed c := by
  obtain ⟨graph, definitions, table, contracts, text, loads, resolves, builds, derives, written,
    found⟩ := exists_text valueDocument "values" (p := fun table contracts _ =>
      ((Names.ofTable table).classes.map Prod.snd).contains "value" &&
      (onlyRecord? table.models contracts).any fun (r, c) =>
        declared c == [("field", some (some "UNSET")),
          ("tags", some (some "field(default_factory=lambda: [])"))] &&
        (recordBlock (Names.ofTable table) true r c).toOption.any fun block =>
          block.lines.contains "    if not isinstance(value, value):") (by decide +kernel)
  simp only [Bool.and_eq_true, List.contains_iff_mem, Option.any_eq_true, beq_iff_eq,
    Prod.exists] at found
  obtain ⟨there, r, c, only, order, block, made, line⟩ := found
  obtain ⟨models, rfl⟩ : table.models = [.record r] ∧ contracts = [.record c] := by
    unfold onlyRecord? at only
    split at only
    · rename_i models
      cases only
      exact ⟨models, rfl⟩
    · cases only
  refine ⟨graph, definitions, table, _, text, r, c, block, loads, resolves, builds, derives,
    written, there, fun hygienic => ?_, models, rfl, toOption_eq_some.mp made, line, order, fun apart => ?_⟩
  · have refers := (hygienic.own "value" (List.mem_append_left _ there)).1
    exact (refer_eq_outer_iff.mp refers).1 (by decide)
  · obtain ⟨g, rest, fields, first, order⟩ := List.map_eq_cons_iff.mp order
    obtain ⟨f, rest, rfl, second, -⟩ := List.map_eq_cons_iff.mp order
    rw [Unshadowed, fields] at apart
    have told := toOption_eq_some.mp (Prod.mk.inj second).2
    exact List.rel_of_pairwise_cons apart List.mem_cons_self _ told "field" (by decide)
      (by decide +kernel) (Prod.mk.inj first).1

end WireModel.Emit
