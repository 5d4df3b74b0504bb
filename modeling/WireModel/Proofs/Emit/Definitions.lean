import WireModel.Proofs.Emit.Bindings

/-!
# Every exported name is defined once

* **`exports_perm`**: a module exports all names that are given, each once.
* **`defined_once_iff`**: its text defines each of them once, unless one is called `__all__`.
-/

namespace WireModel

open Text (continuesIdentifier)

namespace Emit

/-! ## Exports -/

namespace Names

/-- All given names: the classes of the enumerations, and the names of each model. -/
theorem given_perm (table : Table)
    (distinct : (table.enums.map NamedEnum.name ++ table.names).Nodup) :
    (ofTable table).given.Perm
      (table.enums.map (fun e => follow (ofTable table).classes e.name) ++
        table.names.flatMap (ofTable table).ofModel) := by
  have classes : ((ofTable table).classes.map Prod.fst).Nodup := classes_ofTable table ▸ distinct
  have bases : ((ofTable table).bases.map Prod.fst).Nodup :=
    bases_ofTable table ▸ (List.nodup_append.mp distinct).2.1
  have functions : ((ofTable table).bases.flatMap fun base => functionNames base.2) =
      table.names.flatMap fun name => functionNames (follow (ofTable table).bases name) := by
    rw [← bases_ofTable, List.flatMap_map]
    refine List.flatMap_congr fun base mem => ?_
    rw [follow_of_mem bases mem]
  rw [given, map_snd_eq_follow classes, functions, classes_ofTable, List.map_append, List.map_map,
    List.append_assoc]
  exact (List.map_append_flatMap_perm table.names _ _).append_left _

end Names

/-- What a filter exports, if each element has an export exactly if it is kept. -/
theorem exports_of_filterMapM {f : Model → Except Fault (Option Block)} {kept : Model → Bool}
    {named : Model → List String} {models : List Model} {blocks : List Block}
    (made : models.filterMapM f = .ok blocks)
    (each : ∀ m ∈ models, Yields (f m) fun o =>
      o.map Block.exports = if kept m then some (named m) else none) :
    blocks.flatMap Block.exports = (models.filter kept).flatMap named := by
  obtain ⟨os, all, rfl⟩ := filterMapM_eq_ok made
  clear made
  induction all with
  | nil => rfl
  | @cons m o models os here _ ih =>
    have first := each m List.mem_cons_self o here
    have rest := ih fun m mem => each m (List.mem_cons_of_mem _ mem)
    rw [List.filter_cons, List.filterMap_cons]
    split at first
    · rename_i keeps
      obtain ⟨b, rfl, exports⟩ := Option.map_eq_some_iff.mp first
      rw [if_pos keeps, id_eq, List.flatMap_cons, List.flatMap_cons, exports, rest]
    · rename_i drops
      rw [if_neg drops, Option.map_eq_none_iff.mp first]
      exact rest

section

variable {table : Table} {contracts : Contracts} {late : Bool}
  (attributes : ∀ c, .record c ∈ contracts → ∀ f ∈ c.fields, IsWord f.attributeName)

include attributes

theorem recordBlock?_reads (m : Model) :
    Yields (recordBlock? (Names.ofTable table) late contracts m) fun o => (∀ b ∈ o, b.Reads) ∧
      o.map Block.exports =
        if m.isRecord then some ((Names.ofTable table).ofModel m.name) else none := by
  cases m with
  | union u => exact .ok ⟨nofun, rfl⟩
  | record r =>
    have contract : Yields (recordContract contracts r.name) fun c => .record c ∈ contracts := by
      unfold recordContract
      split
      · rename_i c found
        exact .ok (List.mem_of_find?_eq_some found)
      · exact .error
    refine contract.bind fun c mem => ?_
    refine (recordBlock_reads (Names.Sound.ofTable table).areWords (attributes c mem)).bind_pure ?_
    rintro b ⟨reads, exports⟩
    exact ⟨by rintro _ ⟨⟩; exact reads, congrArg some exports⟩

omit attributes in
theorem unionBlock?_reads (m : Model) :
    Yields (unionBlock? (Names.ofTable table) late contracts m) fun o => (∀ b ∈ o, b.Reads) ∧
      o.map Block.exports =
        if !m.isRecord then some ((Names.ofTable table).ofModel m.name) else none := by
  cases m with
  | record r => exact .ok ⟨nofun, rfl⟩
  | union u =>
    refine (show Yields (unionContract contracts u.name) fun _ => True from fun _ _ => trivial).bind
      fun c _ => (unionBlock_reads (Names.Sound.ofTable table).areWords).bind_pure ?_
    rintro b ⟨reads, exports⟩
    exact ⟨by rintro _ ⟨⟩; exact reads, congrArg some exports⟩

/-- **The blocks of a module** read well, and export the names of the records and of the unions. -/
theorem blocksOf_reads : Yields (blocksOf late table contracts) fun blocks =>
    (∀ b ∈ blocks, b.Reads) ∧ blocks.flatMap Block.exports =
      (table.models.filter Model.isRecord ++ table.models.filter fun m => !m.isRecord).flatMap
        fun m => (Names.ofTable table).ofModel m.name := by
  -- a model without a block adds none, so each block is that of a model
  have kept {f : Model → Except Fault (Option Block)} {blocks : List Block}
      (made : table.models.filterMapM f = .ok blocks)
      (each : ∀ m, Yields (f m) fun o => ∀ b ∈ o, b.Reads) : ∀ b ∈ blocks, b.Reads := by
    obtain ⟨os, all, rfl⟩ := filterMapM_eq_ok made
    intro b mem
    obtain ⟨o, there, rfl⟩ := List.mem_filterMap.mp mem
    obtain ⟨m, -, found⟩ := exists_left_of_forall₂ all there
    exact each m _ found b rfl
  intro blocks h
  obtain ⟨records, hrecords, h⟩ := bind_eq_ok.mp h
  obtain ⟨unions, hunions, h⟩ := bind_eq_ok.mp h
  cases h
  have record := @recordBlock?_reads table contracts late attributes
  have union := @unionBlock?_reads table contracts late
  constructor
  · intro b mem
    rcases List.mem_append.mp mem with ofRecord | ofUnion
    · exact kept hrecords (fun m => (record m).mono fun _ h => h.1) b ofRecord
    · exact kept hunions (fun m => (union m).mono fun _ h => h.1) b ofUnion
  · rw [List.flatMap_append, List.flatMap_append,
      exports_of_filterMapM hrecords fun m _ => (record m).mono fun _ h => h.2,
      exports_of_filterMapM hunions fun m _ => (union m).mono fun _ h => h.2]

end

/-- The aliases of the named enumerations. -/
theorem aliasesOf_reads (table : Table) : Yields (aliasesOf table) fun aliases =>
    (∀ entry ∈ aliases, IsWord entry.1 ∧ OneLine entry.2) ∧ aliases.map Prod.fst =
      table.enums.map fun e => follow (Names.ofTable table).classes e.name := by
  have words := (Names.Sound.ofTable table).areWords
  intro aliases h
  constructor
  · refine Yields.mapM (fun e _ => ?_) aliases h
    exact (words.classOf e.name).bind fun c word =>
      (oneLine_annotateValues e.values).bind_pure fun values line => ⟨word, line⟩
  · refine (map_eq_map_of_forall₂ (mapM_eq_ok.mp h) fun e entry found => ?_).symm
    obtain ⟨c, hc, found⟩ := bind_eq_ok.mp found
    obtain ⟨values, -, found⟩ := bind_eq_ok.mp found
    cases found
    exact Names.follow_classes hc

/-- **A module exports all names that are given.** -/
theorem exports_perm {table : Table} {contracts : Contracts} {late : Bool}
    (attributes : ∀ c, .record c ∈ contracts → ∀ f ∈ c.fields, IsWord f.attributeName)
    (distinct : (table.enums.map NamedEnum.name ++ table.names).Nodup)
    {aliases : List (String × String)} {blocks : List Block} (named : aliasesOf table = .ok aliases)
    (made : blocksOf late table contracts = .ok blocks) :
    (exportsOf aliases blocks).Perm (Names.ofTable table).given := by
  obtain ⟨-, classes⟩ := aliasesOf_reads table aliases named
  obtain ⟨-, exports⟩ := blocksOf_reads attributes blocks made
  have models : ((table.models.filter Model.isRecord ++
      table.models.filter fun m => !m.isRecord).flatMap fun m =>
        (Names.ofTable table).ofModel m.name).Perm
      (table.names.flatMap (Names.ofTable table).ofModel) := by
    rw [Table.names, List.flatMap_map]
    exact (List.filter_append_perm Model.isRecord table.models).flatMap_right _
  rw [exportsOf, classes, exports]
  exact (models.append_left _).trans (Names.given_perm table distinct).symm

/-- **What the text of a module binds**: what its blocks need to be imported, what it exports, and
the list of that. -/
theorem moduleText_reads {table : Table} {contracts : Contracts} {late : Bool} {comment : String}
    (attributes : ∀ c, .record c ∈ contracts → ∀ f ∈ c.fields, IsWord f.attributeName)
    (distinct : (table.enums.map NamedEnum.name ++ table.names).Nodup) :
    Yields (moduleText late comment table contracts) fun text => ∃ blocks exports,
      blocksOf late table contracts = .ok blocks ∧
      boundNames text = importedNames late table blocks ++ exports ++ ["__all__"] ∧
      (∀ name ∈ importedNames late table blocks, name ∈ reservedNames) ∧
      exports.Perm (Names.ofTable table).given ∧
      terminated (exportList exports) <:+ text.toList := by
  intro text h
  obtain ⟨aliases, blocks, named, made, rfl⟩ := moduleText_eq_ok.mp h
  obtain ⟨words, -⟩ := aliasesOf_reads table aliases named
  obtain ⟨reads, -⟩ := blocksOf_reads attributes blocks made
  have perm := exports_perm attributes distinct named made
  have exported : ∀ name ∈ exportsOf aliases blocks, OneLine name := fun name mem =>
    ((Names.Sound.ofTable table).areWords.isWord_of_mem_given name (perm.subset mem)).oneLine
  have chars := @toList_layOut (sections late comment table aliases blocks)
    (by simp [sections]) (full_sections fun b mem => (reads b mem).full)
  refine ⟨blocks, exportsOf aliases blocks, made, ?_, importedNames_reserved reads, perm, ?_⟩
  -- the header, the blocks and the list of exports are read one after the other
  · have whole := @Binds.spaced
      ((headerOf late comment table aliases blocks,
          importedNames late table blocks ++ aliases.map Prod.fst) ::
        (blocks.map (fun b => (b.lines, b.exports)) ++
        [(exportList (exportsOf aliases blocks), ["__all__"])])) (by
      simp only [List.forall_mem_cons, List.forall_mem_append, List.forall_mem_map]
      exact ⟨binds_header reads words, fun b mem => (reads b mem).binds,
        binds_exportList exported, nofun⟩)
    have here := whole []
    rw [List.append_nil] at here
    rw [boundNames, chars]
    simpa [sections, exportsOf, List.flatMap_map, Function.comp_def, bindings, boundBy] using here
  · rw [chars]
    exact terminated_suffix_spaced _ _

/-- What a module binds is imported and reserved, or exported, or the list of exports. -/
theorem moduleText_binds {table : Table} {contracts : Contracts} {late : Bool} {comment : String}
    (attributes : ∀ c, .record c ∈ contracts → ∀ f ∈ c.fields, IsWord f.attributeName)
    (distinct : (table.enums.map NamedEnum.name ++ table.names).Nodup) :
    Yields (moduleText late comment table contracts) fun text => ∃ imported exports,
      boundNames text = imported ++ exports ++ ["__all__"] ∧
      (∀ name ∈ imported, name ∈ reservedNames) ∧ exports.Perm (Names.ofTable table).given ∧
      terminated (exportList exports) <:+ text.toList :=
  (moduleText_reads attributes distinct).mono fun _ ⟨blocks, exports, _, rest⟩ =>
    ⟨importedNames late table blocks, exports, rest⟩

/-- A given name is bound once, and once more if it is the name of the list of exports. -/
theorem count_bound {table : Table} {imported exports : List String}
    (reserved : ∀ name ∈ imported, name ∈ reservedNames)
    (perm : exports.Perm (Names.ofTable table).given) {name : String}
    (mem : name ∈ (Names.ofTable table).given) :
    (imported ++ exports ++ ["__all__"]).count name = if name = "__all__" then 2 else 1 := by
  obtain ⟨given, apart⟩ := (Names.Sound.ofTable table).given_nodup
  have absent : imported.count name = 0 := List.count_eq_zero.mpr fun there =>
    apart name mem (reserved name there)
  have once : exports.count name = 1 := by
    rw [perm.count_eq]
    exact List.count_eq_one_of_mem given mem
  rw [List.count_append, List.count_append, absent, once, List.count_singleton]
  by_cases list : name = "__all__"
  · simp [list]
  · simp [list, Ne.symm list]

/-! ## Tables of documents -/

/-- What the contract of a record says about a field describes a field of a record of the table. -/
theorem exists_described {table : Table} {contracts : Contracts}
    (derives : (Contract.derive table).outcome.1 = .ok contracts) {c : RecordContract}
    (mem : .record c ∈ contracts) {f : FieldContract} (own : f ∈ c.fields) :
    ∃ r g, .record r ∈ table.models ∧ g ∈ r.fields ∧ FieldContract.Describes table g f := by
  obtain ⟨m, there, made⟩ := exists_left_of_forall₂ (Logged.gives_of_outcome derives).mapM mem
  cases m with
  | union u =>
    obtain ⟨uc, same, -⟩ := Contract.ofModel_union made
    cases same
  | record r =>
    obtain ⟨rc, same, -, described⟩ := Contract.ofModel_record made
    cases same
    obtain ⟨g, field, describes⟩ := exists_left_of_forall₂ described own
    exact ⟨r, g, there, field, describes⟩

/-- Attributes of models are named after properties. -/
theorem exists_attributeName {options : Options} {definitions : List (String × Types.Definition)}
    {table : Table} {contracts : Contracts} (builds : Table.build options definitions = .ok table)
    (derives : (Contract.derive table).outcome.1 = .ok contracts) :
    ∀ c, .record c ∈ contracts → ∀ f ∈ c.fields,
      ∃ name, f.attributeName = Naming.attributeName name := by
  obtain ⟨ignored, models, first, b⟩ := Table.exists_building builds
  intro c mem f own
  obtain ⟨r, g, there, field, describes⟩ := exists_described derives mem own
  obtain ⟨g', rfl, -⟩ := b.exists_field there field
  exact ⟨g'.name, describes.1.attributeName⟩

/-- Attributes of models are words. -/
theorem isWord_of_derive {options : Options} {definitions : List (String × Types.Definition)}
    {table : Table} {contracts : Contracts} (builds : Table.build options definitions = .ok table)
    (derives : (Contract.derive table).outcome.1 = .ok contracts) :
    ∀ c, .record c ∈ contracts → ∀ f ∈ c.fields, IsWord f.attributeName := by
  intro c mem f own
  obtain ⟨name, same⟩ := exists_attributeName builds derives c mem f own
  rw [same]
  exact Naming.isWord_attributeName name

/-- **Names never clash.** Whatever table a document has: its models and named enumerations have one
class each, and each model three functions. These names are distinct, and none of them is reserved;
the numbering of each of them ends, at the first variant that is free. The text of the module, if it
can be written, binds reserved names only by its imports, then each given name once, and last the
list of exports, which has all of them. So a given name is defined once exactly unless it is the
name of that list; and that is given exactly if a model or a named enumeration is called so. -/
theorem defined_once_iff {document : Value} {requested : Option String} {source : String}
    {graph : Schema.Graph} {options : Options} {definitions : List (String × Types.Definition)}
    {table : Table}
    (keys : ∀ container entries, Schema.findContainer document = .ok (container, entries) →
      (entries.map Prod.fst).Nodup)
    (loads : (Schema.Graph.ofDocument document requested source).outcome.1 = .ok graph)
    (resolves : (Types.resolve graph).outcome.1 = .ok definitions)
    (builds : Table.build options definitions = .ok table) :
    let names := Names.ofTable table
    let called := table.enums.map NamedEnum.name ++ table.names
    (called.Nodup ∧ names.classes.map Prod.fst = called ∧ names.bases.map Prod.fst = table.names) ∧
      (names.given.Nodup ∧ ∀ name ∈ names.given, name ∉ reservedNames) ∧
      (∀ taken candidate,
        Naming.IsFirst (· ∉ taken) candidate (Naming.uniqueName candidate taken)) ∧
      (∀ taken base,
        Naming.IsFirst (Names.isFree taken · = true) base (Names.freeBase taken base)) ∧
      ("__all__" ∈ names.given ↔ "__all__" ∈ called) ∧
      ∀ contracts, (Contract.derive table).outcome.1 = .ok contracts → ∀ late comment text,
        moduleText late comment table contracts = .ok text →
          ∃ imported exports, boundNames text = imported ++ exports ++ ["__all__"] ∧
            (∀ name ∈ imported, name ∈ reservedNames) ∧ exports.Perm names.given ∧
            terminated (exportList exports) <:+ text.toList ∧
            ∀ name ∈ names.given, (boundNames text).count name = 1 ↔ name ≠ "__all__" := by
  have distinct := Table.called_nodup keys loads resolves builds
  have sound := Names.Sound.ofTable table
  obtain ⟨given, apart⟩ := sound.given_nodup
  refine ⟨⟨distinct, Names.classes_ofTable table, Names.bases_ofTable table⟩, ⟨given, apart⟩,
    fun taken candidate => Naming.uniqueName_isFirst candidate taken,
    fun taken base => Names.freeBase_isFirst taken base, Names.listName_mem_given_iff table,
    fun contracts derives late comment text written => ?_⟩
  obtain ⟨imported, exports, bound, reserved, perm, ends⟩ :=
    moduleText_binds (isWord_of_derive builds derives) distinct text written
  refine ⟨imported, exports, bound, reserved, perm, ends, fun name mem => ?_⟩
  rw [bound, count_bound reserved perm mem]
  by_cases list : name = "__all__" <;> simp [list]

/-- A document whose module is written and passes some check, if that can be computed. -/
theorem exists_text (document : Value) (source : String) {p : Table → Contracts → String → Bool}
    (written : (Table.ofDocument? document none source {}).any (fun built =>
      (Contract.derive built.2.2).outcome.1.toOption.any fun contracts =>
        (moduleText true "" built.2.2 contracts).toOption.any (p built.2.2 contracts)) = true) :
    ∃ graph definitions table contracts text,
      (Schema.Graph.ofDocument document none source).outcome.1 = .ok graph ∧
      (Types.resolve graph).outcome.1 = .ok definitions ∧
      Table.build {} definitions = .ok table ∧
      (Contract.derive table).outcome.1 = .ok contracts ∧
      moduleText true "" table contracts = .ok text ∧ p table contracts text = true := by
  obtain ⟨⟨graph, definitions, table⟩, found, written⟩ := (Option.any_eq_true _ _).mp written
  obtain ⟨contracts, derived, written⟩ := (Option.any_eq_true _ _).mp written
  obtain ⟨text, written, holds⟩ := (Option.any_eq_true _ _).mp written
  obtain ⟨loads, resolves, builds⟩ := Table.ofDocument?_eq_some found
  exact ⟨graph, definitions, table, contracts, text, loads, resolves, builds,
    toOption_eq_some.mp derived, toOption_eq_some.mp written, holds⟩

/-- A schema of an object with one property. -/
def recordSchema : Value :=
  .ofFields [("type", .str "object"),
    ("properties", .ofFields [("x", .ofFields [("type", .str "string")])])]

/-- Models whose names clash with an import, with a numbered name, and in lower case. -/
def clashingDocument : Value :=
  .ofFields [("definitions", .ofFields [("Any", recordSchema), ("Any2", recordSchema),
    ("any2", recordSchema),
    ("Mood", .ofFields [("type", .str "string"), ("enum", .ofTexts ["calm"])])])]

/-- All of them are defined once, under numbered names. -/
theorem clashing_defined_once :
    (∀ container entries, Schema.findContainer clashingDocument = .ok (container, entries) →
      (entries.map Prod.fst).Nodup) ∧
    ∃ graph definitions table contracts text,
      (Schema.Graph.ofDocument clashingDocument none "clashes").outcome.1 = .ok graph ∧
      (Types.resolve graph).outcome.1 = .ok definitions ∧
      Table.build {} definitions = .ok table ∧
      (Contract.derive table).outcome.1 = .ok contracts ∧
      moduleText true "" table contracts = .ok text ∧
      (Names.ofTable table).given = ["Mood", "Any2", "Any22", "any2", "is_any2", "any2_from_dict",
        "any2_to_dict", "is_any22", "any22_from_dict", "any22_to_dict", "is_any23",
        "any23_from_dict", "any23_to_dict"] ∧
      ∀ name ∈ (Names.ofTable table).given, (boundNames text).count name = 1 := by
  have json : clashingDocument.isJson = true := by decide +kernel
  have keys : ∀ container entries,
      Schema.findContainer clashingDocument = .ok (container, entries) →
        (entries.map Prod.fst).Nodup := fun _ _ found =>
    Value.keys_nodup_of_isJson (Schema.isJson_of_findContainer json found)
  obtain ⟨graph, definitions, table, contracts, text, loads, resolves, builds, derives, written,
    given⟩ := exists_text clashingDocument "clashes"
      (p := fun table _ _ => (Names.ofTable table).given == ["Mood", "Any2", "Any22", "any2",
        "is_any2", "any2_from_dict", "any2_to_dict", "is_any22", "any22_from_dict",
        "any22_to_dict", "is_any23", "any23_from_dict", "any23_to_dict"]) (by decide +kernel)
  have given := beq_iff_eq.mp given
  obtain ⟨-, -, -, -, -, modules⟩ := defined_once_iff keys loads resolves builds
  obtain ⟨imported, exports, -, -, -, -, once⟩ := modules contracts derives true "" text written
  refine ⟨keys, graph, definitions, table, contracts, text, loads, resolves, builds, derives,
    written, given, fun name mem => (once name mem).mpr ?_⟩
  rintro rfl
  rw [given] at mem
  exact absurd mem (by decide)

/-- A model that is called like the list of exports. -/
def hidingDocument : Value := .ofFields [("definitions", .ofFields [("__all__", recordSchema)])]

/-- The class of the model is defined, and then the list of exports in its place. -/
theorem class_is_hidden : ∃ graph definitions table contracts text,
    (Schema.Graph.ofDocument hidingDocument none "hidden").outcome.1 = .ok graph ∧
    (Types.resolve graph).outcome.1 = .ok definitions ∧
    Table.build {} definitions = .ok table ∧
    (Contract.derive table).outcome.1 = .ok contracts ∧
    moduleText true "" table contracts = .ok text ∧
    "__all__" ∈ (Names.ofTable table).given ∧ (boundNames text).count "__all__" = 2 := by
  have json : hidingDocument.isJson = true := by decide +kernel
  obtain ⟨graph, definitions, table, contracts, text, loads, resolves, builds, derives, written,
    given⟩ := exists_text hidingDocument "hidden"
      (p := fun table _ _ => (Names.ofTable table).given.contains "__all__") (by decide +kernel)
  have distinct := Table.called_nodup (fun _ _ found =>
    Value.keys_nodup_of_isJson (Schema.isJson_of_findContainer json found)) loads resolves builds
  have mem := List.contains_iff_mem.mp given
  obtain ⟨imported, exports, bound, reserved, perm, -⟩ :=
    moduleText_binds (isWord_of_derive builds derives) distinct text written
  refine ⟨graph, definitions, table, contracts, text, loads, resolves, builds, derives, written,
    mem, ?_⟩
  rw [bound, count_bound reserved perm mem, if_pos rfl]

end Emit
end WireModel
