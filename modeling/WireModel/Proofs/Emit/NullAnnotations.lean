import WireModel.Proofs.Emit.Alternatives
import WireModel.Proofs.Emit.Definitions

/-!
# Null in annotations

Fields, elements of lists and values of mappings that allow null are annotated so: null is among the
alternatives, unless they end with a class whose name ends like it.

* **`inside_of_part`**: the annotations of elements and values stand inside of those of the types
  that they are parts of.
* **`null_annotated_iff`**: what the classes of a module say about null.
-/

namespace WireModel

namespace Types.WireType

/-- What the elements of a list or the values of a mapping are. -/
def element? : WireType → Option WireType
  | .sequence t | .mapping t => some t
  | _ => none

end Types.WireType

namespace Emit

open Types (WireType)

/-! ## Types -/

/-- The annotation of a type is the one without its wrappers, with null if they allow it. -/
theorem annotate_strip {names : Names} : ∀ {t : WireType} {hint : String},
    annotate names t = .ok hint → ∃ base, annotate names t.strip = .ok base ∧
      hint = if t.isNullable then orNull base else base
  | .optional inner, hint, h => annotate_strip (t := inner) h
  | .nullable inner, hint, h => by
    obtain ⟨within, here, h⟩ := bind_eq_ok.mp h
    cases h
    obtain ⟨base, stripped, rfl⟩ := annotate_strip here
    refine ⟨base, stripped, ?_⟩
    rw [if_pos (show (WireType.nullable inner).isNullable = true from rfl)]
    -- null is added once
    cases inner.isNullable with
    | true => rw [if_pos rfl, orNull, if_pos (endsInNull_orNull base)]
    | false => rfl
  | .primitive .., hint, h | .sequence _, hint, h | .mapping _, hint, h
  | .enum .., hint, h | .model _, hint, h | .union .., hint, h =>
    ⟨hint, h, rfl⟩

theorem Inside.mono {inner outer wider : String} (h : Inside inner outer)
    (more : alternatives outer ⊆ alternatives wider) : Inside inner wider := by
  induction h with
  | list mem => exact .list (more mem)
  | mapping mem => exact .mapping (more mem)
  | deeper here _ _ ih => exact .deeper here (ih more)

theorem exists_of_annotateAll {names : Names} {ts : List WireType} {parts : List String}
    (h : annotateAll names ts = .ok parts) :
    ∀ t ∈ ts, ∃ part ∈ parts, annotate names t = .ok part := by
  induction ts generalizing parts with
  | nil => exact List.forall_mem_nil _
  | cons u rest ih =>
    obtain ⟨part, here, h⟩ := bind_eq_ok.mp h
    obtain ⟨others, there, h⟩ := bind_eq_ok.mp h
    cases h
    refine List.forall_mem_cons.mpr ⟨⟨part, List.mem_cons_self, here⟩, fun t mem => ?_⟩
    obtain ⟨part, mem, here⟩ := ih there t mem
    exact ⟨part, List.mem_cons_of_mem _ mem, here⟩

/-- The only alternative of a list is that itself, and its elements stand inside. -/
theorem Inside.of_list {names : Names} (words : names.AreWords) {inner : String}
    (here : Alternates names inner) : Inside inner ("list[" ++ inner ++ "]") := by
  refine .list ?_
  rw [(Alternates.of_piece words (.list (here.enclosable words))).1]
  exact List.mem_cons_self

/-- So it is with a mapping and its values. -/
theorem Inside.of_mapping {names : Names} (words : names.AreWords) {inner : String}
    (here : Alternates names inner) : Inside inner ("dict[str, " ++ inner ++ "]") := by
  refine .mapping ?_
  rw [(Alternates.of_piece words (.mapping (here.enclosable words))).1]
  exact List.mem_cons_self

/-- **The annotation of elements** stands inside of those of all types that their container is a
part of. -/
theorem inside_of_part {names : Names} (words : names.AreWords) {container e t : WireType}
    (part : container.Part t) (elements : container.element? = some e) {hint : String}
    (h : annotate names t = .ok hint) :
    ∃ element, annotate names e = .ok element ∧ Inside element hint := by
  induction part generalizing hint with
  | refl =>
    cases container with
    | sequence t =>
      cases elements
      obtain ⟨inner, here, h⟩ := bind_eq_ok.mp h
      cases h
      exact ⟨inner, here, .of_list words (annotate_alternates words e inner here)⟩
    | mapping t =>
      cases elements
      obtain ⟨inner, here, h⟩ := bind_eq_ok.mp h
      cases h
      exact ⟨inner, here, .of_mapping words (annotate_alternates words e inner here)⟩
    | _ => cases elements
  | @optional t _ ih => exact ih h
  | @nullable t _ ih =>
    obtain ⟨inner, here, h⟩ := bind_eq_ok.mp h
    cases h
    obtain ⟨element, told, inside⟩ := ih here
    exact ⟨element, told, inside.mono ((annotate_alternates words t inner here).orNull words).1⟩
  | @sequence t _ ih =>
    obtain ⟨inner, here, h⟩ := bind_eq_ok.mp h
    cases h
    obtain ⟨element, told, inside⟩ := ih here
    have whole : Inside inner _ := .of_list words (annotate_alternates words t inner here)
    exact ⟨element, told, .deeper inside whole⟩
  | @mapping t _ ih =>
    obtain ⟨inner, here, h⟩ := bind_eq_ok.mp h
    cases h
    obtain ⟨element, told, inside⟩ := ih here
    have whole : Inside inner _ := .of_mapping words (annotate_alternates words t inner here)
    exact ⟨element, told, .deeper inside whole⟩
  | @variant name mode discriminator variants t mem _ ih =>
    obtain ⟨parts, all, h⟩ := bind_eq_ok.mp h
    cases h
    obtain ⟨inner, there, here⟩ := exists_of_annotateAll all t mem
    obtain ⟨element, told, inside⟩ := ih here
    have alternate := annotateAll_alternates words variants parts all
    refine ⟨element, told, inside.mono ?_⟩
    exact (Alternates.union words fun s mem => alternate s (List.mem_eraseDups.mp mem)).1 inner
      (List.mem_eraseDups.mpr there)

/-! ## Fields -/

/-- What stands behind the annotation of the type of a field leaves its alternatives, and makes none
of them null. -/
theorem alternatives_unless_required {names : Names} (words : names.AreWords) {hint : String}
    (h : Alternates names hint) (required : Bool) :
    alternatives hint ⊆ alternatives (hint ++ if required then "" else " | Unset") ∧
      ("None" ∈ alternatives (hint ++ if required then "" else " | Unset") ↔
        "None" ∈ alternatives hint) := by
  cases required with
  | true =>
    rw [if_pos rfl, String.append_empty]
    exact ⟨fun _ mem => mem, Iff.rfl⟩
  | false =>
    have joined : " | Unset" = " | " ++ "Unset" := by decide
    rw [if_neg nofun, joined, ← String.append_assoc, (h.append words .unset).1]
    refine ⟨List.subset_append_left _ _, ?_⟩
    rw [List.mem_append, List.mem_singleton]
    exact or_iff_left (by decide)

/-- All elements and values of a type that allow null are annotated so inside of an annotation,
except where null is lost. -/
def TellsNullInside (names : Names) (t : WireType) (hint : String) : Prop :=
  ∀ container e : WireType, container.Part t → container.element? = some e → e.isNullable = true →
    ∃ base, annotate names e.strip = .ok base ∧ annotate names e = .ok (orNull base) ∧
      Inside (orNull base) hint ∧
      ("None" ∈ alternatives (orNull base) ↔ ¬LosesNull names base)

theorem tellsNullInside {names : Names} (words : names.AreWords) {t : WireType}
    {hint : String} (h : annotate names t = .ok hint) :
    TellsNullInside names t hint := by
  intro container e part elements nullable
  obtain ⟨element, told, inside⟩ := inside_of_part words part elements h
  obtain ⟨base, stripped, rfl⟩ := annotate_strip told
  rw [if_pos nullable] at told inside
  exact ⟨base, stripped, told, inside,
    mem_alternatives_orNull_iff words (annotate_alternates words e.strip base stripped)⟩

/-- What a declaration says about null. -/
structure TellsNull (names : Names) (f : Field) (base hint : String) : Prop where
  written : hint =
    (if f.nullable then orNull base else base) ++ if f.required then "" else " | Unset"
  field : f.nullable = true → ("None" ∈ alternatives hint ↔ ¬LosesNull names base)
  inside : TellsNullInside names f.type hint

/-- The declaration of a field tells whether it allows null. -/
theorem declaration_tellsNull {names : Names} (words : names.AreWords) {table : Table} {late : Bool}
    {f : Field} {c : FieldContract} (describes : FieldContract.Describes table f c) :
    Yields (declaration names late f c) fun line => ∃ base hint default,
      annotate names f.type = .ok base ∧ defaultExpr c = .ok default ∧
      TellsNull names f base hint ∧
      line = f.attributeName ++ ": " ++ placed late hint ++
        default.elim "" fun expr => " = " ++ expr := by
  intro line declared
  obtain ⟨base, default, annotated, told, rfl⟩ := declaration_reads line declared
  have here : Alternates names base := annotate_alternates words f.type base annotated
  obtain ⟨wider, whole⟩ := here.orNull words
  have allowed : Alternates names (if f.nullable then orNull base else base) := by
    split
    · exact whole
    · exact here
  -- all that the annotation of the type offers is still offered where null or unset is
  have kept : alternatives base ⊆ alternatives (if f.nullable then orNull base else base) := by
    split
    · exact wider
    · exact fun _ mem => mem
  obtain ⟨more, null⟩ := alternatives_unless_required words allowed f.required
  refine ⟨base, fieldHint c base, default, annotated, told, ?_, ?_⟩
  · rw [fieldHint, describes.1.nullable, describes.1.required]
    refine ⟨rfl, fun nullable => ?_, fun container e part elements nullable => ?_⟩
    · rw [null, if_pos nullable]
      exact mem_alternatives_orNull_iff words here
    · obtain ⟨inner, stripped, told, inside, iff⟩ :=
        tellsNullInside words annotated container e part elements nullable
      exact ⟨inner, stripped, told, inside.mono (List.Subset.trans kept more), iff⟩
  · rw [describes.1.attributeName]

/-! ## Modules -/

/-- The lines of a block stand in the module. -/
theorem block_in_module {late : Bool} {comment : String} {table : Table} {contracts : Contracts}
    (attributes : ∀ c, .record c ∈ contracts → ∀ f ∈ c.fields, IsWord f.attributeName)
    {aliases : List (String × String)} {blocks : List Block}
    (made : blocksOf late table contracts = .ok blocks) {block : Block} (mem : block ∈ blocks) :
    terminated block.lines <:+: (layOut (sections late comment table aliases blocks)).toList := by
  obtain ⟨reads, -⟩ := blocksOf_reads attributes blocks made
  rw [toList_layOut (by simp [sections]) (full_sections fun b mem => (reads b mem).full)]
  refine terminated_infix_spaced (List.mem_append_left _ (List.mem_append_right _ ?_))
  exact List.mem_map_of_mem mem

/-- A record has a contract whose fields describe its own. -/
theorem fields_described {table : Table} {contracts : Contracts} (distinct : table.names.Nodup)
    (derives : (Contract.derive table).outcome.1 = .ok contracts) {r : RecordModel}
    (mem : .record r ∈ table.models) {c : RecordContract}
    (found : recordContract contracts r.name = .ok c) :
    List.Forall₂ (FieldContract.Describes table) r.fields c.fields := by
  obtain ⟨c', there, made⟩ :=
    Contract.exists_get?_of_derive distinct (Logged.gives_of_outcome derives) mem
  obtain ⟨c'', rfl, -, described⟩ := Contract.ofModel_record made
  have known : contracts.get? r.name = some (.record c'') := there
  rw [recordContract_eq known] at found
  cases found
  exact described

/-- **Null is annotated unless a class hides it.** In every module that is written for a table that
a document has, the block of a record has a line for each of its fields with an annotation. If the
field allows null, then null is among the alternatives of the annotation exactly unless the type of
the field ends with a class whose name ends like null, and has no null itself. Inside of the
annotation stand those of all elements of lists and values of mappings, and for each of them that
allows null the same holds. -/
theorem null_annotated_iff {document : Value} {requested : Option String} {source : String}
    {graph : Schema.Graph} {options : Options} {definitions : List (String × Types.Definition)}
    {table : Table} {contracts : Contracts}
    (keys : ∀ container entries, Schema.findContainer document = .ok (container, entries) →
      (entries.map Prod.fst).Nodup)
    (loads : (Schema.Graph.ofDocument document requested source).outcome.1 = .ok graph)
    (resolves : (Types.resolve graph).outcome.1 = .ok definitions)
    (builds : Table.build options definitions = .ok table)
    (derives : (Contract.derive table).outcome.1 = .ok contracts) :
    let names := Names.ofTable table
    ∀ late comment text, moduleText late comment table contracts = .ok text →
      ∀ r, .record r ∈ table.models → ∃ c block, recordContract contracts r.name = .ok c ∧
        recordBlock names late r c = .ok block ∧ terminated block.lines <:+: text.toList ∧
        ∀ f ∈ r.fields, ∃ g ∈ c.fields, ∃ base hint default,
          FieldContract.Describes table f g ∧ annotate names f.type = .ok base ∧
          defaultExpr g = .ok default ∧ TellsNull names f base hint ∧
          "    " ++ (f.attributeName ++ ": " ++ placed late hint ++
            default.elim "" fun expr => " = " ++ expr) ∈ block.lines := by
  intro names late comment text written r mem
  have words : names.AreWords := (Names.Sound.ofTable table).areWords
  obtain ⟨aliases, blocks, named, made, rfl⟩ := moduleText_eq_ok.mp written
  obtain ⟨c, block, found, built, there⟩ := exists_recordBlock made mem
  refine ⟨c, block, found, built, block_in_module (isWord_of_derive builds derives) made there, ?_⟩
  have distinct := (List.nodup_append.mp (Table.called_nodup keys loads resolves builds)).2.1
  have described := fields_described distinct derives mem found
  intro f own
  obtain ⟨g, mine, describes⟩ := exists_right_of_forall₂ described own
  obtain ⟨f', line, first, declared, there⟩ := recordBlock_declares block built g mine
  -- no other field has this key in the wire form
  have same : f' = f := by
    refine List.inj_on_of_nodup_map ((Table.build_wellFormed builds).wireNames mem)
      (List.mem_of_find?_eq_some first) own ?_
    have key : (f'.wireName == g.wireName) = true := by simpa using List.find?_some first
    rw [← describes.1.wireName]
    exact beq_iff_eq.mp key
  rw [same] at declared
  obtain ⟨base, hint, default, annotated, told, tells, rfl⟩ :=
    declaration_tellsNull words describes line declared
  exact ⟨g, mine, base, hint, default, describes, annotated, told, tells, there⟩

/-- Answers to two questions: one that may be null, and a list of such ones. -/
def answersSchema (one element : Value) : Value :=
  .ofFields [("type", .str "object"), ("properties", .ofFields [("a", one),
    ("b", .ofFields [("type", .str "array"), ("items", element)])])]

/-- The type of the first field of a record and that of the elements of the second one, if both
allow null. -/
def answerTypes (r : RecordModel) : Option (WireType × WireType) :=
  match r.fields with
  | [⟨_, _, t, _, true, _, _⟩, ⟨_, _, .sequence e, _, _, _, _⟩] =>
    if e.isNullable then some (t, e) else none
  | _ => none

theorem answerTypes_eq_some {r : RecordModel} {t e : WireType} (h : answerTypes r = some (t, e)) :
    ∃ f g, r.fields = [f, g] ∧ f.nullable = true ∧ f.type = t ∧ g.type = .sequence e ∧
      e.isNullable = true := by
  unfold answerTypes at h
  split at h
  · rename_i fields
    split at h
    · rename_i nullable
      cases h
      exact ⟨_, _, fields, rfl, rfl, rfl, nullable⟩
    · cases h
  · cases h

/-- Answers that are texts or null. -/
def textsDocument : Value := .ofFields [("definitions", .ofFields [("Q", answersSchema text text)])]
where
  text : Value := .ofFields [("type", .str "string"), ("nullable", .bool true)]

/-- Null is among the alternatives for the first answer, and for each answer in the list. -/
theorem texts_admit_null :
    (∀ container entries, Schema.findContainer textsDocument = .ok (container, entries) →
      (entries.map Prod.fst).Nodup) ∧
    ∃ graph definitions table contracts text r c f g block first second,
      (Schema.Graph.ofDocument textsDocument none "texts").outcome.1 = .ok graph ∧
      (Types.resolve graph).outcome.1 = .ok definitions ∧
      Table.build {} definitions = .ok table ∧
      (Contract.derive table).outcome.1 = .ok contracts ∧
      moduleText true "" table contracts = .ok text ∧
      recordBlock (Names.ofTable table) true r c = .ok block ∧
      terminated block.lines <:+: text.toList ∧ r.fields = [f, g] ∧
      (∃ default, "    " ++ (f.attributeName ++ ": " ++ first ++ default) ∈ block.lines) ∧
      "None" ∈ alternatives first ∧
      (∃ default, "    " ++ (g.attributeName ++ ": " ++ second ++ default) ∈ block.lines) ∧
      Inside "str | None" second ∧ "None" ∈ alternatives "str | None" := by
  have json : textsDocument.isJson = true := by decide +kernel
  have keys : ∀ container entries, Schema.findContainer textsDocument = .ok (container, entries) →
      (entries.map Prod.fst).Nodup := fun _ _ found =>
    Value.keys_nodup_of_isJson (Schema.isJson_of_findContainer json found)
  obtain ⟨graph, definitions, table, contracts, text, loads, resolves, builds, derives, written,
    found⟩ := exists_text textsDocument "texts" (p := fun table _ _ =>
      (table.record? "Q").any fun r => (answerTypes r).any fun (t, e) =>
        (annotate (Names.ofTable table) t).toOption == some "str" &&
        (annotate (Names.ofTable table) e.strip).toOption == some "str") (by decide +kernel)
  simp only [Option.any_eq_true, Bool.and_eq_true, beq_iff_eq, Prod.exists, toOption_eq_some]
    at found
  obtain ⟨r, known, t, e, types, one, each⟩ := found
  obtain ⟨f, g, fields, nullable, rfl, list, allowed⟩ := answerTypes_eq_some types
  have kept : ¬LosesNull (Names.ofTable table) "str" := by
    rintro ⟨-, entry, -, last, ends⟩
    have alone : (alternatives "str").getLast? = some "str" := by decide +kernel
    rw [← Option.some.inj (alone.symm.trans last)] at ends
    exact absurd ends (by decide)
  obtain ⟨c, block, -, built, inModule, declares⟩ := null_annotated_iff keys loads resolves builds
    derives true "" text written r (Table.record_mem known)
  obtain ⟨-, -, base, first, default, -, annotated, -, tells, line⟩ :=
    declares f (by simp [fields])
  obtain ⟨-, -, listed, second, default', -, -, -, tells', line'⟩ := declares g (by simp [fields])
  rw [one] at annotated
  cases annotated
  obtain ⟨base, stripped, -, inside, admits⟩ := tells'.inside (.sequence e) e (list ▸ .refl) rfl allowed
  rw [each] at stripped
  cases stripped
  have joined : orNull "str" = "str | None" := by decide
  rw [joined] at inside admits
  exact ⟨keys, graph, definitions, table, contracts, text, r, c, f, g, block, first, second, loads,
    resolves, builds, derives, written, built, inModule, fields, ⟨_, line⟩,
    (tells.field nullable).mpr kept, ⟨_, line'⟩, inside, admits.mpr kept⟩

/-- A form with a model whose name ends like null. -/
def hidingNullDocument : Value := .ofFields [("definitions", .ofFields [
  ("AnswerNone", .ofFields [("type", .str "object")]),
  ("Q", answersSchema (.ofFields [("oneOf", .list [answer, .ofFields [("type", .str "null")]])])
    (.ofFields [("allOf", .list [answer]), ("nullable", .bool true)]))])]
where
  answer : Value := .ofFields [("$ref", .str "#/definitions/AnswerNone")]

/-- **A class hides null.** -/
theorem class_hides_null : ∃ graph definitions table contracts text r c f g e block,
    (Schema.Graph.ofDocument hidingNullDocument none "answers").outcome.1 = .ok graph ∧
    (Types.resolve graph).outcome.1 = .ok definitions ∧
    Table.build {} definitions = .ok table ∧
    (Contract.derive table).outcome.1 = .ok contracts ∧
    moduleText true "" table contracts = .ok text ∧
    table.record? "Q" = some r ∧ recordContract contracts "Q" = .ok c ∧
    recordBlock (Names.ofTable table) true r c = .ok block ∧
    r.fields = [f, g] ∧ f.nullable = true ∧ g.type = .sequence e ∧ e.isNullable = true ∧
    "    a: AnswerNone | Unset = UNSET" ∈ block.lines ∧
    "None" ∉ alternatives "AnswerNone | Unset" ∧
    "    b: list[AnswerNone] | Unset = UNSET" ∈ block.lines ∧
    Inside "AnswerNone" "list[AnswerNone] | Unset" ∧ "None" ∉ alternatives "AnswerNone" := by
  obtain ⟨graph, definitions, table, contracts, text, loads, resolves, builds, derives, written,
    found⟩ := exists_text hidingNullDocument "answers" (p := fun table contracts _ =>
      (table.record? "Q").any fun r => (answerTypes r).any fun _ =>
        (recordContract contracts "Q").toOption.any fun c =>
          (recordBlock (Names.ofTable table) true r c).toOption.any fun block =>
            block.lines.contains "    a: AnswerNone | Unset = UNSET" &&
            block.lines.contains "    b: list[AnswerNone] | Unset = UNSET") (by decide +kernel)
  simp only [Option.any_eq_true, Bool.and_eq_true, List.contains_iff_mem, Prod.exists,
    toOption_eq_some] at found
  obtain ⟨r, known, t, e, types, c, contract, block, built, first, second⟩ := found
  obtain ⟨f, g, fields, nullable, -, list, allowed⟩ := answerTypes_eq_some types
  exact ⟨graph, definitions, table, contracts, text, r, c, f, g, e, block, loads, resolves, builds,
    derives, written, known, contract, built, fields, nullable, list, allowed, first,
    by decide +kernel, second, .list (by decide +kernel), by decide +kernel⟩

end Emit
end WireModel
