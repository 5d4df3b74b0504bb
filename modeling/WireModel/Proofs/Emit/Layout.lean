import WireModel.Emit.Module
import WireModel.Proofs.Success

/-!
# The lines of a generated module

A module is made of sections: its header, the blocks of its models and the list of its exports. Its
text is the lines of the sections, each with a newline, and two empty lines between sections.

* **`moduleText_eq`**: a module is laid out from its aliases and its blocks alone.
* **`toList_layOut`**: its characters are those of its lines.
-/

namespace WireModel.Emit

/-! ## Sections -/

/-- The aliases of the named enumerations of a table. -/
def aliasesOf (table : Table) : Except Fault (List (String × String)) :=
  table.enums.mapM (enumAlias (Names.ofTable table))

/-- The block of a model with fields; unions have none here. -/
def recordBlock? (names : Names) (late : Bool) (contracts : Contracts) :
    Model → Except Fault (Option Block)
  | .record r => do return some (← recordBlock names late r (← recordContract contracts r.name))
  | .union _ => pure none

/-- The block of a union; models with fields have none here. -/
def unionBlock? (names : Names) (late : Bool) (contracts : Contracts) :
    Model → Except Fault (Option Block)
  | .record _ => pure none
  | .union u => do return some (← unionBlock names late u (← unionContract contracts u.name))

/-- The blocks of a module: those of models with fields come first. -/
def blocksOf (late : Bool) (table : Table) (contracts : Contracts) : Except Fault (List Block) := do
  let records ← table.models.filterMapM (recordBlock? (Names.ofTable table) late contracts)
  let unions ← table.models.filterMapM (unionBlock? (Names.ofTable table) late contracts)
  return records ++ unions

/-- The names that a module exports. -/
def exportsOf (aliases : List (String × String)) (blocks : List Block) : List String :=
  aliases.map (·.1) ++ blocks.flatMap (·.exports)

/-- The header of the module of a table. -/
def headerOf (late : Bool) (comment : String) (table : Table) (aliases : List (String × String))
    (blocks : List Block) : List String :=
  header ((Text.lines comment.toList).map String.ofList) late (dataclassImports table)
    (typingImports (Names.ofTable table) table)
    (importOrder ("UNSET" :: blocks.flatMap (·.imports))) aliases

/-- The sections of the module of a table. -/
def sections (late : Bool) (comment : String) (table : Table) (aliases : List (String × String))
    (blocks : List Block) : List (List String) :=
  [headerOf late comment table aliases blocks] ++ blocks.map (·.lines) ++
    [exportList (exportsOf aliases blocks)]

/-- No section is empty if no block is. -/
theorem full_sections {late : Bool} {comment : String} {table : Table}
    {aliases : List (String × String)} {blocks : List Block} (full : ∀ b ∈ blocks, b.lines ≠ []) :
    ∀ lines ∈ sections late comment table aliases blocks, lines ≠ [] := by
  intro lines mem
  rw [sections, List.append_assoc, List.singleton_append, List.mem_cons, List.mem_append,
    List.mem_singleton] at mem
  rcases mem with rfl | mem | rfl
  · simp [headerOf, header]
  · obtain ⟨b, there, rfl⟩ := List.mem_map.mp mem
    exact full b there
  · simp [exportList]

/-- The text of sections. -/
def layOut (sections : List (List String)) : String :=
  String.intercalate "\n\n\n" (sections.map blockText) ++ "\n"

/-- **A module is laid out** from the aliases and the blocks of its table. -/
theorem moduleText_eq (late : Bool) (comment : String) (table : Table) (contracts : Contracts) :
    moduleText late comment table contracts = (do
      let aliases ← aliasesOf table
      let blocks ← blocksOf late table contracts
      return layOut (sections late comment table aliases blocks)) := by
  simp only [blocksOf, bind_assoc, pure_bind]
  rfl

theorem moduleText_eq_ok {late : Bool} {comment : String} {table : Table} {contracts : Contracts}
    {text : String} :
    moduleText late comment table contracts = .ok text ↔
      ∃ aliases blocks, aliasesOf table = .ok aliases ∧ blocksOf late table contracts = .ok blocks ∧
        layOut (sections late comment table aliases blocks) = text := by
  rw [moduleText_eq]
  constructor
  · intro h
    obtain ⟨aliases, named, h⟩ := bind_eq_ok.mp h
    obtain ⟨blocks, made, h⟩ := bind_eq_ok.mp h
    exact ⟨aliases, blocks, named, made, pure_eq_ok.mp h⟩
  · rintro ⟨aliases, blocks, named, made, same⟩
    exact bind_eq_ok.mpr ⟨aliases, named, bind_eq_ok.mpr ⟨blocks, made, pure_eq_ok.mpr same⟩⟩

/-- Each model with fields has its block in the module. -/
theorem exists_recordBlock {late : Bool} {table : Table} {contracts : Contracts}
    {blocks : List Block} (made : blocksOf late table contracts = .ok blocks) {r : RecordModel}
    (mem : .record r ∈ table.models) : ∃ c block, recordContract contracts r.name = .ok c ∧
      recordBlock (Names.ofTable table) late r c = .ok block ∧ block ∈ blocks := by
  obtain ⟨records, hrecords, made⟩ := bind_eq_ok.mp made
  obtain ⟨unions, -, made⟩ := bind_eq_ok.mp made
  cases made
  obtain ⟨os, all, rfl⟩ := filterMapM_eq_ok hrecords
  obtain ⟨o, there, own⟩ := exists_right_of_forall₂ all mem
  obtain ⟨c, found, own⟩ := bind_eq_ok.mp own
  obtain ⟨block, built, own⟩ := bind_eq_ok.mp own
  cases own
  exact ⟨c, block, found, built,
    List.mem_append_left _ (List.mem_filterMap.mpr ⟨_, there, rfl⟩)⟩

/-- The block of a model with fields has the lines of its docstring, if there is one, and of the
declarations of its fields. -/
theorem lines_of_recordBlock {names : Names} {late : Bool} {r : RecordModel} {c : RecordContract}
    {block : Block} (h : recordBlock names late r c = .ok block) :
    ∃ fields, (declarationOrder c.fields).mapM (fieldText names late r) = .ok fields ∧
      (docstring r.description ≠ "" →
        "    \"\"\"" ++ docstring r.description ++ "\"\"\"" ∈ block.lines) ∧
      ∀ line ∈ fields.flatMap declarationLines, line ∈ block.lines := by
  obtain ⟨className, -, h⟩ := bind_eq_ok.mp h
  obtain ⟨base, -, h⟩ := bind_eq_ok.mp h
  obtain ⟨fields, declared, h⟩ := bind_eq_ok.mp h
  obtain ⟨dispatch, -, h⟩ := bind_eq_ok.mp h
  obtain ⟨others, -, h⟩ := bind_eq_ok.mp h
  obtain ⟨decodes, -, h⟩ := bind_eq_ok.mp h
  obtain ⟨encodes, -, h⟩ := bind_eq_ok.mp h
  cases h
  refine ⟨fields, declared, fun described => ?_, fun line mem => ?_⟩
  · have full : (docstring r.description).isEmpty = false := by simpa using described
    simp [full]
  · simp only [List.mem_append, mem, true_or, or_true]

/-! ## Lines -/

/-- The lines of sections, with two empty lines between one and the next. -/
def spaced : List (List String) → List String
  | [] => []
  | [lines] => lines
  | lines :: next :: rest => lines ++ "" :: "" :: spaced (next :: rest)

/-- The characters of lines, each with a newline behind it. -/
def terminated (lines : List String) : List Char := lines.flatMap fun line => line.toList ++ ['\n']

theorem terminated_append (first second : List String) :
    terminated (first ++ second) = terminated first ++ terminated second := List.flatMap_append

theorem terminated_cons (line : String) (rest : List String) :
    terminated (line :: rest) = line.toList ++ '\n' :: terminated rest := by
  rw [terminated, List.flatMap_cons, List.append_assoc]
  rfl

/-- Sections end as the last of them does. -/
theorem terminated_suffix_spaced (sections : List (List String)) (last : List String) :
    terminated last <:+ terminated (spaced (sections ++ [last])) := by
  induction sections with
  | nil => exact List.suffix_refl _
  | cons lines rest ih =>
    obtain ⟨next, below, more⟩ := List.exists_cons_of_ne_nil
      (List.append_ne_nil_of_right_ne_nil rest (List.cons_ne_nil last []))
    rw [List.cons_append, more, spaced, terminated_append, terminated_cons, terminated_cons, ← more]
    obtain ⟨front, split⟩ := ih
    exact ⟨terminated lines ++ '\n' :: '\n' :: front, by rw [← split]; simp⟩

/-- Each section is a part of them. -/
theorem terminated_infix_spaced {lines : List String} : ∀ {sections : List (List String)},
    lines ∈ sections → terminated lines <:+: terminated (spaced sections)
  | [only], mem => by
    rw [List.mem_singleton.mp mem]
    exact List.infix_rfl
  | first :: next :: rest, mem => by
    rw [spaced, terminated_append]
    rcases List.mem_cons.mp mem with rfl | mem
    · exact (List.prefix_append _ _).isInfix
    · rw [terminated_cons, terminated_cons]
      obtain ⟨before, after, same⟩ := terminated_infix_spaced mem
      exact ⟨terminated first ++ '\n' :: '\n' :: before, after, by rw [← same]; simp⟩

theorem terminated_blockText {lines : List String} (some : lines ≠ []) :
    (blockText lines).toList ++ ['\n'] = terminated lines := by
  induction lines with
  | nil => exact absurd rfl some
  | cons line rest ih =>
    cases rest with
    | nil =>
      rw [blockText, String.toList_intercalate, terminated, List.flatMap_singleton]
      simp
    | cons next rest =>
      have rest := ih (List.cons_ne_nil _ _)
      rw [blockText, String.toList_intercalate, List.map_cons] at rest
      rw [blockText, String.toList_intercalate, List.map_cons, List.map_cons,
        List.intercalate_cons_cons, List.append_assoc, List.append_assoc, rest,
        terminated_cons line]
      rfl

/-- **The characters of a module** are those of its lines. -/
theorem toList_layOut {sections : List (List String)} (some : sections ≠ [])
    (full : ∀ lines ∈ sections, lines ≠ []) :
    (layOut sections).toList = terminated (spaced sections) := by
  rw [layOut, String.toList_append]
  change (String.intercalate "\n\n\n" (sections.map blockText)).toList ++ ['\n'] = _
  induction sections with
  | nil => exact absurd rfl some
  | cons lines rest ih =>
    have first := terminated_blockText (full lines List.mem_cons_self)
    cases rest with
    | nil =>
      rw [spaced, ← first, String.toList_intercalate]
      simp
    | cons next rest =>
      have rest := ih (List.cons_ne_nil _ _)
        fun lines mem => full lines (List.mem_cons_of_mem _ mem)
      rw [String.toList_intercalate, List.map_cons, List.map_cons] at rest
      rw [String.toList_intercalate, List.map_cons, List.map_cons, List.map_cons, List.map_cons,
        List.intercalate_cons_cons, List.append_assoc, rest, spaced, terminated_append, ← first]
      simp [terminated]

end WireModel.Emit
