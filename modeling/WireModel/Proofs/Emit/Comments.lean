import Mathlib.Data.Option.Basic
import WireModel.Proofs.Emit.Docstrings
import WireModel.Proofs.Emit.Layout
import WireModel.Proofs.Generation
import WireModel.Proofs.Table.Descriptions
import WireModel.Proofs.Text.Lines

/-!
# Free text stays in comments

The command line and the descriptions of fields are cut at every line separator and written behind
number signs. So they are in lines that start with one, and in no others.

* **`cut`**: the lines of a text with their ends, whatever characters end them.
* **`withoutComments`**: the text without the lines that start with a number sign.
* **`moduleText_agrees`**: so much of a module does not depend on the comment and the descriptions.
-/

namespace WireModel

open Text (endsLine isBlank)

/-! ## Results that agree -/

/-- Two results that are both faults, the same one, or values that are related. -/
inductive Agree {ε α β : Type} (R : α → β → Prop) : Except ε α → Except ε β → Prop
  | ok {a b} : R a b → Agree R (.ok a) (.ok b)
  | error {fault} : Agree R (.error fault) (.error fault)

namespace Agree

variable {ε α β γ δ : Type} {R : α → β → Prop} {S : γ → δ → Prop}

/-- A result that is the same on both sides. -/
theorem same_of {R : α → α → Prop} {x : Except ε α} (refl : ∀ a, x = .ok a → R a a) :
    Agree R x x := by
  cases x with
  | error fault => exact .error
  | ok a => exact .ok (refl a rfl)

theorem bind {x : Except ε α} {y : Except ε β} {f : α → Except ε γ} {g : β → Except ε δ}
    (h : Agree R x y) (next : ∀ a b, R a b → Agree S (f a) (g b)) :
    Agree S (x >>= f) (y >>= g) := by
  cases h with
  | ok related => exact next _ _ related
  | error => exact .error

/-- A step that is the same on both sides. -/
theorem bind_same {x : Except ε α} {f : α → Except ε γ} {g : α → Except ε δ}
    (next : ∀ a, Agree S (f a) (g a)) : Agree S (x >>= f) (x >>= g) := by
  cases x with
  | error fault => exact .error
  | ok a => exact next a

theorem imp {R' : α → β → Prop} {x : Except ε α} {y : Except ε β} (h : Agree R x y)
    (weaker : ∀ a b, R a b → R' a b) : Agree R' x y := by
  cases h with
  | ok related => exact .ok (weaker _ _ related)
  | error => exact .error

theorem map_eq {x : Except ε α} {y : Except ε β} {f : α → γ} {g : β → γ} (h : Agree R x y)
    (same : ∀ a b, R a b → f a = g b) : x.map f = y.map g := by
  cases h with
  | ok related => exact congrArg Except.ok (same _ _ related)
  | error => rfl

theorem mapM {P : γ → δ → Prop} {f : γ → Except ε α} {g : δ → Except ε β} {cs : List γ}
    {ds : List δ} (h : List.Forall₂ P cs ds) (each : ∀ c d, P c d → Agree R (f c) (g d)) :
    Agree (List.Forall₂ R) (cs.mapM f) (ds.mapM g) := by
  induction h with
  | nil => exact .ok .nil
  | cons first _ ih =>
    rw [List.mapM_cons, List.mapM_cons]
    exact (each _ _ first).bind fun a b here => ih.bind fun as bs rest => .ok (.cons here rest)

theorem filterMapM {P : γ → δ → Prop} {f : γ → Except ε (Option α)} {g : δ → Except ε (Option β)}
    {cs : List γ} {ds : List δ} (h : List.Forall₂ P cs ds)
    (each : ∀ c d, P c d → Agree (Option.Rel R) (f c) (g d)) :
    Agree (List.Forall₂ R) (cs.filterMapM f) (ds.filterMapM g) := by
  induction h with
  | nil => exact .ok .nil
  | cons first _ ih =>
    rw [List.filterMapM_cons, List.filterMapM_cons]
    refine (each _ _ first).bind fun a b here => ?_
    cases here with
    | none => exact ih
    | some here => exact ih.bind fun as bs rest => .ok (.cons here rest)

end Agree

namespace Emit

/-! ## Lines without comments -/

/-- The lines of a text with their ends. A newline behind a carriage return belongs to its line. -/
def cut (ends : Char → Bool) : List Char → List (List Char)
  | [] => []
  | c :: rest =>
    if ends c && !(c == '\r' && rest.head? == some '\n') then [c] :: cut ends rest
    else
      match cut ends rest with
      | [] => [[c]]
      | line :: lines => (c :: line) :: lines

/-- Whether the first character of a line that is no blank is a number sign. -/
def isComment (line : List Char) : Bool := (line.dropWhile isBlank).head? == some '#'

/-- A text without its comments. -/
def withoutComments (ends : Char → Bool) (cs : List Char) : List Char :=
  ((cut ends cs).filter fun line => !isComment line).flatten

theorem flatten_cut (ends : Char → Bool) (cs : List Char) : (cut ends cs).flatten = cs := by
  induction cs with
  | nil => rfl
  | cons c rest ih =>
    rw [cut]
    split
    · rw [List.flatten_cons, ih]
      rfl
    · cases lines : cut ends rest with
      | nil =>
        rw [lines] at ih
        rw [← ih]
        rfl
      | cons line lines' =>
        rw [lines, List.flatten_cons] at ih
        rw [← ih]
        rfl

section

variable {ends : Char → Bool}

/-- A newline always ends a line, so the text behind it is cut as if it were alone. -/
theorem cut_append (newline : ends '\n' = true) (a b : List Char) :
    cut ends (a ++ '\n' :: b) = cut ends (a ++ ['\n']) ++ cut ends b := by
  induction a with
  | nil => simp [cut, newline]
  | cons c a ih =>
    -- whether a carriage return ends its line depends on the next character, the same on both sides
    have head : (a ++ '\n' :: b).head? = (a ++ ['\n']).head? := by cases a <;> rfl
    rw [List.cons_append, List.cons_append, cut, cut, head]
    split
    · rw [ih, List.cons_append]
    · have some : cut ends (a ++ ['\n']) ≠ [] := by
        intro none
        have same := flatten_cut ends (a ++ ['\n'])
        rw [none] at same
        exact List.append_ne_nil_of_right_ne_nil a (by nofun) same.symm
      obtain ⟨line, lines, split⟩ := List.exists_cons_of_ne_nil some
      rw [ih, split]
      rfl

theorem withoutComments_append (newline : ends '\n' = true) (a b : List Char) :
    withoutComments ends (a ++ '\n' :: b) =
      withoutComments ends (a ++ ['\n']) ++ withoutComments ends b := by
  rw [withoutComments, cut_append newline, List.filter_append, List.flatten_append]
  rfl

/-- A line that nothing in it ends. -/
theorem cut_line (newline : ends '\n' = true) {a : List Char} (goes : ∀ c ∈ a, ends c = false) :
    cut ends (a ++ ['\n']) = [a ++ ['\n']] := by
  induction a with
  | nil => simp [cut, newline]
  | cons c a ih =>
    rw [List.cons_append, cut, goes c List.mem_cons_self, Bool.false_and, if_neg Bool.false_ne_true,
      ih fun d mem => goes d (List.mem_cons_of_mem c mem)]

/-! ## What is left of lines -/

/-- What is left of lines without their comments. -/
def shown (ends : Char → Bool) (lines : List String) : List Char :=
  lines.flatMap fun line => withoutComments ends (line.toList ++ ['\n'])

theorem shown_append (first second : List String) :
    shown ends (first ++ second) = shown ends first ++ shown ends second := List.flatMap_append

theorem withoutComments_terminated (newline : ends '\n' = true) (lines : List String) :
    withoutComments ends (terminated lines) = shown ends lines := by
  induction lines with
  | nil => rfl
  | cons line rest ih =>
    rw [terminated_cons, withoutComments_append newline, ih]
    rfl

/-- Nothing is left of a number sign and a text on one line. -/
theorem shown_comment (newline : ends '\n' = true)
    (lineEnds : ∀ c, ends c = true → endsLine c = true)
    (indent : String) (blank : ∀ c ∈ indent.toList, c = ' ') {comments : List String}
    (goes : ∀ comment ∈ comments, ∀ c ∈ comment.toList, endsLine c = false) :
    shown ends (comments.map fun comment => indent ++ "# " ++ comment) = [] := by
  rw [shown, List.flatMap_eq_nil_iff]
  intro line mem
  obtain ⟨comment, there, rfl⟩ := List.mem_map.mp mem
  have plain : ∀ c, endsLine c = false → ends c = false := fun c goes =>
    Bool.eq_false_iff.mpr fun stops => by
      rw [lineEnds c stops] at goes
      cases goes
  -- nothing in the line ends it, however lines are cut
  have line : ∀ c ∈ (indent ++ "# " ++ comment).toList, ends c = false := by
    intro c mem
    rw [String.toList_append, String.toList_append, List.mem_append, List.mem_append] at mem
    rcases mem with (mem | mem) | mem
    · exact plain c (by rw [blank c mem]; decide)
    · have sign : c = '#' ∨ c = ' ' := by simpa using mem
      rcases sign with rfl | rfl <;> exact plain _ (by decide)
    · exact plain c (goes comment there c mem)
  have marked : isComment ((indent ++ "# " ++ comment).toList ++ ['\n']) = true := by
    rw [isComment, String.toList_append, String.toList_append, List.append_assoc, List.append_assoc,
      List.dropWhile_append_of_pos fun c mem => by rw [blank c mem]; decide]
    rfl
  rw [withoutComments, cut_line newline line, List.filter_cons_of_neg (by rw [marked]; decide)]
  rfl

/-- Nothing is left of the comments of a field. -/
theorem commentLines_goes (description : Option String) :
    ∀ comment ∈ commentLines description, ∀ c ∈ comment.toList, endsLine c = false := by
  cases description with
  | none => nofun
  | some s =>
    intro comment mem c there
    obtain ⟨line, cut, rfl⟩ := List.mem_map.mp mem
    rw [String.toList_ofList] at there
    exact Text.goes_of_mem_linesFrom (fun _ mem => by cases mem) line cut c there

/-! ## Blocks -/

/-- What a block says about a field but for its comments. -/
def FieldText.uncommented (f : FieldText) : FieldText := { f with comments := [] }

/-- What blocks say about a field with its comments and without, where the comments are lines. -/
structure FieldText.Agrees (f g : FieldText) : Prop where
  rest : g = f.uncommented
  goes : ∀ comment ∈ f.comments, ∀ c ∈ comment.toList, endsLine c = false

theorem fieldText_agrees (names : Names) (late : Bool) (r : RecordModel) (c : FieldContract) :
    Agree FieldText.Agrees (fieldText names late r c) (fieldText names late r.undescribed c) := by
  have found : r.undescribed.fields.find? (·.wireName == c.wireName) =
      (r.fields.find? (·.wireName == c.wireName)).map Field.undescribed := by
    rw [RecordModel.undescribed, List.find?_map]
    rfl
  rw [fieldText, fieldText, found]
  cases r.fields.find? (·.wireName == c.wireName) with
  | none => exact .error
  | some f =>
    refine .bind_same fun declared => .bind_same fun decoder => .bind_same fun encoder => ?_
    exact .ok ⟨rfl, commentLines_goes f.description⟩

theorem fieldTexts_agree (names : Names) (late : Bool) (r : RecordModel)
    (contracts : List FieldContract) :
    Agree (fun fields fields' : List FieldText =>
        fields' = fields.map FieldText.uncommented ∧ ∀ f ∈ fields, f.Agrees f.uncommented)
      (contracts.mapM (fieldText names late r))
      (contracts.mapM (fieldText names late r.undescribed)) := by
  have each : Agree (List.Forall₂ FieldText.Agrees) (contracts.mapM (fieldText names late r))
      (contracts.mapM (fieldText names late r.undescribed)) := by
    refine .mapM (P := Eq) (List.forall₂_same.mpr fun _ _ => rfl) ?_
    rintro c _ rfl
    exact fieldText_agrees names late r c
  refine each.imp fun fields fields' all => ?_
  induction all with
  | nil => exact ⟨rfl, nofun⟩
  | cons here _ ih =>
    obtain ⟨rfl, goes⟩ := here
    obtain ⟨rfl, rest⟩ := ih
    exact ⟨rfl, List.forall_mem_cons.mpr ⟨⟨rfl, goes⟩, rest⟩⟩

/-- Two blocks that differ in comments. -/
structure Block.Agrees (ends : Char → Bool) (b b' : Block) : Prop where
  lines : shown ends b.lines = shown ends b'.lines
  exports : b.exports = b'.exports
  imports : b.imports = b'.imports
  full : b.lines ≠ [] ∧ b'.lines ≠ []

section

variable (newline : ends '\n' = true) (lineEnds : ∀ c, ends c = true → endsLine c = true)

include newline lineEnds

theorem shown_declarationLines {f : FieldText} (h : f.Agrees f.uncommented) :
    shown ends (declarationLines f) = shown ends (declarationLines f.uncommented) := by
  have none := shown_comment newline lineEnds "    " (by simp) h.goes
  rw [declarationLines, shown_append]
  exact congrArg (· ++ _) none

theorem shown_declarations {fields : List FieldText} (h : ∀ f ∈ fields, f.Agrees f.uncommented) :
    shown ends (fields.flatMap declarationLines) =
      shown ends ((fields.map FieldText.uncommented).flatMap declarationLines) := by
  induction fields with
  | nil => rfl
  | cons f fields ih =>
    rw [List.flatMap_cons, List.map_cons, List.flatMap_cons, shown_append, shown_append,
      shown_declarationLines newline lineEnds (h f List.mem_cons_self),
      ih fun f mem => h f (List.mem_cons_of_mem _ mem)]

theorem recordBlock_agrees (names : Names) (late : Bool) (r : RecordModel) (c : RecordContract) :
    Agree (Block.Agrees ends) (recordBlock names late r c)
      (recordBlock names late r.undescribed c) := by
  refine .bind_same fun className => .bind_same fun base => ?_
  refine .bind (fieldTexts_agree names late r (declarationOrder c.fields)) ?_
  rintro fields _ ⟨rfl, agree⟩
  refine .bind_same fun dispatch => .bind_same fun others => ?_
  rw [List.mapM_map, List.mapM_map]
  refine .bind_same fun decodes => .bind_same fun encodes => .ok ?_
  constructor
  · simp only [shown_append, List.isEmpty_map, shown_declarations newline lineEnds agree]
    rfl
  · rfl
  · simp only [List.flatMap_map]
    rfl
  · exact ⟨by simp, by simp⟩

end

theorem unionBlock_agrees (names : Names) (late : Bool) (u : UnionModel) (c : UnionContract) :
    Agree (Block.Agrees ends) (unionBlock names late u c) (unionBlock names late u c) := by
  refine .same_of fun block h => ⟨rfl, rfl, rfl, and_self_iff.mpr ?_⟩
  obtain ⟨title, -, h⟩ := bind_eq_ok.mp h
  obtain ⟨base, -, h⟩ := bind_eq_ok.mp h
  obtain ⟨⟨check, imports⟩, -, h⟩ := bind_eq_ok.mp h
  obtain ⟨variants, -, h⟩ := bind_eq_ok.mp h
  obtain ⟨decoder, -, h⟩ := bind_eq_ok.mp h
  obtain ⟨encoder, -, h⟩ := bind_eq_ok.mp h
  obtain ⟨decodes, -, h⟩ := bind_eq_ok.mp h
  obtain ⟨encodes, -, h⟩ := bind_eq_ok.mp h
  cases h
  nofun

end

/-! ## Modules -/

theorem ofTable_undescribed (table : Table) :
    Names.ofTable table.undescribed = Names.ofTable table := by
  rw [Names.ofTable, Names.ofTable, table.names_undescribed]
  rfl

theorem dataclassImports_undescribed (table : Table) :
    dataclassImports table.undescribed = dataclassImports table := by
  have isRecord : Model.isRecord ∘ Model.undescribed = Model.isRecord :=
    funext fun m => by cases m <;> rfl
  have factories : ((fun m : Model => m.fields.any fun f => needsFactory f.default) ∘
      Model.undescribed) = fun m => m.fields.any fun f => needsFactory f.default := by
    funext m
    cases m with
    | record r =>
      change (r.fields.map Field.undescribed).any _ = r.fields.any _
      rw [List.any_map]
      rfl
    | union u => rfl
  rw [dataclassImports, dataclassImports, Table.undescribed, List.any_map, List.any_map, isRecord,
    factories]

theorem typingImports_undescribed (names : Names) (table : Table) :
    typingImports names table.undescribed = typingImports names table := by
  have isUnion : ((fun m : Model => !m.isRecord) ∘ Model.undescribed) = fun m => !m.isRecord :=
    funext fun m => by cases m <;> rfl
  have lists : ((fun m : Model => m.fields.any (fun f => listsValues names f.type) ||
      anyListsValues names m.variants) ∘ Model.undescribed) = fun m =>
        m.fields.any (fun f => listsValues names f.type) || anyListsValues names m.variants := by
    funext m
    cases m with
    | record r =>
      change ((r.fields.map Field.undescribed).any _ || _) = (r.fields.any _ || _)
      rw [List.any_map]
      rfl
    | union u => rfl
  rw [typingImports, typingImports, usesLiteral, usesLiteral, Table.undescribed, List.any_map,
    List.any_map, isUnion, lists]

section

variable {ends : Char → Bool} (newline : ends '\n' = true)
  (lineEnds : ∀ c, ends c = true → endsLine c = true)

include newline lineEnds

theorem blocksOf_agree (late : Bool) (table : Table) (contracts : Contracts) :
    Agree (List.Forall₂ (Block.Agrees ends)) (blocksOf late table contracts)
      (blocksOf late table.undescribed contracts) := by
  have models : List.Forall₂ (fun m m' : Model => m' = m.undescribed) table.models
      table.undescribed.models := by
    rw [Table.undescribed, List.forall₂_map_right_iff]
    exact List.forall₂_same.mpr fun _ _ => rfl
  rw [blocksOf, blocksOf, ofTable_undescribed]
  -- the blocks of the records come first, then those of the unions
  have records : Agree (List.Forall₂ (Block.Agrees ends))
      (table.models.filterMapM (recordBlock? (Names.ofTable table) late contracts))
      (table.undescribed.models.filterMapM
        (recordBlock? (Names.ofTable table) late contracts)) := by
    refine .filterMapM models ?_
    rintro (r | u) _ rfl
    · exact .bind_same fun c => (recordBlock_agrees newline lineEnds _ late r c).bind
        fun b b' agrees => .ok (.some agrees)
    · exact .ok .none
  have unions : Agree (List.Forall₂ (Block.Agrees ends))
      (table.models.filterMapM (unionBlock? (Names.ofTable table) late contracts))
      (table.undescribed.models.filterMapM (unionBlock? (Names.ofTable table) late contracts)) := by
    refine .filterMapM models ?_
    rintro (r | u) _ rfl
    · exact .ok .none
    · exact .bind_same fun c => (unionBlock_agrees _ late u c).bind
        fun b b' agrees => .ok (.some agrees)
  exact records.bind fun _ _ first => unions.bind fun _ _ second =>
    .ok (List.rel_append first second)

theorem shown_headerOf (late : Bool) (comment comment' : String) (table : Table)
    (aliases : List (String × String)) {blocks blocks' : List Block}
    (imports : blocks.flatMap (·.imports) = blocks'.flatMap (·.imports)) :
    shown ends (headerOf late comment table aliases blocks) =
      shown ends (headerOf late comment' table.undescribed aliases blocks') := by
  have none (comment : String) :
      shown ends (((Text.lines comment.toList).map String.ofList).map fun line => "# " ++ line) =
        [] := by
    refine shown_comment newline lineEnds "" nofun fun line mem => ?_
    obtain ⟨cs, cut, rfl⟩ := List.mem_map.mp mem
    rw [String.toList_ofList]
    exact Text.goes_of_mem_linesFrom (fun _ mem => by cases mem) cs cut
  simp only [headerOf, header, shown_append, none, dataclassImports_undescribed,
    ofTable_undescribed, typingImports_undescribed, imports]

omit newline lineEnds in
theorem shown_spaced {sections sections' : List (List String)}
    (h : List.Forall₂ (fun lines lines' => shown ends lines = shown ends lines')
      sections sections') :
    shown ends (spaced sections) = shown ends (spaced sections') := by
  induction h with
  | nil => rfl
  | cons first rest ih =>
    cases rest with
    | nil => exact first
    | cons next rest =>
      have empty (lines : List String) :
          shown ends ("" :: "" :: lines) = shown ends ["", ""] ++ shown ends lines :=
        shown_append ["", ""] lines
      rw [spaced, spaced, shown_append, shown_append, first]
      exact congrArg (_ ++ ·) ((empty _).trans ((congrArg (_ ++ ·) ih).trans (empty _).symm))

omit newline lineEnds in
theorem flatMap_eq_of_agree {α : Type} {f : Block → List α} {blocks blocks' : List Block}
    (all : List.Forall₂ (Block.Agrees ends) blocks blocks')
    (same : ∀ b b', b.Agrees ends b' → f b = f b') : blocks.flatMap f = blocks'.flatMap f := by
  induction all with
  | nil => rfl
  | cons agrees _ ih => rw [List.flatMap_cons, List.flatMap_cons, same _ _ agrees, ih]

omit newline lineEnds in
theorem full_of_agree {blocks blocks' : List Block}
    (all : List.Forall₂ (Block.Agrees ends) blocks blocks') :
    (∀ b ∈ blocks, b.lines ≠ []) ∧ ∀ b ∈ blocks', b.lines ≠ [] := by
  induction all with
  | nil => exact ⟨nofun, nofun⟩
  | cons agrees _ ih =>
    exact ⟨List.forall_mem_cons.mpr ⟨agrees.full.1, ih.1⟩,
      List.forall_mem_cons.mpr ⟨agrees.full.2, ih.2⟩⟩

/-- **A module without its comments** depends neither on its comment nor on descriptions. -/
theorem moduleText_agrees (late : Bool) (comment comment' : String) (table : Table)
    (contracts : Contracts) :
    (moduleText late comment table contracts).map (fun text => withoutComments ends text.toList) =
      (moduleText late comment' table.undescribed contracts).map
        fun text => withoutComments ends text.toList := by
  have agree : Agree (fun text text' : String =>
      withoutComments ends text.toList = withoutComments ends text'.toList)
      (moduleText late comment table contracts)
      (moduleText late comment' table.undescribed contracts) := by
    -- names are given without a look at descriptions, so both sides start with the same aliases
    have aliases : aliasesOf table.undescribed = aliasesOf table := by
      rw [aliasesOf, aliasesOf, ofTable_undescribed]
      rfl
    rw [moduleText_eq, moduleText_eq, aliases]
    refine .bind_same fun aliases => (blocksOf_agree newline lineEnds late table contracts).bind
      fun blocks blocks' all => .ok ?_
    have exports : exportsOf aliases blocks = exportsOf aliases blocks' := by
      rw [exportsOf, exportsOf, flatMap_eq_of_agree all fun _ _ agrees => agrees.exports]
    have header := shown_headerOf newline lineEnds late comment comment' table aliases
      (flatMap_eq_of_agree all fun _ _ agrees => agrees.imports)
    have lines : List.Forall₂ (fun lines lines' => shown ends lines = shown ends lines')
        (sections late comment table aliases blocks)
        (sections late comment' table.undescribed aliases blocks') := by
      have inner : List.Forall₂ (fun lines lines' => shown ends lines = shown ends lines')
          (blocks.map (·.lines)) (blocks'.map (·.lines)) := by
        rw [List.forall₂_map_left_iff, List.forall₂_map_right_iff]
        exact all.imp fun _ _ agrees => agrees.lines
      rw [sections, sections, exports]
      exact List.rel_append (R := fun lines lines' => shown ends lines = shown ends lines')
        (.cons header inner) (.cons rfl .nil)
    have full : (∀ b ∈ blocks, b.lines ≠ []) ∧ ∀ b ∈ blocks', b.lines ≠ [] := full_of_agree all
    rw [toList_layOut (by simp [sections]) (full_sections full.1),
      toList_layOut (by simp [sections]) (full_sections full.2),
      withoutComments_terminated newline, withoutComments_terminated newline, shown_spaced lines]
  exact agree.map_eq fun _ _ same => same

/-- **Free text cannot be read as code.** However lines are cut, at newlines or at any other line
separators too: two tables that differ in the descriptions of fields have the same contracts, and
whatever the comments or the command lines are, their modules are the same without the lines that
start with a number sign; if one of them cannot be written, then neither can the other, for the same
reason. And no description of a model closes its docstring: each of its quotes follows an odd number
of backslashes and its end an even one, so a reader takes all of it and what is behind it is code as
before. -/
theorem free_text_is_inert {table table' : Table} (same : table.undescribed = table'.undescribed) :
    Contract.derive table = Contract.derive table' ∧
      (∀ late comment comment' contracts,
        (moduleText late comment table contracts).map
            (fun text => withoutComments ends text.toList) =
          (moduleText late comment' table' contracts).map
            fun text => withoutComments ends text.toList) ∧
      (∀ (request : Request) commandLine commandLine' contracts,
        (Generation.textOf { request with language := .python, commandLine := commandLine }
            table contracts).map (fun text => withoutComments ends text.toList) =
          (Generation.textOf { request with language := .python, commandLine := commandLine' }
            table' contracts).map fun text => withoutComments ends text.toList) ∧
      ∀ description : Option String,
        (∀ before after, (docstring description).toList = before ++ '"' :: after →
          backslashes before % 2 = 1) ∧
        backslashes (docstring description).toList % 2 = 0 ∧
        (∀ rest, Output.TextLiteral.takeBody '"' true
          ((docstring description).toList ++ '"' :: '"' :: '"' :: rest) [] =
            some ((docstring description).toList, rest)) ∧
        ∀ names late r c block, recordBlock names late r c = .ok block →
          r.description = description → docstring description ≠ "" →
            "    \"\"\"" ++ docstring description ++ "\"\"\"" ∈ block.lines := by
  have modules (late : Bool) (comment comment' : String) (contracts : Contracts) :
      (moduleText late comment table contracts).map (fun text => withoutComments ends text.toList) =
        (moduleText late comment' table' contracts).map
          fun text => withoutComments ends text.toList := by
    rw [moduleText_agrees newline lineEnds late comment comment' table, same,
      ← moduleText_agrees newline lineEnds late comment' comment' table']
  refine ⟨?_, modules, fun request _ _ contracts => modules _ _ _ contracts, fun description => ?_⟩
  · rw [← Contract.derive_undescribed, same, Contract.derive_undescribed]
  · obtain ⟨quotes, ending⟩ := isSealed_docstring description
    refine ⟨quotes, ending, takeBody_docstring description, ?_⟩
    rintro names late r c block h rfl some
    obtain ⟨fields, -, described, -⟩ := lines_of_recordBlock h
    exact described some

end

/-- A table of one model, with a description of its field. -/
def petTable (description : Option String) : Table where
  models := [.record {
    name := "Pet"
    fields := [⟨"name", "name", .primitive .string none, true, false, none, description⟩]
    discriminator := none
    parents := []
    description := some "A \"pet\", or \\" }]
  enums := []

def petContracts : Contracts :=
  [.record ⟨"Pet", [⟨"name", "name", .pass .string, true, false, none⟩], ["name"], none⟩]

/-- Neither a description nor a comment of several lines changes the module of the pets. -/
theorem pets_read_alike :
    (petTable (some "a name\r\nimport os\r# else")).undescribed = (petTable none).undescribed ∧
      endsLine '\n' = true ∧ (∀ c, endsLine c = true → endsLine c = true) ∧
      Contract.derive (petTable (some "a name\r\nimport os\r# else")) =
        Contract.derive (petTable none) ∧
      (Contract.derive (petTable none)).outcome.1 = .ok petContracts ∧
      ∃ text text',
        moduleText true "one\nimport os\x0bimport sys"
          (petTable (some "a name\r\nimport os\r# else")) petContracts = .ok text ∧
        moduleText true "" (petTable none) petContracts = .ok text' ∧
        withoutComments endsLine text.toList = withoutComments endsLine text'.toList := by
  have written : (moduleText true "one\nimport os\x0bimport sys"
      (petTable (some "a name\r\nimport os\r# else")) petContracts).isOk = true := by decide +kernel
  have written' : (moduleText true "" (petTable none) petContracts).isOk = true := by decide +kernel
  obtain ⟨text, made⟩ := exists_of_isOk written
  obtain ⟨text', made'⟩ := exists_of_isOk written'
  have same : (petTable (some "a name\r\nimport os\r# else")).undescribed =
      (petTable none).undescribed := rfl
  obtain ⟨contracts, modules, -, -⟩ :=
    @free_text_is_inert endsLine (by decide) (fun _ stops => stops) _ _ same
  have alike := modules true "one\nimport os\x0bimport sys" "" petContracts
  rw [made, made'] at alike
  exact ⟨same, by decide, fun _ stops => stops, contracts, rfl, text, text', made, made',
    Except.ok.inj alike⟩

end Emit
end WireModel
