import WireModel.Proofs.Emit.Comments
import WireModel.Proofs.Emit.Names

/-!
# Pieces of a module stand on one line

Texts are escaped and names are identifiers, so no literal, no annotation and no expression has a
newline.

* **`oneLine_literal`**, **`oneLine_annotate`**: values and types are written on one line.
* **`planExpr_tidy`**: so are plans, and what their expressions import is reserved.
-/

namespace WireModel

open Text (continuesIdentifier)

/-! ## Texts on one line -/

/-- A text without a newline. -/
def OneLine (s : String) : Prop := '\n' ∉ s.toList

instance (s : String) : Decidable (OneLine s) := inferInstanceAs (Decidable (_ ∉ _))

@[simp]
theorem oneLine_append {s t : String} : OneLine (s ++ t) ↔ OneLine s ∧ OneLine t := by
  simp [OneLine]

theorem oneLine_ite {p : Prop} [Decidable p] {s t : String} (first : OneLine s)
    (second : OneLine t) : OneLine (if p then s else t) := by
  split
  · exact first
  · exact second

theorem oneLine_ofList {cs : List Char} : OneLine (String.ofList cs) ↔ '\n' ∉ cs := by
  rw [OneLine, String.toList_ofList]

theorem oneLine_intercalate {separator : String} {parts : List String} (between : OneLine separator)
    (all : ∀ part ∈ parts, OneLine part) : OneLine (String.intercalate separator parts) := by
  intro mem
  rw [String.toList_intercalate] at mem
  rcases mem_intercalate mem with here | ⟨cs, among, here⟩
  · exact between here
  · obtain ⟨part, there, rfl⟩ := List.mem_map.mp among
    exact all part there here

theorem IsWord.oneLine {s : String} (word : IsWord s) : OneLine s := by
  intro newline
  have continues := word.continues '\n' newline
  cases continues

/-! ## Numbers -/

namespace Decimal

/-- The characters of numbers: digits, points, signs and exponents, and the letters of the doubles
that are no numbers. -/
def numerals : List Char := "0123456789.e+-naif".toList

theorem mem_numerals_of_isDigit {c : Char} (digit : c.isDigit = true) : c ∈ numerals := by
  have all : ∀ n < 128, (Char.ofNat n).isAlphanum = true → (Char.ofNat n).isDigit = true →
      Char.ofNat n ∈ numerals := by decide +kernel
  exact of_isAlphanum (P := fun c => c.isDigit = true → c ∈ numerals) all
    (by rw [Char.isAlphanum, digit, Bool.or_true]) digit

theorem numerals_natDigits (n : Nat) : natDigits n ⊆ numerals :=
  fun c mem => mem_numerals_of_isDigit (isDigit_natDigits n c mem)

theorem numerals_ofInt (n : Int) : (ofInt n).toList ⊆ numerals := by
  have digits (n : Nat) : (ofNat n).toList ⊆ numerals := by
    rw [ofNat, String.toList_ofList]
    exact numerals_natDigits n
  rw [ofInt]
  split
  · rw [String.toList_append]
    exact List.append_subset.mpr ⟨by decide, digits _⟩
  · exact digits _

theorem numerals_zeros (n : Nat) : zeros n ⊆ numerals := by
  intro c mem
  rw [List.eq_of_mem_replicate mem]
  decide

theorem numerals_positional {digits : List Char} (plain : digits ⊆ numerals) (leading : Int) :
    positional digits leading ⊆ numerals := by
  have whole (n : Nat) : digits.take n ⊆ numerals :=
    List.Subset.trans (List.take_subset n digits) plain
  have fraction (n : Nat) : digits.drop n ⊆ numerals :=
    List.Subset.trans (List.drop_subset n digits) plain
  have zero : '0' ∈ numerals := by decide
  have point : '.' ∈ numerals := by decide
  rw [positional]
  split
  · simp only [List.cons_append, List.cons_subset, List.append_subset]
    exact ⟨zero, point, numerals_zeros _, plain⟩
  · simp only [List.append_assoc, List.cons_subset, List.append_subset]
    refine ⟨whole _, numerals_zeros _, point, ?_⟩
    split
    · exact List.cons_subset.mpr ⟨zero, List.nil_subset _⟩
    · exact fraction _

theorem numerals_scientific {digits : List Char} (plain : digits ⊆ numerals) (width : Nat)
    (leading : Int) : scientific width digits leading ⊆ numerals := by
  have whole : digits.take 1 ⊆ numerals := List.Subset.trans (List.take_subset 1 digits) plain
  have fraction : digits.drop 1 ⊆ numerals := List.Subset.trans (List.drop_subset 1 digits) plain
  have signs : '-' ∈ numerals ∧ '+' ∈ numerals := by decide
  simp only [scientific, List.append_assoc, List.cons_subset, List.append_subset]
  refine ⟨whole, ?_, ⟨by decide, ?_, numerals_zeros _⟩, numerals_natDigits _⟩
  · split
    · exact List.nil_subset _
    · exact List.cons_subset.mpr ⟨by decide, fraction⟩
  · split
    · exact signs.1
    · exact signs.2

theorem numerals_ofBinary64 (x : Binary64) : (Style.plain.ofBinary64 x).toList ⊆ numerals := by
  have sign : (if x.negative then "-" else "").toList ⊆ numerals := by
    split <;> decide
  have digits : dropTrailingZeros (natDigits x.shortest.digits) ⊆ numerals := by
    intro c mem
    rw [dropTrailingZeros, List.mem_reverse] at mem
    have kept := (List.dropWhile_sublist _).subset mem
    exact numerals_natDigits _ (List.mem_reverse.mp kept)
  have magnitude : Style.plain.magnitude x ⊆ numerals := by
    rw [Style.magnitude]
    split
    · decide
    split
    · exact numerals_positional digits _
    · exact numerals_scientific digits _ _
  rw [Style.ofBinary64]
  split
  · decide
  split
  · rw [String.toList_append]
    exact List.append_subset.mpr ⟨sign, by decide⟩
  · rw [String.toList_append, String.toList_ofList]
    exact List.append_subset.mpr ⟨sign, magnitude⟩

theorem oneLine_of_numerals {s : String} (all : s.toList ⊆ numerals) : OneLine s := by
  intro newline
  exact absurd (all newline) (by decide)

end Decimal

/-! ## Literals -/

theorem Json.oneLine_quote (s : String) : OneLine (Json.quote s) := by
  have digit : ∀ n < 16, Text.hexDigit n ≠ '\n' := by decide
  have hex (n : Nat) : '\n' ∉ Text.hex 4 n := by
    intro mem
    obtain ⟨d, small, same⟩ := Text.exists_of_mem_hex mem
    exact digit d small same.symm
  have escape (n : Nat) : '\n' ∉ '\\' :: 'u' :: Text.hex 4 n := by
    simp only [List.mem_cons, not_or]
    exact ⟨by decide, by decide, hex n⟩
  have escaped (c : Char) : '\n' ∉ Json.escapeChar c := by
    by_cases newline : c = '\n'
    · rw [newline]
      decide
    unfold Json.escapeChar Json.unicodeEscape
    split
    · decide
    split
    · decide
    split
    · decide
    split
    · decide
    split
    · decide
    split
    · decide
    split
    · decide
    split
    · exact fun mem => newline (List.mem_singleton.mp mem).symm
    split
    · exact escape _
    · exact fun mem => (List.mem_append.mp mem).elim (escape _) (escape _)
  rw [Json.quote, oneLine_ofList, Json.quoteList]
  simp [escaped]

namespace Emit

open Types (WireType)

theorem oneLine_commaSeparated {parts : List String} (all : ∀ part ∈ parts, OneLine part) :
    OneLine (commaSeparated parts) := oneLine_intercalate (by decide) all

theorem oneLine_tupleText {parts : List String} (all : ∀ part ∈ parts, OneLine part) :
    OneLine (tupleText parts) := by
  unfold tupleText
  split
  · rename_i part
    have here := all part List.mem_cons_self
    simp +decide [here]
  · have here := oneLine_commaSeparated all
    simp +decide [here]

theorem oneLine_tupleText_map {α : Type} {f : α → String} {items : List α}
    (each : ∀ a, OneLine (f a)) : OneLine (tupleText (items.map f)) := by
  refine oneLine_tupleText fun part mem => ?_
  obtain ⟨a, -, rfl⟩ := List.mem_map.mp mem
  exact each a

mutual

/-- **A value is written on one line.** -/
theorem oneLine_literal : ∀ v : Value, Yields (literal v) OneLine
  | .null => .ok (by decide)
  | .bool b => .ok (by cases b <;> decide)
  | .int n => by
    rw [literal]
    split
    · exact .ok (Decimal.oneLine_of_numerals (Decimal.numerals_ofInt n))
    · exact .error
  | .float x => .ok (Decimal.oneLine_of_numerals (Decimal.numerals_ofBinary64 x))
  | .str s => .ok (Json.oneLine_quote s)
  | .list items | .tuple items => (oneLine_literals items).bind_pure fun parts all => by
    simp +decide [oneLine_commaSeparated all]
  | .map entries => (oneLine_entryLiterals entries).bind_pure fun parts all => by
    simp +decide [oneLine_commaSeparated all]
  | .unset | .record .. | .knot _ => .error

theorem oneLine_literals : ∀ values : List Value,
    Yields (literals values) (∀ part ∈ ·, OneLine part)
  | [] => .ok nofun
  | v :: rest => (oneLine_literal v).bind fun _ here => (oneLine_literals rest).bind_pure
    fun _ there => List.forall_mem_cons.mpr ⟨here, there⟩

theorem oneLine_entryLiterals : ∀ entries : List (Value × Value),
    Yields (entryLiterals entries) (∀ part ∈ ·, OneLine part)
  | [] => .ok nofun
  | (k, v) :: rest => (oneLine_literal k).bind fun _ told => (oneLine_literal v).bind
    fun _ here => (oneLine_entryLiterals rest).bind_pure fun _ there =>
      List.forall_mem_cons.mpr ⟨by simp +decide [told, here], there⟩

end

/-! ## Annotations -/

theorem oneLine_annotateValues (values : List Value) : Yields (annotateValues values) OneLine :=
  (oneLine_literals values).bind_pure fun _ all => by
    simp +decide [oneLine_commaSeparated all]

theorem oneLine_orNull {text : String} (here : OneLine text) : OneLine (orNull text) :=
  oneLine_ite here (oneLine_append.mpr ⟨here, by decide⟩)

theorem oneLine_placed {late : Bool} {text : String} (here : OneLine text) :
    OneLine (placed late text) := oneLine_ite here (Json.oneLine_quote text)

mutual

/-- **A type is written on one line.** -/
theorem oneLine_annotate {names : Names} (words : names.AreWords) :
    ∀ t : WireType, Yields (annotate names t) OneLine
  | .primitive kind _ => .ok (by cases kind <;> decide)
  | .enum name values _ => by
    rw [annotate]
    split
    · rename_i c found
      obtain ⟨n, -, there⟩ := Option.bind_eq_some_iff.mp found
      exact .ok (Names.AreWords.of_lookup words.classes there).oneLine
    · exact oneLine_annotateValues values
  | .sequence element => (oneLine_annotate words element).bind_pure fun _ here => by
    simp +decide [here]
  | .mapping value => (oneLine_annotate words value).bind_pure fun _ here => by
    simp +decide [here]
  | .model name => (words.classOf name).mono fun _ word => word.oneLine
  | .union _ _ _ variants => (oneLine_annotateAll words variants).bind_pure fun _ all =>
    oneLine_intercalate (by decide) fun part mem => all part (List.mem_eraseDups.mp mem)
  | .nullable inner => (oneLine_annotate words inner).bind_pure fun _ here => oneLine_orNull here
  | .optional inner => oneLine_annotate words inner

theorem oneLine_annotateAll {names : Names} (words : names.AreWords) :
    ∀ ts : List WireType, Yields (annotateAll names ts) (∀ part ∈ ·, OneLine part)
  | [] => .ok nofun
  | t :: rest => (oneLine_annotate words t).bind fun _ here =>
    (oneLine_annotateAll words rest).bind_pure fun _ there =>
      List.forall_mem_cons.mpr ⟨here, there⟩

end

/-! ## Expressions -/

/-- An expression is written on one line, and what it imports is reserved. -/
structure Expr.Tidy (e : Expr) : Prop where
  line : Yields e.render OneLine
  imports : ∀ name ∈ e.imports, name ∈ supportNames

/-- Expressions that are written on one line each, and import what is reserved. -/
structure Expr.AllTidy (es : List Expr) : Prop where
  lines : Yields (Expr.renderAll es) (∀ part ∈ ·, OneLine part)
  imports : ∀ name ∈ Expr.importsOfAll es, name ∈ supportNames

namespace Expr

theorem AllTidy.of_mem {es : List Expr} (all : ∀ e ∈ es, e.Tidy) : AllTidy es := by
  induction es with
  | nil => exact ⟨.ok nofun, nofun⟩
  | cons e rest ih =>
    obtain ⟨line, imports⟩ := all e List.mem_cons_self
    obtain ⟨lines, others⟩ := ih fun e mem => all e (List.mem_cons_of_mem _ mem)
    refine ⟨line.bind fun _ here => lines.bind_pure fun _ there =>
      List.forall_mem_cons.mpr ⟨here, there⟩, fun name mem => ?_⟩
    exact (List.mem_append.mp mem).elim (imports name) (others name)

theorem tidy_list {es : List Expr} (all : ∀ e ∈ es, e.Tidy) : (Expr.list es).Tidy where
  line := (AllTidy.of_mem all).lines.bind_pure fun _ there => by
    simp +decide [oneLine_commaSeparated there]
  imports := (AllTidy.of_mem all).imports

theorem tidy_support {name : String} (known : name ∈ supportNames) : (Expr.support name).Tidy where
  line := .ok ((show ∀ name ∈ supportNames, OneLine name by decide) name known)
  imports _ mem := List.mem_singleton.mp mem ▸ known

/-- A call of a function of the support library. -/
theorem tidy_call {name : String} (known : name ∈ supportNames) {es : List Expr}
    (all : ∀ e ∈ es, e.Tidy) : (Expr.call name es).Tidy where
  line := (tidy_support known).line.bind fun _ here =>
    (AllTidy.of_mem all).lines.bind_pure fun _ there => by
      simp +decide [here, oneLine_commaSeparated there]
  imports n mem := by
    rcases List.mem_cons.mp mem with rfl | mem
    · exact known
    · exact (AllTidy.of_mem all).imports n mem

theorem tidy_own {name : String} (word : OneLine name) : (Expr.own name).Tidy where
  line := .ok word
  imports := nofun

theorem tidy_literal (v : Value) : (Expr.literal v).Tidy where
  line := oneLine_literal v
  imports := nofun

theorem tidy_tupleLiteral (values : List Value) : (Expr.tupleLiteral values).Tidy where
  line := (oneLine_literals values).map fun _ => oneLine_tupleText
  imports := nofun

theorem tidy_pair {e e' : Expr} (first : e.Tidy) (second : e'.Tidy) : (Expr.pair e e').Tidy where
  line := first.line.bind fun _ here => second.line.bind_pure fun _ there => by
    simp +decide [here, there]
  imports n mem := (List.mem_append.mp mem).elim (first.imports n) (second.imports n)

theorem tidy_dict {entries : List (Value × Expr)} (all : ∀ entry ∈ entries, entry.2.Tidy) :
    (Expr.dict entries).Tidy := by
  suffices parts : Yields (Expr.renderEntries entries) (∀ part ∈ ·, OneLine part) ∧
      ∀ name ∈ Expr.importsOfEntries entries, name ∈ supportNames from
    ⟨parts.1.bind_pure fun _ there => by simp +decide [oneLine_commaSeparated there], parts.2⟩
  induction entries with
  | nil => exact ⟨.ok nofun, nofun⟩
  | cons entry rest ih =>
    obtain ⟨line, imports⟩ := all entry List.mem_cons_self
    obtain ⟨lines, others⟩ := ih fun entry mem => all entry (List.mem_cons_of_mem _ mem)
    refine ⟨(oneLine_literal entry.1).bind fun _ key => line.bind fun _ here =>
      lines.bind_pure fun _ there => List.forall_mem_cons.mpr ⟨by simp +decide [key, here], there⟩,
      fun name mem => ?_⟩
    exact (List.mem_append.mp mem).elim (imports name) (others name)

end Expr

theorem isWord_modelFunction {names : Names} (words : names.AreWords) (direction : Direction)
    (model : String) : Yields (modelFunction names direction model) IsWord :=
  (words.baseOf model).bind_pure fun base word => by
    cases direction
    · exact Names.isWord_functionNames word _ (by simp [functionNames])
    · exact Names.isWord_functionNames word _ (by simp [functionNames])

mutual

theorem predicateExpr_tidy {names : Names} (words : names.AreWords) (direction : Direction) :
    ∀ p : Predicate, Yields (predicateExpr names direction p) Expr.Tidy
  | .record model _ => by
    cases direction with
    | decode =>
      refine (words.baseOf model).bind_pure fun base word => Expr.tidy_own ?_
      exact (Names.isWord_functionNames word _ (by simp [functionNames])).oneLine
    | encode =>
      refine (words.classOf model).bind_pure fun c word => Expr.tidy_call (by decide) ?_
      exact List.forall_mem_singleton.mpr (Expr.tidy_own word.oneLine)
  | .primitive kind => .ok (Expr.tidy_call (by decide)
    (List.forall_mem_singleton.mpr (Expr.tidy_literal _)))
  | .sequence => .ok (Expr.tidy_support (by decide))
  | .mapping => .ok (Expr.tidy_support (by decide))
  | .enumMember values => .ok (Expr.tidy_call (by decide)
    (List.forall_mem_singleton.mpr (Expr.tidy_tupleLiteral values)))
  | .anyOf predicates => (predicateExprs_tidy words direction predicates).bind_pure fun _ all =>
    Expr.tidy_call (by decide) (List.forall_mem_singleton.mpr (Expr.tidy_list all))

theorem predicateExprs_tidy {names : Names} (words : names.AreWords) (direction : Direction) :
    ∀ ps : List Predicate, Yields (predicateExprs names direction ps) (∀ e ∈ ·, e.Tidy)
  | [] => .ok nofun
  | p :: rest => (predicateExpr_tidy words direction p).bind fun _ here =>
    (predicateExprs_tidy words direction rest).bind_pure fun _ there =>
      List.forall_mem_cons.mpr ⟨here, there⟩

end

theorem dispatchExpr_tidy {names : Names} (words : names.AreWords) (direction : Direction)
    (property : String) (cases : List (String × String)) :
    Yields (dispatchExpr names direction property cases) Expr.Tidy := by
  cases direction with
  | decode =>
    have entries : Yields (cases.mapM fun entry => do
        return (Value.str entry.1, Expr.own (← modelFunction names .decode entry.2)))
        (∀ entry ∈ ·, entry.2.Tidy) :=
      .mapM fun entry _ => (isWord_modelFunction words .decode entry.2).bind_pure fun _ word =>
        Expr.tidy_own word.oneLine
    refine entries.bind_pure fun _ all => Expr.tidy_call (by decide) ?_
    simp only [List.forall_mem_cons]
    exact ⟨Expr.tidy_literal _, Expr.tidy_dict all, List.forall_mem_nil _⟩
  | encode =>
    have options : Yields ((cases.map (·.2)).eraseDups.mapM fun model => do
        let check := Expr.call "is_model" [.own (← names.classOf model)]
        return Expr.pair check (.own (← modelFunction names .encode model))) (∀ e ∈ ·, e.Tidy) := by
      refine .mapM fun model _ => (words.classOf model).bind fun _ c =>
        (isWord_modelFunction words .encode model).bind_pure fun _ word => Expr.tidy_pair ?_ ?_
      · exact Expr.tidy_call (by decide) (List.forall_mem_singleton.mpr (Expr.tidy_own c.oneLine))
      · exact Expr.tidy_own word.oneLine
    refine options.bind_pure fun _ all => Expr.tidy_call (by decide) ?_
    simp only [List.forall_mem_cons]
    exact ⟨Expr.tidy_list all, Expr.tidy_literal _, List.forall_mem_nil _⟩

mutual

/-- **A plan is written on one line**, and what it imports is reserved. -/
theorem planExpr_tidy {names : Names} (words : names.AreWords) (direction : Direction) :
    ∀ plan : Plan, Yields (planExpr names direction plan) Expr.Tidy
  | .pass _ => .ok (Expr.tidy_support (by decide))
  | .checkEnum values _ => .ok (Expr.tidy_call (by decide)
    (List.forall_mem_singleton.mpr (Expr.tidy_tupleLiteral values)))
  | .nullable inner => (planExpr_tidy words direction inner).bind_pure fun _ here =>
    Expr.tidy_call (by decide) (List.forall_mem_singleton.mpr here)
  | .eachElement element => (planExpr_tidy words direction element).bind_pure fun _ here =>
    Expr.tidy_call (by decide) (List.forall_mem_singleton.mpr here)
  | .eachValue value => (planExpr_tidy words direction value).bind_pure fun _ here =>
    Expr.tidy_call (by decide) (List.forall_mem_singleton.mpr here)
  | .call model => (isWord_modelFunction words direction model).bind_pure fun _ word =>
    Expr.tidy_own word.oneLine
  | .dispatch property cases => dispatchExpr_tidy words direction property cases
  | .firstMatch options description => (optionExprs_tidy words direction options).bind_pure
    fun _ all => by
      refine Expr.tidy_call (by decide) ?_
      simp only [List.forall_mem_cons]
      exact ⟨Expr.tidy_list all, Expr.tidy_literal _, nofun⟩

theorem optionExprs_tidy {names : Names} (words : names.AreWords) (direction : Direction) :
    ∀ options : List (Predicate × Plan),
      Yields (optionExprs names direction options) (∀ e ∈ ·, e.Tidy)
  | [] => .ok nofun
  | (p, plan) :: rest => (predicateExpr_tidy words direction p).bind fun _ check =>
    (planExpr_tidy words direction plan).bind fun _ here =>
      (optionExprs_tidy words direction rest).bind_pure fun _ there =>
        List.forall_mem_cons.mpr ⟨Expr.tidy_pair check here, there⟩

end

/-! ## Fields and choices -/

theorem oneLine_defaultText (v : Value) : Yields (defaultText v) OneLine :=
  (oneLine_literal v).bind fun text here => by
    split
    · exact .ok (by simp +decide [here])
    · exact .ok (by simp +decide [here])
    · exact .ok here

theorem oneLine_declaration {names : Names} (words : names.AreWords) {late : Bool} {f : Field}
    {c : FieldContract} (named : IsWord c.attributeName) :
    Yields (declaration names late f c) OneLine := by
  refine (oneLine_annotate words f.type).bind fun base here => ?_
  have withNull := oneLine_ite (p := c.nullable) (oneLine_orNull here) here
  have unset : OneLine ((if c.nullable then orNull base else base) ++ " | Unset") :=
    oneLine_append.mpr ⟨withNull, by decide⟩
  have head : OneLine (c.attributeName ++ ": " ++ placed late (if c.required then
      if c.nullable then orNull base else base
      else (if c.nullable then orNull base else base) ++ " | Unset")) := by
    simp only [oneLine_append]
    exact ⟨⟨named.oneLine, by decide⟩, oneLine_placed (oneLine_ite withNull unset)⟩
  dsimp only
  split
  · refine (oneLine_defaultText _).bind_pure fun text told => ?_
    exact oneLine_append.mpr ⟨oneLine_append.mpr ⟨head, by decide⟩, told⟩
  · exact .ok (oneLine_ite head (oneLine_append.mpr ⟨head, by decide⟩))

/-- What a block says about a field stands on single lines. -/
structure FieldText.Tidy (f : FieldText) : Prop where
  attributeName : OneLine f.attributeName
  wireName : OneLine f.wireName
  declaration : OneLine f.declaration
  comments : ∀ comment ∈ f.comments, OneLine comment
  decoder : f.decoder.Tidy
  encoder : f.encoder.Tidy

theorem oneLine_commentLines (description : Option String) :
    ∀ comment ∈ commentLines description, OneLine comment := by
  intro comment mem newline
  have goes := commentLines_goes description comment mem '\n' newline
  cases goes

theorem fieldText_tidy {names : Names} (words : names.AreWords) {late : Bool} {r : RecordModel}
    {c : FieldContract} (named : IsWord c.attributeName) :
    Yields (fieldText names late r c) FieldText.Tidy := by
  rw [fieldText]
  split
  · exact .error
  · rename_i f found
    refine (oneLine_declaration words named).bind fun _ declared =>
      (planExpr_tidy words .decode c.plan).bind fun _ decoder =>
        (planExpr_tidy words .encode c.plan).bind_pure fun _ encoder => ?_
    exact ⟨named.oneLine, Json.oneLine_quote _, declared, oneLine_commentLines _, decoder,
      encoder⟩

/-- A choice of another model stands on single lines. -/
structure DispatchText.Tidy (d : DispatchText) : Prop where
  property : OneLine d.property
  decodeCases : OneLine d.decodeCases
  encodeCases : OneLine d.encodeCases

theorem dispatchText_tidy {names : Names} (words : names.AreWords) (name : String)
    (d : Schema.Discriminator) : Yields (dispatchText names name d) DispatchText.Tidy := by
  have decodeCases : Yields (d.mapping.mapM fun entry => do
      let choice ← if entry.2 == name then pure "None" else modelFunction names .decode entry.2
      return Json.quote entry.1 ++ ": " ++ choice) (∀ part ∈ ·, OneLine part) := by
    refine .mapM fun entry _ => ?_
    split
    · exact .ok (by simp +decide [Json.oneLine_quote])
    · exact (isWord_modelFunction words .decode entry.2).bind_pure fun _ function => by
        simp +decide [Json.oneLine_quote, function.oneLine]
  have encodeCases : Yields ((otherTargets name d).mapM fun target => do
      return (← names.classOf target) ++ ": " ++ (← modelFunction names .encode target))
      (∀ part ∈ ·, OneLine part) :=
    .mapM fun target _ => (words.classOf target).bind fun _ c =>
      (isWord_modelFunction words .encode target).bind_pure fun _ function => by
        simp +decide [c.oneLine, function.oneLine]
  refine decodeCases.bind fun _ decodes => encodeCases.bind_pure fun _ encodes => ?_
  exact ⟨Json.oneLine_quote _, by simp +decide [oneLine_commaSeparated decodes],
    by simp +decide [oneLine_commaSeparated encodes]⟩

/-- The check of a union stands on one line, and what it imports is reserved. -/
theorem unionCheck_tidy {names : Names} (words : names.AreWords) (body : Plan) :
    Yields (unionCheck names body) fun check =>
      OneLine check.1 ∧ ∀ name ∈ check.2, name ∈ supportNames := by
  unfold unionCheck
  split
  · rename_i property cases
    refine .ok ⟨oneLine_append.mpr ⟨?_, ?_⟩, List.forall_mem_singleton.mpr (by decide)⟩
    · simp +decide [Json.oneLine_quote]
    · exact oneLine_tupleText_map fun entry => Json.oneLine_quote entry.1
  · rename_i options description
    refine (predicateExprs_tidy words .decode _).bind fun parts all => ?_
    have check : (Expr.call "any_of" [.list parts]).Tidy :=
      Expr.tidy_call (by decide) (List.forall_mem_singleton.mpr (Expr.tidy_list all))
    exact check.line.bind_pure fun _ here => ⟨by simp +decide [here], check.imports⟩
  · exact .error

end Emit
end WireModel
