import WireModel.Proofs.Emit.Bindings

/-!
# The words of expressions

What stands between quotes names nothing. The other words of an expression are what it refers to.

* **`Uses`**: a text closes the quotes that it opens, and all its words are of some kind. Such texts
  are put together at characters that stand in no word.
* **`uses_literal`**: a literal has no word that is a name, but those of constants and numbers.
* **`names_defaultExpr`**: the default expression of a field names `field` exactly if its default is
  made anew for each instance, and `UNSET` exactly if it has none.
-/

namespace WireModel.Emit

open Text (continuesIdentifier)

/-! ## Reading -/

/-- A text without what stands between its quotes; behind a backslash a quote ends nothing. -/
def unquoted : Bool → List Char → List Char
  | _, [] => []
  | false, c :: rest => c :: unquoted (c == '"') rest
  | true, '\\' :: _ :: rest => unquoted true rest
  | true, c :: rest => if c == '"' then c :: unquoted false rest else unquoted true rest

/-- The words of a text outside of quotes. -/
def namesIn (s : String) : List String := wordsOf (unquoted false s.toList)

/-- A text closes the quotes that it opens. -/
def Closed (s : String) : Prop :=
  ∀ rest, unquoted false (s.toList ++ rest) = unquoted false s.toList ++ unquoted false rest

/-- A text closes its quotes, and its words outside of them are of some kind. -/
structure Uses (W : String → Prop) (s : String) : Prop where
  closed : Closed s
  words : ∀ word ∈ namesIn s, W word

/-! ## Putting texts together -/

theorem unquoted_append {cs : List Char} (plain : '"' ∉ cs) (rest : List Char) :
    unquoted false (cs ++ rest) = cs ++ unquoted false rest := by
  induction cs with
  | nil => rfl
  | cons c cs ih =>
    have other : (c == '"') = false := by
      rw [beq_eq_false_iff_ne]
      rintro rfl
      exact plain List.mem_cons_self
    rw [List.cons_append, unquoted, other, ih fun mem => plain (List.mem_cons_of_mem _ mem)]
    rfl

theorem unquoted_eq {cs : List Char} (plain : '"' ∉ cs) : unquoted false cs = cs := by
  have same := unquoted_append plain []
  rwa [List.append_nil, unquoted, List.append_nil] at same

/-- Whether a text has no quote and ends with a character that no identifier has. -/
def endsAside (s : String) : Bool :=
  !s.toList.contains '"' && s.toList.getLast?.any (!continuesIdentifier ·)

theorem namesIn_append_startsAside {s t : String} (closed : Closed s)
    (aside : startsAside t = true) : namesIn (s ++ t) = namesIn s ++ namesIn t := by
  obtain ⟨c, first, stop⟩ := (Option.any_eq_true _ _).mp aside
  obtain ⟨cs, starts⟩ := List.head?_eq_some_iff.mp first
  have stop : continuesIdentifier c = false := by simpa using stop
  rw [namesIn, String.toList_append, closed, namesIn, namesIn, starts, unquoted,
    wordsOf_append_cons stop, wordsOf_cons stop]

theorem namesIn_append_endsAside {s t : String} (aside : endsAside s = true) :
    namesIn (s ++ t) = namesIn s ++ namesIn t := by
  obtain ⟨plain, ends⟩ := Bool.and_eq_true_iff.mp aside
  obtain ⟨c, last, stop⟩ := (Option.any_eq_true _ _).mp ends
  obtain ⟨cs, same⟩ := List.getLast?_eq_some_iff.mp last
  have stop : continuesIdentifier c = false := by simpa using stop
  have plain : '"' ∉ s.toList := by simpa using plain
  rw [namesIn, String.toList_append, unquoted_append plain, namesIn, unquoted_eq plain, namesIn,
    same, List.append_assoc, List.singleton_append, wordsOf_append_cons stop, wordsOf_append_cons stop]
  simp [wordsOf]

theorem Closed.append {s t : String} (h : Closed s) (h' : Closed t) : Closed (s ++ t) := by
  intro rest
  rw [String.toList_append, List.append_assoc, h, h', h, List.append_assoc]

theorem closed_of_plain {s : String} (plain : '"' ∉ s.toList) : Closed s := by
  intro rest
  rw [unquoted_append plain, unquoted_eq plain]

namespace Uses

variable {W : String → Prop} {s t : String}

theorem append (h : Uses W s) (h' : Uses W t) (apart : endsAside s = true ∨ startsAside t = true) :
    Uses W (s ++ t) where
  closed := h.closed.append h'.closed
  words := by
    have names : namesIn (s ++ t) = namesIn s ++ namesIn t :=
      apart.elim namesIn_append_endsAside (namesIn_append_startsAside h.closed)
    rw [names]
    exact List.forall_mem_append.mpr ⟨h.words, h'.words⟩

theorem plain (noQuote : '"' ∉ s.toList) (words : ∀ word ∈ wordsOf s.toList, W word) :
    Uses W s where
  closed := closed_of_plain noQuote
  words := by
    rw [namesIn, unquoted_eq noQuote]
    exact words

theorem empty : Uses W "" := .plain (by decide) nofun

theorem intercalate {separator : String} (between : Uses W separator)
    (ends : endsAside separator = true) (starts : startsAside separator = true) :
    ∀ {parts : List String}, (∀ part ∈ parts, Uses W part) →
      Uses W (String.intercalate separator parts)
  | [], _ => by
    rw [String.intercalate_nil]
    exact .empty
  | [part], all => by
    rw [String.intercalate_singleton]
    exact all part List.mem_cons_self
  | part :: next :: rest, all => by
    have others := between.intercalate ends starts (List.forall_mem_cons.mp all).2
    rw [String.intercalate_cons_cons, String.append_assoc]
    exact (all part List.mem_cons_self).append (between.append others (.inl ends))
      (.inr (startsAside_append starts _))

end Uses

/-! ## Literals -/

/-- What stands between quotes: characters other than quotes and backslashes, and backslashes with
any character behind them. -/
inductive Escaped : List Char → Prop
  | nil : Escaped []
  | plain {c rest} : c ≠ '"' → c ≠ '\\' → Escaped rest → Escaped (c :: rest)
  | escape {c rest} : Escaped rest → Escaped ('\\' :: c :: rest)

namespace Escaped

theorem append {cs ds : List Char} (h : Escaped cs) (h' : Escaped ds) : Escaped (cs ++ ds) := by
  induction h with
  | nil => exact h'
  | plain quote backslash _ ih => exact .plain quote backslash ih
  | escape _ ih => exact .escape ih

theorem of_plain {cs : List Char} (plain : ∀ c ∈ cs, c ≠ '"' ∧ c ≠ '\\') : Escaped cs := by
  induction cs with
  | nil => exact .nil
  | cons c cs ih =>
    obtain ⟨⟨quote, backslash⟩, plain⟩ := List.forall_mem_cons.mp plain
    exact .plain quote backslash (ih plain)

/-- A character is written as itself, behind a backslash, or by its number. -/
theorem escapeChar (c : Char) : Escaped (Json.escapeChar c) := by
  have digits : ∀ n < 16, Text.hexDigit n ≠ '"' ∧ Text.hexDigit n ≠ '\\' := by decide
  have hex (n : Nat) : ∀ c ∈ Text.hex 4 n, c ≠ '"' ∧ c ≠ '\\' := by
    intro c mem
    obtain ⟨d, small, rfl⟩ := Text.exists_of_mem_hex mem
    exact digits d small
  have number (n : Nat) : Escaped ('\\' :: 'u' :: Text.hex 4 n) := .escape (.of_plain (hex n))
  have pair (c : Char) : Escaped ['\\', c] := .escape .nil
  unfold Json.escapeChar Json.unicodeEscape
  split
  · exact pair _
  rename_i quote
  split
  · exact pair _
  rename_i backslash
  split
  · exact pair _
  split
  · exact pair _
  split
  · exact pair _
  split
  · exact pair _
  split
  · exact pair _
  split
  · exact .plain (fun same => quote (beq_iff_eq.mpr same))
      (fun same => backslash (beq_iff_eq.mpr same)) .nil
  split
  · exact number _
  · exact (number _).append (number _)

theorem flatMap_escapeChar (cs : List Char) : Escaped (cs.flatMap Json.escapeChar) := by
  induction cs with
  | nil => exact .nil
  | cons c cs ih => exact (escapeChar c).append ih

end Escaped

/-- What is escaped ends no quotes. -/
theorem unquoted_escaped {cs : List Char} (h : Escaped cs) (rest : List Char) :
    unquoted true (cs ++ rest) = unquoted true rest := by
  induction h with
  | nil => rfl
  | @plain c cs quote backslash _ ih =>
    have other : (c == '"') = false := beq_eq_false_iff_ne.mpr quote
    rw [List.cons_append, unquoted, other, if_neg Bool.false_ne_true, ih]
    exact fun _ _ same _ => backslash same
  | escape _ ih => exact ih

/-- A text between quotes has no words. -/
theorem uses_quote (W : String → Prop) (s : String) : Uses W (Json.quote s) := by
  have body (cs rest : List Char) :
      unquoted true (cs.flatMap Json.escapeChar ++ '"' :: rest) = '"' :: unquoted false rest :=
    unquoted_escaped (.flatMap_escapeChar cs) _
  have whole (rest : List Char) :
      unquoted false ((Json.quote s).toList ++ rest) = '"' :: '"' :: unquoted false rest := by
    rw [Json.quote, String.toList_ofList, Json.quoteList, List.cons_append, List.cons_append,
      List.append_assoc, List.singleton_append, unquoted]
    exact congrArg _ (body s.toList rest)
  have alone : unquoted false (Json.quote s).toList = ['"', '"'] := by
    have same := whole []
    rwa [List.append_nil] at same
  have none : namesIn (Json.quote s) = [] := by
    rw [namesIn, alone]
    decide
  refine ⟨fun rest => by rw [whole, alone]; rfl, ?_⟩
  rw [none]
  exact List.forall_mem_nil W

/-- The parts of a list have only its elements. -/
theorem subset_of_mem_splitOnP {α : Type} {p : α → Bool} {l : List α} :
    ∀ part ∈ l.splitOnP p, part ⊆ l := by
  induction l with
  | nil => simp
  | cons a l ih =>
    rw [List.splitOnP_cons_eq_if_modifyHead]
    have later : ∀ part ∈ l.splitOnP p, part ⊆ a :: l :=
      fun part mem => List.Subset.trans (ih part mem) (List.subset_cons_self a l)
    split
    · exact List.forall_mem_cons.mpr ⟨List.nil_subset _, later⟩
    · cases parts : l.splitOnP p with
      | nil => nofun
      | cons first rest =>
        rw [parts] at ih later
        obtain ⟨here, -⟩ := List.forall_mem_cons.mp ih
        exact List.forall_mem_cons.mpr
          ⟨List.cons_subset_cons a here, (List.forall_mem_cons.mp later).2⟩

/-- The names that the default expression of a field can refer to. -/
def defaultNames : List String := ["field", "UNSET"]

/-- A number is no name: it has other characters. -/
theorem uses_number {s : String} (all : s.toList ⊆ Decimal.numerals) :
    Uses (· ∉ defaultNames) s := by
  refine .plain (fun quote => absurd (all quote) (by decide)) fun word mem name => ?_
  have within : word.toList ⊆ Decimal.numerals := by
    obtain ⟨part, there, rfl⟩ := List.mem_map.mp mem
    rw [String.toList_ofList]
    exact List.Subset.trans (subset_of_mem_splitOnP part (List.mem_filter.mp there).1) all
  have other : ∀ name ∈ defaultNames, ¬name.toList ⊆ Decimal.numerals := by decide
  exact other word name within

theorem uses_commaSeparated {W : String → Prop} {parts : List String}
    (all : ∀ part ∈ parts, Uses W part) : Uses W (commaSeparated parts) :=
  .intercalate (.plain (by decide) nofun) (by decide) (by decide) all

/-- A text between two brackets. -/
theorem Uses.enclosed {W : String → Prop} {opening s closing : String} (h : Uses W s)
    (first : endsAside opening = true ∧ wordsOf opening.toList = [])
    (last : startsAside closing = true ∧ '"' ∉ closing.toList ∧ wordsOf closing.toList = []) :
    Uses W (opening ++ s ++ closing) := by
  have opens : Uses W opening := .plain (by
    have plain := (Bool.and_eq_true_iff.mp first.1).1
    simpa using plain) (by rw [first.2]; nofun)
  have closes : Uses W closing := .plain last.2.1 (by rw [last.2.2]; nofun)
  rw [String.append_assoc]
  exact opens.append (h.append closes (.inr last.1)) (.inl first.1)

mutual

/-- **A literal refers to no name** of a default expression. -/
theorem uses_literal : ∀ v : Value, Yields (literal v) (Uses (· ∉ defaultNames))
  | .null => .ok (.plain (by decide) (by decide))
  | .bool b => .ok (by cases b <;> exact .plain (by decide) (by decide))
  | .int n => by
    rw [literal]
    split
    · exact .ok (uses_number (Decimal.numerals_ofInt n))
    · exact .error
  | .float x => .ok (uses_number (Decimal.numerals_ofBinary64 x))
  | .str s => .ok (uses_quote _ s)
  | .list items | .tuple items => (uses_literals items).bind_pure fun parts all =>
    (uses_commaSeparated all).enclosed (by decide) (by decide)
  | .map entries => (uses_entryLiterals entries).bind_pure fun parts all =>
    (uses_commaSeparated all).enclosed (by decide) (by decide)
  | .unset | .record .. | .knot _ => .error

theorem uses_literals : ∀ values : List Value,
    Yields (literals values) (∀ part ∈ ·, Uses (· ∉ defaultNames) part)
  | [] => .ok nofun
  | v :: rest => (uses_literal v).bind fun _ here => (uses_literals rest).bind_pure
    fun _ there => List.forall_mem_cons.mpr ⟨here, there⟩

theorem uses_entryLiterals : ∀ entries : List (Value × Value),
    Yields (entryLiterals entries) (∀ part ∈ ·, Uses (· ∉ defaultNames) part)
  | [] => .ok nofun
  | (k, v) :: rest => (uses_literal k).bind fun _ told => (uses_literal v).bind
    fun _ here => (uses_entryLiterals rest).bind_pure fun _ there =>
      List.forall_mem_cons.mpr ⟨by
        have colon : Uses (· ∉ defaultNames) ": " := .plain (by decide) nofun
        rw [String.append_assoc]
        exact told.append (colon.append here (.inl (by decide)))
          (.inr (startsAside_append (by decide) _)), there⟩

end

/-! ## Declarations -/

/-- The expression behind the declaration of a field, if there is one. -/
def defaultExpr (c : FieldContract) : Except Fault (Option String) :=
  match c.default with
  | some v => (defaultText v).map some
  | none => .ok (if c.required then none else some "UNSET")

/-- The annotation of a field, given the one of its type. -/
def fieldHint (c : FieldContract) (base : String) : String :=
  (if c.nullable then orNull base else base) ++ if c.required then "" else " | Unset"

/-- A declaration is an attribute with its annotation, and the default expression behind it. -/
theorem declaration_reads {names : Names} {late : Bool} {f : Field} {c : FieldContract} :
    Yields (declaration names late f c) fun text => ∃ base default,
      annotate names f.type = .ok base ∧ defaultExpr c = .ok default ∧
      text = c.attributeName ++ ": " ++ placed late (fieldHint c base) ++
        (default.elim "" fun expr => " = " ++ expr) := by
  intro text h
  obtain ⟨base, annotated, h⟩ := bind_eq_ok.mp h
  have annotation : fieldHint c base = if c.required then
      if c.nullable then orNull base else base
      else (if c.nullable then orNull base else base) ++ " | Unset" := by
    rw [fieldHint]
    cases c.required with
    | true => exact String.append_empty
    | false => rfl
  dsimp only at h
  rw [← annotation] at h
  -- a field without a default that may be left out is unset at first
  cases given : c.default with
  | some v =>
    rw [given] at h
    obtain ⟨expr, told, h⟩ := bind_eq_ok.mp h
    cases h
    have default : defaultExpr c = .ok (some expr) := by
      rw [defaultExpr, given]
      exact map_eq_ok.mpr ⟨expr, told, rfl⟩
    exact ⟨base, some expr, annotated, default, String.append_assoc ..⟩
  | none =>
    rw [given] at h
    cases h
    rw [defaultExpr, given]
    cases c.required with
    | true => exact ⟨base, none, annotated, rfl, (String.append_empty ..).symm⟩
    | false =>
      have joined : " = UNSET" = " = " ++ "UNSET" := by decide
      exact ⟨base, some "UNSET", annotated, rfl, congrArg (_ ++ ·) joined⟩

/-- The block of a model has a line for each of its fields, which declares it. -/
theorem recordBlock_declares {names : Names} {late : Bool} {r : RecordModel} {c : RecordContract} :
    Yields (recordBlock names late r c) fun block => ∀ f ∈ c.fields, ∃ own line,
      r.fields.find? (·.wireName == f.wireName) = some own ∧
      declaration names late own f = .ok line ∧ "    " ++ line ∈ block.lines := by
  intro block h f mem
  obtain ⟨fields, texts, -, lines⟩ := lines_of_recordBlock h
  obtain ⟨text, there, field⟩ :=
    exists_right_of_forall₂ (mapM_eq_ok.mp texts) (mem_declarationOrder.mpr mem)
  unfold fieldText at field
  split at field
  · cases field
  · rename_i own found
    obtain ⟨line, declared, field⟩ := bind_eq_ok.mp field
    obtain ⟨decoder, -, field⟩ := bind_eq_ok.mp field
    obtain ⟨encoder, -, field⟩ := bind_eq_ok.mp field
    cases field
    refine ⟨own, line, found, declared, ?_⟩
    have told : "    " ++ line ∈ fields.flatMap declarationLines :=
      List.mem_flatMap.mpr ⟨_, there, List.mem_append_right _ List.mem_cons_self⟩
    exact lines _ told

/-- **What a default expression refers to**: to the function that makes a value anew if the default
is a list or a mapping, to the mark of what is unset if there is none, and to nothing else. -/
theorem names_defaultExpr {c : FieldContract} {expr : String}
    (told : defaultExpr c = .ok (some expr)) :
    ("field" ∈ namesIn expr ↔ needsFactory c.default = true) ∧
      ("UNSET" ∈ namesIn expr ↔ c.default = none) := by
  unfold defaultExpr at told
  split at told
  · rename_i v given
    rw [given]
    obtain ⟨text, shown, same⟩ := map_eq_ok.mp told
    cases same
    obtain ⟨inner, written, shown⟩ := bind_eq_ok.mp shown
    have uses := uses_literal v inner written
    have others : "field" ∉ namesIn inner ∧ "UNSET" ∉ namesIn inner :=
      ⟨fun mem => uses.words _ mem (by decide), fun mem => uses.words _ mem (by decide)⟩
    -- what is made anew stands inside of a call
    have call : namesIn ("field(default_factory=lambda: " ++ inner ++ ")") =
        ["field", "default_factory", "lambda"] ++ namesIn inner := by
      have first : namesIn "field(default_factory=lambda: " =
          ["field", "default_factory", "lambda"] := by decide +kernel
      have last : namesIn ")" = [] := by decide +kernel
      rw [String.append_assoc, namesIn_append_endsAside (by decide),
        namesIn_append_startsAside uses.closed (by decide), first, last, List.append_nil]
    cases v with
    | list items | map entries =>
      cases shown
      rw [call]
      simp [needsFactory, others]
    | _ =>
      cases shown
      simp [needsFactory, others]
  · rename_i given
    cases required : c.required with
    | true =>
      rw [required] at told
      cases told
    | false =>
      rw [required] at told
      cases told
      have alone : namesIn "UNSET" = ["UNSET"] := by decide +kernel
      rw [given, alone]
      simp [needsFactory]

end WireModel.Emit
