import WireModel.Command.Run
import WireModel.Proofs.Emit.Reports
import WireModel.Proofs.Json.Reading
import WireModel.Proofs.Schema.Faults
import WireModel.Proofs.Table.Faults

/-!
# What may stop a generation

A generation stops where a stage refuses what it is given, and tells why. On a JSON document, with
options that list texts, nothing else happens up to one case: an integer with more digits than are
read or written. It stops the reader of a text, or the text that shows it. Once there is a table,
there are contracts, every name is found, and the text is there exactly if all that the table
mentions can be shown.
-/

namespace WireModel

/-! ## Documents -/

/-- A text is JSON: it is not malformed, even if it may have an integer that is too long. -/
def Json.Accepts (s : String) : Prop :=
  ∀ cause position, read s ≠ .error (.malformed cause position)

namespace Document

/-- A document is JSON: a JSON value, or the text of one. -/
def IsJson : Document → Prop
  | .value (.str s) | .text s => Json.Accepts s
  | .value v => v.isJson = true
  | .octets bytes => ∃ s, Text.Utf8.decode bytes = .ok s ∧ Json.Accepts s

/-- No integer of a document is too long. -/
def IsShort : Document → Prop
  | .value (.str s) | .text s => ∃ v, Json.read s = .ok v
  | .value v => v.isTellable = true
  | .octets bytes => ∃ s v, Text.Utf8.decode bytes = .ok s ∧ Json.read s = .ok v

/-- A document comes as text. -/
def IsText : Document → Prop
  | .value (.str _) | .text _ | .octets _ => True
  | .value _ => False

/-- Reading JSON text gives the value of the text, or stops at an integer. -/
theorem readText_cases {s : String} (json : Json.Accepts s) (source : String) :
    (∃ v, Json.read s = .ok v ∧ readText s source none = .ok v) ∨
      ∃ digits, Json.read s = .error (.overlong digits) ∧
        readText s source none = .error ⟨source, .overlong (.read digits)⟩ := by
  unfold readText
  dsimp only
  cases given : Json.read s with
  | ok v => exact .inl ⟨v, rfl, rfl⟩
  | error fault =>
    cases fault with
    | malformed cause position => exact absurd given (json cause position)
    | overlong digits => exact .inr ⟨digits, rfl, rfl⟩

/-- Reading a JSON document gives a JSON value, which can be shown if no integer of the document is
too long, or stops at an integer that is; text is read only if none is. -/
theorem read_cases {document : Document} {source : String} (json : document.IsJson) :
    (∃ v, document.read source = .ok v ∧ v.isJson = true ∧
      (document.IsShort → v.isTellable = true) ∧ (document.IsText → document.IsShort)) ∨
    ∃ digits, document.read source = .error ⟨source, .overlong (.read digits)⟩ ∧
      ¬document.IsShort := by
  have text : ∀ {s}, Json.Accepts s →
      (∃ v, readText s source none = .ok v ∧ v.isJson = true ∧
        ((∃ w, Json.read s = .ok w) → v.isTellable = true) ∧ (True → ∃ w, Json.read s = .ok w)) ∨
      ∃ digits, readText s source none = .error ⟨source, .overlong (.read digits)⟩ ∧
        ¬∃ w, Json.read s = .ok w := by
    intro s json
    rcases readText_cases json source with ⟨v, given, read⟩ | ⟨digits, given, read⟩
    · obtain ⟨isJson, told⟩ := Json.read_ok given
      exact .inl ⟨v, read, isJson, fun _ => told, fun _ => ⟨v, given⟩⟩
    · exact .inr ⟨digits, read, fun ⟨w, same⟩ => nomatch given.symm.trans same⟩
  -- only texts and octets are read; any other document is a value already
  match document, json with
  | .text s, json | .value (.str s), json => exact text json
  | .octets bytes, ⟨s, decoded, json⟩ =>
    have same : (octets bytes).read source = readText s source none := by
      rw [read, decode, decoded]
      rfl
    have short : (octets bytes).IsShort ↔ ∃ v, Json.read s = .ok v := by
      simp [IsShort, decoded]
    rw [same, short]
    exact text json
  | .value .null, json | .value (.bool _), json | .value (.int _), json | .value (.float _), json
  | .value (.list _), json | .value (.map _), json => exact .inl ⟨_, rfl, json, id, False.elim⟩

end Document

namespace Generation

/-! ## Faults -/

/-- A fault is told to the user as one of the document or its schemas. -/
def Fault.IsReported (fault : Fault) : Prop :=
  Command.reportGeneration fault = .reported fault.message

/-- A fault is an integer that is too long: too long to be read, to be shown in a message, or to be
written in one of the languages. -/
inductive Fault.IsOverlong : Fault → Prop
  | schema {location number} : IsOverlong (.schema ⟨location, .overlong number⟩)
  | literal : IsOverlong (.emission .overlong)
  | report : IsOverlong (.emission (.notJson .overlong))

theorem Fault.IsOverlong.not_isReported {fault : Fault} (h : fault.IsOverlong) :
    ¬fault.IsReported := by
  intro reported
  cases h <;> cases reported

/-- A fault that is allowed for a document: one that is told, or an integer of the document. -/
def Fault.IsExpected (document : Document) (fault : Fault) : Prop :=
  fault.IsReported ∨ fault.IsOverlong ∧ ¬document.IsShort

theorem isReported_schema {fault : Schema.Fault} (placed : fault.cause.isUnplaced = false) :
    (Fault.schema fault).IsReported := by
  rw [Fault.IsReported, Command.reportGeneration, placed]
  rfl

theorem isReported_table {fault : Table.Fault} (own : fault.IsOfDefinitions) :
    (Fault.table fault).IsReported := by
  cases fault with
  | options misuse => exact absurd own id
  | _ => rfl

/-! ## Stages -/

section Stages

variable {ε α : Type} {cause : ε → Fault} {P : ε → Prop} {a : α} {log log' : List Warning}

theorem gives_of_runs_stage {result : Logged ε α} (h : Runs (stage cause result) log a log') :
    result.Gives a := by
  refine ⟨log, log', ?_⟩
  have h : ((result log).1.mapError cause, (result log).2) = (.ok a, log') := h
  obtain ⟨found, last⟩ := Prod.mk.inj h
  exact Prod.ext (mapError_eq_ok.mp found) last

theorem stage_failsOnly {result : Logged ε α} (h : FailsOnly result P) :
    FailsOnly (stage cause result) fun fault => ∃ f, fault = cause f ∧ P f := by
  intro log fault log' fails
  have fails : ((result log).1.mapError cause, (result log).2) = (.error fault, log') := fails
  obtain ⟨found, last⟩ := Prod.mk.inj fails
  cases made : (result log).1 with
  | ok a =>
    rw [made] at found
    cases found
  | error f =>
    rw [made] at found
    cases found
    exact ⟨f, rfl, h log f log' (Prod.ext made last)⟩

theorem eq_ok_of_runs_quietStage {result : Except ε α}
    (h : Runs (quietStage cause result) log a log') : result = .ok a := by
  have h : (result.mapError cause, log) = (.ok a, log') := h
  exact mapError_eq_ok.mp (Prod.mk.inj h).1

theorem quietStage_failsOnly {result : Except ε α} (h : ErrsOnly result P) :
    FailsOnly (quietStage cause result) fun fault => ∃ f, fault = cause f ∧ P f := by
  intro log fault log' fails
  have fails : (result.mapError cause, log) = (.error fault, log') := fails
  cases result with
  | ok a => cases fails
  | error f =>
    cases fails
    exact ⟨f, rfl, h f rfl⟩

end Stages

/-! ## Texts -/

/-- The text of a table hinges on what the table mentions, in both languages. -/
theorem textOf_cases {table : Table} (ready : table.Ready) {contracts : Contracts}
    (derives : (Contract.derive table).Gives contracts) (request : Request) :
    ((∃ text, textOf request table contracts = .ok text) ↔ table.IsTellable) ∧
      ErrsOnly (textOf request table contracts) fun fault =>
        (fault = .overlong ∨ fault = .notJson .overlong) ∧ ¬table.IsTellable := by
  unfold textOf
  cases request.language with
  | python =>
    have writes := Emit.moduleText_writes ready derives request.options.futureAnnotations.isTruthy
      (commentOf request)
    refine ⟨writes.ok_iff, fun fault failed => ⟨.inl (writes.fault fault failed), fun told => ?_⟩⟩
    obtain ⟨text, made⟩ := writes.ok told
    cases failed.symm.trans made
  | report =>
    have writes := Emit.reportText_writes ready derives (commentOf request)
    refine ⟨writes.ok_iff, fun fault failed => ⟨.inr (writes.fault fault failed), fun told => ?_⟩⟩
    obtain ⟨text, made⟩ := writes.ok told
    cases failed.symm.trans made

/-! ## Generations -/

section

variable {request : Request} (json : request.source.document.IsJson)
  (texts : request.options.AreTexts)

include json

theorem isJson_of_read {value : Value}
    (read : request.source.document.read request.source.name = .ok value) :
    value.isJson = true ∧ (request.source.document.IsShort → value.isTellable = true) := by
  rcases Document.read_cases json with ⟨v, same, isJson, told, -⟩ | ⟨digits, same, -⟩
  · cases read.symm.trans same
    exact ⟨isJson, told⟩
  · cases read.symm.trans same

/-- The table of a JSON document is ready, and can be shown if no integer of the document is too
long. -/
theorem ready_of_gives {graph : Schema.Graph} {definitions : List (String × Types.Definition)}
    {table : Table} (loads : (graphOf request.source).Gives graph)
    (resolves : (definitionsOf graph).Gives definitions)
    (builds : Table.build request.options definitions = .ok table) :
    table.Ready ∧ (request.source.document.IsShort → table.IsTellable) := by
  obtain ⟨value, ⟨_, _, read⟩, _, _, loads⟩ := loads.bind
  have read := eq_ok_of_runs_quietStage read
  obtain ⟨isJson, told⟩ := isJson_of_read json read
  obtain ⟨_, _, resolves⟩ := resolves
  obtain ⟨ready, parts⟩ := Table.ready_of_build isJson (gives_of_runs_stage loads)
    (gives_of_runs_stage resolves) builds
  exact ⟨ready, fun short v mentions => (parts v mentions).isTellable (told short)⟩

theorem graphOf_failsOnly :
    FailsOnly (graphOf request.source) (Fault.IsExpected request.source.document) := by
  have reads : ErrsOnly (request.source.document.read request.source.name) fun fault =>
      (∃ digits, fault.cause = .overlong (.read digits)) ∧ ¬request.source.document.IsShort := by
    rcases Document.read_cases json with ⟨v, same, -⟩ | ⟨digits, same, long⟩
    · exact .of_eq_ok same
    · exact same ▸ .error ⟨⟨digits, rfl⟩, long⟩
  refine FailsOnly.bind_of ((quietStage_failsOnly reads).imp ?_) fun value _ _ read => ?_
  · rintro _ ⟨⟨location, _⟩, rfl, ⟨digits, rfl⟩, long⟩
    exact .inr ⟨.schema, long⟩
  · have told := (isJson_of_read json (eq_ok_of_runs_quietStage read)).2
    refine (stage_failsOnly (Schema.ofDocument_reports _ _)).imp ?_
    rintro _ ⟨⟨location, cause⟩, rfl, about⟩
    cases placed : cause.isUnplaced with
    | false => exact .inl (isReported_schema placed)
    | true =>
      obtain ⟨rfl, long⟩ := about placed
      refine .inr ⟨.schema, fun short => ?_⟩
      rw [told short] at long
      cases long

include texts

theorem run_failsOnly : FailsOnly (run request) (Fault.IsExpected request.source.document) := by
  refine (graphOf_failsOnly json).bind_of fun graph _ _ loads => ?_
  refine FailsOnly.bind_of ?_ fun definitions _ _ resolves => ?_
  · refine (stage_failsOnly (P := fun _ => True) fun _ _ _ _ => trivial).imp ?_
    rintro _ ⟨fault, rfl, -⟩
    exact .inl rfl
  refine FailsOnly.bind_of ?_ fun table _ _ builds => ?_
  · refine (quietStage_failsOnly (Table.build_errs texts)).imp ?_
    rintro _ ⟨fault, rfl, own⟩
    exact .inl (isReported_table own)
  obtain ⟨ready, told⟩ := ready_of_gives json ⟨_, _, loads⟩ ⟨_, _, resolves⟩
    (eq_ok_of_runs_quietStage builds)
  refine FailsOnly.bind_of ?_ fun contracts _ _ derives => ?_
  · have derived := (Contract.derive_succeeds ready.closed).failsOnly (P := fun _ => False)
    exact (stage_failsOnly derived).imp fun _ ⟨_, _, absurd⟩ => absurd.elim
  refine FailsOnly.bind ?_ fun text => .pure
  refine (quietStage_failsOnly (textOf_cases ready (gives_of_runs_stage derives) request).2).imp ?_
  rintro _ ⟨fault, rfl, rfl | rfl, long⟩
  · exact .inr ⟨.literal, fun short => long (told short)⟩
  · exact .inr ⟨.report, fun short => long (told short)⟩

end

theorem run_of_read_error {request : Request} {fault : Schema.Fault}
    (h : request.source.document.read request.source.name = .error fault) :
    (run request).outcome.1 = .error (.schema fault) := by
  have stopped : quietStage Fault.schema (request.source.document.read request.source.name) [] =
      (.error (.schema fault), []) := by
    rw [h]
    rfl
  have fails : Fails (run request) [] (.schema fault) [] :=
    fails_bind_iff.mpr (.inl (fails_bind_iff.mpr (.inl stopped)))
  exact congrArg (·.1) (show run request [] = _ from fails)

theorem outcome_cases {α : Type} {P : Fault → Prop} {computation : Logged Fault α}
    (h : FailsOnly computation P) : (∃ a, computation.outcome.1 = .ok a) ∨
      ∃ fault, computation.outcome.1 = .error fault ∧ P fault := by
  cases made : computation.outcome.1 with
  | ok a => exact .inl ⟨a, rfl⟩
  | error fault => exact .inr ⟨fault, rfl, h [] fault _ (Prod.ext made rfl)⟩

/-- On a JSON document, with options that list texts, a generation gives all of its result, or a
fault that is told to the user, or it stops at an integer of the document that is too long; a text
with such an integer always stops it. Once there is a table, predicates are selected by a walk that
ends, there are contracts, and in each language the text is there exactly if all that the table
mentions can be shown. It can be if no integer of the document is too long; nothing else stands in
the way of the text. -/
theorem ok_or_reported_of_isJson {request : Request} (json : request.source.document.IsJson)
    (texts : request.options.AreTexts) :
    ((∃ generation, (run request).outcome.1 = .ok generation) ∨
      ∃ fault, (run request).outcome.1 = .error fault ∧
        (fault.IsReported ∨ fault.IsOverlong ∧ ¬request.source.document.IsShort)) ∧
    (request.source.document.IsText → ¬request.source.document.IsShort →
      ∃ fault, (run request).outcome.1 = .error fault ∧ fault.IsOverlong) ∧
    ∀ graph definitions table, (graphOf request.source).Gives graph →
      (definitionsOf graph).Gives definitions →
      (tableOf request.options definitions).Gives table →
        (∀ t, table.Occurs t →
          ∃ p, Contract.predicateFor table t = .ok p ∧ Contract.Selects table [] t p) ∧
        (Contract.derive table).Succeeds ∧
        (request.source.document.IsShort → table.IsTellable) ∧
        ∀ contracts, (Contract.derive table).Gives contracts → ∀ language,
          ((∃ text, textOf { request with language } table contracts = .ok text) ↔
            table.IsTellable) ∧
          ∀ fault, textOf { request with language } table contracts = .error fault →
            fault = .overlong ∨ fault = .notJson .overlong := by
  refine ⟨outcome_cases (run_failsOnly json texts), fun text long => ?_, ?_⟩
  · rcases Document.read_cases json with ⟨v, -, -, -, short⟩ | ⟨digits, stopped, -⟩
    · exact absurd (short text) long
    · exact ⟨_, run_of_read_error stopped, .schema⟩
  intro graph definitions table loads resolves ⟨_, _, builds⟩
  obtain ⟨ready, told⟩ := ready_of_gives json loads resolves (eq_ok_of_runs_quietStage builds)
  refine ⟨fun t occurs => Contract.predicateFor_selects ready.closed occurs,
    Contract.derive_succeeds ready.closed, told, fun contracts derives language => ?_⟩
  obtain ⟨text, faults⟩ := textOf_cases ready derives { request with language }
  exact ⟨text, fun fault failed => (faults fault failed).1⟩

/-- The models of the zoo, as a module. -/
def zooRequest : Request :=
  ⟨⟨.value Table.zooDocument, "zoo", none⟩, Table.zooOptions, .python, none⟩

theorem gives_stage {ε α : Type} {cause : ε → Fault} {result : Logged ε α} {a : α}
    (h : result.Gives a) : (stage cause result).Gives a := by
  obtain ⟨log, log', h⟩ := h
  have made : result log = (.ok a, log') := h
  refine ⟨log, log', ?_⟩
  change ((result log).1.mapError cause, (result log).2) = (.ok a, log')
  rw [made]
  rfl

theorem gives_quietStage {ε α : Type} {cause : ε → Fault} {result : Except ε α} {a : α}
    (h : result = .ok a) : (quietStage cause result).Gives a := by
  rw [h]
  exact ⟨[], [], rfl⟩

/-- The zoo has a table, and its text is there in both languages. -/
theorem zoo_has_texts : zooRequest.source.document.IsJson ∧ zooRequest.options.AreTexts ∧
    ∃ graph definitions table contracts, (graphOf zooRequest.source).Gives graph ∧
      (definitionsOf graph).Gives definitions ∧
      (tableOf zooRequest.options definitions).Gives table ∧
      (Contract.derive table).Gives contracts ∧ ∀ language,
        ∃ text, textOf { zooRequest with language } table contracts = .ok text := by
  have json : zooRequest.source.document.IsJson := by
    show Table.zooDocument.isJson = true
    decide +kernel
  have short : zooRequest.source.document.IsShort := by
    show Table.zooDocument.isTellable = true
    decide +kernel
  have texts : zooRequest.options.AreTexts := ⟨⟨["Stone"], rfl⟩, ⟨["lives"], rfl⟩, ⟨["Toy"], rfl⟩⟩
  have some : (Table.ofDocument? Table.zooDocument none "zoo" Table.zooOptions).isSome = true := by
    decide +kernel
  obtain ⟨⟨graph, definitions, table⟩, found⟩ := Option.isSome_iff_exists.mp some
  obtain ⟨loads, resolves, builds⟩ := Table.ofDocument?_eq_some found
  have loads : (graphOf zooRequest.source).Gives graph :=
    show (stage .schema (Schema.Graph.ofDocument Table.zooDocument none "zoo")).Gives graph from
      gives_stage (Logged.gives_of_outcome loads)
  have resolves : (definitionsOf graph).Gives definitions :=
    gives_stage (Logged.gives_of_outcome resolves)
  have builds : (tableOf zooRequest.options definitions).Gives table :=
    gives_quietStage builds
  obtain ⟨-, succeeds, told, written⟩ :=
    (ok_or_reported_of_isJson json texts).2.2 graph definitions table loads resolves builds
  obtain ⟨contracts, derives⟩ := succeeds.exists_gives
  exact ⟨json, texts, graph, definitions, table, contracts, loads, resolves, builds, derives,
    fun language => (written contracts derives language).1.mpr (told short)⟩

/-! ## An integer that is too long -/

/-- An object up to its first value. -/
def opened (key : String) (rest : List Char) : List Char :=
  '\x7b' :: '"' :: (key.toList ++ '"' :: ':' :: rest)

/-- A stock of so many things that the default of their number has a digit more than are read. -/
def stockText : String :=
  String.ofList (opened "definitions" (opened "Stock" (opened "properties" (opened "count"
    (opened "default" ('7' :: List.replicate 4300 '7' ++
      ',' :: "\"type\":\"integer\"\x7d\x7d,\"type\":\"object\"\x7d\x7d\x7d".toList))))))

def stockRequest : Request := ⟨⟨.text stockText, "<document>", none⟩, {}, .python, none⟩

theorem readValue_opened {key : String} {fuel : Nat} {rest : List Char} {fault : Json.Fault}
    (named : ∀ position, ∃ name after,
      Json.readString ⟨key.toList ++ '"' :: ':' :: rest, position⟩ =
        .ok (name, ⟨':' :: rest, after⟩))
    (blank : rest.takeWhile Json.Cursor.isBlank = [])
    (fails : ∀ position, Json.readValue fuel ⟨rest, position⟩ = .error fault) (position : Nat) :
    Json.readValue (fuel + 2) ⟨opened key rest, position⟩ = .error fault :=
  Json.readValue_error_of_member named blank fails

theorem read_stockText : Json.read stockText = .error (.overlong 4301) := by
  -- the number is the first thing that is read in the innermost object
  have digits : ∀ fuel position (tail : List Char), Json.readValue (fuel + 1)
      ⟨'7' :: List.replicate 4300 '7' ++ ',' :: tail, position⟩ = .error (.overlong 4301) := by
    intro fuel position tail
    have number := Json.readNumber_overlong (List.replicate 4300 '7') tail position
      (show '7'.isDigit = true from rfl) (by decide)
      (fun c mem => by rw [List.eq_of_mem_replicate mem]; rfl)
      (by rw [List.length_replicate]; exact Nat.le_refl _)
    rw [List.length_replicate] at number
    exact number
  have value : ∀ fuel position, Json.readValue (fuel + 11) ⟨stockText.toList, position⟩ =
      .error (.overlong 4301) := by
    intro fuel
    rw [stockText, String.toList_ofList]
    -- five objects, each the first member of the one around it
    refine readValue_opened (fun _ => ⟨_, _, rfl⟩) rfl ?_
    refine readValue_opened (fun _ => ⟨_, _, rfl⟩) rfl ?_
    refine readValue_opened (fun _ => ⟨_, _, rfl⟩) rfl ?_
    refine readValue_opened (fun _ => ⟨_, _, rfl⟩) rfl ?_
    refine readValue_opened (fun _ => ⟨_, _, rfl⟩) rfl ?_
    exact fun position => digits fuel position _
  obtain ⟨rest, start⟩ : ∃ rest, stockText.toList = opened "definitions" rest :=
    ⟨_, String.toList_ofList⟩
  rw [Json.read, Json.readList]
  have enough : 2 * stockText.toList.length + 1 = 2 * stockText.toList.length - 10 + 11 := by
    have : stockText.toList.length = 11 + (rest.length + 2) + 2 := by
      rw [start, opened, List.length_cons, List.length_cons, List.length_append, List.length_cons,
        List.length_cons]
      rfl
    omega
  have first : (stockText.toList.head? == some (Char.ofNat 0xFEFF)) = false := by
    rw [start]
    rfl
  have here : (Json.Cursor.mk stockText.toList 0).skipBlanks = ⟨stockText.toList, 0⟩ := by
    rw [start]
    rfl
  simp only [first, Bool.false_eq_true, if_false, here, enough, value]

/-- The same stock as a value, which is not read from a text. -/
def stockDocument : Value :=
  .ofFields [("definitions", .ofFields [("Stock", .ofFields [("properties", .ofFields [
    ("count", .ofFields [("default", .int Decimal.tooLong), ("type", .str "integer")])]),
    ("type", .str "object")])])]

/-- Whether a default of a model cannot be shown. -/
def hasLongDefault : Model → Bool
  | .record r => r.fields.any fun f => f.default.any fun v => !v.isTellable
  | .union _ => false

/-- The table of the stock is built and has contracts, but it has a text in neither language. -/
theorem stockDocument_has_no_text : stockDocument.isJson = true ∧
    ∃ graph definitions table contracts,
      Table.ofDocument? stockDocument none "stock" {} = some (graph, definitions, table) ∧
      (Contract.derive table).Gives contracts ∧
      ∀ request, ¬∃ text, textOf request table contracts = .ok text := by
  have json : stockDocument.isJson = true := by decide +kernel
  have some : (Table.ofDocument? stockDocument none "stock" {}).any (fun built =>
      built.2.2.models.any hasLongDefault) = true := by
    decide +kernel
  obtain ⟨⟨graph, definitions, table⟩, found, long⟩ := (Option.any_eq_true _ _).mp some
  obtain ⟨m, mem, long⟩ := List.any_eq_true.mp long
  cases m with
  | union u => cases long
  | record r =>
    obtain ⟨f, own, long⟩ := List.any_eq_true.mp long
    obtain ⟨v, given, long⟩ := (Option.any_eq_true _ _).mp long
    obtain ⟨loads, resolves, builds⟩ := Table.ofDocument?_eq_some found
    obtain ⟨ready, -⟩ := Table.ready_of_build json (Logged.gives_of_outcome loads)
      (Logged.gives_of_outcome resolves) builds
    obtain ⟨contracts, derives⟩ := (Contract.derive_succeeds ready.closed).exists_gives
    refine ⟨json, graph, definitions, table, contracts, found, derives, fun request written => ?_⟩
    have told := (textOf_cases ready derives request).1.mp written
    rw [told v (.default mem own given)] at long
    cases long

/-- The stock is JSON, and the generation stops with a fault that is not told as one of the
document. -/
theorem stock_is_not_reported : stockRequest.source.document.IsJson ∧
    stockRequest.options.AreTexts ∧
    ∃ fault, (run stockRequest).outcome.1 = .error fault ∧ ¬fault.IsReported := by
  refine ⟨fun cause position malformed => ?_, ⟨⟨[], rfl⟩, ⟨[], rfl⟩, ⟨[], rfl⟩⟩,
    .schema ⟨"<document>", .overlong (.read 4301)⟩, ?_, Fault.IsOverlong.schema.not_isReported⟩
  · rw [read_stockText] at malformed
    cases malformed
  · refine run_of_read_error ?_
    change Document.readText stockText "<document>" none = _
    rw [Document.readText]
    simp only [read_stockText]

end Generation
end WireModel
