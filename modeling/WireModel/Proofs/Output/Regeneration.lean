import WireModel.Proofs.Emit.Layout
import WireModel.Proofs.Generation
import WireModel.Proofs.Output.Jobs
import WireModel.Proofs.Output.Marker

/-!
# Generated files stay generated

What a generation with a comment makes is taken for generated, in either language and whatever the
document and the command line are. So the mode `regenerate` never refuses for want of the marker
what an earlier generation has written.
-/

namespace WireModel

open Text (endsLine isNewline)
open Generation (commentOf marker)

/-! ## The start of a text -/

theorem prefix_intercalate (separator first : String) (rest : List String) :
    first.toList <+: (String.intercalate separator (first :: rest)).toList := by
  rw [String.toList_intercalate, List.map_cons]
  cases rest with
  | nil => simp
  | cons next rest =>
    rw [List.map_cons, List.intercalate_cons_cons, List.append_assoc]
    exact List.prefix_append _ _

theorem Json.Layout.prefix_enclose (width level : Nat) (opening closing first : String)
    (rest : List String) :
    opening.toList ++ (newline width (level + 1)).toList ++ first.toList <+:
      (enclose (.indented width) level opening closing (first :: rest)).toList := by
  rw [enclose, String.toList_append, String.toList_append, String.toList_append,
    String.toList_append]
  · obtain ⟨behind, split⟩ := prefix_intercalate ("," ++ newline width (level + 1)) first rest
    rw [← split]
    exact ⟨behind ++ (newline width level).toList ++ closing.toList, by simp⟩
  · nofun

/-- The first line of a comment starts with the marker. -/
theorem Generation.prefix_comment {request : Request}
    (asked : request.options.comment.isTruthy = true) :
    ∃ first rest, (Text.lines (commentOf request).toList).map String.ofList = first :: rest ∧
      marker.toList <+: first.toList := by
  have begins : ∃ rest, (commentOf request).toList = marker.toList ++ rest := by
    rw [commentOf, if_pos asked]
    exact ⟨_, by simp only [String.toList_append, List.append_assoc]; rfl⟩
  obtain ⟨behind, split⟩ := begins
  have goes : ∀ c ∈ marker.toList, endsLine c = false := fun c here => Bool.eq_false_iff.mpr
    (List.any_eq_false.mp (show marker.toList.any endsLine = false by decide) c here)
  obtain ⟨first, leads, contains⟩ :=
    @Text.head?_linesFrom endsLine behind (marker.toList.reverse ++ []) (by decide)
  obtain ⟨rest, lines⟩ := List.head?_eq_some_iff.mp leads
  refine ⟨String.ofList first, rest.map String.ofList, ?_, ?_⟩
  · rw [split, Text.lines, Text.linesFrom_append goes, lines, List.map_cons]
  · rwa [List.append_nil, List.reverse_reverse, ← String.toList_ofList (l := first)] at contains

/-- A module starts with the first line of its comment. -/
theorem Emit.prefix_moduleText {late : Bool} {comment text first : String} {rest : List String}
    {table : Table} {contracts : Contracts}
    (lines : (Text.lines comment.toList).map String.ofList = first :: rest)
    (h : moduleText late comment table contracts = .ok text) :
    "# ".toList ++ first.toList <+: text.toList := by
  obtain ⟨aliases, blocks, -, -, rfl⟩ := moduleText_eq_ok.mp h
  have head : ∃ below, headerOf late comment table aliases blocks = ("# " ++ first) :: below := by
    rw [headerOf, header, lines, List.map_cons]
    exact ⟨_, rfl⟩
  obtain ⟨below, head⟩ := head
  rw [sections, head, layOut, String.toList_append, ← String.toList_append]
  refine .trans ?_ (List.prefix_append _ _)
  exact (prefix_intercalate "\n" _ below).trans (prefix_intercalate "\n\n\n" _ _)

/-- A report starts with the first line of its comment, as text in a list in a mapping. -/
theorem Emit.prefix_reportText {comment text first : String} {rest : List String}
    {table : Table} {contracts : Contracts}
    (lines : (Text.lines comment.toList).map String.ofList = first :: rest)
    (h : reportText comment table contracts = .ok text) :
    "\x7b\n  \"generated_by\": [\n    ".toList ++ (Json.quote first).toList <+: text.toList := by
  unfold reportText at h
  split at h
  · rename_i written report
    cases h
    rw [Emit.report, lines, Value.ofFields, List.map_cons, Value.ofTexts, List.map_cons] at report
    rw [Json.writeIndented, Json.write, Json.writeEntries] at report
    obtain ⟨parts, wrote, same⟩ := bind_eq_ok.mp report
    obtain ⟨key, told, wrote⟩ := bind_eq_ok.mp wrote
    obtain ⟨list, listed, wrote⟩ := bind_eq_ok.mp wrote
    obtain ⟨more, -, wrote⟩ := bind_eq_ok.mp wrote
    cases told
    cases wrote
    cases same
    rw [Json.write, Json.writeItems] at listed
    obtain ⟨parts, wrote, same⟩ := bind_eq_ok.mp listed
    obtain ⟨quoted, told, wrote⟩ := bind_eq_ok.mp wrote
    obtain ⟨others, -, wrote⟩ := bind_eq_ok.mp wrote
    cases told
    cases wrote
    cases same
    -- the mapping and the list each start with a bracket and their first part
    have inner := Json.Layout.prefix_enclose 2 1 "[" "]" (Json.quote first) others
    have outer := Json.Layout.prefix_enclose 2 0 "\x7b" "\x7d" (Json.quote "generated_by" ++ ": " ++
      Json.Layout.enclose (.indented 2) 1 "[" "]" (Json.quote first :: others)) more
    obtain ⟨behind, split⟩ := inner
    rw [String.toList_append, ← split] at outer
    rw [String.toList_append]
    refine .trans ⟨behind, ?_⟩ (outer.trans (List.prefix_append _ _))
    simp only [← List.append_assoc]
    congr 3
  · cases h

/-- A character of the marker is written as it is. -/
theorem Json.prefix_quote {first : String} (h : marker.toList <+: first.toList) :
    '"' :: marker.toList <+: (Json.quote first).toList := by
  obtain ⟨behind, split⟩ := h
  have plain : marker.toList.flatMap Json.escapeChar = marker.toList := by decide
  rw [Json.quote, String.toList_ofList, Json.quoteList, ← split, List.flatMap_append, plain]
  exact ⟨behind.flatMap Json.escapeChar ++ ['"'], by simp⟩

namespace Output

open Files (Host Place Tree)
open Text.Utf8 (encode)

/-! ## Texts with a comment -/

/-- **What is generated with a comment** is taken for generated. -/
theorem carriesMarker_textOf {request : Request} (asked : request.options.comment.isTruthy = true)
    {table : Table} {contracts : Contracts} {text : String}
    (h : Generation.textOf request table contracts = .ok text) :
    carriesMarker (encode text) = true := by
  obtain ⟨first, rest, lines, marked⟩ := Generation.prefix_comment asked
  unfold Generation.textOf at h
  split at h
  · have begins := Emit.prefix_moduleText lines h
    obtain ⟨behind, split⟩ := marked
    rw [← split, ← List.append_assoc] at begins
    refine carriesMarker_encode [] "# ".toList (by decide) nofun (by decide)
      ((List.prefix_append _ _).trans begins) (by decide)
  · have begins := Emit.prefix_reportText lines h
    obtain ⟨behind, split⟩ := Json.prefix_quote marked
    rw [← split, ← List.append_assoc] at begins
    refine carriesMarker_encode [['\x7b'], "  \"generated_by\": [".toList]
      "    \"".toList (by decide) (by decide) (by decide)
      (.trans ?_ ((List.prefix_append _ _).trans begins)) (by decide)
    exact ⟨[], by simp⟩

theorem carriesMarker_of_run {request : Request} (asked : request.options.comment.isTruthy = true)
    {made : Generation} (h : (Generation.run request).outcome.1 = .ok made) :
    carriesMarker (encode made.text) = true := by
  obtain ⟨graph, -, h⟩ := (Logged.gives_of_outcome h).bind
  obtain ⟨definitions, -, h⟩ := h.bind
  obtain ⟨table, -, h⟩ := h.bind
  obtain ⟨contracts, -, h⟩ := h.bind
  obtain ⟨text, ⟨_, _, written⟩, h⟩ := h.bind
  obtain rfl := Logged.gives_pure_iff.mp h
  exact carriesMarker_textOf asked (Generation.eq_ok_of_runs_quietStage written)

/-! ## Files stay generated -/

/-- A path leads to a generated file. -/
theorem isGenerated_iff {t : Tree} {place : Place} :
    isGenerated t place = true ↔
      ∃ here content, t.resolve place = .ok here ∧ t.peek? here = some (.file content) ∧
        carriesMarker content = true := by
  unfold isGenerated Tree.read
  constructor
  · intro h
    split at h
    · rename_i content read
      split at read
      · cases read
      · rename_i found leads
        cases read
        obtain ⟨here, resolved, there⟩ := Tree.find_eq_ok.mp leads
        exact ⟨here, content, resolved, Tree.peek?_eq_file.mpr there, h⟩
      · cases read
    · cases h
  · rintro ⟨here, content, resolved, there, marked⟩
    have leads := Tree.find_eq_ok.mpr ⟨here, resolved, Tree.peek?_eq_file.mp there⟩
    rw [leads]
    exact marked

namespace Job

/-- Whatever a job writes is taken for generated. -/
def Marks (job : Job) : Prop :=
  match job.task with
  | .text _ text _ _ => carriesMarker (encode text) = true
  | .generation request => request.options.comment.isTruthy = true

variable {job : Job} {t : Tree} {place : Place}

theorem carriesMarker_of_perform (marks : job.Marks) {text : String}
    (h : (job.perform t).1 = some text) : carriesMarker (encode text) = true := by
  unfold Marks at marks
  unfold perform at h
  split at h
  · rename_i manner written language checks task
    rw [task] at marks
    split at h
    · cases h
      exact marks
    · cases h
  · rename_i request task
    rw [task] at marks
    split at h
    · rename_i made warnings t' generated
      cases h
      exact carriesMarker_of_run marks (written_of_generateInto generated).1
    · cases h

/-- A path that leads to a generated file still does, whatever is generated to whatever path. -/
theorem isGenerated_of_perform (marks : job.Marks) (h : isGenerated t place = true) :
    isGenerated (job.perform t).2 place = true := by
  obtain ⟨here, content, resolved, there, marked⟩ := isGenerated_iff.mp h
  have resolved := (job.grows t).resolve resolved
  have keep (keeps : Tree.Keeps (t.peek? here) ((job.perform t).2.peek? here)) :
      isGenerated (job.perform t).2 place = true := by
    rw [there] at keeps
    exact isGenerated_iff.mpr ⟨here, content, resolved, keeps.of_some, marked⟩
  cases result : (job.perform t).1 with
  | none => exact keep (sameFiles_of_perform result here)
  | some text =>
    obtain ⟨target, leads, new, others⟩ := gains_of_perform result
    by_cases hit : here = target
    · subst hit
      exact isGenerated_iff.mpr ⟨here, _, resolved, new, carriesMarker_of_perform marks result⟩
    · exact keep (others here hit)

end Job

/-! ## Refusals -/

/-- A fault that is not the want of the marker. -/
def Fault.IsOther (fault : Fault) : Prop := ∀ path, fault ≠ .notGenerated path

section

variable {host : Host} {place : Place} {text : String}

theorem call_isOther {α : Type} {call : Files.Call}
    {act : Tree → Except Files.Fault (α × Tree)} :
    FailsOnly (Writing.call host call act) Fault.IsOther := by
  intro t fault t' fails
  unfold Fails Writing.call at fails
  split at fails
  · cases fails
    nofun
  · split at fails
    · cases fails
    · cases fails
      nofun

theorem acceptDirectory_isOther (backwards : List String) {fault : Fault} (other : fault.IsOther) :
    FailsOnly (acceptDirectory host backwards fault) Fault.IsOther := by
  refine call_isOther.bind fun found => ?_
  split
  · exact .pure
  · exact .throw other

theorem makeDirectories_isOther (backwards : List String) :
    FailsOnly (makeDirectories host backwards) Fault.IsOther := by
  induction backwards with
  | nil => exact call_isOther.tryCatch fun fault other => acceptDirectory_isOther [] other
  | cons name above ih =>
    refine call_isOther.tryCatch fun fault other => ?_
    split
    · exact ih.bind fun _ =>
        call_isOther.tryCatch fun fault other => acceptDirectory_isOther _ other
    · exact acceptDirectory_isOther _ other

theorem makeTemporary_isOther (attempts : Nat) :
    FailsOnly (makeTemporary host place attempts) Fault.IsOther := by
  induction attempts with
  | zero => exact .throw nofun
  | succ attempts ih =>
    refine .bind_of (fun _ _ _ fails => by cases fails) fun _ _ _ _ => ?_
    refine call_isOther.tryCatch fun fault other => ?_
    split
    · exact ih
    · exact .throw other

theorem validate_isOther (language : Option Language) :
    ErrsOnly (Checks.standard.validate language text) Fault.IsOther := by
  intro fault failed
  unfold Checks.validate at failed
  split at failed
  · change checkModule text = _ at failed
    unfold checkModule at failed
    split at failed
    · cases failed
      nofun
    · split at failed
      · cases failed
      · cases failed
        nofun
  · change checkReport text = _ at failed
    unfold checkReport at failed
    split at failed
    · cases failed
    · cases failed
      nofun
    · cases failed
      nofun
  · cases failed

theorem validateIf_isOther (asked : Bool) (language : Option Language) :
    FailsOnly (Checks.standard.validateIf asked language text) Fault.IsOther := by
  intro t fault t' fails
  have failed : (if asked then Checks.standard.validate language text else .ok ()) = .error fault :=
    congrArg Prod.fst fails
  split at failed
  · exact validate_isOther language fault failed
  · cases failed

theorem write_isOther (language : Option Language) (validated : Bool) :
    FailsOnly (write place text language validated .standard host) Fault.IsOther := by
  refine (makeDirectories_isOther _).bind fun _ =>
    (makeTemporary_isOther _).bind fun temporary => ?_
  refine FailsOnly.tryCatch (Q := Fault.IsOther) ?_ fun fault other => ?_
  · refine .bind (fun t fault t' fails => ?_) fun _ =>
      (validateIf_isOther _ _).bind fun _ => call_isOther
    unfold Fails fill at fails
    split at fails
    · cases fails
      nofun
    · cases fails
  · exact .bind_of (fun _ _ _ fails => by cases fails) fun _ _ _ _ => .throw other

/-- A generated file that the host lets be read is never refused for want of the marker. -/
theorem refuses_of_notGenerated {manner : Manner} {language : Option Language} {t t' : Tree}
    {path : String} (generated : isGenerated t place = true)
    (fails : Fails (writeGenerated manner place text language .standard host) t
      (.notGenerated path) t') :
    (host.refuses t (.read place)).isSome = true := by
  -- the marker is asked for in one place only, and nothing behind it faults for want of it
  rcases fails_bind_iff.mp fails with look | ⟨found, _, look, allowed⟩
  · exact absurd rfl (call_isOther _ _ _ look path)
  obtain ⟨rfl, -⟩ := of_runs_look look
  rcases fails_bind_iff.mp allowed with permit | ⟨_, _, -, written⟩
  · unfold Output.permit at permit
    split at permit
    · exact absurd permit not_fails_pure
    · obtain ⟨same, -⟩ := fails_throw_iff.mp permit
      cases same
    · rcases fails_bind_iff.mp permit with sees | ⟨sees, _, ran, refused⟩
      · cases sees
      · obtain ⟨rfl, rfl⟩ := runs_seesGenerated ran
        rw [generated, Bool.and_true] at refused
        split at refused
        · exact absurd refused not_fails_pure
        · rename_i reads
          exact Option.isSome_iff_ne_none.mpr (by simpa using reads)
    · exact absurd permit not_fails_pure
    · exact absurd permit not_fails_pure
  · split at written
    · exact absurd rfl (write_isOther _ _ _ _ _ written path)
    · refine absurd rfl (FailsOnly.bind (validateIf_isOther _ _) (fun _ => ?_) _ _ _ written path)
      exact (makeDirectories_isOther _).bind fun _ => call_isOther

end

/-! ## Generating again -/

theorem isGenerated_of_gains {t t' : Tree} {place : Place} {content : List UInt8}
    (marked : carriesMarker content = true) (h : t.Gains place content t') :
    isGenerated t' place = true := by
  rw [isGenerated, h.read]
  exact marked

/-- One model without fields, generated with a comment in the mode `regenerate`. -/
def petRequest (language : Language) : Request where
  source := ⟨.value (.ofFields [("definitions", .ofFields [("Pet", .ofFields
    [("type", .str "object")])])]), "pets", none⟩
  options := { output := some (.settings ⟨.known .regenerate, .bool false, .bool true⟩) }
  language := language
  commandLine := some "openapi_model_gen pets.json\rmodels.py"

def petJob (language : Language) : Job := ⟨.generation (petRequest language), ["models.py"], .plain⟩

end Output

end WireModel
