import WireModel.Proofs.Schema.Provenance

/-!
# Faults of schema documents

The faults of reading schemas are told with their place, but for one: a fault that would show a
value with an integer that is too long. So the schemas of a document that can be shown have only
faults with a place (`ofDocument_reports`).
-/

namespace WireModel.Schema

/-- A fault is told with a place, or is an integer of the document that is too long. -/
def Fault.IsAbout (document : Value) (fault : Fault) : Prop :=
  fault.cause.isUnplaced = true → fault.cause = .overlong .written ∧ document.isTellable = false

/-- Whatever fault a reading ends in is one about a document. -/
abbrev Reports {α : Type} (document : Value) (reading : Reading α) : Prop :=
  FailsOnly reading (Fault.IsAbout document)

theorem Fault.IsAbout.of_part {v document : Value} {fault : Fault} (h : fault.IsAbout v)
    (part : v.Part document) : fault.IsAbout document := by
  intro unplaced
  obtain ⟨cause, long⟩ := h unplaced
  refine ⟨cause, Bool.eq_false_iff.mpr fun tellable => ?_⟩
  rw [part.isTellable tellable] at long
  cases long

namespace Reports

variable {α : Type} {document : Value}

theorem fail {location : String} {cause : Cause} (placed : cause.isUnplaced = false) :
    Reports document (Reading.fail location cause : Reading α) := by
  refine .throw fun unplaced => ?_
  rw [placed] at unplaced
  cases unplaced

theorem requireTellable {v : Value} (inside : document.isTellable = true → v.isTellable = true) :
    Reports document (Reading.requireTellable v) := by
  unfold Reading.requireTellable
  split
  · exact .pure
  · rename_i long
    refine .throw fun _ => ⟨rfl, Bool.eq_false_iff.mpr fun tellable => long (inside tellable)⟩

theorem failAbout {v : Value} {location : String} {cause : Cause}
    (inside : document.isTellable = true → v.isTellable = true)
    (placed : cause.isUnplaced = false) :
    Reports document (Reading.failAbout v location cause : Reading α) :=
  (requireTellable inside).bind fun _ => fail placed

theorem warn {w : Warning} : Reports document (Logged.warn w) := by
  intro s fault s' fails
  cases fails

end Reports

/-- The keys of mappings in a document can be shown if the document can. -/
theorem isTellable_key {entries : Members} {document : Value}
    (part : (Value.map entries).Part document) {entry : Value × Value} (mem : entry ∈ entries)
    (tellable : document.isTellable = true) : entry.1.isTellable = true :=
  (Value.isTellable_map.mp (part.isTellable tellable) entry mem).1

/-! ## References and discriminators -/

theorem isUnplaced_of_targetOf {root : Option String} {reference : String} {cause : Cause}
    (h : targetOf root reference = .error cause) : cause.isUnplaced = false := by
  unfold targetOf at h
  split at h
  · split at h <;> cases h
    rfl
  · split at h <;> cases h
    rfl
  · cases h
    rfl
  · cases h
    rfl

variable {document : Value} {root : Option String} {sub : NodeReader} {members : Members}
  {path : String} {notes : Notes}

theorem readReference_reports {value : Value} :
    Reports document (readReference root value path) := by
  unfold readReference
  split
  · exact .fail rfl
  · split
    · exact .fail rfl
    · split
      · exact .pure
      · rename_i failed
        exact .fail (isUnplaced_of_targetOf failed)

theorem readTarget_reports {entry : Value × Value}
    (key : document.isTellable = true → entry.1.isTellable = true) :
    Reports document (readTarget root path entry) := by
  unfold readTarget
  split
  · exact .failAbout key rfl
  · split
    · exact .failAbout key rfl
    · dsimp only
      split
      · exact (readReference_reports.map).bind fun name =>
          (Reports.requireTellable key).bind fun _ => .pure
      · exact FailsOnly.pure.bind fun name => (Reports.requireTellable key).bind fun _ => .pure

theorem readDiscriminator_reports {value : Value} (part : value.Part document) :
    Reports document (readDiscriminator root value path) := by
  unfold readDiscriminator
  dsimp only
  split
  · split
    · exact .fail rfl
    · split
      · exact .fail rfl
      · split
        · exact .pure
        · rename_i entries found
          have inside := (Value.part_of_lookup (lookup_of_truthy found)).trans part
          refine (FailsOnly.mapM fun entry mem => ?_).bind fun mapping => .pure
          exact readTarget_reports (isTellable_key inside mem)
        · exact .fail rfl
  · split
    · exact .fail rfl
    · exact .pure
  · exact .fail rfl

theorem discriminatorOf_reports (inside : InsideOf document members) :
    Reports document (discriminatorOf root members path) := by
  unfold discriminatorOf
  split
  · exact .pure
  · rename_i found
    exact (readDiscriminator_reports (inside.part_of_lookup found)).map

/-! ## Objects and arrays -/

/-- Whatever fault a reader ends in is about the value that it reads. -/
def ReportsAll (sub : NodeReader) : Prop := ∀ value path, Reports value (sub value path)

section Readers

variable (reports : ReportsAll sub) (inside : InsideOf document members)

include reports

theorem reports_of_part {value : Value} (part : value.Part document) (place : String) :
    Reports document (sub value place) :=
  (reports value place).imp fun _ about => about.of_part part

theorem readMembers_reports {values : List Value} (parts : ∀ v ∈ values, v.Part document) :
    Reports document (readMembers sub path values) :=
  .mapM fun _ mem => reports_of_part reports (parts _ (List.fst_mem_of_mem_zipIdx mem)) _

include inside

theorem readAdditional_reports : Reports document (readAdditional sub members path) := by
  unfold readAdditional
  split
  · exact .pure
  · exact .pure
  · rename_i found
    exact (reports_of_part reports (inside.part_of_lookup found) _).bind fun node => .pure

theorem readObject_reports : Reports document (readObject root sub members path notes) := by
  rw [readObject_eq]
  refine FailsOnly.bind_of ?_ fun entries log log' given => FailsOnly.bind ?_ fun required => ?_
  · unfold propertyEntries
    split
    · exact .pure
    · exact .pure
    · exact Reports.fail rfl
  · unfold requiredKeys
    split
    · exact .pure
    · split
      · exact .pure
      · exact Reports.fail rfl
  · have listed := entries_of_propertyEntries ⟨log, log', given⟩
    refine (FailsOnly.mapM fun entry mem => ?_).bind fun properties => ?_
    · have found := listed.resolve_left (List.ne_nil_of_mem mem)
      have part : (Value.map entries).Part document := inside.part_of_truthy found
      refine (Reports.requireTellable (isTellable_key part mem)).bind fun _ => ?_
      refine FailsOnly.bind ?_ fun node => .pure
      exact reports_of_part reports ((Value.part_of_mem_entries mem).trans part) _
    · exact (readAdditional_reports reports inside).bind fun additional =>
        (discriminatorOf_reports inside).bind fun discriminator => .pure

theorem readArray_reports : Reports document (readArray sub members path notes) := by
  unfold readArray
  dsimp only
  split
  · exact .pure
  · exact .pure
  · exact .fail rfl
  · rename_i found
    refine (readMembers_reports reports fun v mem => ?_).bind fun variants => .pure
    exact (Value.part_of_mem mem).trans (inside.part_of_lookup found)
  · rename_i found
    exact (reports_of_part reports (inside.part_of_lookup found) _).bind fun node => .pure

/-! ## Types and combinations -/

theorem readTyped_reports {type : String} :
    Reports document (readTyped root sub type members path notes) := by
  unfold readTyped
  split
  · exact readArray_reports reports inside
  · split
    · exact readObject_reports reports inside
    · split
      · exact .pure
      · exact .fail rfl

theorem readType_reports {value : Value} (part : value.Part document) :
    Reports document (readType root sub value members path notes) := by
  unfold readType
  split
  · split
    · exact .fail rfl
    · exact .fail rfl
    · dsimp only
      split
      · exact .pure
      · exact readTyped_reports reports inside
      · exact (FailsOnly.mapM fun _ _ => readTyped_reports reports inside).bind
          fun variants => .pure
  · exact readTyped_reports reports inside
  · exact .failAbout part.isTellable rfl

omit reports in
theorem InsideOf.siblings : InsideOf document (siblings members) :=
  fun entry mem => inside entry (List.mem_filter.mp mem).1

theorem readComposite_reports {mode : Combination} {others : List Combination} :
    Reports document (readComposite root sub mode others members path notes) := by
  rw [readComposite_eq]
  have warns : Reports document (warnOfOthers mode others path) := by
    unfold warnOfOthers
    split
    · exact .pure
    · exact .warn
  have lists : Reports document (combinedValues mode members (path ++ "/" ++ mode.keyword)) := by
    unfold combinedValues
    split
    · exact .pure
    · exact .fail rfl
  have last : Reports document (readLast root sub mode members path) := by
    unfold readLast
    split
    · exact .pure
    split
    · exact (readObject_reports reports inside.siblings).map
    · exact Reports.warn.bind fun _ => .pure
  refine warns.bind fun _ => lists.bind_of fun values log log' given => ?_
  have found := lookup_of_combinedValues ⟨log, log', given⟩
  refine (readMembers_reports reports fun v mem => ?_).bind fun variants => ?_
  · exact (Value.part_of_mem mem).trans (inside.part_of_lookup found)
  · exact last.bind fun last => (discriminatorOf_reports inside).bind fun discriminator => .pure

theorem readSchema_reports : Reports document (readSchema root sub members path) := by
  unfold readSchema
  dsimp only
  split
  · exact readReference_reports.bind fun _ => .pure
  split
  · split
    · exact .pure
    · exact .pure
  split
  · exact readComposite_reports reports inside
  split
  · unfold readEnum
    split
    · dsimp only
      split
      · exact .pure
      · exact .pure
    · exact .fail rfl
  split
  · rename_i found
    exact readType_reports reports inside (inside.part_of_lookup found)
  split
  · exact readObject_reports reports inside
  split
  · exact readArray_reports reports inside
  · exact .pure

end Readers

theorem readLayer_reports (reports : ReportsAll sub) : ReportsAll (readLayer root sub) := by
  intro value path
  unfold readLayer
  split
  · exact .pure
  · exact .pure
  · exact readSchema_reports reports fun entry mem => Value.part_of_mem_entries mem
  · exact .fail rfl

theorem parseNode_reports (root : Option String) (depth : Nat) :
    ReportsAll (parseNode root depth) := by
  induction depth with
  | zero => exact readLayer_reports fun _ _ => .fail rfl
  | succ depth ih => exact readLayer_reports ih

/-! ## Documents -/

theorem readDefinition_reports {container : String} {entries : Members}
    (part : (Value.map entries).Part document) {entry : Value × Value} (mem : entry ∈ entries) :
    Reports document (readDefinition root container entry) := by
  unfold readDefinition
  split
  · exact .failAbout (isTellable_key part mem) rfl
  · split
    · exact .fail rfl
    · refine FailsOnly.bind ?_ fun node => .pure
      exact reports_of_part (parseNode_reports root _)
        ((Value.part_of_mem_entries mem).trans part) _

/-- Whatever is wrong with a document is told with a place, or is an integer that is too long. -/
theorem ofDocument_reports (requested : Option String) (source : String) :
    Reports document (Graph.ofDocument document requested source) := by
  unfold Graph.ofDocument
  split
  · rename_i members
    unfold Graph.ofDocument.liftExcept
    cases found : findContainer (.map members) with
    | error fault =>
      refine FailsOnly.bind_of (.throw ?_) fun _ _ _ given => absurd given not_runs_throw
      unfold findContainer at found
      split at found <;> cases found
      nofun
    | ok container =>
      refine FailsOnly.pure.bind_of fun _ _ _ given => ?_
      obtain ⟨rfl, -⟩ := runs_pure_iff.mp given
      dsimp only
      refine (FailsOnly.mapM fun entry mem => ?_).bind fun definitions => ?_
      · have mem := (List.mem_filter.mp mem).1
        have part := part_of_findContainer (List.ne_nil_of_mem mem) found
        exact readDefinition_reports part mem
      split
      · exact .pure
      · split
        · exact Reports.fail rfl
        · exact (parseNode_reports _ _ _ _).bind fun node => .pure
  · exact .fail rfl

end WireModel.Schema
