import WireModel.Options
import WireModel.Proofs.Success
import WireModel.Proofs.Value.Plain

/-!
# Options that are written and read again

Options can be written if none of them is missing, the options for the output file name a known mode
and nothing stands in place of the function that writes them (`Exportable`). What is written is read
as the same options (`Exportable.exists_toEntries`).

* **`set_cases`**: what setting one option does. One key, `__dict__`, replaces all options.
* **`setAll_sets`**: what setting options one after another does, by induction on the entries.
* **`exportable_iff_keeps`**: which configurations give options that can be written.
* **`roundTrips_iff`**: which configurations are refused for a value or kept.
-/

namespace WireModel.Options

/-! ## Writing and reading -/

/-- Options for the output file with a known mode. -/
def HasMode (output : Option OutputSection) : Prop :=
  ∃ mode validate atomic, output = some (.settings ⟨.known mode, validate, atomic⟩)

/-- Options that can be written. -/
structure Exportable (options : Options) : Prop where
  writer : options.writer = none
  ignoreClasses : options.ignoreClasses.isSome = true
  ignoreFields : options.ignoreFields.isSome = true
  orderClasses : options.orderClasses.isSome = true
  output : HasMode options.output

/-- The entries of a configuration that is written. -/
def keyed (exported : List (String × Value)) : List (Value × Value) :=
  exported.map fun (key, v) => (.str key, v)

/-- What is written is read as the same options. -/
theorem Exportable.exists_toEntries {options : Options} (h : options.Exportable)
    (policy : isPolicy options.requiredWithDefault = true) :
    ∃ exported, options.toEntries = .ok exported ∧ ofEntries (keyed exported) = .ok options := by
  obtain ⟨ignoreClasses, ignoreFields, orderClasses, comment, annotations, required, output,
    writer⟩ := options
  obtain ⟨rfl, classes, fields, order, mode, validate, atomic, rfl⟩ := h
  obtain ⟨classes, rfl⟩ := Option.isSome_iff_exists.mp classes
  obtain ⟨fields, rfl⟩ := Option.isSome_iff_exists.mp fields
  obtain ⟨order, rfl⟩ := Option.isSome_iff_exists.mp order
  refine ⟨_, rfl, ?_⟩
  have mode_read : readMode (.str mode.name) = .ok (.known mode) := by
    rw [readMode, OutputMode.ofName?_name]
  have output_read : readOutput (Value.ofFields [("mode", .str mode.name),
      ("validate_before_write", validate), ("atomic_write", atomic)]) =
        .ok (.settings ⟨.known mode, validate, atomic⟩) := by
    show (do let mode ← readMode (.str mode.name); _) = _
    rw [mode_read]
    rfl
  have policy : isPolicy required = true := policy
  show (do let options ← setAll _ _; _) = _
  simp only [keyed, List.map_cons, List.map_nil, setAll, set, setOutput, output_read, Except.map,
    Option.map_some, Option.isSome_some, Bool.or_true, if_true, bind, Except.bind, policy]
  rfl

theorem exportable_of_toEntries {options : Options} {exported : List (String × Value)}
    (h : options.toEntries = .ok exported) : options.Exportable := by
  obtain ⟨ignoreClasses, ignoreFields, orderClasses, comment, annotations, required, output,
    writer⟩ := options
  cases writer with
  | some v => cases h
  | none =>
    cases ignoreClasses with
    | none => cases h
    | some classes =>
    cases ignoreFields with
    | none => cases h
    | some fields =>
    cases orderClasses with
    | none => cases h
    | some order =>
    cases output with
    | none => cases h
    | some output =>
    cases output with
    | other v => cases h
    | settings output =>
    obtain ⟨mode, validate, atomic⟩ := output
    cases mode with
    | other v => cases h
    | known mode => exact ⟨rfl, rfl, rfl, rfl, mode, validate, atomic, rfl⟩

/-! ## Setting one option -/

/-- A value for the output file that names a mode, or leaves it out. -/
def Settles (v : Value) : Prop :=
  ∃ entries, v = .map entries ∧
    ∀ mode, Value.lookup "mode" entries = some mode → ∃ name, mode = .str name

/-- What becomes of the options for the output file when a value is set for them. -/
def Becomes (v : Value) (old new : Option OutputSection) : Prop :=
  if v.isMap || old.isSome then ∃ output, readOutput v = .ok output ∧ new = some output
  else new = old

/-- Of a value that can be read, the mode is known if it is given as a text. -/
theorem hasMode_of_readOutput {v : Value} {output : OutputSection}
    (h : readOutput v = .ok output) : HasMode (some output) ↔ Settles v := by
  unfold readOutput at h
  split at h
  · rename_i entries
    dsimp only at h
    -- a mode that is left out is the usual one, which is known
    cases found : Value.lookup "mode" entries with
    | none =>
      rw [found] at h
      obtain ⟨mode, ⟨⟩, h⟩ := bind_eq_ok.mp h
      cases h
      refine ⟨fun _ => ⟨entries, rfl, fun mode there => ?_⟩, fun _ => ⟨_, _, _, rfl⟩⟩
      rw [found] at there
      cases there
    | some v =>
      rw [found] at h
      obtain ⟨mode, read, h⟩ := bind_eq_ok.mp h
      cases h
      unfold readMode at read
      split at read
      · rename_i name
        split at read
        · cases read
          refine ⟨fun _ => ⟨entries, rfl, fun mode there => ⟨name, ?_⟩⟩, fun _ => ⟨_, _, _, rfl⟩⟩
          rw [found] at there
          exact (Option.some.inj there).symm
        · cases read
      · rename_i other
        cases read
        constructor
        · rintro ⟨_, _, _, ⟨⟩⟩
        · rintro ⟨_, ⟨⟩, texts⟩
          obtain ⟨name, text⟩ := texts v found
          exact absurd text (other name)
  · rename_i other
    cases h
    constructor
    · rintro ⟨_, _, _, ⟨⟩⟩
    · rintro ⟨entries, same, -⟩
      exact absurd same (other entries)

theorem Becomes.hasMode_iff {v : Value} {old new : Option OutputSection} (h : Becomes v old new) :
    HasMode new ↔ Settles v := by
  unfold Becomes at h
  split at h
  · obtain ⟨output, read, rfl⟩ := h
    exact hasMode_of_readOutput read
  · rename_i neither
    rw [Bool.or_eq_true, not_or] at neither
    obtain ⟨noMap, none⟩ := neither
    rw [h, Option.not_isSome_iff_eq_none.mp none]
    constructor
    · rintro ⟨_, _, _, ⟨⟩⟩
    · rintro ⟨entries, rfl, -⟩
      exact absurd rfl noMap

/-- The keys of the object that holds the options, but for that of the function that writes them. -/
def objectKeys : List String := ["__class__", "__weakref__", "__dict__"]

/-- What setting an option changes of what decides whether the options can be written. -/
structure Sets (key : String) (v : Value) (options options' : Options) : Prop where
  writer : options'.writer = if key = "to_dict" then some v else options.writer
  ignoreClasses : options'.ignoreClasses.isSome = options.ignoreClasses.isSome
  ignoreFields : options'.ignoreFields.isSome = options.ignoreFields.isSome
  orderClasses : options'.orderClasses.isSome = options.orderClasses.isSome
  output : if key = "output" then Becomes v options.output options'.output
    else options'.output = options.output

/-- What setting an option does: one key replaces all options, two are refused. -/
theorem set_cases {options options' : Options} {key : String} {v : Value}
    (h : options.set key v = .ok options') :
    (key = "__dict__" ∧ ∃ attributes, v = .map attributes ∧ options' = ofAttributes attributes) ∨
      key ∉ objectKeys ∧ Sets key v options options' := by
  unfold set at h
  dsimp only at h
  split at h
  -- the options themselves, in the order of their declaration
  iterate 6
    · cases h
      exact .inr ⟨by decide, ⟨rfl, by simp, by simp, by simp, rfl⟩⟩
  · refine .inr ⟨by decide, ?_⟩
    unfold setOutput at h
    split at h
    · rename_i either
      obtain ⟨output, read, rfl⟩ := map_eq_ok.mp h
      refine ⟨rfl, rfl, rfl, rfl, ?_⟩
      show Becomes v _ _
      rw [Becomes, if_pos either]
      exact ⟨output, read, rfl⟩
    · rename_i neither
      cases h
      refine ⟨rfl, rfl, rfl, rfl, ?_⟩
      show Becomes v _ _
      rw [Becomes, if_neg neither]
  · cases h
    exact .inr ⟨by decide, ⟨rfl, rfl, rfl, rfl, rfl⟩⟩
  · split at h
    · cases h
      exact .inl ⟨rfl, _, rfl, rfl⟩
    · cases h
  · cases h
  · cases h
  · rename_i output writer attributes kind reference
    cases h
    refine .inr ⟨?_, ⟨(if_neg writer).symm, rfl, rfl, rfl, ?_⟩⟩
    · simpa [objectKeys] using ⟨kind, reference, attributes⟩
    · rw [if_neg output]

/-- Setting an option is refused for its value, but for the keys of the object. -/
theorem set_errs {options : Options} {key : String} {v : Value}
    (other : key ∉ objectKeys ∨ key = "__dict__" ∧ ∃ attributes, v = .map attributes) :
    ErrsOnly (options.set key v) (·.isOfValue = true) := by
  have read : ErrsOnly (readOutput v) (·.isOfValue = true) := by
    unfold readOutput
    split
    · dsimp only
      split
      · refine ErrsOnly.bind ?_ fun mode => .ok
        unfold readMode
        split
        · split
          · exact .ok
          · exact .error rfl
        · exact .ok
      · exact .ok
    · exact .ok
  -- the keys of options come first, then those of the object
  unfold set
  dsimp only
  split
  iterate 6
    · exact .ok
  · unfold setOutput
    split
    · exact read.map
    · exact .ok
  · exact .ok
  · split
    · exact .ok
    · rename_i noMap
      rcases other with other | ⟨-, attributes, isMap⟩
      · exact absurd (by decide) other
      · exact absurd isMap (noMap attributes)
  iterate 2
    · rcases other with other | ⟨same, -⟩
      · exact absurd (by decide) other
      · exact absurd same (by decide)
  · exact .ok

/-! ## Setting all options -/

/-- Whether a configuration lacks a key. -/
def Lacks (key : String) (entries : List (Value × Value)) : Prop :=
  Value.str key ∉ entries.map Prod.fst

theorem lookup_cons {key other : String} {v : Value} {rest : List (Value × Value)} :
    Value.lookup key ((.str other, v) :: rest) =
      if other = key then some v else Value.lookup key rest := by
  simp [Value.lookup, Value.isText]

variable {entries : List (Value × Value)} {options options' : Options}

theorem Lacks.lookup_eq {key : String} (lacks : Lacks key entries) :
    Value.lookup key entries = none := by
  rw [Option.eq_none_iff_forall_ne_some]
  intro v found
  exact lacks (List.mem_map.mpr ⟨_, Value.mem_of_lookup found, rfl⟩)

theorem setAll_cons {key : String} {v : Value} {rest : List (Value × Value)}
    (h : setAll ((.str key, v) :: rest) options = .ok options') :
    ∃ middle, options.set key v = .ok middle ∧ setAll rest middle = .ok options' :=
  bind_eq_ok.mp h

/-- What setting options one after another changes of what decides whether they can be written. -/
structure SetsAll (entries : List (Value × Value)) (options options' : Options) : Prop where
  writer : options'.writer = none ↔ options.writer = none ∧ Lacks "to_dict" entries
  ignoreClasses : options'.ignoreClasses.isSome = options.ignoreClasses.isSome
  ignoreFields : options'.ignoreFields.isSome = options.ignoreFields.isSome
  orderClasses : options'.orderClasses.isSome = options.orderClasses.isSome
  output : match Value.lookup "output" entries with
    | some v => Becomes v options.output options'.output
    | none => options'.output = options.output

/-- Options that are set one after another, by induction on the entries. At most one of them is for
the output file. -/
theorem setAll_sets (distinct : (entries.map Prod.fst).Nodup) (own : Lacks "__dict__" entries)
    (h : setAll entries options = .ok options') : SetsAll entries options options' := by
  induction entries generalizing options with
  | nil =>
    cases h
    exact ⟨by simp [Lacks], rfl, rfl, rfl, rfl⟩
  | cons entry rest ih =>
    obtain ⟨k, v⟩ := entry
    cases k with
    | str key =>
      obtain ⟨middle, first, h⟩ := setAll_cons h
      obtain ⟨fresh, distinct⟩ := List.nodup_cons.mp distinct
      obtain ⟨other, own⟩ := not_or.mp ((not_congr List.mem_cons).mp own)
      obtain ⟨rfl, -⟩ | ⟨-, sets⟩ := set_cases first
      · exact absurd rfl other
      have all := ih distinct own h
      refine ⟨?_, all.ignoreClasses.trans sets.ignoreClasses,
        all.ignoreFields.trans sets.ignoreFields, all.orderClasses.trans sets.orderClasses, ?_⟩
      · rw [all.writer, sets.writer]
        by_cases writes : key = "to_dict" <;> simp [Lacks, writes, eq_comm]
      · -- the keys are distinct, so no later entry is for the output file if this one is
        have output := sets.output
        have later := all.output
        rw [lookup_cons]
        split at output
        · rename_i same
          rw [Lacks.lookup_eq (same ▸ fresh)] at later
          rw [if_pos same]
          exact later ▸ output
        · rename_i different
          rw [if_neg different, ← output]
          exact later
    | _ => cases h

theorem setAll_append {before after : List (Value × Value)} :
    setAll (before ++ after) options = (do setAll after (← setAll before options)) := by
  induction before generalizing options with
  | nil => rfl
  | cons entry rest ih =>
    obtain ⟨k, v⟩ := entry
    cases k with
    | str key =>
      show (do setAll (rest ++ after) (← options.set key v)) = _
      simp only [ih, setAll, bind_assoc]
    | _ => rfl

/-- The keys of the object are refused. -/
theorem lacks_of_setAll {key : String} (fixed : key = "__class__" ∨ key = "__weakref__")
    (h : setAll entries options = .ok options') : Lacks key entries := by
  induction entries generalizing options with
  | nil => exact List.not_mem_nil
  | cons entry rest ih =>
    obtain ⟨k, v⟩ := entry
    cases k with
    | str name =>
      obtain ⟨middle, first, h⟩ := setAll_cons h
      refine List.not_mem_cons_of_ne_of_not_mem ?_ (ih h)
      intro same
      obtain rfl := Value.str.inj same
      obtain ⟨rfl, -⟩ | ⟨other, -⟩ := set_cases first
      · revert fixed
        decide
      · rcases fixed with rfl | rfl
        · exact absurd (by decide) other
        · exact absurd (by decide) other
    | _ => cases h

/-! ## Configurations -/

/-- A configuration whose options can be written. Either all of its keys are those of options or
unknown, or one of them replaces all options, and those it brings are complete but for the ones for
the output file, which come later. -/
inductive Keeps : List (Value × Value) → Prop
  | plain {entries : List (Value × Value)} :
      (∀ key ∈ objectKeys, Lacks key entries) → Lacks "to_dict" entries →
      (∀ v, Value.lookup "output" entries = some v → Settles v) → Keeps entries
  | replaced {before attributes after : List (Value × Value)} {v : Value} :
      (∀ key ∈ objectKeys, Lacks key (before ++ after)) →
      (∀ key ∈ ["ignore_classes", "global_ignore_fields", "order_classes"],
        (Value.lookup key attributes).isSome = true) →
      Value.lookup "to_dict" attributes = none → Lacks "to_dict" after →
      Value.lookup "output" after = some v → Settles v →
      Keeps (before ++ (.str "__dict__", .map attributes) :: after)

theorem SetsAll.exportable_iff (h : SetsAll entries options options') :
    options'.Exportable ↔ (options.writer = none ∧ Lacks "to_dict" entries) ∧
      options.ignoreClasses.isSome = true ∧ options.ignoreFields.isSome = true ∧
      options.orderClasses.isSome = true ∧
      match Value.lookup "output" entries with
      | some v => Settles v
      | none => HasMode options.output := by
  have output : HasMode options'.output ↔ match Value.lookup "output" entries with
      | some v => Settles v
      | none => HasMode options.output := by
    have same := h.output
    split at same
    · exact same.hasMode_iff
    · rw [same]
  rw [← h.writer, ← h.ignoreClasses, ← h.ignoreFields, ← h.orderClasses, ← output]
  exact ⟨fun ⟨writer, classes, fields, order, output⟩ => ⟨writer, classes, fields, order, output⟩,
    fun ⟨writer, classes, fields, order, output⟩ => ⟨writer, classes, fields, order, output⟩⟩

/-- The options behind the key that replaces all of them. -/
theorem exists_of_replaced {before after : List (Value × Value)} {v : Value}
    (h : setAll (before ++ (.str "__dict__", v) :: after) options = .ok options') :
    ∃ attributes, v = .map attributes ∧ setAll after (ofAttributes attributes) = .ok options' := by
  rw [setAll_append] at h
  obtain ⟨middle, -, h⟩ := bind_eq_ok.mp h
  obtain ⟨replaced, first, h⟩ := setAll_cons h
  obtain ⟨-, attributes, rfl, rfl⟩ | ⟨other, -⟩ := set_cases first
  · exact ⟨attributes, rfl, h⟩
  · exact absurd (by decide) other

theorem not_hasMode_attributes {attributes : List (Value × Value)} :
    ¬HasMode (ofAttributes attributes).output := by
  rintro ⟨mode, validate, atomic, same⟩
  obtain ⟨_, -, ⟨⟩⟩ := Option.map_eq_some_iff.mp same

theorem keys_of_replaced {before after : List (Value × Value)} {key : String} {v : Value}
    (distinct : ((before ++ (.str key, v) :: after).map Prod.fst).Nodup) :
    Lacks key (before ++ after) ∧ Lacks key after ∧ (after.map Prod.fst).Nodup := by
  rw [List.map_append, List.map_cons] at distinct
  obtain ⟨fresh, distinct⟩ := List.nodup_cons.mp (List.nodup_middle.mp distinct)
  rw [← List.map_append] at fresh
  refine ⟨fresh, fun mem => fresh ?_, distinct.of_append_right⟩
  rw [List.map_append]
  exact List.mem_append_right _ mem

section

variable (distinct : (entries.map Prod.fst).Nodup) (h : setAll entries {} = .ok options)

include distinct h

/-- Configurations whose options can be written are kept. -/
theorem Exportable.keeps (exportable : options.Exportable) : Keeps entries := by
  have lacks : ∀ key ∈ objectKeys, key ≠ "__dict__" → Lacks key entries := by
    intro key mem other
    refine lacks_of_setAll ?_ h
    simpa [objectKeys, other] using mem
  by_cases own : Lacks "__dict__" entries
  · obtain ⟨⟨-, writer⟩, -, -, -, output⟩ :=
      (setAll_sets distinct own h).exportable_iff.mp exportable
    refine .plain (fun key mem => ?_) writer fun v found => ?_
    · by_cases same : key = "__dict__"
      · exact same ▸ own
      · exact lacks key mem same
    · rw [found] at output
      exact output
  -- only what stands behind the replacement counts, with the options that it brings
  · obtain ⟨⟨_, v⟩, mem, rfl⟩ := List.mem_map.mp (not_not.mp own)
    obtain ⟨before, after, rfl⟩ := List.append_of_mem mem
    obtain ⟨attributes, rfl, behind⟩ := exists_of_replaced h
    obtain ⟨fresh, own, distinct⟩ := keys_of_replaced distinct
    obtain ⟨⟨attributeless, writer⟩, classes, fields, order, output⟩ :=
      (setAll_sets distinct own behind).exportable_iff.mp exportable
    split at output
    · rename_i v found
      refine .replaced (fun key mem => ?_) ?_ attributeless writer found output
      · by_cases same : key = "__dict__"
        · exact same ▸ fresh
        · intro there
          refine lacks key mem same ?_
          simp only [List.map_append, List.map_cons, List.mem_append, List.mem_cons] at there ⊢
          tauto
      · intro key mem
        simp only [List.mem_cons, List.not_mem_nil, or_false] at mem
        obtain rfl | rfl | rfl := mem
        · exact classes
        · exact fields
        · exact order
    · exact absurd output not_hasMode_attributes

theorem Keeps.exportable (keeps : Keeps entries) : options.Exportable := by
  cases keeps with
  | plain none writer output =>
    refine (setAll_sets distinct (none _ (by decide)) h).exportable_iff.mpr
      ⟨⟨rfl, writer⟩, rfl, rfl, rfl, ?_⟩
    split
    · rename_i v found
      exact output v found
    · exact ⟨_, _, _, rfl⟩
  | replaced _ lists attributeless writer found settles =>
    obtain ⟨attributes, ⟨⟩, behind⟩ := exists_of_replaced h
    obtain ⟨-, own, distinct⟩ := keys_of_replaced distinct
    refine (setAll_sets distinct own behind).exportable_iff.mpr ⟨⟨attributeless, writer⟩,
      lists _ (by decide), lists _ (by decide), lists _ (by decide), ?_⟩
    rw [found]
    exact settles

/-- Configurations that can be read give options that can be written exactly if they are kept. -/
theorem exportable_iff_keeps : options.Exportable ↔ Keeps entries :=
  ⟨Exportable.keeps distinct h, Keeps.exportable distinct h⟩

end

/-! ## Refusals -/

theorem setAll_errs (own : ∀ entry ∈ entries, ∃ key, entry.1 = .str key ∧
      (key ∉ objectKeys ∨ key = "__dict__" ∧ ∃ attributes, entry.2 = .map attributes)) :
    ErrsOnly (setAll entries options) (·.isOfValue = true) := by
  induction entries generalizing options with
  | nil => exact .ok
  | cons entry rest ih =>
    obtain ⟨k, v⟩ := entry
    obtain ⟨first, later⟩ := List.forall_mem_cons.mp own
    obtain ⟨key, rfl, other⟩ := first
    exact (set_errs other).bind fun middle => ih later

/-- A configuration that is kept is refused for the value of an option only. -/
theorem Keeps.errs (keeps : Keeps entries) (texts : ∀ entry ∈ entries, ∃ key, entry.1 = .str key) :
    ErrsOnly (ofEntries entries) (·.isOfValue = true) := by
  have lacking {entries : List (Value × Value)} (lacks : ∀ key ∈ objectKeys, Lacks key entries)
      {entry : Value × Value} (mem : entry ∈ entries) {key : String} (text : entry.1 = .str key) :
      key ∉ objectKeys := fun own => lacks key own (List.mem_map.mpr ⟨entry, mem, text⟩)
  have own : ∀ entry ∈ entries, ∃ key, entry.1 = .str key ∧
      (key ∉ objectKeys ∨ key = "__dict__" ∧ ∃ attributes, entry.2 = .map attributes) := by
    intro entry mem
    obtain ⟨key, text⟩ := texts entry mem
    refine ⟨key, text, ?_⟩
    cases keeps with
    | plain lacks => exact .inl (lacking lacks mem text)
    | replaced lacks =>
      rcases List.mem_append.mp mem with mem | mem
      · exact .inl (lacking lacks (List.mem_append_left _ mem) text)
      rcases List.mem_cons.mp mem with rfl | mem
      · exact .inr ⟨(Value.str.inj text).symm, _, rfl⟩
      · exact .inl (lacking lacks (List.mem_append_right _ mem) text)
  refine (setAll_errs own).bind fun options => ?_
  dsimp only
  split
  · exact .ok
  · refine .error ?_
    split <;> rfl

/-! ## Round trips -/

/-- A configuration is refused for the value of an option, or its options can be written and are the
same when they are read again. -/
def RoundTrips (entries : List (Value × Value)) : Prop :=
  match ofEntries entries with
  | .error fault => fault.isOfValue = true
  | .ok options =>
    ∃ exported, options.toEntries = .ok exported ∧ ofEntries (keyed exported) = .ok options

/-- **When configurations make the round trip.** A configuration with distinct text keys is refused
for the value of an option, or its options are written and read as the same ones, exactly if it is
refused for such a value or is kept: whatever it gives for the output file is a mapping with a text
for its mode or none, and it has no key of the object that holds the options, unless that replaces
all options by ones that are complete. -/
theorem roundTrips_iff (texts : ∀ entry ∈ entries, ∃ key, entry.1 = .str key)
    (distinct : (entries.map Prod.fst).Nodup) :
    RoundTrips entries ↔
      (∃ fault, ofEntries entries = .error fault ∧ fault.isOfValue = true) ∨ Keeps entries := by
  unfold RoundTrips
  cases read : ofEntries entries with
  | error fault =>
    constructor
    · exact fun ofValue => .inl ⟨fault, rfl, ofValue⟩
    · rintro (⟨_, ⟨⟩, ofValue⟩ | keeps)
      · exact ofValue
      · exact keeps.errs texts fault read
  | ok options =>
    have policy := isPolicy_of_ofEntries read
    have sets : setAll entries {} = .ok options := by
      obtain ⟨found, sets, h⟩ := bind_eq_ok.mp read
      dsimp only at h
      split at h
      · cases h
        exact sets
      · cases h
    have kept := exportable_iff_keeps distinct sets
    constructor
    · rintro ⟨exported, written, -⟩
      exact .inr (kept.mp (exportable_of_toEntries written))
    · rintro (⟨_, ⟨⟩, -⟩ | keeps)
      exact (kept.mpr keeps).exists_toEntries policy

/-- A model is left out, and the output file is overwritten. -/
def forcedEntries : List (Value × Value) :=
  [(.str "ignore_classes", .list [.str "A"]), (.str "output", .ofFields [("mode", .str "force")])]

theorem forced_roundTrips : (∀ entry ∈ forcedEntries, ∃ key, entry.1 = .str key) ∧
    (forcedEntries.map Prod.fst).Nodup ∧ (∃ options, ofEntries forcedEntries = .ok options) ∧
    RoundTrips forcedEntries := by
  have texts : ∀ entry ∈ forcedEntries, ∃ key, entry.1 = .str key := by
    simp [forcedEntries]
  have distinct : (forcedEntries.map Prod.fst).Nodup := by
    simp [forcedEntries]
  have keeps : Keeps forcedEntries := by
    refine .plain ?_ (by simp [Lacks, forcedEntries]) fun v found => ?_
    · simp [objectKeys, Lacks, forcedEntries]
    · cases found
      refine ⟨_, rfl, fun mode there => ?_⟩
      cases there
      exact ⟨_, rfl⟩
  exact ⟨texts, distinct, ⟨_, rfl⟩, (roundTrips_iff texts distinct).mpr (.inr keeps)⟩

/-- A mode that is no text is taken as it is, and then it cannot be written. -/
theorem mode_is_not_written :
    (∃ options, ofEntries [(.str "output", .ofFields [("mode", .int 3)])] = .ok options ∧
      options.toEntries = .error (.noMember "int" "value")) ∧
    ¬RoundTrips [(.str "output", .ofFields [("mode", .int 3)])] := by
  refine ⟨⟨_, rfl, rfl⟩, ?_⟩
  rintro ⟨exported, ⟨⟩, -⟩

end WireModel.Options
