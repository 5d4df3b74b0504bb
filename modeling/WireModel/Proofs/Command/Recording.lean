import WireModel.Command.Recorded
import WireModel.Proofs.Success

/-!
# Recorded command lines are read again

A generated file names the command line that it comes from: the paths first, and then the options
that differ from their defaults. A path that leads to something is shown by its name alone, so the
line is one to be given in the directory where the schema and the configuration lie.

* **`readWords_spell`**: options that are spelled out are read as they are.
* **`shows_of_recorded`**: what a recorded line is made of.
* **`read_recorded_iff`**: when the words of a recorded line ask for the same generation.
-/

namespace WireModel.Command

open Files (Host Place)

/-! ## Words of a line -/

/-- The words between the single spaces of a line. -/
def wordsIn (line : String) : List String := (line.toList.splitOn ' ').map String.ofList

theorem wordsIn_intercalate {words : List String} (some : words ≠ [])
    (plain : ∀ word ∈ words, ' ' ∉ word.toList) :
    wordsIn (String.intercalate " " words) = words := by
  have split : ([' '].intercalate (words.map String.toList)).splitOn ' ' =
      words.map String.toList := by
    refine List.splitOn_intercalate ' ' (fun part mem => ?_) (by simpa using some)
    obtain ⟨word, there, rfl⟩ := List.mem_map.mp mem
    exact plain word there
  rw [wordsIn, String.toList_intercalate]
  show (([' '].intercalate (words.map String.toList)).splitOn ' ').map String.ofList = words
  rw [split, List.map_map]
  exact (List.map_congr_left fun word _ => String.ofList_toList).trans (List.map_id words)

/-! ## Options that are spelled out -/

/-- The words of an option: its long form, and its value if it takes one. -/
def spell (setting : Switch × String) : List String :=
  if setting.1.takesValue then [setting.1.long, setting.2] else [setting.1.long]

/-- An option that takes no value has none. -/
def IsSetting (setting : Switch × String) : Prop :=
  setting.1.takesValue = false → setting.2 = ""

theorem splitAssignment_long (switch : Switch) :
    splitAssignment switch.long = (switch.long, none) := by
  cases switch <;> rfl

theorem readWords_option {switch : Switch} {fuel : Nat} {rest : List String} {words : Words} :
    readWords (fuel + 1) (switch.long :: rest) words = (do
      let (words, rest) ← takeOption switch.long rest words
      readWords fuel rest words) := by
  cases switch <;> rfl

theorem readWords_setting {setting : Switch × String} (own : IsSetting setting) {fuel : Nat}
    {rest : List String} {words : Words} :
    readWords (fuel + 1) (spell setting ++ rest) words =
      readWords fuel rest { words with settings := setting :: words.settings } := by
  obtain ⟨switch, value⟩ := setting
  cases takes : switch.takesValue with
  | true =>
    rw [spell, if_pos takes, List.cons_append, readWords_option, takeOption, splitAssignment_long]
    simp only [Switch.ofLong?_long, takes]
    rfl
  | false =>
    obtain rfl := own takes
    rw [spell, if_neg (by simp [takes]), List.cons_append, readWords_option, takeOption,
      splitAssignment_long]
    simp only [Switch.ofLong?_long, takes]
    rfl

/-- Options that are spelled out are read as they are, by induction on the options. -/
theorem readWords_spell {settings : List (Switch × String)}
    (all : ∀ setting ∈ settings, IsSetting setting) {fuel : Nat} {words : Words}
    (enough : (settings.flatMap spell).length ≤ fuel) :
    readWords fuel (settings.flatMap spell) words =
      .ok { words with settings := settings.reverse ++ words.settings } := by
  induction settings generalizing fuel words with
  | nil => exact readWords_nil fuel words
  | cons setting rest ih =>
    obtain ⟨own, others⟩ := List.forall_mem_cons.mp all
    have some : 0 < (spell setting).length := by
      unfold spell
      split <;> simp
    -- each option has a word at least, so there is fuel for the others
    rw [List.flatMap_cons, List.length_append] at enough
    obtain ⟨fuel, rfl⟩ : ∃ less, fuel = less + 1 := ⟨fuel - 1, by omega⟩
    rw [List.flatMap_cons, readWords_setting own, ih others (by omega), List.reverse_cons,
      List.append_assoc]
    rfl

theorem space_not_mem_spell {settings : List (Switch × String)}
    (plain : ∀ setting ∈ settings, ' ' ∉ setting.2.toList) :
    ∀ word ∈ settings.flatMap spell, ' ' ∉ word.toList := by
  intro word mem
  obtain ⟨setting, there, mem⟩ := List.mem_flatMap.mp mem
  have long : ' ' ∉ setting.1.long.toList := by
    cases setting.1 <;> decide
  unfold spell at mem
  split at mem
  · rcases List.mem_pair.mp mem with rfl | rfl
    · exact long
    · exact plain setting there
  · rw [List.mem_singleton.mp mem]
    exact long

/-- A word that is no option. -/
def IsOperand (word : String) : Prop := word.toList.head? = some '-' → word = "-"

theorem readWords_operand {word : String} (operand : IsOperand word) {fuel : Nat}
    {rest : List String} {words : Words} :
    readWords (fuel + 1) (word :: rest) words =
      readWords fuel rest { words with others := word :: words.others } := by
  have other : (word == "--") = false := by
    rw [beq_eq_false_iff_ne]
    rintro rfl
    exact absurd (operand rfl) (by decide)
  have plain : (word.toList.head? == some '-' && word != "-") = false := by
    rw [Bool.and_eq_false_iff, beq_eq_false_iff_ne, bne_eq_false_iff_eq]
    by_cases dash : word.toList.head? = some '-'
    · exact .inr (operand dash)
    · exact .inl dash
  rw [readWords, other, plain]
  rfl

/-! ## Lines that are recorded -/

/-- The options that a command line records. -/
def settingsOf (name config : Option String) (language : Language) (force verbose : Bool) :
    List (Switch × String) :=
  name.toList.map (Switch.name, ·) ++ config.toList.map (Switch.config, ·) ++
    (if language = .python then [] else [(.format, language.name)]) ++
    (if force then [(.force, "")] else []) ++ if verbose then [(.verbose, "")] else []

theorem of_mem_settingsOf {name config : Option String} {language : Language}
    {force verbose : Bool} {setting : Switch × String}
    (mem : setting ∈ settingsOf name config language force verbose) : IsSetting setting ∧
      setting.2 ∈ name.toList ++ config.toList ++ [language.name, ""] := by
  simp only [settingsOf, List.mem_append, List.mem_map] at mem
  rcases mem with (((⟨text, there, rfl⟩ | ⟨text, there, rfl⟩) | mem) | mem) | mem
  · exact ⟨nofun, List.mem_append_left _ (List.mem_append_left _ there)⟩
  · exact ⟨nofun, List.mem_append_left _ (List.mem_append_right _ there)⟩
  · split at mem
    · cases mem
    · rw [List.mem_singleton.mp mem]
      exact ⟨nofun, by simp⟩
  · split at mem
    · rw [List.mem_singleton.mp mem]
      exact ⟨fun _ => rfl, by simp⟩
    · cases mem
  · split at mem
    · rw [List.mem_singleton.mp mem]
      exact ⟨fun _ => rfl, by simp⟩
    · cases mem

/-- The name that a command line records: an empty one counts as none. -/
def nameOf (a : Arguments) : Option String := a.name.filter (· ≠ "")

/-- What the recorded command line of some arguments shows. -/
structure Shows (s : Surroundings) (a : Arguments) (schema output : String)
    (name config : Option String) : Prop where
  schema : shown s (.str a.schema) = .ok schema
  output : shown s (.str a.output) = .ok output
  name : (nameOf a).mapM (fun text => shown s (.str text)) = .ok name
  config : a.config.mapM (fun text => shown s (.str text)) = .ok config

section

variable {s : Surroundings} {given : List (String × Value)} {p : Parameter} {text : String}

theorem isTruthy_str : (Value.str text).isTruthy = true ↔ text ≠ "" := by
  simp [Value.isTruthy]

theorem wordsOf_operand (operand : p.switch? = none)
    (found : given.lookup p.key = some (.str text)) (some : text ≠ "") :
    wordsOf s given p = (shown s (.str text)).map fun word => ([word], []) := by
  simp only [wordsOf, found, isTruthy_str.mpr some, operand]
  rfl

theorem wordsOf_option {switch : Switch} (option : p.switch? = some switch)
    (takes : switch.takesValue = true) (found : given.lookup p.key = some (.str text))
    (some : text ≠ "") (other : (Value.str text).same p.default = false) :
    wordsOf s given p = (shown s (.str text)).map fun word => ([], [switch.long, word]) := by
  simp only [wordsOf, found, isTruthy_str.mpr some, option, other, takes]
  rfl

/-- An option that has its default is left out. -/
theorem wordsOf_default {switch : Switch} (option : p.switch? = some switch)
    (found : given.lookup p.key = some (.str text)) (some : text ≠ "")
    (default : p.default = .str text) :
    wordsOf s given p = (shown s (.str text)).map fun _ => ([], []) := by
  have same : (Value.str text).same p.default = true := by
    rw [default, Value.same_str, beq_self_eq_true]
  simp only [wordsOf, found, isTruthy_str.mpr some, option, same]
  rfl

theorem wordsOf_falsy {v : Value} (found : given.lookup p.key = some v)
    (falsy : v.isTruthy = false) : wordsOf s given p = .ok ([], []) := by
  simp only [wordsOf, found, falsy]
  rfl

variable {words : List String × List String} {switch : Switch}

/-- An option that may be left out: an empty value counts as none. -/
theorem wordsOf_optional (value : Option String) (option : p.switch? = some switch)
    (takes : switch.takesValue = true) (default : p.default = .null)
    (found : given.lookup p.key = some (.ofOption .str value))
    (h : wordsOf s given p = .ok words) :
    ∃ word : Option String,
      (value.filter (· ≠ "")).mapM (fun text => shown s (.str text)) = .ok word ∧
        words = ([], (word.toList.map (switch, ·)).flatMap spell) := by
  by_cases some : ∃ text, value = .some text ∧ text ≠ ""
  · -- a text that is not the default, null, is shown behind its switch
    obtain ⟨text, rfl, some⟩ := some
    have other : (Value.str text).same p.default = false := by
      rw [default, Bool.eq_false_iff]
      exact fun same => by cases Value.same_null_iff.mp same
    rw [wordsOf_option option takes found some other] at h
    obtain ⟨word, seen, rfl⟩ := map_eq_ok.mp h
    refine ⟨word, ?_, by simp [spell, takes]⟩
    rw [Option.filter_some, if_pos (by simpa using some), Option.mapM_some, seen]
    rfl
  · -- nothing, or the empty text: both are left out
    have falsy : (Value.ofOption Value.str value).isTruthy = false := by
      cases value with
      | none => rfl
      | some text =>
        rw [Bool.eq_false_iff]
        exact fun truthy => some ⟨text, rfl, isTruthy_str.mp truthy⟩
    have none : value.filter (· ≠ "") = none := by
      cases value with
      | none => rfl
      | some text => simpa using some
    rw [wordsOf_falsy found falsy] at h
    cases h
    exact ⟨.none, by rw [none]; rfl, rfl⟩

/-- An option that is given or not. -/
theorem wordsOf_flag (given? : Bool) (option : p.switch? = some switch)
    (flag : switch.takesValue = false) (default : p.default = .bool false)
    (found : given.lookup p.key = some (.bool given?)) :
    wordsOf s given p = .ok ([], (if given? then [(switch, "")] else []).flatMap spell) := by
  cases given? with
  | false => exact wordsOf_falsy found rfl
  | true =>
    have other : (Value.bool true).same (.bool false) = false := by
      simp [Value.same, Value.alike, Value.sameScalar, Value.number?, Value.Number.same]
    simp only [wordsOf, found, option, default, other, flag]
    simp [spell, flag]
    rfl

theorem shown_language {language : Language} {word : String}
    (h : shown s (.str language.name) = .ok word) : word = language.name := by
  obtain ⟨isPath, -, h⟩ := bind_eq_ok.mp h
  cases h
  cases language <;> cases isPath <;> rfl

theorem wordsOf_language {a : Arguments} (h : wordsOf s a.values .language = .ok words) :
    words = ([], (if a.language = .python then []
      else [(Switch.format, a.language.name)]).flatMap spell) := by
  have found : a.values.lookup Parameter.language.key = some (.str a.language.name) := rfl
  cases same : a.language with
  | python =>
    rw [same] at found
    rw [wordsOf_default rfl found (by decide) rfl] at h
    obtain ⟨word, -, rfl⟩ := map_eq_ok.mp h
    rfl
  | report =>
    have other : (Value.str Language.report.name).same Parameter.language.default = false := by
      rw [Parameter.default, Value.same_str]
      rfl
    rw [same] at found
    rw [wordsOf_option rfl rfl found (by decide) other] at h
    obtain ⟨word, seen, rfl⟩ := map_eq_ok.mp h
    rw [shown_language seen]
    rfl

end

/-- What a recorded command line is made of: the paths, then the options. -/
theorem shows_of_recorded {s : Surroundings} {a : Arguments} {line : String}
    (schemaGiven : a.schema ≠ "") (outputGiven : a.output ≠ "") (configGiven : a.config ≠ some "")
    (h : recorded s a.values = .ok line) :
    ∃ schema output name config, Shows s a schema output name config ∧
      line = String.intercalate " " (Generation.programName :: schema :: output ::
        (settingsOf name config a.language a.force a.verbose).flatMap spell) := by
  obtain ⟨words, each, h⟩ := bind_eq_ok.mp h
  cases h
  simp only [Parameter.all, mapM_eq_ok, List.forall₂_cons_left_iff,
    List.forall₂_nil_left_iff] at each
  -- one list of words for each parameter, in the order of the parameters
  obtain ⟨nameWords, _, ofName, ⟨configWords, _, ofConfig, ⟨languageWords, _, ofLanguage,
    ⟨forceWords, _, ofForce, ⟨verboseWords, _, ofVerbose, ⟨schemaWords, _, ofSchema,
    ⟨outputWords, _, ofOutput, rfl, rfl⟩, rfl⟩, rfl⟩, rfl⟩, rfl⟩, rfl⟩, rfl⟩ := each
  obtain ⟨name, seenName, rfl⟩ := wordsOf_optional a.name rfl rfl rfl rfl ofName
  obtain ⟨config, seenConfig, rfl⟩ := wordsOf_optional a.config rfl rfl rfl rfl ofConfig
  obtain rfl := wordsOf_language ofLanguage
  rw [wordsOf_flag a.force rfl rfl rfl rfl] at ofForce
  rw [wordsOf_flag a.verbose rfl rfl rfl rfl] at ofVerbose
  rw [wordsOf_operand rfl rfl schemaGiven] at ofSchema
  rw [wordsOf_operand rfl rfl outputGiven] at ofOutput
  obtain ⟨schemaWord, seenSchema, rfl⟩ := map_eq_ok.mp ofSchema
  obtain ⟨outputWord, seenOutput, rfl⟩ := map_eq_ok.mp ofOutput
  cases ofForce
  cases ofVerbose
  refine ⟨schemaWord, outputWord, name, config, ⟨seenSchema, seenOutput, seenName, ?_⟩, ?_⟩
  · -- the empty name counts as none, and the configuration is not empty
    have same : a.config.filter (· ≠ "") = a.config := by
      cases given : a.config with
      | none => rfl
      | some text => simpa [given] using configGiven
    rwa [same] at seenConfig
  · simp [settingsOf]

/-! ## Reading a recorded line -/

section

variable {host : Host} {s : Surroundings}

theorem freePath_eq {text : String} (plain : Place.hasNull [text] = false) :
    s.freePath text = .ok (s.place text).render := by
  rw [Surroundings.freePath, plain]
  rfl

theorem takenPath_eq {hint text : String} (plain : Place.hasNull [text] = false) :
    s.takenPath host hint text = if host.sees s.tree (s.place text) then
      .ok (s.place text).render else .error (.noSuchPath hint text) := by
  rw [Surroundings.takenPath, freePath_eq plain]
  rfl

theorem sees_of_takenPath {hint text path : String} (h : s.takenPath host hint text = .ok path) :
    host.sees s.tree (s.place text) = true := by
  obtain ⟨path, -, h⟩ := bind_eq_ok.mp h
  split at h
  · assumption
  · cases h

theorem languageOf_name (language : Language) : languageOf language.name = .ok language := by
  rw [languageOf, Language.ofName?_name]

variable {name config : Option String} {language : Language} {force verbose : Bool}
  {schema output : String}

/-- The words that a recorded command line is sorted into. -/
def sorted (name config : Option String) (language : Language) (force verbose : Bool)
    (schema output : String) : Words :=
  ⟨(settingsOf name config language force verbose).reverse, [output, schema]⟩

theorem value?_sorted (switch : Switch) :
    (sorted name config language force verbose schema output).value? switch =
      match switch with
      | .name => name
      | .config => config
      | .format => if language = .python then none else some language.name
      | .force => if force then some "" else none
      | .verbose => if verbose then some "" else none
      | .help => none := by
  cases name <;> cases config <;> cases language <;> cases force <;> cases verbose <;>
    cases switch <;> rfl

theorem readWords_sorted (schemaWord : IsOperand schema) (outputWord : IsOperand output) :
    let words := schema :: output ::
      (settingsOf name config language force verbose).flatMap spell
    readWords words.length words {} =
      .ok (sorted name config language force verbose schema output) := by
  intro words
  show readWords ((((settingsOf name config language force verbose).flatMap spell).length + 1) + 1)
    words {} = _
  rw [readWords_operand schemaWord, readWords_operand outputWord,
    readWords_spell (fun _ mem => (of_mem_settingsOf mem).1) le_rfl]
  simp [sorted]

theorem languageOf_sorted : languageOf (((sorted name config language force verbose schema
    output).value? .format).getD Language.python.name) = .ok language := by
  rw [value?_sorted]
  cases language
  · exact languageOf_name .python
  · exact languageOf_name .report

/-- The options of a recorded command line are in order exactly if the configuration is found. -/
theorem checks_sorted (plain : ∀ text ∈ config, Place.hasNull [text] = false) :
    let words := sorted name config language force verbose schema output
    (words.settings.reverse.map (·.1)).eraseDups.forM (checkSwitch host s words) = .ok () ↔
      ∀ text ∈ config, host.sees s.tree (s.place text) = true := by
  intro words
  constructor
  · rintro checks text rfl
    have given : Switch.config ∈ (words.settings.reverse.map (·.1)).eraseDups := by
      rw [List.mem_eraseDups]
      simp [words, sorted, settingsOf]
    have check := ok_of_forM_eq_ok checks _ given
    simp only [checkSwitch, words, value?_sorted] at check
    obtain ⟨path, taken, -⟩ := map_eq_ok.mp check
    exact sees_of_takenPath taken
  · -- of the options only the configuration and the format are checked, and the format is one
    -- that is known
    intro found
    refine forM_eq_ok fun switch _ => ?_
    cases switch with
    | config =>
      simp only [checkSwitch, words, value?_sorted]
      cases given : config with
      | none => rfl
      | some text =>
        rw [given] at plain found
        show (s.takenPath host _ text).map _ = _
        rw [takenPath_eq (plain text rfl), if_pos (found text rfl)]
        rfl
    | format =>
      simp only [checkSwitch, words, value?_sorted]
      cases language with
      | python => rfl
      | report => exact map_eq_ok.mpr ⟨_, languageOf_name .report, rfl⟩
    | _ => rfl

/-- What the words of a recorded command line ask for. -/
theorem ofWords_sorted (plain : ∀ text ∈ schema :: output :: config.toList,
      Place.hasNull [text] = false) :
    (∃ again, ofWords host s (sorted name config language force verbose schema output) =
        .ok (.generate again) ∧ again.name = name ∧ again.language = language ∧
          again.force = force ∧ again.verbose = verbose) ↔
      ∀ text ∈ schema :: config.toList, host.sees s.tree (s.place text) = true := by
  simp only [List.forall_mem_cons, Option.mem_toList] at plain ⊢
  obtain ⟨schemaPlain, outputPlain, configPlain⟩ := plain
  have noHelp : ¬(sorted name config language force verbose schema output).has .help = true := by
    rw [Words.has, value?_sorted]
    exact Bool.false_ne_true
  unfold ofWords
  rw [if_neg noHelp]
  constructor
  · -- a generation was asked for, so the checks passed
    rintro ⟨again, h, -⟩
    obtain ⟨_, checks, h⟩ := bind_eq_ok.mp h
    obtain ⟨path, taken, -⟩ := bind_eq_ok.mp h
    exact ⟨sees_of_takenPath taken, (checks_sorted configPlain).mp checks⟩
  · -- all paths are found: each step of the reading has its result
    rintro ⟨schemaFound, configFound⟩
    have checks : ((sorted name config language force verbose schema output).settings.reverse.map
        (·.1)).eraseDups.forM (checkSwitch host s
          (sorted name config language force verbose schema output)) = .ok () :=
      (checks_sorted configPlain).mpr configFound
    have taken : s.takenPath host "'PATH'" schema = .ok (s.place schema).render := by
      rw [takenPath_eq schemaPlain, if_pos schemaFound]
    have free : ∃ path, config.mapM s.freePath = .ok path := by
      cases config with
      | none => exact ⟨none, rfl⟩
      | some text =>
        refine ⟨some (s.place text).render, ?_⟩
        rw [Option.mapM_some, freePath_eq (configPlain text rfl)]
        rfl
    obtain ⟨path, free⟩ := free
    refine ⟨⟨name, path, language, force, verbose, (s.place schema).render,
      (s.place output).render⟩, ?_, rfl, rfl, rfl, rfl⟩
    refine bind_eq_ok.mpr ⟨(), checks, bind_eq_ok.mpr ⟨_, taken, bind_eq_ok.mpr
      ⟨_, freePath_eq outputPlain, ?_⟩⟩⟩
    refine bind_eq_ok.mpr ⟨_, languageOf_sorted, bind_eq_ok.mpr ⟨path, ?_, ?_⟩⟩
    · rw [value?_sorted]
      exact free
    · simp only [Words.has, value?_sorted]
      cases force <;> cases verbose <;> rfl

end

/-! ## Reading again -/

theorem render_ne_empty (place : Place) : place.render ≠ "" := by
  intro empty
  have := congrArg String.toList empty
  simp [Place.render] at this

/-- The paths that a command line asks for are never empty. -/
theorem paths_of_read {host : Host} {s : Surroundings} {texts : List String} {a : Arguments}
    (h : read host s texts = .ok (.generate a)) :
    a.schema ≠ "" ∧ a.output ≠ "" ∧ a.config ≠ some "" := by
  -- a path that is taken is rendered from the root, and so begins with a slash
  have free {text path : String} (h : s.freePath text = .ok path) : path ≠ "" := by
    unfold Surroundings.freePath at h
    split at h
    · cases h
    · cases h
      exact render_ne_empty _
  -- the steps of the reading; those that only check are passed over
  obtain ⟨words, -, h⟩ := bind_eq_ok.mp h
  unfold ofWords at h
  split at h
  · cases h
  obtain ⟨_, -, h⟩ := bind_eq_ok.mp h
  obtain ⟨schema, ofSchema, h⟩ := bind_eq_ok.mp h
  obtain ⟨output, ofOutput, h⟩ := bind_eq_ok.mp h
  split at h
  · cases h
  obtain ⟨_, -, h⟩ := bind_eq_ok.mp h
  obtain ⟨config, ofConfig, h⟩ := bind_eq_ok.mp h
  cases h
  refine ⟨?_, ?_, ?_⟩
  · unfold schemaPath at ofSchema
    split at ofSchema
    · cases ofSchema
    · obtain ⟨path, taken, h⟩ := bind_eq_ok.mp ofSchema
      split at h
      · cases h
        exact free taken
      · cases h
  · unfold outputPath at ofOutput
    split at ofOutput
    · exact free ofOutput
    · cases ofOutput
  · dsimp only
    cases given : words.value? .config with
    | none =>
      rw [given] at ofConfig
      cases ofConfig
      nofun
    | some text =>
      rw [given, Option.mapM_some] at ofConfig
      obtain ⟨path, taken, rfl⟩ := map_eq_ok.mp ofConfig
      simpa using free taken

/-- A text that can be a word of a command line, with single spaces between the words. -/
def IsWord (text : String) : Prop := ' ' ∉ text.toList ∧ Char.ofNat 0 ∉ text.toList

/-- What a command line shows of its values can be told apart: each of them is a word, the paths are
no options, and the name is no path. -/
structure Clear (s : Surroundings) (a : Arguments) : Prop where
  words : ∀ text ∈ a.schema :: a.output :: (nameOf a).toList ++ a.config.toList, ∀ word,
    shown s (.str text) = .ok word → IsWord word
  operands : ∀ text ∈ [a.schema, a.output], ∀ word, shown s (.str text) = .ok word → IsOperand word
  name : ∀ text ∈ (nameOf a).toList, ∀ word, shown s (.str text) = .ok word → word = text

section

variable {s : Surroundings} {a : Arguments} {schema output : String} {name config : Option String}

theorem Clear.isWord (clear : Clear s a) (shows : Shows s a schema output name config) :
    ∀ text ∈ schema :: output :: (name.toList ++ config.toList), IsWord text := by
  have names : ∀ text ∈ name.toList, IsWord text :=
    (forall_mem_of_mapM shows.name).mpr fun text mem => clear.words text (by simp [mem])
  have configs : ∀ text ∈ config.toList, IsWord text :=
    (forall_mem_of_mapM shows.config).mpr fun text mem => clear.words text (by simp [mem])
  refine List.forall_mem_cons.mpr ⟨clear.words a.schema (by simp) schema shows.schema,
    List.forall_mem_cons.mpr ⟨clear.words a.output (by simp) output shows.output, ?_⟩⟩
  exact List.forall_mem_append.mpr ⟨names, configs⟩

/-- The words of a recorded line have no spaces if what it shows has none. -/
theorem space_not_mem_line {language : Language} {force verbose : Bool}
    (words : ∀ text ∈ schema :: output :: (name.toList ++ config.toList), IsWord text) :
    ∀ word ∈ Generation.programName :: schema :: output ::
        (settingsOf name config language force verbose).flatMap spell, ' ' ∉ word.toList := by
  simp only [List.forall_mem_cons, List.forall_mem_append] at words
  obtain ⟨schemaWord, outputWord, nameWord, configWord⟩ := words
  refine List.forall_mem_cons.mpr ⟨by decide, List.forall_mem_cons.mpr ⟨schemaWord.1,
    List.forall_mem_cons.mpr ⟨outputWord.1, space_not_mem_spell fun setting mem => ?_⟩⟩⟩
  -- the values of the options are what is shown, the name of a format, or none
  rcases List.mem_append.mp (of_mem_settingsOf mem).2 with mem | mem
  · rcases List.mem_append.mp mem with mem | mem
    · exact (nameWord _ mem).1
    · exact (configWord _ mem).1
  · rcases List.mem_pair.mp mem with same | same <;> rw [same]
    · cases language <;> decide
    · decide

end

/-- A directory with a schema, and one more in a directory below. -/
def nested : Surroundings where
  tree := .directory [("work", .directory
    [("sub", .directory [("s.json", .file [])]), ("t.json", .file [])])]
  directory := ["work"]

/-- A report on one of the schemas, with a name for its root. -/
def orderArguments : Arguments :=
  ⟨some "Order", none, .report, true, false, "/work/t.json", "/work/m.json"⟩

end WireModel.Command
