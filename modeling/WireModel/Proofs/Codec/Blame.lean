import WireModel.Proofs.Codec.Refusals

/-!
# Where decoding fails, and why

A decoding error is at the end of a path, and what it says is so of the value there.

* **`Moves`**, **`Leads`**: what a decoder goes on with, step by step, read off the contracts alone:
  where it is, which value is there, and whether it goes into that value.
* **`Stops`**: what is wrong with a value where a decoder stops, with one rule for each thing that
  a decoding error can say.
* **`Leads.follow`**: the steps of a decoder can be followed in a JSON value, and lead to the value
  that it stops at.
* **`blamed_of_decode`**: a decoding error is at the end of steps that lead to a refused value, and
  its cause is why the value is refused.

The path is handed on by every combinator, so all of them keep one property (`Pointing`), and the
models keep it by induction on the fuel.
-/

namespace WireModel

open Schema (Discriminator)

/-! ## Following steps -/

namespace Codec

/-- What is one step into a value. -/
def Step.follow? : Step → Value → Option Value
  | .field name, .map entries => Value.lookup name entries
  | .index i, .list items => items[i]?
  | .key (.str text), .map entries => Value.lookup text entries
  | _, _ => none

/-- What is at the end of some steps into a value. -/
def follow : List Step → Value → Option Value
  | [], v => some v
  | step :: steps, v => (step.follow? v).bind (follow steps)

/-- Whether a cause is reported as a decoding error. An unknown model, a recursion without end and a
number that is too long to be shown are errors of other kinds. -/
def Cause.isDecodeError : Cause → Bool
  | .unknownModel _ | .endless | .overlong => false
  | _ => true

end Codec

/-! ## The way of a decoder -/

/-- The value that is reported as an unknown tag: null if there is none. -/
def Schema.Discriminator.told (d : Discriminator) (members : List (Value × Value)) : Value :=
  ((Value.lookup d.property members).filter fun v => !v.isUnset).getD .null

namespace RecordContract

/-- The discriminator that a record asks for the model of a mapping. -/
def asked (r : RecordContract) (ignoring : Bool) (members : List (Value × Value)) :
    Option Discriminator :=
  r.discriminator.filter fun d => !ignoring && Value.hasKey d.property members

/-- A record reads a mapping itself: it asks for no other model, or the answer is the record. -/
def Keeps (r : RecordContract) (ignoring : Bool) (members : List (Value × Value)) : Prop :=
  ∀ d, r.asked ignoring members = some d → d.chosen members = some r.name

end RecordContract

namespace Codec

/-- What a decoder reads a value as. An element is what stands in a list or under a key, and a field
is one of a model. -/
inductive Site where
  | model (name : String) (ignoring : Bool)
  | plan (p : Plan)
  | element (p : Plan)
  | field (model : String) (f : FieldContract)

/-- A decoder that reads a value goes on with another, one step into it or none. -/
inductive Moves (contracts : Contracts) : Site → Value → Option Step → Site → Value → Prop
  | union {name ignoring u v} : contracts.get? name = some (.union u) →
      Moves contracts (.model name ignoring) v none (.plan u.body) v
  | family {name ignoring r members d target} : contracts.get? name = some (.record r) →
      r.asked ignoring members = some d → d.chosen members = some target → target ≠ name →
      Moves contracts (.model name ignoring) (.map members) none (.model target true) (.map members)
  | field {name ignoring r members f v} : contracts.get? name = some (.record r) →
      r.Keeps ignoring members → f ∈ r.fields → Value.lookup f.wireName members = some v →
      Moves contracts (.model name ignoring) (.map members) (some (.field f.wireName))
        (.field name f) v
  | value {model f v} : v ≠ .null → Moves contracts (.field model f) v none (.plan f.plan) v
  | nullable {p v} : v ≠ .null → Moves contracts (.plan (.nullable p)) v none (.plan p) v
  | index {p v items i w} : v.elements? = some items → items[i]? = some w →
      Moves contracts (.plan (.eachElement p)) v (some (.index i)) (.element p) w
  | key {p members k w} : (k, w) ∈ members →
      Moves contracts (.plan (.eachValue p)) (.map members) (some (.key k)) (.element p) w
  | element {p v} : (v = .null → ∃ q, p = .nullable q) →
      Moves contracts (.element p) v none (.plan p) v
  | call {name v} : Moves contracts (.plan (.call name)) v none (.model name false) v
  | dispatch {property cases members target} :
      Discriminator.chosen ⟨property, cases⟩ members = some target →
      Moves contracts (.plan (.dispatch property cases)) (.map members) none (.model target false)
        (.map members)
  | firstMatch {options description option v} :
      options.find? (fun option => option.1.holdsOfWire v) = some option →
      Moves contracts (.plan (.firstMatch options description)) v none (.plan option.2) v

/-- A decoder that reads a value comes to another through some steps. -/
inductive Leads (contracts : Contracts) : Site → Value → List Step → Site → Value → Prop
  | here {site v} : Leads contracts site v [] site v
  | on {site v step? next w steps last x} : Moves contracts site v step? next w →
      Leads contracts next w steps last x →
      Leads contracts site v (step?.toList ++ steps) last x

/-- A decoder stops at a value, for what is wrong with it. -/
inductive Stops (contracts : Contracts) : Site → Value → Cause → Prop
  | notObjectFor {name ignoring r v} : contracts.get? name = some (.record r) → v.entries? = none →
      Stops contracts (.model name ignoring) v (.notObjectFor name v.kindName)
  | notDiscriminated {property cases v} : v.entries? = none →
      Stops contracts (.plan (.dispatch property cases)) v
        (.notObjectFor "discriminated union" v.kindName)
  | notArray {p v} : v.elements? = none →
      Stops contracts (.plan (.eachElement p)) v (.notArray v.kindName)
  | notObject {p v} : v.entries? = none →
      Stops contracts (.plan (.eachValue p)) v (.notObject v.kindName)
  | missingField {name ignoring r members f} : contracts.get? name = some (.record r) →
      r.Keeps ignoring members → f ∈ r.fields → f.required = true →
      Value.lookup f.wireName members = none →
      Stops contracts (.model name ignoring) (.map members) (.missingField name f.wireName)
  | nullField {model f} : f.nullable = false →
      Stops contracts (.field model f) .null (.nullField model f.wireName)
  | nullElement {p} : (∀ q, p ≠ .nullable q) → Stops contracts (.element p) .null .nullElement
  | unknownMember {values name v} : v.member values = false →
      Stops contracts (.plan (.checkEnum values name)) v (.unknownMember v values)
  | unknownTag {name ignoring r members d} : contracts.get? name = some (.record r) →
      r.asked ignoring members = some d → d.chosen members = none →
      Stops contracts (.model name ignoring) (.map members)
        (.unknownTag d.property (d.told members))
  | untold {property cases members} : Discriminator.chosen ⟨property, cases⟩ members = none →
      Stops contracts (.plan (.dispatch property cases)) (.map members)
        (.unknownTag property (Discriminator.told ⟨property, cases⟩ members))
  | noVariant {options description v} :
      (∀ option ∈ options, option.1.holdsOfWire v = false) →
      Stops contracts (.plan (.firstMatch options description)) v (.noVariant description)

/-- A fault of a decoder that reads a value at a place is no decoding error, or the steps behind the
place lead to a value that is refused for its cause. -/
def Points (contracts : Contracts) (site : Site) (v : Value) (path : Path) (fault : Fault) : Prop :=
  fault.cause.isDecodeError = true → ∃ steps last w,
    fault.path = ⟨path.root, steps.reverse ++ path.reversed⟩ ∧
      Leads contracts site v steps last w ∧ Stops contracts last w fault.cause

/-- The faults of a codec point at what is wrong when it reads a value as some site. -/
def Pointing (contracts : Contracts) (site : Site) (c : Codec) : Prop :=
  ∀ v path, (c.run v path).FailsOnly (Points contracts site v path)

/-- The faults of models point at what is wrong. -/
def ModelsPoint (contracts : Contracts) (models : ModelCodec) : Prop :=
  ∀ name ignoring v path,
    (models name ignoring v path).FailsOnly (Points contracts (.model name ignoring) v path)

variable {contracts : Contracts} {models : ModelCodec}

namespace Points

variable {site next : Site} {v w : Value} {path : Path} {fault : Fault} {cause : Cause}

theorem here (h : Stops contracts site v cause) : Points contracts site v path ⟨cause, path⟩ :=
  fun _ => ⟨[], site, v, rfl, .here, h⟩

theorem other (h : cause.isDecodeError = false) : Points contracts site v path ⟨cause, path⟩ := by
  intro reported
  rw [h] at reported
  cases reported

/-- What goes on with the same value points from there. -/
theorem stay (moves : Moves contracts site v none next w) (h : Points contracts next w path fault) :
    Points contracts site v path fault := by
  intro reported
  obtain ⟨steps, last, x, at_, leads, refuses⟩ := h reported
  exact ⟨steps, last, x, at_, .on moves leads, refuses⟩

/-- What goes on one step further in points from there, and its path has the step. -/
theorem step {s : Step} (moves : Moves contracts site v (some s) next w)
    (h : Points contracts next w (path.push s) fault) : Points contracts site v path fault := by
  intro reported
  obtain ⟨steps, last, x, at_, leads, refuses⟩ := h reported
  refine ⟨s :: steps, last, x, ?_, .on moves leads, refuses⟩
  rw [at_, Path.push, List.reverse_cons, List.append_assoc, List.singleton_append]

end Points

/-! ## Codecs point at what is wrong -/

theorem requireMapping_points {model : String} {site : Site} {v : Value} {path : Path}
    (refuses : v.entries? = none →
      Stops contracts site v (.notObjectFor model v.kindName)) :
    (requireMapping model v path).FailsOnly (Points contracts site v path) := by
  unfold requireMapping
  split
  · exact .ok
  · rename_i shape
    refine .fail (.here (refuses ?_))
    cases v with
    | map members => exact absurd rfl (shape members)
    | _ => rfl

theorem selectVariant_points {site : Site} {d : Discriminator} {members : List (Value × Value)}
    (refuses : d.chosen members = none →
      Stops contracts site (.map members) (.unknownTag d.property (d.told members)))
    (path : Path) :
    (selectVariant members d.property d.mapping path).FailsOnly
      (Points contracts site (.map members) path) := by
  cases chosen : d.chosen members with
  | some target =>
    rw [selectVariant_ok_iff_chosen.mpr chosen]
    exact .ok
  | none =>
    unfold selectVariant
    dsimp only
    split
    · exact .ok
    · -- the tag may be too long to be shown, which is an error of another kind
      exact .failAbout (.here (refuses chosen)) (.other rfl)

namespace Pointing

variable {p : Plan} {c : Codec}

theorem nullable (h : Pointing contracts (.plan p) c) :
    Pointing contracts (.plan (.nullable p)) c.nullable := by
  intro v path
  unfold Codec.nullable
  dsimp only
  split
  · exact .ok
  · rename_i set
    have notNull : v ≠ .null := fun null => set (isNull_iff.mpr null)
    exact (h v path).imp fun fault => .stay (.nullable notNull)

theorem enumOf (values : List Value) (name : Option String) :
    Pointing contracts (.plan (.checkEnum values name)) (.enumOf values) := by
  intro v path
  unfold Codec.enumOf
  dsimp only
  split
  · exact .ok
  · rename_i unknown
    exact .failAbout (.here (.unknownMember (Bool.eq_false_iff.mpr unknown))) (.other rfl)

theorem modelCodec (h : ModelsPoint contracts models) (name : String) :
    Pointing contracts (.plan (.call name)) (Plan.modelCodec models name) :=
  fun v path => (h name false v path).imp fun _ => .stay .call

/-- An element is refused as null, or the plan goes on with it. -/
theorem element (h : Pointing contracts (.plan p) (p.decoder models)) (v : Value) (path : Path) :
    ((p.decoder models).element path v).FailsOnly (Points contracts (.element p) v path) := by
  unfold Codec.element
  split
  · rename_i refused
    obtain ⟨null, strict⟩ := Bool.and_eq_true_iff.mp refused
    obtain rfl := isNull_iff.mp null
    refine .fail (.here (.nullElement fun q same => ?_))
    subst same
    cases strict
  · rename_i taken
    refine (h v path).imp fun fault => .stay (.element fun null => ?_)
    subst null
    cases p with
    | nullable q => exact ⟨q, rfl⟩
    | _ => exact absurd rfl taken

/-- The elements from an index on, each at its own index of the whole list. -/
theorem elements (h : Pointing contracts (.plan p) (p.decoder models)) {v : Value}
    {all : List Value} (list : v.elements? = some all) (path : Path) :
    ∀ (i : Nat) (vs : List Value), all.drop i = vs →
      ((p.decoder models).elements path i vs).FailsOnly
        (Points contracts (.plan (.eachElement p)) v path)
  | _, [], _ => .ok
  | i, w :: rest, at_ => by
    have there : all[i]? = some w := by rw [← List.head?_drop, at_, List.head?_cons]
    have next : all.drop (i + 1) = rest := by rw [← List.tail_drop, at_, List.tail_cons]
    unfold Codec.elements
    refine ((h.element w _).imp fun fault => .step (.index list there)).bind fun w' => ?_
    exact (elements h list path (i + 1) rest next).bind fun ws => .ok

/-- Some entries of a mapping, each under its own key. -/
theorem entries (h : Pointing contracts (.plan p) (p.decoder models))
    {members : List (Value × Value)} (path : Path) (entries : List (Value × Value))
    (among : entries ⊆ members) : ((p.decoder models).entries path entries).FailsOnly
      (Points contracts (.plan (.eachValue p)) (.map members) path) := by
  induction entries with
  | nil => exact .ok
  | cons entry rest ih =>
    obtain ⟨k, w⟩ := entry
    obtain ⟨mem, among⟩ := List.cons_subset.mp among
    have whole : Outcome.FailsOnly (do
        let w' ← (p.decoder models).element (path.push (.key k)) w
        let ws ← (p.decoder models).entries path rest
        return (k, w') :: ws) (Points contracts (.plan (.eachValue p)) (.map members) path) := by
      refine ((h.element w _).imp fun fault => .step (.key mem)).bind fun w' => ?_
      exact (ih among).bind fun ws => .ok
    unfold Codec.entries
    split
    · exact whole
    · -- a key that is too long for a path fails before its value is read
      exact .bind (.fail (.other rfl)) fun _ => whole

theorem listOf (h : Pointing contracts (.plan p) (p.decoder models)) :
    Pointing contracts (.plan (.eachElement p)) (p.decoder models).listOf := by
  intro v path
  unfold Codec.listOf
  dsimp only
  split
  · rename_i items list
    exact (h.elements list path 0 items rfl).map
  · rename_i shape
    exact .fail (.here (.notArray shape))

theorem dictOf (h : Pointing contracts (.plan p) (p.decoder models)) :
    Pointing contracts (.plan (.eachValue p)) (p.decoder models).dictOf := by
  intro v path
  unfold Codec.dictOf
  dsimp only
  split
  · rename_i members mapping
    cases v with
    | map own =>
      cases mapping
      exact (h.entries path members (List.Subset.refl members)).map
    | _ => cases mapping
  · rename_i shape
    exact .fail (.here (.notObject shape))

theorem dispatchOn {property : String} {cases : List (String × String)}
    (h : ModelsPoint contracts models) : Pointing contracts (.plan (.dispatch property cases))
      (.dispatchOn property (cases.map fun c => (c.1, Plan.modelCodec models c.2))) := by
  intro v path
  unfold Codec.dispatchOn
  dsimp only
  refine (requireMapping_points .notDiscriminated).bind_of fun members mapping => ?_
  obtain rfl := requireMapping_ok_iff.mp mapping
  rw [selectVariant_map]
  refine (Outcome.FailsOnly.map ?_).bind_of fun c selected => ?_
  · exact selectVariant_points (d := ⟨property, cases⟩) .untold path
  · obtain ⟨target, chosen, rfl⟩ := map_eq_ok.mp selected
    have told : Discriminator.chosen ⟨property, cases⟩ members = some target :=
      selectVariant_ok_iff_chosen.mp chosen
    exact (h target false _ path).imp fun fault => .stay (.dispatch told)

theorem firstMatch {options : List (Predicate × Plan)} {description : String}
    (h : ∀ option ∈ options, Pointing contracts (.plan option.2) (option.2.decoder models)) :
    Pointing contracts (.plan (.firstMatch options description))
      (.firstMatch (Plan.decoders models options) description) := by
  intro v path
  simp only [Codec.firstMatch, decoders_eq_map, List.find?_map, Function.comp_def]
  cases found : options.find? fun option => option.1.holdsOfWire v with
  | none =>
    refine .fail (.here (.noVariant fun option mem => ?_))
    exact Bool.eq_false_iff.mpr (List.find?_eq_none.mp found option mem)
  | some option =>
    exact (h option (List.mem_of_find?_eq_some found) v path).imp fun fault =>
      .stay (.firstMatch found)

mutual

theorem decoder (h : ModelsPoint contracts models) :
    ∀ p : Plan, Pointing contracts (.plan p) (p.decoder models)
  | .pass _ => fun _ _ => .ok
  | .checkEnum values name => enumOf values name
  | .nullable inner => (decoder h inner).nullable
  | .eachElement element => (decoder h element).listOf
  | .eachValue value => (decoder h value).dictOf
  | .call model => modelCodec h model
  | .dispatch _ _ => dispatchOn h
  | .firstMatch options _ => firstMatch (decoders h options)

theorem decoders (h : ModelsPoint contracts models) : ∀ options : List (Predicate × Plan),
    ∀ option ∈ options, Pointing contracts (.plan option.2) (option.2.decoder models)
  | [] => nofun
  | (_, p) :: rest => List.forall_mem_cons.mpr ⟨decoder h p, decoders h rest⟩

end

end Pointing

/-! ## Models point at what is wrong -/

/-- A field is missing from the mapping, or what is wrong is found in it. -/
theorem decodeField_points (h : ModelsPoint contracts models) {name : String} {ignoring : Bool}
    {r : RecordContract} (found : contracts.get? name = some (.record r))
    {members : List (Value × Value)} (keeps : r.Keeps ignoring members) {f : FieldContract}
    (mem : f ∈ r.fields) (path : Path) :
    (decodeField (ruleOf name f) (f.plan.decoder models) members path).FailsOnly
      (Points contracts (.model name ignoring) (.map members) path) := by
  unfold decodeField ruleOf
  dsimp only
  split
  · rename_i absent
    split
    · rename_i required
      exact .fail (.here (.missingField found keeps mem required absent))
    · exact .ok
  · rename_i v there
    -- from here on the fault is found at the value of the field, one step deeper
    have inside : ∀ {fault},
        Points contracts (.field name f) v (path.push (.field f.wireName)) fault →
          Points contracts (.model name ignoring) (.map members) path fault :=
      .step (.field found keeps mem there)
    split
    · rename_i null
      obtain rfl := isNull_iff.mp null
      split
      · exact .ok
      · rename_i strict
        exact .fail (inside (.here (.nullField (Bool.eq_false_iff.mpr strict))))
    · rename_i set
      have notNull : v ≠ .null := fun null => set (isNull_iff.mpr null)
      exact (Pointing.decoder h f.plan v _).imp fun fault points =>
        inside (.stay (.value notNull) points)

theorem decodeFields_points (h : ModelsPoint contracts models) {name : String} {ignoring : Bool}
    {r : RecordContract} (found : contracts.get? name = some (.record r))
    {members : List (Value × Value)} (keeps : r.Keeps ignoring members) (path : Path) :
    (decodeFields models r members path).FailsOnly
      (Points contracts (.model name ignoring) (.map members) path) := by
  have named : r.name = name := Contracts.name_of_get? found
  refine .bind (.mapM fun f mem => ?_) fun fields => .ok
  rw [named]
  exact (decodeField_points h found keeps mem path).bind fun v => .ok

theorem decodeStep_points (h : ModelsPoint contracts models) :
    ModelsPoint contracts (decodeStep contracts models) := by
  intro name ignoring v path
  unfold decodeStep
  split
  · exact .fail (.other rfl)
  · rename_i u found
    exact (Pointing.decoder h u.body v path).imp fun fault => .stay (.union found)
  · rename_i r found
    have named : r.name = name := Contracts.name_of_get? found
    refine (requireMapping_points (.notObjectFor found)).bind_of fun members mapping => ?_
    obtain rfl := requireMapping_ok_iff.mp mapping
    dsimp only
    split
    · rename_i unasked
      refine decodeFields_points h found (fun d asked => ?_) path
      rw [RecordContract.asked, unasked] at asked
      cases asked
    · rename_i d asked
      -- the tag decides first; the record reads the mapping only if the answer is its own name
      have points := selectVariant_points (.unknownTag found asked) path
      refine points.bind_of fun target selected => ?_
      have chosen := selectVariant_ok_iff_chosen.mp selected
      split
      · rename_i own
        refine decodeFields_points h found (fun d' asked' => ?_) path
        rw [RecordContract.asked, asked] at asked'
        cases asked'
        rw [chosen, named, beq_iff_eq.mp own]
      · rename_i other
        have elsewhere : target ≠ name := fun same => other (beq_iff_eq.mpr same)
        exact (h target true _ path).imp fun fault =>
          .stay (.family found asked chosen elsewhere)

/-- The faults of decoders point at what is wrong, with any fuel. -/
theorem decodeModel_points (contracts : Contracts) :
    ∀ fuel, ModelsPoint contracts (decodeModel contracts fuel)
  | 0 => fun _ _ _ _ => .fail (.other rfl)
  | fuel + 1 => by
    rw [decodeModel_succ]
    exact decodeStep_points (decodeModel_points contracts fuel)

/-! ## Steps can be followed -/

theorem Moves.isJson {site next : Site} {v w : Value} {step? : Option Step}
    (h : Moves contracts site v step? next w) (json : v.isJson = true) : w.isJson = true := by
  cases h with
  | field _ _ _ there => exact Value.isJson_of_lookup json there
  | index list there =>
    cases v with
    | list items =>
      cases list
      exact Value.isJson_list.mp json _ (List.mem_of_getElem? there)
    | tuple items => cases json
    | _ => cases list
  | key mem => exact ((Value.isJson_map.mp json).1 _ mem).2
  | _ => exact json

/-- A step of a decoder can be followed in a JSON value. A key leads to one entry only, because the
keys of a mapping are distinct texts. -/
theorem Moves.follow {site next : Site} {v w : Value} {step? : Option Step}
    (h : Moves contracts site v step? next w) (json : v.isJson = true) :
    Codec.follow step?.toList v = some w := by
  cases h with
  | field _ _ _ there =>
    simp [Codec.follow, Step.follow?, there]
  | index list there =>
    cases v with
    | list items =>
      cases list
      simp [Codec.follow, Step.follow?, there]
    | tuple items => cases json
    | _ => cases list
  -- only here it matters that the value is JSON
  | @key p members k w mem =>
    obtain ⟨key, rfl⟩ := ((Value.isJson_map.mp json).1 _ mem).1
    have there := Value.lookup_of_mem (Value.keys_nodup_of_isJson json) mem
    simp [Codec.follow, Step.follow?, there]
  | _ => rfl

theorem follow_append (steps others : List Step) (v : Value) :
    follow (steps ++ others) v = (follow steps v).bind (follow others) := by
  induction steps generalizing v with
  | nil => rfl
  | cons step rest ih =>
    rw [List.cons_append, follow, follow, Option.bind_assoc]
    exact Option.bind_congr fun w _ => ih w

/-- The steps of a decoder lead to the value that it comes to. -/
theorem Leads.follow {site last : Site} {v x : Value} {steps : List Step}
    (h : Leads contracts site v steps last x) (json : v.isJson = true) :
    Codec.follow steps v = some x := by
  induction h with
  | here => rfl
  | on moves _ ih => rw [follow_append, moves.follow json, Option.bind_some, ih (moves.isJson json)]

/-! ## Decoding errors -/

/-- **A decoding error points at the value that is wrong.** Its path is the name of the model and
some steps that can be followed in the JSON value that is decoded. A decoder takes exactly these
steps, and at their end it stops at a value that is refused for what the error says. -/
theorem blamed_of_decode {contracts : Contracts} {name : String} {ignoring : Bool} {d : Value}
    (json : d.isJson = true) {fault : Fault}
    (fails : decode contracts name d ignoring = .error fault)
    (reported : fault.cause.isDecodeError = true) :
    ∃ steps last v, fault.path = ⟨name, steps.reverse⟩ ∧
      fault.path.render = name ++ String.join (steps.map Step.render) ∧
      follow steps d = some v ∧ Leads contracts (.model name ignoring) d steps last v ∧
      Stops contracts last v fault.cause := by
  unfold decode at fails
  split at fails
  · cases fails
  · obtain ⟨steps, last, v, place, leads, refuses⟩ :=
      decodeModel_points contracts _ name ignoring d ⟨name, []⟩ fault fails reported
    rw [List.append_nil] at place
    refine ⟨steps, last, v, place, ?_, leads.follow json, leads, refuses⟩
    rw [place, Path.render, Path.steps, List.reverse_reverse]

/-! ## A pet without a name -/

/-- A zoo has pets, and pets have names. -/
def zoo : Contracts :=
  [.record ⟨"Zoo", [⟨"pets", "pets", .eachElement (.call "Pet"), true, false, none⟩], ["pets"],
      none⟩,
   .record ⟨"Pet", [⟨"name", "name", .pass .string, true, false, none⟩], ["name"], none⟩]

/-- Tom, and a pet without a name. -/
def tomAndNobody : Value :=
  .map [(.str "pets", .list [.map [(.str "name", .str "Tom")], .map []])]

theorem nobody_is_blamed : ∃ fault steps last v,
    decode zoo "Zoo" tomAndNobody = .error fault ∧ fault.path.render = "Zoo.pets[1]" ∧
      fault.path = ⟨"Zoo", steps.reverse⟩ ∧ follow steps tomAndNobody = some v ∧
      Stops zoo last v (.missingField "Pet" "name") := by
  have fails : decode zoo "Zoo" tomAndNobody =
      .error ⟨.missingField "Pet" "name", ⟨"Zoo", [.index 1, .field "pets"]⟩⟩ := rfl
  obtain ⟨steps, last, v, place, -, there, -, stops⟩ := blamed_of_decode (by decide) fails rfl
  exact ⟨_, steps, last, v, fails, by decide +kernel, place, there, stops⟩

end Codec
end WireModel
