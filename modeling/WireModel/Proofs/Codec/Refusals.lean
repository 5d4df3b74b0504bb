import WireModel.Proofs.Codec.Decoding

/-!
# Tags that are refused

A mapping can be refused at its own place because of a tag by the union that it is read by, and by
the model that the union leads to: that may be a union again, or have a discriminator of its own.

* **`Table.Refuses`**: a type refuses the tag of a mapping, found from the table alone.
* **`decoders_refuse_iff`**, **`decoder_refuses_iff`**: the decoders of models and of plans report an
  unknown tag at the place of the mapping exactly if its type refuses it. Whatever is wrong inside
  of the mapping is reported further in (`Outcome.Within`), so it does not count.
* **`Table.never_refused_iff`**: for a discriminator that leads to records only, whether it has a tag
  that is refused.
-/

namespace WireModel

open Types (WireType)
open Schema (Discriminator)

namespace Codec

/-! ## Where faults are -/

/-- Whatever fault an outcome is, it is of some kind. -/
def Outcome.FailsOnly {α : Type} (x : Outcome α) (P : Fault → Prop) : Prop :=
  ∀ fault, x = .error fault → P fault

/-- A fault is at a place or further in. -/
def Path.Covers (path : Path) (fault : Fault) : Prop := path.reversed <:+ fault.path.reversed

/-- A fault is an unknown tag at some place. -/
def Path.Blames (path : Path) (fault : Fault) : Prop :=
  ∃ property value, fault = ⟨.unknownTag property value, path⟩

/-- An outcome is that the tag of a mapping at a place is unknown. -/
def Outcome.RefusedAt {α : Type} (x : Outcome α) (path : Path) : Prop :=
  ∃ property value, x = .error ⟨.unknownTag property value, path⟩

namespace Outcome

variable {α β : Type} {x : Outcome α} {P Q : Fault → Prop} {path : Path}

namespace FailsOnly

theorem ok {a : α} : FailsOnly (.ok a) P := by
  intro fault fails
  cases fails

theorem fail {cause : Cause} (h : P ⟨cause, path⟩) : FailsOnly (.fail path cause : Outcome α) P := by
  intro fault fails
  cases fails
  exact h

theorem failAbout {shown : List Value} {cause : Cause} (h : P ⟨cause, path⟩)
    (overlong : P ⟨.overlong, path⟩) : FailsOnly (.failAbout shown path cause : Outcome α) P := by
  unfold Outcome.failAbout
  split
  · exact fail h
  · exact fail overlong

theorem bind_of {f : α → Outcome β} (h : x.FailsOnly P)
    (h' : ∀ a, x = .ok a → (f a).FailsOnly P) : Outcome.FailsOnly (x >>= f) P := by
  intro fault fails
  cases x with
  | error first =>
    cases fails
    exact h _ rfl
  | ok a => exact h' a rfl fault fails

theorem bind {f : α → Outcome β} (h : x.FailsOnly P) (h' : ∀ a, (f a).FailsOnly P) :
    Outcome.FailsOnly (x >>= f) P :=
  h.bind_of fun a _ => h' a

theorem map {f : α → β} (h : x.FailsOnly P) : Outcome.FailsOnly (x.map f) P := by
  intro fault fails
  cases x with
  | error first =>
    cases fails
    exact h _ rfl
  | ok a => cases fails

theorem imp (h : x.FailsOnly P) (imp : ∀ fault, P fault → Q fault) : x.FailsOnly Q :=
  fun fault fails => imp fault (h fault fails)

theorem mapM {f : α → Outcome β} :
    ∀ {l : List α}, (∀ a ∈ l, (f a).FailsOnly P) → Outcome.FailsOnly (l.mapM f) P
  | [], _ => by
    rw [List.mapM_nil]
    exact ok
  | a :: l, h => by
    rw [List.mapM_cons]
    refine (h a List.mem_cons_self).bind fun b => ?_
    exact (mapM fun a mem => h a (List.mem_cons_of_mem _ mem)).bind fun bs => ok

end FailsOnly

theorem not_refusedAt (h : x.FailsOnly fun fault => ¬path.Blames fault) : ¬x.RefusedAt path := by
  rintro ⟨property, value, fails⟩
  exact h _ fails ⟨property, value, rfl⟩

end Outcome

theorem Path.covers_self {cause : Cause} {path : Path} : path.Covers ⟨cause, path⟩ :=
  List.suffix_refl _

theorem Path.Covers.of_push {path : Path} {step : Step} {fault : Fault}
    (h : (path.push step).Covers fault) : path.Covers fault :=
  (List.suffix_cons step path.reversed).trans h

/-- A fault further in is not at the place itself. -/
theorem Path.Covers.not_blames {path : Path} {step : Step} {fault : Fault}
    (h : (path.push step).Covers fault) : ¬path.Blames fault := by
  rintro ⟨property, value, rfl⟩
  have longer : (step :: path.reversed).length ≤ path.reversed.length := h.length_le
  rw [List.length_cons] at longer
  omega

/-! ## Codecs fail where they are -/

/-- The faults of a codec are at its place or further in. -/
def Within (c : Codec) : Prop := ∀ v path, (c.run v path).FailsOnly path.Covers

/-- The faults of models are at their places or further in. -/
def ModelsWithin (models : ModelCodec) : Prop :=
  ∀ name ignoring v path, (models name ignoring v path).FailsOnly path.Covers

theorem requireMapping_within {model : String} {v : Value} {path : Path} :
    (requireMapping model v path).FailsOnly path.Covers := by
  unfold requireMapping
  split
  · exact .ok
  · exact .fail path.covers_self

theorem selectVariant_within {α : Type} {members : List (Value × Value)} {property : String}
    {cases : List (String × α)} {path : Path} :
    (selectVariant members property cases path).FailsOnly path.Covers := by
  unfold selectVariant
  dsimp only
  split
  · exact .ok
  · exact .failAbout path.covers_self path.covers_self

namespace Within

variable {c : Codec} {models : ModelCodec}

theorem element (h : Within c) (v : Value) (path : Path) :
    (c.element path v).FailsOnly path.Covers := by
  unfold Codec.element
  split
  · exact .fail path.covers_self
  · exact h v path

/-- An element of a list fails further in than the list. -/
theorem elements (h : Within c) (path : Path) : ∀ (i : Nat) (vs : List Value),
    (c.elements path i vs).FailsOnly fun fault => ∃ step, (path.push step).Covers fault
  | _, [] => .ok
  | i, v :: rest => by
    unfold Codec.elements
    refine ((h.element v _).imp fun fault covers => ⟨.index i, covers⟩).bind fun w => ?_
    exact (elements h path (i + 1) rest).bind fun ws => .ok

/-- An entry of a mapping fails further in than the mapping, unless its key is too long to be
shown. -/
theorem entries (h : Within c) (path : Path) (entries : List (Value × Value)) :
    (c.entries path entries).FailsOnly fun fault =>
      fault = ⟨.overlong, path⟩ ∨ ∃ step, (path.push step).Covers fault := by
  induction entries with
  | nil => exact .ok
  | cons entry rest ih =>
    obtain ⟨k, v⟩ := entry
    unfold Codec.entries
    have whole : Outcome.FailsOnly (do
        let w ← c.element (path.push (.key k)) v
        let ws ← c.entries path rest
        return (k, w) :: ws) fun fault =>
          fault = ⟨.overlong, path⟩ ∨ ∃ step, (path.push step).Covers fault := by
      refine ((h.element v _).imp fun fault covers => .inr ⟨.key k, covers⟩).bind fun w => ?_
      exact ih.bind fun ws => .ok
    split
    · exact whole
    · exact .bind (.fail (.inl rfl)) fun _ => whole

theorem identity : Within Codec.identity := fun _ _ => .ok

theorem enumOf (values : List Value) : Within (Codec.enumOf values) := by
  intro v path
  unfold Codec.enumOf
  dsimp only
  split
  · exact .ok
  · exact .failAbout path.covers_self path.covers_self

theorem nullable (h : Within c) : Within c.nullable := by
  intro v path
  unfold Codec.nullable
  dsimp only
  split
  · exact .ok
  · exact h v path

theorem listOf (h : Within c) : Within c.listOf := by
  intro v path
  unfold Codec.listOf
  dsimp only
  split
  · exact ((h.elements path 0 _).imp fun fault ⟨step, covers⟩ => covers.of_push).map
  · exact .fail path.covers_self

theorem dictOf (h : Within c) : Within c.dictOf := by
  intro v path
  unfold Codec.dictOf
  dsimp only
  split
  · refine ((h.entries path _).imp fun fault far => ?_).map
    rcases far with rfl | ⟨step, covers⟩
    · exact path.covers_self
    · exact covers.of_push
  · exact .fail path.covers_self

theorem modelCodec (h : ModelsWithin models) (name : String) :
    Within (Plan.modelCodec models name) :=
  fun v path => h name false v path

theorem dispatchOn {property : String} {cases : List (String × String)} (h : ModelsWithin models) :
    Within (.dispatchOn property (cases.map fun c => (c.1, Plan.modelCodec models c.2))) := by
  intro v path
  unfold Codec.dispatchOn
  dsimp only
  refine requireMapping_within.bind fun members => selectVariant_within.bind_of fun c selected => ?_
  rw [selectVariant_map] at selected
  obtain ⟨target, -, rfl⟩ := map_eq_ok.mp selected
  exact h target false v path

theorem firstMatch {options : List ((Value → Bool) × Codec)} {description : String}
    (h : ∀ option ∈ options, Within option.2) : Within (.firstMatch options description) := by
  intro v path
  unfold Codec.firstMatch
  dsimp only
  split
  · rename_i option found
    exact h option (List.mem_of_find?_eq_some found) v path
  · exact .fail path.covers_self

mutual

theorem decoder (h : ModelsWithin models) : ∀ p : Plan, Within (p.decoder models)
  | .pass _ => identity
  | .checkEnum values _ => enumOf values
  | .nullable inner => (decoder h inner).nullable
  | .eachElement element => (decoder h element).listOf
  | .eachValue value => (decoder h value).dictOf
  | .call model => modelCodec h model
  | .dispatch _ _ => dispatchOn h
  | .firstMatch options _ => firstMatch (decoders h options)

theorem decoders (h : ModelsWithin models) : ∀ options : List (Predicate × Plan),
    ∀ option ∈ Plan.decoders models options, Within option.2
  | [] => nofun
  | (_, p) :: rest => List.forall_mem_cons.mpr ⟨decoder h p, decoders h rest⟩

end

end Within

section

variable {models : ModelCodec}

/-- A field fails at its place or further in, unless it is missing. -/
theorem decodeField_failsOnly {rule : FieldRule} {c : Codec} (h : Within c)
    {members : List (Value × Value)} {path : Path} :
    (decodeField rule c members path).FailsOnly fun fault =>
      fault = ⟨.missingField rule.model rule.wireName, path⟩ ∨
        ∃ step, (path.push step).Covers fault := by
  unfold decodeField
  dsimp only
  split
  · split
    · exact .fail (.inl rfl)
    · exact .ok
  · split
    · split
      · exact .ok
      · exact .fail (.inr ⟨_, Path.covers_self⟩)
    · exact (h _ _).imp fun fault covers => .inr ⟨_, covers⟩

theorem decodeFields_failsOnly (h : ModelsWithin models) {r : RecordContract}
    {members : List (Value × Value)} {path : Path} :
    (decodeFields models r members path).FailsOnly fun fault =>
      (∃ f : FieldContract, fault = ⟨.missingField r.name f.wireName, path⟩) ∨
        ∃ step, (path.push step).Covers fault := by
  refine .bind (.mapM fun f _ => ?_) fun fields => .ok
  refine .bind ((decodeField_failsOnly (.decoder h f.plan)).imp fun fault far => ?_) fun v => .ok
  rcases far with missing | inside
  · exact .inl ⟨f, missing⟩
  · exact .inr inside

theorem decodeFields_within (h : ModelsWithin models) {r : RecordContract}
    {members : List (Value × Value)} {path : Path} :
    (decodeFields models r members path).FailsOnly path.Covers := by
  refine (decodeFields_failsOnly h).imp fun fault far => ?_
  rcases far with ⟨f, rfl⟩ | ⟨step, covers⟩
  · exact path.covers_self
  · exact covers.of_push

/-- The fields of a mapping never refuse its tag. -/
theorem decodeFields_not_refusedAt (h : ModelsWithin models) {r : RecordContract}
    {members : List (Value × Value)} {path : Path} :
    ¬(decodeFields models r members path).RefusedAt path := by
  refine Outcome.not_refusedAt ((decodeFields_failsOnly h).imp fun fault far => ?_)
  rcases far with ⟨f, rfl⟩ | ⟨step, covers⟩
  · rintro ⟨property, value, ⟨⟩⟩
  · exact covers.not_blames

theorem decodeStep_within {contracts : Contracts} (h : ModelsWithin models) :
    ModelsWithin (decodeStep contracts models) := by
  intro name ignoring v path
  unfold decodeStep
  split
  · exact .fail path.covers_self
  · exact Within.decoder h _ v path
  · refine requireMapping_within.bind fun members => ?_
    dsimp only
    split
    · exact decodeFields_within h
    · refine selectVariant_within.bind fun target => ?_
      split
      · exact decodeFields_within h
      · exact h target true v path

/-- Decoding fails at its place or further in, with any fuel. -/
theorem decodeModel_within (contracts : Contracts) : ∀ fuel, ModelsWithin (decodeModel contracts fuel)
  | 0 => fun _ _ _ path => .fail path.covers_self
  | fuel + 1 => by
    rw [decodeModel_succ]
    exact decodeStep_within (decodeModel_within contracts fuel)

end

end Codec

/-! ## Refusing a tag -/

/-- A discriminator has no model for the tag of a mapping, and the tag can be shown. -/
def Schema.Discriminator.Denies (d : Discriminator) (members : List (Value × Value)) : Prop :=
  d.chosen members = none ∧ ∀ v, Value.lookup d.property members = some v → v.isTellable = true

namespace Table

/-- A type refuses a mapping because of a tag: the discriminator of a union has no model for it, or
the union leads to a type that refuses it. A record asks for its tag only if the mapping has one, and
only if no family has led to it. -/
inductive Refuses (table : Table) (members : List (Value × Value)) : Bool → WireType → Prop
  | record {name r d} : table.record? name = some r → r.discriminator = some d →
      Value.hasKey d.property members = true → d.Denies members →
      Refuses table members false (.model name)
  | named {i name u} : table.get? name = some (.union u) → Refuses table members false u.type →
      Refuses table members i (.model name)
  | untold {i name mode d variants} : d.Denies members →
      Refuses table members i (.union name mode (some d) variants)
  | led {i name mode d variants target} : d.chosen members = some target →
      Refuses table members false (.model target) →
      Refuses table members i (.union name mode (some d) variants)
  | untagged {i name mode variants t} :
      Types.IsFirst (table.HasShape RecordReading.wire (.map members)) variants t →
      Refuses table members false t → Refuses table members i (.union name mode none variants)
  | optional {i t} : Refuses table members false t → Refuses table members i (.optional t)
  | nullable {i t} : Refuses table members false t → Refuses table members i (.nullable t)

end Table

namespace Codec

variable {table : Table} {contracts : Contracts} {models : ModelCodec}
  {members : List (Value × Value)} {path : Path}

theorem bind_refusedAt_iff {α β : Type} {x : Outcome α} {f : α → Outcome β} :
    Outcome.RefusedAt (x >>= f) path ↔
      x.RefusedAt path ∨ ∃ a, x = .ok a ∧ (f a).RefusedAt path := by
  unfold Outcome.RefusedAt
  cases x with
  | error fault =>
    have same : ((Except.error fault : Outcome α) >>= f) = .error fault := rfl
    simp [same]
  | ok a =>
    rw [ok_bind]
    simp

theorem failAbout_refusedAt_iff {α : Type} {shown : List Value} {property : String} {v : Value} :
    (Outcome.failAbout shown path (.unknownTag property v) : Outcome α).RefusedAt path ↔
      Value.areTellable shown = true := by
  unfold Outcome.RefusedAt Outcome.failAbout Outcome.fail
  by_cases tellable : Value.areTellable shown = true
  · simp [tellable]
  · simp [tellable]

theorem fail_not_refusedAt {α : Type} {cause : Cause}
    (other : ∀ property value, cause ≠ .unknownTag property value) :
    ¬(Outcome.fail path cause : Outcome α).RefusedAt path := by
  rintro ⟨property, value, same⟩
  cases same
  exact other property value rfl

/-- A tag is refused by a selection exactly if its discriminator denies it. -/
theorem selectVariant_refusedAt_iff {d : Discriminator} :
    (selectVariant members d.property d.mapping path).RefusedAt path ↔ d.Denies members := by
  unfold Schema.Discriminator.Denies
  cases chosen : d.chosen members with
  | some target =>
    rw [selectVariant_ok_iff_chosen.mpr chosen]
    refine iff_of_false ?_ (by simp)
    rintro ⟨property, value, ⟨⟩⟩
  | none =>
    unfold selectVariant
    dsimp only
    split
    · rename_i target selected
      have ok : selectVariant members d.property d.mapping path = .ok target := by
        unfold selectVariant
        simp only [selected]
      rw [selectVariant_ok_iff_chosen, chosen] at ok
      cases ok
    · -- an unknown tag is reported if it can be shown; of a missing or unset one nothing is shown
      rw [failAbout_refusedAt_iff]
      cases Value.lookup d.property members with
      | none => simp [Value.areTellable]
      | some v =>
        by_cases unset : v.isUnset = true
        · have shown : v.isTellable = true := by
            rw [isUnset_iff.mp unset]
            rfl
          simp [Option.filter, unset, Value.areTellable, shown]
        · simp [Option.filter, unset, Value.areTellable]

theorem map_refusedAt_iff {α β : Type} {x : Outcome α} {f : α → β} :
    Outcome.RefusedAt (x.map f) path ↔ x.RefusedAt path := by
  unfold Outcome.RefusedAt
  cases x <;> simp [Except.map]

theorem enumOf_not_refusedAt {values : List Value} {v : Value} :
    ¬((enumOf values).run v path).RefusedAt path := by
  rintro ⟨property, value, same⟩
  simp only [enumOf, Outcome.failAbout, Outcome.fail] at same
  split at same
  · cases same
  · split at same
    · cases same
    · cases same

/-- What is wrong with an entry is not the tag of the mapping. -/
theorem dictOf_not_refusedAt {c : Codec} (h : Within c) :
    ¬(c.dictOf.run (.map members) path).RefusedAt path := by
  change ¬Outcome.RefusedAt ((c.entries path members).map Value.map) path
  rw [map_refusedAt_iff]
  refine Outcome.not_refusedAt ((h.entries path members).imp fun fault far => ?_)
  rcases far with rfl | ⟨step, covers⟩
  · rintro ⟨property, value, ⟨⟩⟩
  · exact covers.not_blames

theorem dispatch_decoder_refusedAt_iff {d : Discriminator} :
    (((Plan.dispatch d.property d.mapping).decoder models).run (.map members) path).RefusedAt path ↔
      d.Denies members ∨ ∃ target, d.chosen members = some target ∧
        (models target false (.map members) path).RefusedAt path := by
  simp only [Plan.decoder, dispatchOn, requireMapping, ok_bind, selectVariant_map,
    bind_refusedAt_iff, map_refusedAt_iff, selectVariant_refusedAt_iff, map_eq_ok,
    selectVariant_ok_iff_chosen]
  refine or_congr_right ⟨?_, ?_⟩
  · rintro ⟨_, ⟨target, chosen, rfl⟩, h⟩
    exact ⟨target, chosen, h⟩
  · rintro ⟨target, chosen, h⟩
    exact ⟨_, ⟨target, chosen, rfl⟩, h⟩

theorem firstMatch_decoder_refusedAt_iff {options : List (Predicate × Plan)} {description : String}
    {d : Value} :
    (((Plan.firstMatch options description).decoder models).run d path).RefusedAt path ↔
      ∃ option, options.find? (fun option => option.1.holdsOfWire d) = some option ∧
        ((option.2.decoder models).run d path).RefusedAt path := by
  simp only [Plan.decoder, firstMatch, decoders_eq_map, List.find?_map, Function.comp_def]
  cases options.find? fun option => option.1.holdsOfWire d with
  | none =>
    refine iff_of_false (fail_not_refusedAt fun _ _ same => by cases same) ?_
    rintro ⟨option, ⟨⟩, -⟩
  | some option => simp

/-! ## Refusals are in the table -/

/-- What the plan of a type refuses the type refuses, if that is so for models. -/
theorem refuses_of_decoder (within : ModelsWithin models)
    (model : ∀ name ignoring, (models name ignoring (.map members) path).RefusedAt path →
      table.Refuses members ignoring (.model name))
    {t : WireType} {p : Plan} (hp : Plan.Implements table t p)
    (h : ((p.decoder models).run (.map members) path).RefusedAt path) :
    table.Refuses members false t := by
  induction t using WireType.induct generalizing p with
  | primitive kind format =>
    cases hp
    obtain ⟨property, value, same⟩ := h
    cases same
  | enum name values kind =>
    cases hp
    exact absurd h enumOf_not_refusedAt
  | optional inner ih => exact .optional (ih hp h)
  | nullable inner ih =>
    obtain ⟨q, rfl, hq⟩ := hp
    exact .nullable (ih hq h)
  | sequence element ih =>
    obtain ⟨q, rfl, hq⟩ := hp
    exact absurd h (fail_not_refusedAt nofun)
  | mapping value ih =>
    obtain ⟨q, rfl, hq⟩ := hp
    exact absurd h (dictOf_not_refusedAt (.decoder within q))
  | model name =>
    cases hp
    exact model name false h
  | union name mode disc variants ih =>
    cases disc with
    | some disc =>
      cases hp
      rcases dispatch_decoder_refusedAt_iff.mp h with denied | ⟨target, chosen, refused⟩
      · exact .untold denied
      · exact .led chosen (model target false refused)
    | none =>
      obtain ⟨options, description, rfl, all⟩ := hp
      obtain ⟨option, found, refused⟩ := firstMatch_decoder_refusedAt_iff.mp h
      obtain ⟨t, first, ht⟩ := all.isFirst_of_find? (holdsOfWire_iff _) found
      exact .untagged first (ih t first.mem ht refused)

/-- A record that a family has led to refuses no tag. -/
theorem not_refuses_ignoring {name : String} {r : RecordModel} (found : table.record? name = some r) :
    ¬table.Refuses members true (.model name) := by
  intro h
  cases h with
  | named union =>
    rw [Table.record?_eq_some.mp found] at union
    cases union

/-- What a decoder of a model refuses with any fuel its model refuses. One case per kind of model: a
union goes on with its plan, and a record asks for its tag before it reads its fields. -/
theorem refuses_of_decodeModel (wf : table.WellFormed) (impl : contracts.Implement table)
    (fuel : Nat) :
    ∀ name ignoring, (decodeModel contracts fuel name ignoring (.map members) path).RefusedAt path →
      table.Refuses members ignoring (.model name) := by
  induction fuel with
  | zero =>
    intro name ignoring h
    exact absurd h (fail_not_refusedAt nofun)
  | succ fuel ih =>
    intro name ignoring h
    have within := decodeModel_within contracts fuel
    rw [decodeModel_succ] at h
    unfold decodeStep at h
    cases found : table.get? name with
    | none =>
      rw [impl.none found] at h
      exact absurd h (fail_not_refusedAt nofun)
    | some m =>
      obtain ⟨c, hget, hc⟩ := impl.some found
      rw [hget] at h
      cases hc with
      | union _ hbody => exact .named found (refuses_of_decoder within ih hbody h)
      | @record r c hc =>
        simp only [requireMapping, ok_bind] at h
        rw [hc.discriminator] at h
        cases asked : r.discriminator.filter fun d =>
            !ignoring && Value.hasKey d.property members with
        | none =>
          rw [asked] at h
          -- what is wrong with a field is not the tag of the record
          exact absurd h (decodeFields_not_refusedAt within)
        | some own =>
          obtain ⟨tagged, asks⟩ := Option.filter_eq_some_iff.mp asked
          obtain ⟨unignored, present⟩ := Bool.and_eq_true_iff.mp asks
          obtain rfl : ignoring = false := by simpa using unignored
          rw [asked] at h
          rcases bind_refusedAt_iff.mp h with denied | ⟨target, chosen, h⟩
          · exact .record (Table.record?_eq_some.mpr found) tagged present
              (selectVariant_refusedAt_iff.mp denied)
          · -- a family leads to its members, which do not ask again
            by_cases same : (target == name) = true
            · rw [if_pos same] at h
              exact absurd h (decodeFields_not_refusedAt within)
            · rw [if_neg same] at h
              obtain ⟨tag, mem⟩ := Table.mem_of_chosen (selectVariant_ok_iff_chosen.mp chosen)
              obtain ⟨s, there⟩ := wf.targets (Table.mem_of_get? found) tagged mem
              exact absurd (ih target true h)
                (not_refuses_ignoring (Table.record?_eq_some.mpr there))

/-! ## What the table refuses is refused -/

/-- The decoders refuse a mapping as one of a type, at some place. -/
def Refused (table : Table) (contracts : Contracts) (members : List (Value × Value)) (path : Path) :
    Bool → WireType → Prop
  | ignoring, .model name => (decoders contracts name ignoring (.map members) path).RefusedAt path
  | _, t => ∀ p, Plan.Implements table t p →
      ((p.decoder (decoders contracts)).run (.map members) path).RefusedAt path

theorem Refused.plan {t : WireType} (h : Refused table contracts members path false t) {p : Plan}
    (hp : Plan.Implements table t p) :
    ((p.decoder (decoders contracts)).run (.map members) path).RefusedAt path := by
  cases t with
  | model name =>
    cases hp
    exact h
  | _ => exact h p hp

theorem not_isEndless_unknownTag {α : Type} {property : String} {v : Value} :
    ¬Outcome.IsEndless (.error ⟨.unknownTag property v, path⟩ : Outcome α) := by
  rintro ⟨place, ⟨⟩⟩

/-- A refusal is final, so one round is enough to see it. -/
theorem decoders_refusedAt_of_step {name : String} {ignoring : Bool} {v : Value}
    (h : (decodeStep contracts (decoders contracts) name ignoring v path).RefusedAt path) :
    (decoders contracts name ignoring v path).RefusedAt path := by
  obtain ⟨property, value, same⟩ := h
  exact ⟨property, value, (decoders_eq_iff not_isEndless_unknownTag).mpr same⟩

theorem refused_of_refuses (impl : contracts.Implement table) {ignoring : Bool} {t : WireType}
    (h : table.Refuses members ignoring t) : Refused table contracts members path ignoring t := by
  -- one round of the decoders for each step of the refusal in the table
  induction h with
  | @record name r d found tagged present denied =>
    apply decoders_refusedAt_of_step
    obtain ⟨_, hget, hc⟩ := impl.some (Table.record?_eq_some.mp found)
    cases hc with
    | @record r c hc =>
      have asked : (c.discriminator.filter fun d =>
          !false && Value.hasKey d.property members) = some d := by
        rw [hc.discriminator, tagged]
        simp [Option.filter, present]
      simp only [decodeStep, hget, requireMapping, ok_bind, asked]
      exact bind_refusedAt_iff.mpr (.inl (selectVariant_refusedAt_iff.mpr denied))
  | named found _ ih =>
    apply decoders_refusedAt_of_step
    obtain ⟨_, hget, hc⟩ := impl.some found
    cases hc with
    | union _ hbody =>
      simp only [decodeStep, hget]
      exact ih.plan hbody
  | untold denied =>
    intro p hp
    cases hp
    exact dispatch_decoder_refusedAt_iff.mpr (.inl denied)
  | led chosen _ ih =>
    intro p hp
    cases hp
    exact dispatch_decoder_refusedAt_iff.mpr (.inr ⟨_, chosen, ih⟩)
  | untagged first _ ih =>
    intro p hp
    obtain ⟨options, description, rfl, all⟩ := hp
    obtain ⟨option, found, ht⟩ := all.exists_find? (holdsOfWire_iff _) first
    exact firstMatch_decoder_refusedAt_iff.mpr ⟨option, found, ih.plan ht⟩
  | optional _ ih => exact fun p hp => ih.plan hp
  | nullable _ ih =>
    intro p hp
    obtain ⟨q, rfl, hq⟩ := hp
    have refused := ih.plan hq
    exact refused

/-- The decoder of a plan reports an unknown tag at the place of a mapping exactly if the type of the
plan refuses it. -/
theorem decoder_refuses_iff (wf : table.WellFormed) (impl : contracts.Implement table) {t : WireType}
    {p : Plan} (hp : Plan.Implements table t p) :
    ((p.decoder (decoders contracts)).run (.map members) path).RefusedAt path ↔
      table.Refuses members false t := by
  constructor
  · refine refuses_of_decoder (fun name ignoring v path => ?_) (fun name ignoring h => ?_) hp
    · exact decodeModel_within contracts _ name ignoring v path
    · exact refuses_of_decodeModel wf impl _ name ignoring h
  · exact fun h => (refused_of_refuses impl h).plan hp

/-- Decoding a mapping as a model reports an unknown tag at its own place exactly if the model refuses
it. -/
theorem decode_refuses_iff (wf : table.WellFormed) (impl : contracts.Implement table) {name : String}
    {ignoring : Bool} : (decode contracts name (.map members) ignoring).RefusedAt ⟨name, []⟩ ↔
      table.Refuses members ignoring (.model name) := by
  rw [decode_eq_decoders (d := .map members) nofun nofun]
  constructor
  · exact refuses_of_decodeModel wf impl _ name ignoring
  · intro h
    have refused : Refused table contracts members ⟨name, []⟩ ignoring (.model name) :=
      refused_of_refuses impl h
    exact refused

end Codec

/-! ## Tags that are never refused -/

namespace Table

variable {table : Table}

theorem chosen_eq_some_iff {d : Discriminator} {members : List (Value × Value)} {target : String} :
    d.chosen members = some target ↔ ∃ tag, Value.lookup d.property members = some (.str tag) ∧
      d.mapping.reverse.lookup tag = some target := by
  unfold Schema.Discriminator.chosen
  cases Value.lookup d.property members with
  | none => simp
  | some v => cases v <;> simp [Value.asStr?]

theorem exists_of_listed {d : Discriminator} {tag : String} (listed : tag ∈ d.mapping.map Prod.fst) :
    ∃ target, d.mapping.reverse.lookup tag = some target := by
  apply Option.isSome_iff_exists.mp
  obtain ⟨entry, mem, rfl⟩ := List.mem_map.mp listed
  rw [List.lookup_isSome_iff]
  exact ⟨entry, List.mem_reverse.mpr mem, beq_self_eq_true entry.1⟩

/-- A union that has a model for a tag refuses it exactly if that model does. -/
theorem refuses_tagged_iff {d : Discriminator} {members : List (Value × Value)} {target : String}
    (chosen : d.chosen members = some target) {i : Bool} {name : Option String}
    {mode : Schema.Combination} {variants : List WireType} :
    table.Refuses members i (.union name mode (some d) variants) ↔
      table.Refuses members false (.model target) := by
  constructor
  · intro h
    cases h with
    | untold denied =>
      rw [denied.1] at chosen
      cases chosen
    | led chosen' refused =>
      rw [chosen] at chosen'
      cases chosen'
      exact refused
  · exact .led chosen

/-- A model with the name of a union refuses what the union refuses. -/
theorem refuses_named_iff {u : UnionModel} (found : table.get? u.name = some (.union u))
    {members : List (Value × Value)} {i : Bool} :
    table.Refuses members i (.model u.name) ↔ table.Refuses members false u.type := by
  constructor
  · intro h
    cases h with
    | record record =>
      rw [record?_eq_some.mp record] at found
      cases found
    | named found' refused =>
      rw [found] at found'
      cases found'
      exact refused
  · exact .named found

/-- A record tells a tag of another discriminator: it has no discriminator of its own, or one of the
same property that lists the tag. -/
def Tells (property tag : String) (r : RecordModel) : Prop :=
  ∀ own, r.discriminator = some own → own.property = property ∧ tag ∈ own.mapping.map Prod.fst

theorem chosen_eq_none_of_not_mem {d : Discriminator} {members : List (Value × Value)} {tag : String}
    (there : Value.lookup d.property members = some (.str tag))
    (absent : tag ∉ d.mapping.map Prod.fst) : d.chosen members = none := by
  rw [Option.eq_none_iff_forall_not_mem]
  intro target chosen
  obtain ⟨tag', there', leads⟩ := chosen_eq_some_iff.mp chosen
  rw [there] at there'
  cases there'
  exact absent (List.mem_map.mpr ⟨_, List.mem_reverse.mp (mem_of_lookup leads), rfl⟩)

/-- A record that does not tell a tag refuses some mapping with it: one that has nothing else, or a
null for the property of the record. -/
theorem exists_refused {name property tag : String} {r : RecordModel}
    (found : table.record? name = some r) (untold : ¬Tells property tag r) :
    ∃ members, (Value.map members).isJson = true ∧
      Value.lookup property members = some (.str tag) ∧
      table.Refuses members false (.model name) := by
  simp only [Tells, not_forall, not_and] at untold
  obtain ⟨own, tagged, missing⟩ := untold
  -- the record asks for the same property, and does not list the tag
  by_cases same : own.property = property
  · subst same
    have there : Value.lookup own.property [(.str own.property, .str tag)] = some (.str tag) := by
      simp [Value.lookup, Value.isText]
    refine ⟨[(.str own.property, .str tag)], ?_, there, ?_⟩
    · simp [Value.isJson, Value.areJsonEntries, Value.asStr?]
    · have denied := chosen_eq_none_of_not_mem there (missing rfl)
      refine .record found tagged (by rw [Value.hasKey, there]; rfl) ⟨denied, fun v shown => ?_⟩
      rw [there] at shown
      cases shown
      rfl
  · -- the record asks for another property, which cannot be missing: a record only asks where the
    -- property is there, and null is no tag
    have there : Value.lookup own.property
        [(.str property, .str tag), (.str own.property, .null)] = some .null := by
      simp [Value.lookup, Value.isText, Ne.symm same]
    refine ⟨[(.str property, .str tag), (.str own.property, .null)], ?_, ?_, ?_⟩
    · simp [Value.isJson, Value.areJsonEntries, Value.asStr?, Ne.symm same]
    · simp [Value.lookup, Value.isText]
    · have denied : own.chosen [(.str property, .str tag), (.str own.property, .null)] = none := by
        rw [Schema.Discriminator.chosen, there]
        rfl
      refine .record found tagged (by rw [Value.hasKey, there]; rfl) ⟨denied, fun v shown => ?_⟩
      rw [there] at shown
      cases shown
      rfl

/-- A discriminator that leads to records only has no tag that is refused, in whatever mapping it
stands, exactly if each of these records tells the tags that lead to it. -/
theorem never_refused_iff {d : Discriminator}
    (records : ∀ entry ∈ d.mapping, ∃ r, table.record? entry.2 = some r) :
    (∀ members target, (Value.map members).isJson = true → d.chosen members = some target →
      ¬table.Refuses members false (.model target)) ↔
      ∀ tag target r, d.mapping.reverse.lookup tag = some target → table.record? target = some r →
        Tells d.property tag r := by
  constructor
  · -- a tag that the record does not tell has a mapping in which it is refused
    intro never tag target r leads found
    by_contra untold
    obtain ⟨members, json, there, refused⟩ := exists_refused found untold
    exact never members target json (chosen_eq_some_iff.mpr ⟨tag, there, leads⟩) refused
  · -- a record refuses only what its own discriminator denies, and that lists the tag
    intro tells members target json chosen refused
    obtain ⟨tag, there, leads⟩ := chosen_eq_some_iff.mp chosen
    cases refused with
    | @record _ r own found tagged present denied =>
      obtain ⟨property, mem⟩ := tells tag target r leads found own tagged
      obtain ⟨model, leads⟩ := exists_of_listed mem
      have told : own.chosen members = Option.some model :=
        chosen_eq_some_iff.mpr ⟨tag, by rw [property]; exact there, leads⟩
      rw [denied.1] at told
      cases told
    | named union =>
      obtain ⟨tag, mem⟩ := mem_of_chosen chosen
      obtain ⟨r, found⟩ := records _ mem
      rw [record?_eq_some.mp found] at union
      cases union

end Table
end WireModel
