import Mathlib.Data.Finset.Prod
import Mathlib.Data.Fintype.Card
import WireModel.Codec.Model

/-!
# The fuel of codecs is enough

`decode` and `encode` bound the recursion through models by `modelBound`. The bound is no
restriction:

* **monotone**: with more fuel an outcome is the same, unless the fuel had run out
  (`Outcome.Refines`);
* **local**: on its way into a value a codec depends on the models at the same value and at
  parts of it that are less deep (`ModelsRefine`);
* **stationary**: at one value there are only `2 * models` questions to the models, and each
  round with one more unit of fuel answers another one or changes nothing (`settled`).

So the codecs with `modelBound` as their fuel (`decoders`, `encoders`) solve the recursion
equations that have no fuel (`decoders_ok_iff`, `encoders_ok_iff`), and whatever some fuel gives
they give as well.
-/

namespace WireModel

/-! ## Values inside of values -/

namespace Value

theorem depth_lt_of_mem_elements {v w : Value} {items : List Value}
    (held : v.elements? = some items) (mem : w ∈ items) : w.depth < v.depth := by
  have deep : v.depth = depthList items + 1 := by
    cases v <;> simp_all [elements?, depth]
  have := depth_le_of_mem mem
  omega

theorem depth_le_of_mem_entries {entry : Value × Value} {entries : List (Value × Value)}
    (h : entry ∈ entries) : entry.2.depth ≤ depthEntries entries := by
  induction entries with
  | nil => cases h
  | cons first rest ih =>
    simp only [depthEntries]
    rcases List.mem_cons.mp h with rfl | h
    · omega
    · have := ih h
      omega

theorem depth_lt_of_mem_entries {v : Value} {entry : Value × Value}
    {entries : List (Value × Value)} (held : v.entries? = some entries) (mem : entry ∈ entries) :
    entry.2.depth < v.depth := by
  have deep : v.depth = depthEntries entries + 1 := by
    cases v <;> simp_all [entries?, depth]
  have := depth_le_of_mem_entries mem
  omega

end Value

namespace Codec

/-! ## Outcomes that may still grow -/

/-- Whether a computation ran out of fuel. -/
def Outcome.IsEndless {α : Type} (x : Outcome α) : Prop := ∃ path, x = .error ⟨.endless, path⟩

theorem Outcome.not_isEndless_ok {α : Type} {a : α} : ¬Outcome.IsEndless (.ok a : Outcome α) := by
  rintro ⟨path, h⟩
  cases h

/-- `x` is `y`, or ran out of fuel. -/
def Outcome.Refines {α : Type} (x y : Outcome α) : Prop := x.IsEndless ∨ x = y

namespace Outcome.Refines

variable {α β : Type} {x y z : Outcome α}

theorem refl (x : Outcome α) : x.Refines x := .inr rfl

theorem trans (h : x.Refines y) (h' : y.Refines z) : x.Refines z := by
  rcases h with h | rfl
  · exact .inl h
  · exact h'

theorem bind {f g : α → Outcome β} (h : x.Refines y) (hfg : ∀ a, (f a).Refines (g a)) :
    Outcome.Refines (x >>= f) (y >>= g) := by
  rcases h with ⟨path, rfl⟩ | rfl
  · exact .inl ⟨path, rfl⟩
  · cases x with
    | error fault => exact .inr rfl
    | ok a => exact hfg a

theorem map (f : α → β) (h : x.Refines y) : Outcome.Refines (x.map f) (y.map f) := by
  rcases h with ⟨path, rfl⟩ | rfl
  · exact .inl ⟨path, rfl⟩
  · exact refl _

/-- Whatever does not run out of fuel is final. -/
theorem final (h : x.Refines y) (final : ¬x.IsEndless) : x = y :=
  h.resolve_left final

end Outcome.Refines

/-! ## Models that may still grow -/

/-- What a codec on its way into a value can ask two families of models for: questions about
the value itself at its place, and about anything that is less deep. -/
structure ModelsRefine (models others : ModelCodec) (v : Value) (path : Path) : Prop where
  here : ∀ name ignoring, (models name ignoring v path).Refines (others name ignoring v path)
  inside : ∀ w, w.depth < v.depth → ∀ name ignoring place,
    (models name ignoring w place).Refines (others name ignoring w place)

theorem ModelsRefine.part {models others : ModelCodec} {v w : Value} {path : Path}
    (h : ModelsRefine models others v path) (less : w.depth < v.depth) (place : Path) :
    ModelsRefine models others w place where
  here name ignoring := h.inside w less name ignoring place
  inside u deeper := h.inside u (by omega)

/-- A codec over some models refines a codec over others as far as these models do. -/
structure Refines (models others : ModelCodec) (c c' : Codec) : Prop where
  acceptsNull : c.acceptsNull = c'.acceptsNull
  run : ∀ v path, ModelsRefine models others v path → (c.run v path).Refines (c'.run v path)

namespace Refines

variable {models others : ModelCodec} {c c' : Codec}

theorem refl (models others : ModelCodec) (c : Codec) : Refines models others c c :=
  ⟨rfl, fun _ _ _ => .refl _⟩

theorem nullable (h : Refines models others c c') :
    Refines models others c.nullable c'.nullable := by
  refine ⟨rfl, fun v path hm => ?_⟩
  simp only [Codec.nullable]
  split
  · exact .refl _
  · exact h.run v path hm

theorem element (h : Refines models others c c') {v : Value} {path : Path}
    (hm : ModelsRefine models others v path) :
    (c.element path v).Refines (c'.element path v) := by
  simp only [Codec.element, h.acceptsNull]
  split
  · exact .refl _
  · exact h.run v path hm

theorem elements (h : Refines models others c c') (path : Path) :
    ∀ (i : Nat) (vs : List Value), (∀ v ∈ vs, ∀ place, ModelsRefine models others v place) →
      (c.elements path i vs).Refines (c'.elements path i vs)
  | _, [], _ => .refl _
  | i, v :: rest, hm => by
    simp only [Codec.elements]
    refine .bind (h.element (hm v List.mem_cons_self _)) fun w => .bind ?_ fun ws => .refl _
    exact elements h path (i + 1) rest fun v hv => hm v (List.mem_cons_of_mem _ hv)

theorem entries (h : Refines models others c c') (path : Path) :
    ∀ entries : List (Value × Value),
      (∀ entry ∈ entries, ∀ place, ModelsRefine models others entry.2 place) →
      (c.entries path entries).Refines (c'.entries path entries)
  | [], _ => .refl _
  | (k, v) :: rest, hm => by
    have tail := entries h path rest fun entry he => hm entry (List.mem_cons_of_mem _ he)
    have whole := Outcome.Refines.bind (h.element (hm (k, v) List.mem_cons_self
      (path.push (.key k)))) fun w => tail.bind fun ws => .refl (pure ((k, w) :: ws))
    simp only [Codec.entries]
    split
    · exact whole
    · exact .bind (.refl _) fun _ => whole

theorem listOf (h : Refines models others c c') : Refines models others c.listOf c'.listOf := by
  refine ⟨rfl, fun v path hm => ?_⟩
  simp only [Codec.listOf]
  cases hv : v.elements? with
  | none => exact .refl _
  | some items =>
    exact .map _ (h.elements path 0 items fun w hw place =>
      hm.part (Value.depth_lt_of_mem_elements hv hw) place)

theorem dictOf (h : Refines models others c c') : Refines models others c.dictOf c'.dictOf := by
  refine ⟨rfl, fun v path hm => ?_⟩
  simp only [Codec.dictOf]
  cases hv : v.entries? with
  | none => exact .refl _
  | some members =>
    exact .map _ (h.entries path members fun entry he place =>
      hm.part (Value.depth_lt_of_mem_entries hv he) place)

/-- The codecs of models, told by the flag that a place gives. -/
theorem modelCodec (models others : ModelCodec) (name : String) :
    Refines models others (Plan.modelCodec models name) (Plan.modelCodec others name) :=
  ⟨rfl, fun _ _ hm => hm.here name false⟩

end Refines

/-! ## Plans -/

theorem lookup_map_snd {α β : Type} (f : α → β) (tag : String) (cases : List (String × α)) :
    (cases.map fun c => (c.1, f c.2)).lookup tag = (cases.lookup tag).map f := by
  induction cases with
  | nil => rfl
  | cons c rest ih =>
    obtain ⟨t, a⟩ := c
    simp only [List.map_cons, List.lookup_cons, ih]
    split <;> rfl

/-- What is selected does not depend on what the cases lead to. -/
theorem selectVariant_map {α β : Type} (f : α → β) (members : List (Value × Value))
    (property : String) (cases : List (String × α)) (path : Path) :
    selectVariant members property (cases.map fun c => (c.1, f c.2)) path =
      (selectVariant members property cases path).map f := by
  simp only [selectVariant, ← List.map_reverse, lookup_map_snd]
  cases ((Value.lookup property members).filter fun v => !v.isUnset).bind Value.asStr? with
  | none => rfl
  | some tag =>
    simp only [Option.bind_some]
    cases cases.reverse.lookup tag <;> rfl

namespace Refines

variable {models others : ModelCodec}

theorem dispatchOn (property : String) (cases : List (String × String)) :
    Refines models others
      (.dispatchOn property (cases.map fun c => (c.1, Plan.modelCodec models c.2)))
      (.dispatchOn property (cases.map fun c => (c.1, Plan.modelCodec others c.2))) := by
  refine ⟨rfl, fun v path hm => ?_⟩
  simp only [Codec.dispatchOn, selectVariant_map]
  refine .bind (.refl _) fun members => ?_
  cases selectVariant members property cases path with
  | error fault => exact .refl _
  | ok target => exact hm.here target false

/-- Options with the same checks, whose codecs refine each other one by one. -/
theorem firstMatch {options options' : List ((Value → Bool) × Codec)} (description : String)
    (h : List.Forall₂ (fun o o' => o.1 = o'.1 ∧ Refines models others o.2 o'.2)
      options options') :
    Refines models others (.firstMatch options description) (.firstMatch options' description) := by
  refine ⟨rfl, fun v path hm => ?_⟩
  induction h with
  | nil => exact .refl _
  | @cons o o' rest rest' ho _ ih =>
    obtain ⟨check, codec⟩ := ho
    simp only [Codec.firstMatch, List.find?_cons, ← check] at ih ⊢
    cases o.1 v with
    | true => exact codec.run v path hm
    | false => exact ih

theorem dispatchEncoder (cases : List (String × String)) :
    Refines models others (Plan.dispatchEncoder models cases)
      (Plan.dispatchEncoder others cases) := by
  refine ⟨rfl, fun v path hm => ?_⟩
  simp only [Plan.dispatchEncoder]
  split
  · split
    · exact hm.here _ true
    · exact .refl _
  · exact .refl _

mutual

theorem decoder : ∀ p : Plan, Refines models others (p.decoder models) (p.decoder others)
  | .pass _ => .refl _ _ _
  | .checkEnum _ _ => .refl _ _ _
  | .nullable inner => (decoder inner).nullable
  | .eachElement element => (decoder element).listOf
  | .eachValue value => (decoder value).dictOf
  | .call model => .modelCodec _ _ model
  | .dispatch property cases => .dispatchOn property cases
  | .firstMatch options description => .firstMatch description (decoders options)

theorem decoders : ∀ options : List (Predicate × Plan),
    List.Forall₂ (fun o o' => o.1 = o'.1 ∧ Refines models others o.2 o'.2)
      (Plan.decoders models options) (Plan.decoders others options)
  | [] => .nil
  | (_, p) :: rest => .cons ⟨rfl, decoder p⟩ (decoders rest)

end

mutual

theorem encoder : ∀ p : Plan, Refines models others (p.encoder models) (p.encoder others)
  | .pass _ => .refl _ _ _
  | .checkEnum _ _ => .refl _ _ _
  | .nullable inner => (encoder inner).nullable
  | .eachElement element => (encoder element).listOf
  | .eachValue value => (encoder value).dictOf
  | .call model => .modelCodec _ _ model
  | .dispatch _ cases => .dispatchEncoder cases
  | .firstMatch options description => .firstMatch description (encoders options)

theorem encoders : ∀ options : List (Predicate × Plan),
    List.Forall₂ (fun o o' => o.1 = o'.1 ∧ Refines models others o.2 o'.2)
      (Plan.encoders models options) (Plan.encoders others options)
  | [] => .nil
  | (_, p) :: rest => .cons ⟨rfl, encoder p⟩ (encoders rest)

end
end Refines

/-! ## Fields -/

theorem Outcome.Refines.mapM {α β : Type} {f g : α → Outcome β} :
    ∀ {l : List α}, (∀ a ∈ l, (f a).Refines (g a)) → Outcome.Refines (l.mapM f) (l.mapM g)
  | [], _ => .refl _
  | a :: l, h => by
    simp only [List.mapM_cons]
    refine .bind (h a List.mem_cons_self) fun b => .bind ?_ fun bs => .refl _
    exact Outcome.Refines.mapM fun a' ha' => h a' (List.mem_cons_of_mem _ ha')

theorem Outcome.Refines.foldlM {α β : Type} {f g : β → α → Outcome β} :
    ∀ {l : List α} {b : β}, (∀ b, ∀ a ∈ l, (f b a).Refines (g b a)) →
      Outcome.Refines (l.foldlM f b) (l.foldlM g b)
  | [], _, _ => .refl _
  | a :: l, b, h => by
    simp only [List.foldlM_cons]
    refine .bind (h b a List.mem_cons_self) fun b => ?_
    exact Outcome.Refines.foldlM fun b a' ha' => h b a' (List.mem_cons_of_mem _ ha')

section Fields

variable {models others : ModelCodec}

theorem decodeField_refines (rule : FieldRule) {c c' : Codec} (h : Refines models others c c')
    {members : List (Value × Value)} {path : Path}
    (hm : ModelsRefine models others (.map members) path) :
    (decodeField rule c members path).Refines (decodeField rule c' members path) := by
  simp only [decodeField]
  cases hv : Value.lookup rule.wireName members with
  | none => exact .refl _
  | some v =>
    have shallow := Value.depth_le_of_lookup hv
    simp only
    split
    · exact .refl _
    · refine h.run v _ (hm.part ?_ _)
      simp only [Value.depth]
      omega

theorem decodeFields_refines (r : RecordContract) {members : List (Value × Value)} {path : Path}
    (hm : ModelsRefine models others (.map members) path) :
    (decodeFields models r members path).Refines (decodeFields others r members path) := by
  simp only [decodeFields]
  refine .bind (.mapM fun f _ => ?_) fun _ => .refl _
  exact .bind (decodeField_refines _ (.decoder f.plan) hm) fun _ => .refl _

theorem encodeField_refines (rule : FieldRule) {c c' : Codec} (h : Refines models others c c')
    {v : Value} {path : Path} (members : List (Value × Value))
    (hm : ∀ place, ModelsRefine models others v place) :
    (encodeField rule c v path members).Refines (encodeField rule c' v path members) := by
  simp only [encodeField]
  split
  · exact .refl _
  · split
    · exact .refl _
    · exact .map _ (h.run v _ (hm _))

theorem depth_le_of_lookup_fields {name : String} {v : Value} {fields : List (String × Value)}
    (h : fields.lookup name = some v) : v.depth ≤ Value.depthFields fields := by
  induction fields with
  | nil => cases h
  | cons field rest ih =>
    obtain ⟨k, w⟩ := field
    simp only [List.lookup_cons] at h
    simp only [Value.depthFields]
    split at h
    · cases h
      omega
    · have := ih h
      omega

theorem encodeFields_refines (r : RecordContract) {model : String}
    {fields : List (String × Value)} {path : Path}
    (hm : ModelsRefine models others (.record model fields) path) :
    (encodeFields models r fields path).Refines (encodeFields others r fields path) := by
  simp only [encodeFields]
  refine .bind (.foldlM fun members f _ => ?_) fun _ => .refl _
  refine encodeField_refines _ (.encoder f.plan) members fun place => hm.part ?_ place
  simp only [Value.depth]
  cases hv : fields.lookup f.attributeName with
  | none => exact Nat.succ_pos _
  | some v => exact Nat.lt_succ_of_le (depth_le_of_lookup_fields hv)

end Fields

/-! ## One round -/

theorem ok_bind {α β : Type} (a : α) (f : α → Outcome β) :
    ((Except.ok a : Outcome α) >>= f) = f a := rfl

/-- Decodes a model; `models` decodes those that it leads to. -/
def decodeStep (contracts : Contracts) (models : ModelCodec) : ModelCodec :=
  fun name ignoring v path => do
    match contracts.get? name with
    | none => .fail path (.unknownModel name)
    | some (.union u) => (u.body.decoder models).run v path
    | some (.record r) =>
      let members ← requireMapping name v path
      let dispatch := r.discriminator.filter fun d =>
        !ignoring && Value.hasKey d.property members
      match dispatch with
      | none => decodeFields models r members path
      | some d =>
        let target ← selectVariant members d.property d.mapping path
        if target == name then decodeFields models r members path
        else models target true v path

theorem decodeModel_succ (contracts : Contracts) (fuel : Nat) :
    decodeModel contracts (fuel + 1) = decodeStep contracts (decodeModel contracts fuel) := rfl

/-- Encodes an instance of a model; `models` encodes those that it leads to. -/
def encodeStep (contracts : Contracts) (models : ModelCodec) : ModelCodec :=
  fun name ignoring v path =>
    match contracts.get? name with
    | none => .fail path (.unknownModel name)
    | some (.union u) => (u.body.encoder models).run v path
    | some (.record r) =>
      match v with
      | .record model fields =>
        if model == name then encodeFields models r fields path
        else if (Types.WireType.targets r.discriminator).contains model && !ignoring then
          models model true v path
        else .fail path (.notInstance name v.kindName)
      | _ => .fail path (.notInstance name v.kindName)

theorem encodeModel_succ (contracts : Contracts) (fuel : Nat) :
    encodeModel contracts (fuel + 1) = encodeStep contracts (encodeModel contracts fuel) := rfl

theorem decodeStep_refines (contracts : Contracts) {models others : ModelCodec} {v : Value}
    {path : Path} (hm : ModelsRefine models others v path) (name : String) (ignoring : Bool) :
    (decodeStep contracts models name ignoring v path).Refines
      (decodeStep contracts others name ignoring v path) := by
  unfold decodeStep
  split
  · exact .refl _
  · exact (Refines.decoder _).run v path hm
  · rename_i r _
    cases v with
    | map members =>
      simp only [requireMapping, ok_bind]
      split
      · exact decodeFields_refines r hm
      · refine .bind (.refl _) fun target => ?_
        split
        · exact decodeFields_refines r hm
        · exact hm.here target true
    | _ => exact .refl _

theorem encodeStep_refines (contracts : Contracts) {models others : ModelCodec} {v : Value}
    {path : Path} (hm : ModelsRefine models others v path) (name : String) (ignoring : Bool) :
    (encodeStep contracts models name ignoring v path).Refines
      (encodeStep contracts others name ignoring v path) := by
  unfold encodeStep
  split
  · exact .refl _
  · exact (Refines.encoder _).run v path hm
  · split
    · split
      · exact encodeFields_refines _ hm
      · split
        · exact hm.here _ true
        · exact .refl _
    · exact .refl _

/-! ## All rounds -/

/-- A family of models that answers more with every round: at first nothing, then what follows
from the answers of the round before, and about unknown names always the same. -/
structure Rounds (known : List String) (models : Nat → ModelCodec) : Prop where
  start : ∀ name ignoring v path, (models 0 name ignoring v path).IsEndless
  advance : ∀ m n v path, ModelsRefine (models m) (models n) v path → ∀ name ignoring,
    (models (m + 1) name ignoring v path).Refines (models (n + 1) name ignoring v path)
  unknown : ∀ n name, name ∉ known → models (n + 1) name = models 1 name

/-- A chain of finite sets inside of another stops growing within as many steps as that has
elements. -/
theorem exists_stationary {α : Type} [DecidableEq α] (U : Finset α) (S : Nat → Finset α)
    (sub : ∀ n, S n ⊆ U) (mono : ∀ n, S n ⊆ S (n + 1)) :
    ∃ n ≤ U.card, S n = S (n + 1) := by
  by_contra never
  have grows : ∀ n, n ≤ U.card + 1 → n ≤ (S n).card := by
    intro n
    induction n with
    | zero => intro _; exact Nat.zero_le _
    | succ n ih =>
      intro h
      have small := ih (by omega)
      have strict : S n ⊂ S (n + 1) :=
        (mono n).ssubset_of_ne fun eq => never ⟨n, by omega, eq⟩
      have := Finset.card_lt_card strict
      omega
  have := grows (U.card + 1) le_rfl
  have := Finset.card_le_card (sub (U.card + 1))
  omega

namespace Rounds

variable {known : List String} {models : Nat → ModelCodec}

theorem next (h : Rounds known models) (n : Nat) :
    ∀ name ignoring v path,
      (models n name ignoring v path).Refines (models (n + 1) name ignoring v path) := by
  induction n with
  | zero => exact fun name ignoring v path => .inl (h.start name ignoring v path)
  | succ n ih =>
    intro name ignoring v path
    exact h.advance n (n + 1) v path
      ⟨fun name ignoring => ih name ignoring v path,
        fun w _ name ignoring place => ih name ignoring w place⟩ name ignoring

theorem mono (h : Rounds known models) {m n : Nat} (le : m ≤ n) (name : String)
    (ignoring : Bool) (v : Value) (path : Path) :
    (models m name ignoring v path).Refines (models n name ignoring v path) := by
  induction le with
  | refl => exact .refl _
  | step _ ih => exact ih.trans (h.next _ name ignoring v path)

/-- Once a round adds nothing at a value, and nothing is added inside of it, no later round
does. -/
theorem stationary (h : Rounds known models) {v : Value} {path : Path} {k : Nat}
    (inside : ∀ n w, w.depth < v.depth → ∀ name ignoring place,
      (models n name ignoring w place).Refines (models k name ignoring w place))
    (here : ∀ name ignoring,
      (models (k + 1) name ignoring v path).Refines (models k name ignoring v path)) (n : Nat) :
    ∀ name ignoring,
      (models (k + n) name ignoring v path).Refines (models k name ignoring v path) := by
  induction n with
  | zero => exact fun _ _ => .refl _
  | succ n ih =>
    intro name ignoring
    refine .trans ?_ (here name ignoring)
    exact h.advance (k + n) k v path ⟨ih, inside (k + n)⟩ name ignoring

open Classical in
/-- The questions about models that a round answers at a value. -/
noncomputable def answered (known : List String) (models : Nat → ModelCodec) (v : Value)
    (path : Path) (n : Nat) : Finset (String × Bool) :=
  (known.toFinset ×ˢ Finset.univ).filter fun q => ¬(models n q.1 q.2 v path).IsEndless

theorem answered_subset (v : Value) (path : Path) (n : Nat) :
    answered known models v path n ⊆ known.toFinset ×ˢ Finset.univ := by
  intro q hq
  simp only [answered, Finset.mem_filter] at hq
  exact hq.1

theorem answered_mono (h : Rounds known models) (v : Value) (path : Path) (n : Nat) :
    answered known models v path n ⊆ answered known models v path (n + 1) := by
  intro q hq
  simp only [answered, Finset.mem_filter] at hq ⊢
  refine ⟨hq.1, ?_⟩
  rcases h.next n q.1 q.2 v path with endless | eq
  · exact absurd endless hq.2
  · rw [← eq]
    exact hq.2

/-- A round that answers no more questions than the one before adds nothing. -/
theorem refines_of_answered_eq (h : Rounds known models) {v : Value} {path : Path} {n : Nat}
    (eq : answered known models v path (n + 1) = answered known models v path (n + 2))
    (name : String) (ignoring : Bool) :
    (models (n + 2) name ignoring v path).Refines (models (n + 1) name ignoring v path) := by
  by_cases mem : name ∈ known
  · by_cases endless : (models (n + 2) name ignoring v path).IsEndless
    · exact .inl endless
    · -- answered in the later round, so answered already in the earlier one, with the same answer
      have later : (name, ignoring) ∈ answered known models v path (n + 2) := by
        simp [answered, mem, endless]
      rw [← eq] at later
      rcases h.next (n + 1) name ignoring v path with endless' | same
      · simp [answered, endless'] at later
      · exact .inr same.symm
  · rw [h.unknown (n + 1) name mem, h.unknown n name mem]
    exact .refl _

/-- As many rounds for each level of a value as there are questions at a level, and two more,
are enough. -/
theorem settled (h : Rounds known models) (v : Value) (n : Nat) (name : String)
    (ignoring : Bool) (path : Path) :
    (models n name ignoring v path).Refines
      (models ((v.depth + 1) * (2 * known.length + 2)) name ignoring v path) := by
  induction hd : v.depth using Nat.strong_induction_on generalizing v n name ignoring path with
  | _ d ih =>
    subst hd
    set rounds := 2 * known.length + 2
    set before := v.depth * rounds
    -- less deep values are settled after `before` rounds, by the hypothesis of the induction
    have inside : ∀ k, before ≤ k → ∀ n w, w.depth < v.depth → ∀ name ignoring place,
        (models n name ignoring w place).Refines (models k name ignoring w place) := by
      intro k hk n w less name ignoring place
      refine (ih _ less w n name ignoring place rfl).trans (h.mono ?_ name ignoring w place)
      exact (Nat.mul_le_mul_right _ less).trans hk
    have card : (known.toFinset ×ˢ (Finset.univ : Finset Bool)).card ≤ 2 * known.length := by
      have := known.toFinset_card_le
      simp only [Finset.card_product, Finset.card_univ, Fintype.card_bool]
      omega
    -- the questions answered about `v` itself only become more, so two of the next rounds answer
    -- the same ones, and from then on nothing is new
    obtain ⟨k, hk, eq⟩ := exists_stationary (known.toFinset ×ˢ Finset.univ)
      (fun k => answered known models v path (before + k + 1))
      (fun k => answered_subset v path _) (fun k => h.answered_mono v path _)
    have still := h.stationary (inside (before + k + 1) (by omega))
      (h.refines_of_answered_eq eq) n name ignoring
    refine (h.mono (Nat.le_add_left n _) name ignoring v path).trans (still.trans ?_)
    refine h.mono ?_ name ignoring v path
    rw [Nat.succ_mul]
    omega

end Rounds

/-! ## Codecs without fuel -/

/-- Two families agree on what a codec can ask for as far as they are known at all values. -/
theorem ModelsRefine.of_all {models others : ModelCodec}
    (h : ∀ name ignoring v path,
      (models name ignoring v path).Refines (others name ignoring v path))
    (v : Value) (path : Path) : ModelsRefine models others v path :=
  ⟨fun name ignoring => h name ignoring v path, fun w _ name ignoring place =>
    h name ignoring w place⟩

theorem Contracts.get?_eq_none {contracts : Contracts} {name : String}
    (h : name ∉ contracts.map Contract.name) : contracts.get? name = none := by
  simp only [Contracts.get?, List.find?_eq_none, beq_iff_eq]
  intro c mem eq
  exact h (List.mem_map.mpr ⟨c, mem, eq⟩)

theorem Contracts.name_of_get? {contracts : Contracts} {name : String} {c : Contract}
    (h : contracts.get? name = some c) : c.name = name := by
  simpa using List.find?_some h

/-- A family of models whose rounds go on from nothing. -/
theorem Rounds.of_step {contracts : Contracts} {models : Nat → ModelCodec}
    {step : ModelCodec → ModelCodec}
    (start : ∀ name ignoring v path, (models 0 name ignoring v path).IsEndless)
    (succ : ∀ n, models (n + 1) = step (models n))
    (refines : ∀ {models others : ModelCodec} {v : Value} {path : Path},
      ModelsRefine models others v path → ∀ name ignoring,
        (step models name ignoring v path).Refines (step others name ignoring v path))
    (unknown : ∀ models name, contracts.get? name = none →
      step models name = fun _ _ path => .fail path (.unknownModel name)) :
    Rounds (contracts.map Contract.name) models where
  start := start
  advance m n v path h name ignoring := by
    rw [succ, succ]
    exact refines h name ignoring
  unknown n name mem := by
    have none := Contracts.get?_eq_none mem
    rw [succ, succ, unknown _ name none, unknown _ name none]

theorem decodeModel_rounds (contracts : Contracts) :
    Rounds (contracts.map Contract.name) (decodeModel contracts) := by
  refine .of_step (fun _ _ _ path => ⟨path, rfl⟩) (decodeModel_succ contracts)
    (fun h => decodeStep_refines contracts h) fun models name none => ?_
  funext ignoring v path
  simp only [decodeStep, none]

theorem encodeModel_rounds (contracts : Contracts) :
    Rounds (contracts.map Contract.name) (encodeModel contracts) := by
  refine .of_step (fun _ _ _ path => ⟨path, rfl⟩) (encodeModel_succ contracts)
    (fun h => encodeStep_refines contracts h) fun models name none => ?_
  funext ignoring v path
  simp only [encodeStep, none]

/-- The decoders of all models, each with the fuel that is enough for its value. -/
def decoders (contracts : Contracts) : ModelCodec := fun name ignoring v path =>
  decodeModel contracts (modelBound contracts v) name ignoring v path

/-- The encoders of all models, each with the fuel that is enough for its value. -/
def encoders (contracts : Contracts) : ModelCodec := fun name ignoring v path =>
  encodeModel contracts (modelBound contracts v) name ignoring v path

namespace Rounds

variable {contracts : Contracts} {models : Nat → ModelCodec}

/-- No fuel gives more than the bound. -/
theorem refines_bound (h : Rounds (contracts.map Contract.name) models) (n : Nat)
    (name : String) (ignoring : Bool) (v : Value) (path : Path) :
    (models n name ignoring v path).Refines
      (models (modelBound contracts v) name ignoring v path) := by
  have := h.settled v n name ignoring path
  rwa [List.length_map] at this

/-- The outcomes under the bound are those of one more round over outcomes under the bound, unless
the fuel runs out. -/
theorem eq_iff (h : Rounds (contracts.map Contract.name) models)
    {step : ModelCodec → ModelCodec} (succ : ∀ n, models (n + 1) = step (models n))
    (refines : ∀ {models others : ModelCodec} {v : Value} {path : Path},
      ModelsRefine models others v path → ∀ name ignoring,
        (step models name ignoring v path).Refines (step others name ignoring v path))
    {name : String} {ignoring : Bool} {v : Value} {path : Path} {x : Outcome Value}
    (final : ¬x.IsEndless) : models (modelBound contracts v) name ignoring v path = x ↔
      step (fun name ignoring v path => models (modelBound contracts v) name ignoring v path)
        name ignoring v path = x := by
  constructor
  · intro same
    -- one round over less fuel gives `x`, and a final answer stays when the fuel grows
    obtain ⟨n, hn⟩ : ∃ n, modelBound contracts v = n + 1 :=
      Nat.exists_eq_succ_of_ne_zero (Nat.mul_ne_zero (by omega) (by omega))
    rw [hn, succ] at same
    have all := refines (.of_all (h.refines_bound n) v path) name ignoring
    rw [same] at all
    exact (all.final final).symm
  · intro same
    -- the round asks about less deep values only, where a smaller bound is enough
    have less : ModelsRefine
        (fun name ignoring v path => models (modelBound contracts v) name ignoring v path)
        (models (modelBound contracts v)) v path := by
      refine ⟨fun _ _ => .refl _, fun u deeper name ignoring place => ?_⟩
      exact h.mono (Nat.mul_le_mul_right _ (by omega)) name ignoring u place
    have grown := refines less name ignoring
    rw [same] at grown
    have reached := (grown.final final).symm
    rw [← succ] at reached
    have bounded := h.refines_bound (modelBound contracts v + 1) name ignoring v path
    rw [reached] at bounded
    exact (bounded.final final).symm

end Rounds

theorem decoders_eq_iff {contracts : Contracts} {name : String} {ignoring : Bool} {v : Value}
    {path : Path} {x : Outcome Value} (final : ¬x.IsEndless) :
    decoders contracts name ignoring v path = x ↔
      decodeStep contracts (decoders contracts) name ignoring v path = x :=
  (decodeModel_rounds contracts).eq_iff (decodeModel_succ contracts)
    (fun h => decodeStep_refines contracts h) final

theorem decoders_ok_iff {contracts : Contracts} {name : String} {ignoring : Bool}
    {v w : Value} {path : Path} :
    decoders contracts name ignoring v path = .ok w ↔
      decodeStep contracts (decoders contracts) name ignoring v path = .ok w :=
  decoders_eq_iff Outcome.not_isEndless_ok

theorem encoders_ok_iff {contracts : Contracts} {name : String} {ignoring : Bool}
    {v w : Value} {path : Path} :
    encoders contracts name ignoring v path = .ok w ↔
      encodeStep contracts (encoders contracts) name ignoring v path = .ok w :=
  (encodeModel_rounds contracts).eq_iff (encodeModel_succ contracts)
    (fun h => encodeStep_refines contracts h) Outcome.not_isEndless_ok

end Codec
end WireModel
