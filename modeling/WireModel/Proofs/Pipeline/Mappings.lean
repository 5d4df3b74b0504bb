import WireModel.Proofs.Codec.Decoding
import WireModel.Proofs.Pipeline
import WireModel.Proofs.Table.Provenance
import WireModel.Types.Export

/-!
# Tags and their models

A discriminator lists tags with models: the entries that a schema declares, and behind them the
members that none of these leads to, each under its own name. `Discriminator.target` takes the first
entry of a tag; decoding and exported tables take the last one. They agree exactly if no tag has
two models, and this is so unless a declared tag is the name of a member that no entry leads to
(`Pipeline.mapping_isFunction_iff`, `Pipeline.dog_has_two_models`).
-/

namespace WireModel

open Schema (Discriminator)
open Types (completed textMapping)

/-- No tag has two models. -/
def IsFunction (entries : List (String × String)) : Prop :=
  ∀ e ∈ entries, ∀ f ∈ entries, e.1 = f.1 → e.2 = f.2

instance (entries : List (String × String)) : Decidable (IsFunction entries) :=
  inferInstanceAs (Decidable (∀ e ∈ entries, ∀ f ∈ entries, e.1 = f.1 → e.2 = f.2))

/-! ## Entries -/

section

variable {entries : List (String × String)} {names : List String} {tag : String}

theorem isFunction_of_nodup (distinct : (entries.map Prod.fst).Nodup) : IsFunction entries :=
  fun _ mem _ mem' same => congrArg Prod.snd (List.inj_on_of_nodup_map distinct mem mem' same)

/-- A completion adds a second model for a tag exactly if the tag is the name of a member that no
entry leads to. -/
theorem isFunction_completed : IsFunction (completed entries names) ↔
    IsFunction entries ∧
      ∀ name ∈ names, name ∈ entries.map Prod.fst → name ∈ entries.map Prod.snd := by
  have mem_iff (e : String × String) : e ∈ completed entries names ↔
      e ∈ entries ∨ e.1 = e.2 ∧ e.1 ∈ names ∧ e.1 ∉ entries.map Prod.snd := by
    simp only [completed, List.mem_append, List.mem_map, List.mem_filter, Bool.not_eq_true',
      List.any_eq_false, beq_iff_eq]
    refine or_congr_right ⟨?_, fun ⟨same, mem, led⟩ => ⟨e.1, ⟨mem, ?_⟩, Prod.ext rfl same⟩⟩
    · rintro ⟨name, ⟨mem, led⟩, rfl⟩
      exact ⟨rfl, mem, fun ⟨f, there, same⟩ => led f there same⟩
    · exact fun f there same => led ⟨f, there, same⟩
  constructor
  · intro all
    refine ⟨fun e mem f mem' => all e ((mem_iff e).mpr (.inl mem)) f ((mem_iff f).mpr (.inl mem')),
      fun name mem tagged => ?_⟩
    by_contra led
    obtain ⟨e, there, rfl⟩ := List.mem_map.mp tagged
    have same := all e ((mem_iff e).mpr (.inl there)) (e.1, e.1)
      ((mem_iff _).mpr (.inr ⟨rfl, mem, led⟩)) rfl
    exact led (List.mem_map.mpr ⟨e, there, same⟩)
  · rintro ⟨function, known⟩ e mem f mem' same
    -- two entries are declared ones, added ones, or one of each; only the last can disagree
    rcases (mem_iff e).mp mem with mem | ⟨own, mem, led⟩ <;>
      rcases (mem_iff f).mp mem' with mem' | ⟨own', mem', led'⟩
    · exact function e mem f mem' same
    · exact absurd (known _ mem' (same ▸ List.mem_map_of_mem mem)) led'
    · exact absurd (known _ mem (same ▸ List.mem_map_of_mem mem')) led
    · rw [← own, ← own', same]

/-- Where no tag has two models, every entry of a tag will do. -/
theorem lookup_eq_some_iff (function : IsFunction entries) {model : String} :
    entries.lookup tag = some model ↔ (tag, model) ∈ entries := by
  refine ⟨Table.mem_of_lookup, fun mem => ?_⟩
  cases found : entries.lookup tag with
  | none => exact absurd (List.lookup_eq_none_iff.mp found _ mem) (by simp)
  | some other => exact congrArg some (function _ (Table.mem_of_lookup found) _ mem rfl)

theorem lookup_reverse (function : IsFunction entries) :
    entries.reverse.lookup tag = entries.lookup tag := by
  have reversed : IsFunction entries.reverse := fun e mem f mem' =>
    function e (List.mem_reverse.mp mem) f (List.mem_reverse.mp mem')
  refine Option.ext fun model => ?_
  rw [lookup_eq_some_iff function, lookup_eq_some_iff reversed, List.mem_reverse]

/-- If the first and the last entry of each tag have one model, no tag of a completion has two. -/
theorem isFunction_of_lookup (function : IsFunction entries)
    (agree : ∀ tag, (completed entries names).reverse.lookup tag =
      (completed entries names).lookup tag) : IsFunction (completed entries names) := by
  refine isFunction_completed.mpr ⟨function, fun name mem tagged => ?_⟩
  by_contra led
  obtain ⟨⟨name, model⟩, there, rfl⟩ := List.mem_map.mp tagged
  have first : (completed entries names).lookup name = some model := by
    rw [completed, List.lookup_append, (lookup_eq_some_iff function).mpr there, Option.some_or]
  have added : IsFunction
      ((names.filter fun n => !entries.any (·.2 == n)).map fun n => (n, n)) := by
    intro e mem f mem' same
    obtain ⟨_, -, rfl⟩ := List.mem_map.mp mem
    obtain ⟨_, -, rfl⟩ := List.mem_map.mp mem'
    exact same
  have last : (completed entries names).reverse.lookup name = some name := by
    rw [completed, List.reverse_append, List.lookup_append, lookup_reverse added,
      (lookup_eq_some_iff added).mpr ?_, Option.some_or]
    refine List.mem_map.mpr ⟨name, List.mem_filter.mpr ⟨mem, ?_⟩, rfl⟩
    rw [Bool.not_eq_true', List.any_eq_false]
    exact fun e there same => led (List.mem_map.mpr ⟨e, there, beq_iff_eq.mp same⟩)
  have same := agree name
  rw [first, last] at same
  cases same
  exact led (List.mem_map.mpr ⟨_, there, rfl⟩)

/-! ## Exported tables -/

theorem lookup_cons_eq {α : Type} (entry : String × α) (rest : List (String × α)) :
    (entry :: rest).lookup tag = if tag = entry.1 then some entry.2 else rest.lookup tag := by
  obtain ⟨key, a⟩ := entry
  rw [List.lookup_cons]
  by_cases here : tag = key
  · rw [if_pos here, beq_iff_eq.mpr here]
  · rw [if_neg here, beq_eq_false_iff_ne.mpr here]

theorem lookup_put (found : List (String × Value)) (entry : String × String) :
    (textMapping.put found entry).lookup tag =
      if tag = entry.1 then some (.str entry.2) else found.lookup tag := by
  -- where the tag is known its text is replaced, and the order stays
  have replaced : ∀ found : List (String × Value),
      (found.map fun member =>
        if member.1 == entry.1 then (member.1, .str entry.2) else member).lookup tag =
        if tag = entry.1 then (found.lookup tag).map fun _ => .str entry.2
        else found.lookup tag := by
    intro found
    induction found with
    | nil => simp
    | cons member rest ih =>
      rw [List.map_cons, lookup_cons_eq, lookup_cons_eq, ih]
      by_cases here : tag = member.1 <;> by_cases same : tag = entry.1 <;>
        by_cases other : member.1 = entry.1 <;> simp_all
  unfold textMapping.put
  split
  · rename_i known
    rw [replaced]
    split
    · rename_i same
      obtain ⟨member, mem, key⟩ := List.any_eq_true.mp known
      cases there : found.lookup tag with
      | none => exact absurd (List.lookup_eq_none_iff.mp there _ mem) (by simp_all)
      | some v => rfl
    · rfl
  · rename_i fresh
    rw [List.lookup_append, lookup_cons_eq, List.lookup_nil]
    by_cases same : tag = entry.1
    · have absent : found.lookup tag = none := by
        refine List.lookup_eq_none_iff.mpr fun member mem => ?_
        by_contra key
        exact fresh (List.any_eq_true.mpr ⟨member, mem, by simp_all⟩)
      rw [absent, if_pos same, Option.none_or]
    · rw [if_neg same, if_neg same, Option.or_none]

/-- An exported mapping has the last entry of each tag. -/
theorem lookup_textMapping : (textMapping entries).entries?.bind (Value.lookup tag) =
    (entries.reverse.lookup tag).map .str := by
  have fold : ∀ found : List (String × Value), (entries.foldl textMapping.put found).lookup tag =
      ((entries.reverse.lookup tag).map Value.str).or (found.lookup tag) := by
    induction entries with
    | nil => exact fun found => rfl
    | cons entry rest ih =>
      intro found
      rw [List.foldl_cons, ih, List.reverse_cons, List.lookup_append, lookup_put, lookup_cons_eq,
        List.lookup_nil]
      cases rest.reverse.lookup tag <;> by_cases same : tag = entry.1 <;> simp [same]
  rw [textMapping, Value.ofFields, Value.entries?, Option.bind_some, Value.lookup_texts, fold,
    List.lookup_nil, Option.or_none]

end

/-! ## Discriminators of a pipeline -/

namespace Pipeline

/-- All that read a discriminator find one model for a tag: the first entry, the exported table,
and decoding, which makes an instance of that model where a record has the discriminator. -/
structure AgreesOn (p : Pipeline) (d : Discriminator) (tag : String) : Prop where
  exported : (textMapping d.mapping).entries?.bind (Value.lookup tag) = (d.target tag).map .str
  selected : ∀ members path, Value.lookup d.property members = some (.str tag) →
    (Codec.selectVariant members d.property d.mapping path).toOption = d.target tag
  decoded : ∀ name r members v, p.table.record? name = some r → r.discriminator = some d →
    (Value.map members).isJson = true → Value.lookup d.property members = some (.str tag) →
    Codec.decode p.contracts name (.map members) = .ok v →
    ∃ model fields, d.target tag = some model ∧ v = .record model fields

/-- A record with a discriminator decodes a mapping with the property to an instance of the model
that the last entry of the tag leads to. -/
theorem record_of_decode_ok (p : Pipeline) {d : Discriminator} {name tag : String}
    {r : RecordModel} {members : List (Value × Value)} {v : Value}
    (found : p.table.record? name = some r) (tagged : r.discriminator = some d)
    (json : (Value.map members).isJson = true)
    (there : Value.lookup d.property members = some (.str tag))
    (ok : Codec.decode p.contracts name (.map members) = .ok v) :
    ∃ model fields, d.mapping.reverse.lookup tag = some model ∧ v = .record model fields := by
  have reads := Codec.reads_of_decode_ok p.wellFormed p.implement json nofun ok
  cases reads with
  | @record _ _ r' s _ fields found' chosen =>
    rw [found] at found'
    cases found'
    have key : Value.hasKey d.property members = true := by
      rw [Value.hasKey, there]
      rfl
    rw [Table.chosen, tagged, Option.filter_some_pos (by simp [key])] at chosen
    obtain ⟨model, leads, target⟩ := Option.bind_eq_some_iff.mp chosen
    rw [Discriminator.chosen, there] at leads
    exact ⟨model, fields, leads, by rw [Table.record_name target]⟩
  | named union =>
    rw [Table.record?_eq_some.mp found] at union
    cases union

theorem agreesOn_of_isFunction (p : Pipeline) {d : Discriminator} (function : IsFunction d.mapping)
    (tag : String) : p.AgreesOn d tag where
  exported := by rw [lookup_textMapping, lookup_reverse function, Discriminator.target]
  selected members path there := by
    refine Option.ext fun model => ?_
    rw [toOption_eq_some, Codec.selectVariant_ok_iff, Discriminator.target,
      ← lookup_reverse function]
    constructor
    · rintro ⟨other, there', leads⟩
      rw [there] at there'
      cases there'
      exact leads
    · exact fun leads => ⟨tag, there, leads⟩
  decoded name r members v found tagged json there ok := by
    rw [Discriminator.target, ← lookup_reverse function]
    exact p.record_of_decode_ok found tagged json there ok

/-- Every discriminator of a table holds the entries that some schema declares, completed by names
of members. In a JSON document no declared tag has two models. None of the completed entries has
two exactly if no declared tag is the name of a member that no entry leads to; then declared tags
keep their models. And this is when all that read the discriminator agree on every tag. -/
theorem mapping_isFunction_iff (p : Pipeline) {d : Discriminator}
    (occurs : p.table.Discriminates d) :
    ∃ declared entries names, p.graph.Declares declared ∧ entries.Sublist declared.mapping ∧
      d = ⟨declared.property, completed entries names⟩ ∧
      (p.document.isJson = true → IsFunction entries) ∧
      (IsFunction d.mapping ↔ IsFunction entries ∧
        ∀ name ∈ names, name ∈ entries.map Prod.fst → name ∈ entries.map Prod.snd) ∧
      (IsFunction d.mapping → ∀ entry ∈ entries, d.target entry.1 = some entry.2) ∧
      (IsFunction entries → (IsFunction d.mapping ↔ ∀ tag, p.AgreesOn d tag)) := by
  obtain ⟨ignored, models, first, b⟩ := Table.exists_building p.builds
  obtain ⟨_, _, resolution⟩ := Types.exists_resolution p.resolves
  obtain ⟨entries, names, declared, declares, part, rfl⟩ := b.completes resolution.stems occurs
  refine ⟨declared, entries, names, declares, part, rfl, fun json => ?_, isFunction_completed,
    fun function entry mem => ?_, fun function => ⟨p.agreesOn_of_isFunction, fun agree => ?_⟩⟩
  · obtain ⟨node, holds, own⟩ := declares
    have read := (Schema.saidIn_of_ofDocument (Logged.gives_of_outcome p.loads) holds).discriminator
    have tags := (read _ own).tags_nodup json
    exact isFunction_of_nodup (tags.sublist (part.map _))
  · exact (lookup_eq_some_iff function).mpr (List.mem_append_left _ mem)
  · refine isFunction_of_lookup function fun tag => ?_
    have same := (agree tag).exported
    rw [lookup_textMapping, Discriminator.target] at same
    exact Option.map_injective (fun _ _ => Value.str.inj) same

/-! ## Cats and dogs -/

section

/-- A document with cats, dogs, and pets that are told apart by their kind. -/
def catsAndDogs (mapping : List (String × Value)) : Value :=
  .ofFields [("definitions", .ofFields [("Cat", animal), ("Dog", animal),
    ("Pet", .ofFields [("oneOf", .list [.ofFields [("$ref", .str "#/definitions/Cat")],
        .ofFields [("$ref", .str "#/definitions/Dog")]]),
      ("discriminator", .ofFields [("propertyName", .str "kind"),
        ("mapping", .ofFields mapping)])])])]
where
  animal : Value := .ofFields [("type", .str "object"), ("required", .ofTexts ["kind"]),
    ("properties", .ofFields [("kind", .ofFields [("type", .str "string")])])]

/-- The first discriminator of a model, if it has the given entries. -/
def taggedBy? (p : Pipeline) (entries : List (String × String)) : Option Discriminator :=
  (p.table.models.findSome? Model.discriminator).filter (·.mapping = entries)

theorem discriminates_of_taggedBy? {p : Pipeline} {entries : List (String × String)}
    {d : Discriminator} (h : p.taggedBy? entries = some d) :
    p.table.Discriminates d ∧ d.mapping = entries := by
  obtain ⟨found, same⟩ := Option.filter_eq_some_iff.mp h
  obtain ⟨m, mem, tagged⟩ := List.exists_of_findSome?_eq_some found
  exact ⟨.inl ⟨m, mem, tagged⟩, by simpa using same⟩

/-- With a tag of its own for dogs, every tag has one model. -/
theorem hound_is_dog : ∃ (p : Pipeline) (d : Discriminator), p.table.Discriminates d ∧
    d.mapping = [("hound", "Dog"), ("Cat", "Cat")] ∧ ∀ tag, p.AgreesOn d tag := by
  have some : (run? (catsAndDogs [("hound", .str "Dog")]) none "pets" {}).any (fun p =>
      p.document.isJson && (p.taggedBy? [("hound", "Dog"), ("Cat", "Cat")]).isSome) =
        true := by
    decide +kernel
  obtain ⟨p, -, some⟩ := (Option.any_eq_true _ _).mp some
  obtain ⟨json, some⟩ := (Bool.and_eq_true _ _).mp some
  obtain ⟨d, found⟩ := Option.isSome_iff_exists.mp some
  obtain ⟨occurs, mapping⟩ := discriminates_of_taggedBy? found
  obtain ⟨_, entries, _, _, _, _, function, _, _, agree⟩ := p.mapping_isFunction_iff occurs
  refine ⟨p, d, occurs, mapping, (agree (function json)).mp ?_⟩
  rw [mapping]
  decide

/-- If cats have the name of dogs for a tag, dogs have it as well: the first entry leads to cats,
while the exported table has dogs and a dog is what comes out of decoding. -/
theorem dog_has_two_models : ∃ (p : Pipeline) (d : Discriminator),
    p.document.isJson = true ∧ p.table.Discriminates d ∧
    d.mapping = [("Dog", "Cat"), ("Dog", "Dog")] ∧ ¬IsFunction d.mapping ∧
    d.target "Dog" = some "Cat" ∧
    (textMapping d.mapping).entries?.bind (Value.lookup "Dog") = some (.str "Dog") ∧
    Codec.decode p.contracts "Pet" (.ofFields [("kind", .str "Dog")]) =
      .ok (.record "Dog" [("kind", .str "Dog")]) := by
  have some : (run? (catsAndDogs [("Dog", .str "Cat")]) none "pets" {}).any (fun p =>
      p.document.isJson && (p.taggedBy? [("Dog", "Cat"), ("Dog", "Dog")]).isSome &&
        (Codec.decode p.contracts "Pet" (.ofFields [("kind", .str "Dog")])).toOption.any
          (Value.record "Dog" [("kind", .str "Dog")]).identical) = true := by
    decide +kernel
  obtain ⟨p, -, some⟩ := (Option.any_eq_true _ _).mp some
  obtain ⟨some, decodes⟩ := (Bool.and_eq_true _ _).mp some
  obtain ⟨json, some⟩ := (Bool.and_eq_true _ _).mp some
  obtain ⟨d, found⟩ := Option.isSome_iff_exists.mp some
  obtain ⟨occurs, mapping⟩ := discriminates_of_taggedBy? found
  obtain ⟨v, ok, same⟩ := (Option.any_eq_true _ _).mp decodes
  refine ⟨p, d, json, occurs, mapping, ?_, ?_, ?_, ?_⟩
  · rw [mapping]
    decide
  · rw [Discriminator.target, mapping]
    rfl
  · rw [lookup_textMapping, mapping]
    rfl
  · rw [toOption_eq_some.mp ok, Value.eq_of_identical same]

end

end Pipeline

end WireModel
