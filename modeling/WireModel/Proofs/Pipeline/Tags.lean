import WireModel.Proofs.Codec.Refusals
import WireModel.Proofs.Pipeline

/-!
# Tags that a union declares

A discriminated union hands a mapping to the model that its tag leads to. If that model is the root
of a family, it asks for a tag once more, by its own discriminator, and this one may not know the tag
that has led there: then the mapping is refused at its own place, although the union lists its tag
(`Pipeline.feline_is_refused`).

This is so exactly if the table refuses the mapping as the model that the tag leads to. No mapping is
refused if each model tells the tags that lead to it, and if the union leads to records only that is
necessary as well.
-/

namespace WireModel.Pipeline

open Schema (Discriminator)
open Types (WireType)

/-- A mapping with a tag that a discriminated union lists is refused at its own place, by the plan of
the union and by decoding the union of that name, exactly if the model that the tag leads to refuses
it. If the union leads to records only, as those with a name do, then no such mapping is refused
exactly if all these records tell the tags that lead to them. -/
theorem declared_tag_refused_iff (p : Pipeline) {context : String} {name : Option String}
    {mode : Schema.Combination} {d : Discriminator} {variants : List WireType} {plan : Plan}
    (planned : (Contract.planOf p.table context (.union name mode (some d) variants)).outcome.1 =
      .ok plan)
    {members : List (Value × Value)} {tag : String} (listed : tag ∈ d.mapping.map Prod.fst)
    (there : Value.lookup d.property members = some (.str tag)) (path : Codec.Path) :
    (∃ target, d.mapping.reverse.lookup tag = some target ∧
      (((plan.decoder (Codec.decoders p.contracts)).run (.map members) path).RefusedAt path ↔
        p.table.Refuses members false (.model target)) ∧
      ∀ u, p.table.get? u.name = some (.union u) → u.discriminator = some d →
        ((Codec.decode p.contracts u.name (.map members)).RefusedAt ⟨u.name, []⟩ ↔
          p.table.Refuses members false (.model target))) ∧
    (∀ m ∈ p.table.models, m.discriminator = some d →
      ∀ entry ∈ d.mapping, ∃ r, p.table.record? entry.2 = some r) ∧
    ((∀ entry ∈ d.mapping, ∃ r, p.table.record? entry.2 = some r) →
      ((∀ members tag path, (Value.map members).isJson = true → tag ∈ d.mapping.map Prod.fst →
          Value.lookup d.property members = some (.str tag) →
          ¬((plan.decoder (Codec.decoders p.contracts)).run (.map members) path).RefusedAt path) ↔
        ∀ tag target r, d.mapping.reverse.lookup tag = some target →
          p.table.record? target = some r → Table.Tells d.property tag r)) := by
  have hp := Plan.planOf_implements (Logged.gives_of_outcome planned)
  -- a plan refuses what the table does, whatever the path
  have refuses : ∀ {members tag target} path, Value.lookup d.property members = some (.str tag) →
      d.mapping.reverse.lookup tag = some target →
      (((plan.decoder (Codec.decoders p.contracts)).run (.map members) path).RefusedAt path ↔
        p.table.Refuses members false (.model target)) := by
    intro members tag target path there leads
    have chosen := Table.chosen_eq_some_iff.mpr ⟨tag, there, leads⟩
    rw [Codec.decoder_refuses_iff p.wellFormed p.implement hp, Table.refuses_tagged_iff chosen]
  refine ⟨?_, ?_, fun records => ?_⟩
  · obtain ⟨target, leads⟩ := Table.exists_of_listed listed
    refine ⟨target, leads, refuses path there leads, fun u found tagged => ?_⟩
    have chosen := Table.chosen_eq_some_iff.mpr ⟨tag, there, leads⟩
    rw [Codec.decode_refuses_iff p.wellFormed p.implement, Table.refuses_named_iff found,
      UnionModel.type, tagged, Table.refuses_tagged_iff chosen]
  · intro m mem tagged entry listed
    obtain ⟨r, found⟩ := p.wellFormed.targets mem tagged listed
    exact ⟨r, Table.record?_eq_some.mpr found⟩
  · rw [← Table.never_refused_iff records]
    constructor
    · intro never members target json chosen refused
      obtain ⟨tag, there, leads⟩ := Table.chosen_eq_some_iff.mp chosen
      have entry : (tag, target) ∈ d.mapping := List.mem_reverse.mp (Table.mem_of_lookup leads)
      have listed : tag ∈ d.mapping.map Prod.fst := List.mem_map.mpr ⟨_, entry, rfl⟩
      exact never members tag ⟨"", []⟩ json listed there ((refuses _ there leads).mpr refused)
    · intro never members tag path json listed there refused
      obtain ⟨target, leads⟩ := Table.exists_of_listed listed
      have chosen := Table.chosen_eq_some_iff.mpr ⟨tag, there, leads⟩
      exact never members target json chosen ((refuses path there leads).mp refused)

/-! ## A feline -/

/-- Cats are the root of a family, and pets call them feline. -/
def felines : Value :=
  .ofFields [("definitions", .ofFields [("Cat", .ofFields (animal ++ [("discriminator",
      .ofFields [("propertyName", .str "kind")])])), ("Dog", .ofFields animal),
    ("Tabby", .ofFields [("allOf", .list [ref "Cat"])]),
    ("Pet", .ofFields [("oneOf", .list [ref "Cat", ref "Dog"]),
      ("discriminator", .ofFields [("propertyName", .str "kind"),
        ("mapping", .ofFields [("feline", .str "Cat")])])])])]
where
  animal : List (String × Value) := [("type", .str "object"), ("required", .ofTexts ["kind"]),
    ("properties", .ofFields [("kind", .ofFields [("type", .str "string")])])]
  ref (name : String) : Value := .ofFields [("$ref", .str ("#/definitions/" ++ name))]

/-- The tags of pets. -/
def petTags : Discriminator := ⟨"kind", [("feline", "Cat"), ("Dog", "Dog")]⟩

/-- A pet that says what it is. -/
def sayingKind (kind : String) : List (Value × Value) := [(.str "kind", .str kind)]

/-- The union of pets, if it has their tags. -/
def pets? (p : Pipeline) : Option UnionModel :=
  match p.table.get? "Pet" with
  | some (.union u) => if u.discriminator = some petTags ∧ u.name = "Pet" then some u else none
  | _ => none

theorem eq_of_pets? {p : Pipeline} {u : UnionModel} (h : p.pets? = some u) :
    p.table.get? "Pet" = some (.union u) ∧ u.discriminator = some petTags ∧ u.name = "Pet" := by
  unfold pets? at h
  split at h
  · rename_i v found
    split at h
    · rename_i both
      cases h
      exact ⟨found, both⟩
    · cases h
  · cases h

/-- Whether an outcome is that a kind is unknown at a place. -/
def isUnknownKind (kind root : String) : Codec.Outcome Value → Bool
  | .error ⟨.unknownTag property (.str k), ⟨r, []⟩⟩ => property == "kind" && k == kind && r == root
  | _ => false

theorem eq_of_isUnknownKind {kind root : String} {x : Codec.Outcome Value}
    (h : isUnknownKind kind root x = true) :
    x = .error ⟨.unknownTag "kind" (.str kind), ⟨root, []⟩⟩ := by
  unfold isUnknownKind at h
  split at h
  · simp only [Bool.and_eq_true, beq_iff_eq] at h
    obtain ⟨⟨rfl, rfl⟩, rfl⟩ := h
    rfl
  · cases h

/-- **A feline is refused.** Pets list the tag of felines, which leads to cats; but cats are the root
of a family that is told apart by the same property, and there nobody is called feline. Encoding does
not ask a second time. -/
theorem feline_is_refused : ∃ (p : Pipeline) (u : UnionModel),
    p.document.isJson = true ∧ p.table.get? "Pet" = some (.union u) ∧
    u.discriminator = some petTags ∧
    Codec.decode p.contracts "Pet" (.map (sayingKind "feline")) =
      .error ⟨.unknownTag "kind" (.str "feline"), ⟨"Pet", []⟩⟩ ∧
    Codec.encode p.contracts "Pet" (.record "Cat" [("kind", .str "feline")]) =
      .ok (.map (sayingKind "feline")) := by
  have refused : (run? felines none "pets" {}).any (fun p =>
      p.document.isJson && p.pets?.isSome &&
        isUnknownKind "feline" "Pet"
          (Codec.decode p.contracts "Pet" (.map (sayingKind "feline"))) &&
        (Codec.encode p.contracts "Pet" (.record "Cat" [("kind", .str "feline")])).toOption.any
          (Value.map (sayingKind "feline")).identical) = true := by
    decide +kernel
  obtain ⟨p, -, refused⟩ := (Option.any_eq_true _ _).mp refused
  simp only [Bool.and_eq_true] at refused
  obtain ⟨⟨⟨json, pets⟩, decoded⟩, encoded⟩ := refused
  obtain ⟨u, found⟩ := Option.isSome_iff_exists.mp pets
  obtain ⟨found, tagged, -⟩ := eq_of_pets? found
  obtain ⟨v, ok, same⟩ := (Option.any_eq_true _ _).mp encoded
  refine ⟨p, u, json, found, tagged, eq_of_isUnknownKind decoded, ?_⟩
  rw [toOption_eq_some.mp ok, Value.eq_of_identical same]

/-- A pet that is called feline is refused because cats refuse it. -/
theorem cats_refuse_felines : ∃ (p : Pipeline) (u : UnionModel) (plan : Plan),
    (Contract.planOf p.table "Pet" (.union (some "Pet") u.mode (some petTags) u.variants)).outcome.1 =
      .ok plan ∧ "feline" ∈ petTags.mapping.map Prod.fst ∧
    Value.lookup petTags.property (sayingKind "feline") = some (.str "feline") ∧
    p.table.Refuses (sayingKind "feline") false (.model "Cat") := by
  have refused : (run? felines none "pets" {}).any (fun p =>
      p.pets?.isSome && isUnknownKind "feline" "Pet"
        (Codec.decode p.contracts "Pet" (.map (sayingKind "feline")))) = true := by
    decide +kernel
  obtain ⟨p, -, refused⟩ := (Option.any_eq_true _ _).mp refused
  obtain ⟨pets, decoded⟩ := Bool.and_eq_true_iff.mp refused
  obtain ⟨u, found⟩ := Option.isSome_iff_exists.mp pets
  obtain ⟨found, tagged, name⟩ := eq_of_pets? found
  have listed : "feline" ∈ petTags.mapping.map Prod.fst := by decide
  have there : Value.lookup petTags.property (sayingKind "feline") = some (.str "feline") := rfl
  have planned : (Contract.planOf p.table "Pet"
      (.union (some "Pet") u.mode (some petTags) u.variants)).outcome.1 =
        .ok (.dispatch petTags.property petTags.mapping) := rfl
  obtain ⟨⟨target, leads, -, decodes⟩, -, -⟩ :=
    declared_tag_refused_iff p planned listed there ⟨"Pet", []⟩
  obtain rfl : "Cat" = target := Option.some.inj leads
  rw [← name] at found decoded
  have refuses := (decodes u found tagged).mp ⟨_, _, eq_of_isUnknownKind decoded⟩
  exact ⟨p, u, _, planned, listed, there, refuses⟩

end WireModel.Pipeline
