import WireModel.Proofs.Codec.Decoding
import WireModel.Proofs.Codec.RoundTrip
import WireModel.Proofs.Pipeline

/-!
# Codecs of the stages

What the contracts of a pipeline decode and encode, for every table that the stages make.

* **`decode_ok_iff_conforms`**: decoding accepts exactly the wire forms that conform to the table.
  Conformance is a least relation, so this holds for tables with unions that lead back to
  themselves as well: such a union allows nothing, and its decoder accepts nothing.
* **`encode_of_decode_ok`**: in a table where unions and discriminators do not mix, whatever a model
  is decoded from is encoded again, without the keys that the chosen records do not have and up to
  the order of keys. What is absent stays absent, also where a schema has a default, and null stays
  null.
* **`union_encodes_iff_writable`**: the encoder of an undiscriminated union gives something plain
  exactly for what the table can write, which is everything it decodes if unions and discriminators
  do not mix. Decoding picks the first variant whose shape the wire form has, and encoding the first
  one whose shape the instance has. A variant that is the root of a family is read for its members
  as well, but has only the shape of its own instances; a member of the family is then taken by no
  variant, or by a later one that takes everything.
-/

namespace WireModel.Pipeline

open Types (WireType)

/-! ## Decoding -/

/-- Decoding a JSON value as a model succeeds exactly if the value is null, which stays as it is,
or conforms to the model. -/
theorem decode_ok_iff_conforms (p : Pipeline) (name : String) (ignoring : Bool) (d : Value)
    (json : d.isJson = true) :
    (∃ v, Codec.decode p.contracts name d ignoring = .ok v) ↔
      d = .null ∨ p.table.Conforms ignoring (.model name) d :=
  Codec.exists_decode_ok_iff p.wellFormed p.implement json

/-- A document with a family, `Pet` with the member `Cat`, and an alternative of the family and
texts. -/
def familyDocument : Value :=
  .ofFields [("openapi", .str "3.0.0"), ("components", .ofFields [("schemas", .ofFields [
    ("Pet", .ofFields [("type", .str "object"), ("required", .ofTexts ["petType"]),
      ("properties", .ofFields [("petType", .ofFields [("type", .str "string")])]),
      ("discriminator", .ofFields [("propertyName", .str "petType")])]),
    ("Cat", .ofFields [("allOf", .list [.ofFields [("$ref", .str "#/components/schemas/Pet")],
      .ofFields [("type", .str "object"),
        ("properties", .ofFields [("lives", .ofFields [("type", .str "integer")])])]])]),
    ("Thing", .ofFields [("oneOf", .list [.ofFields [("$ref", .str "#/components/schemas/Pet")],
      .ofFields [("type", .str "string")]])])])])]

/-- What the stages make of the family. -/
def family : Pipeline := (run? familyDocument none "family" {}).get (by decide +kernel)

/-- The wire form of a cat. -/
def cat : Value := .ofFields [("petType", .str "Cat"), ("lives", .int 9)]

/-- A cat conforms to `Pet`, because it decodes. -/
theorem cat_conforms :
    cat.isJson = true ∧ (Codec.decode family.contracts "Pet" cat).isOk = true ∧
      family.table.Conforms false (.model "Pet") cat := by
  have decodes : (Codec.decode family.contracts "Pet" cat).isOk = true := by decide +kernel
  refine ⟨by decide +kernel, decodes, ?_⟩
  obtain ⟨v, hv⟩ := exists_of_isOk decodes
  rcases (decode_ok_iff_conforms family "Pet" false cat (by decide +kernel)).mp ⟨v, hv⟩ with
    null | conforms
  · cases null
  · exact conforms

/-! ## Encoding -/

/-- A wire form that decodes is encoded again, with the same flag: what comes back is what the
decoded value keeps of it, so everything if no key is lost. -/
theorem encode_of_decode_ok (p : Pipeline) (untangled : p.table.Untangled) (name : String)
    (ignoring : Bool) (d v : Value) (json : d.isJson = true)
    (decoded : Codec.decode p.contracts name d ignoring = .ok v) :
    ∃ e, Codec.encode p.contracts name v ignoring = .ok e ∧
      e.Reordered (p.table.kept d v) ∧ (p.table.extras d v = [] → e.Reordered d) := by
  suffices ∃ e, Codec.encode p.contracts name v ignoring = .ok e ∧
      e.Reordered (p.table.kept d v) by
    obtain ⟨e, he, reordered⟩ := this
    refine ⟨e, he, reordered, fun complete => ?_⟩
    rwa [Table.kept_of_extras_eq_nil complete] at reordered
  by_cases null : d = .null
  · subst null
    cases decoded
    exact ⟨.null, rfl, .refl⟩
  · have reads := Codec.reads_of_decode_ok p.wellFormed p.implement json null decoded
    obtain ⟨e, he, reordered⟩ := (Codec.written_of_reads p.wellFormed p.implement untangled
      p.plainEnums reads (.inl ⟨name, rfl⟩) json).model name rfl ⟨name, []⟩
    have some : v ≠ .null := by
      rintro rfl
      exact null (reads.eq_of_isPlain rfl).symm
    have set : v ≠ .unset := by
      intro unset
      exact Codec.ne_unset_of_isJson json (reads.unset unset)
    exact ⟨e, by rw [Codec.encode_eq_encoders some set, he], reordered⟩

/-- A document with two kinds of pets; what a cat likes is a text or a list of numbers. -/
def petsDocument : Value :=
  .ofFields [("openapi", .str "3.0.0"), ("components", .ofFields [("schemas", .ofFields [
    ("Cat", .ofFields [("type", .str "object"), ("required", .ofTexts ["kind"]),
      ("properties", .ofFields [("kind", .ofFields [("type", .str "string")]),
        ("name", .ofFields [("type", .str "string"), ("nullable", .bool true)]),
        ("lives", .ofFields [("type", .str "integer"), ("default", .int 9)]),
        ("likes", .ofFields [("oneOf", .list [.ofFields [("type", .str "string")],
          .ofFields [("type", .str "array"),
            ("items", .ofFields [("type", .str "integer")])]])])])]),
    ("Dog", .ofFields [("type", .str "object"), ("required", .ofTexts ["kind"]),
      ("properties", .ofFields [("kind", .ofFields [("type", .str "string")])])]),
    ("Pet", .ofFields [("oneOf", .list [.ofFields [("$ref", .str "#/components/schemas/Cat")],
        .ofFields [("$ref", .str "#/components/schemas/Dog")]]),
      ("discriminator", .ofFields [("propertyName", .str "kind"), ("mapping", .ofFields [
        ("cat", .str "#/components/schemas/Cat"), ("dog", .str "Dog")])])])])])]

/-- What the stages make of the pets. -/
def pets : Pipeline := (run? petsDocument none "pets" {}).get (by decide +kernel)

/-- The wire form of a cat without a name, with a key that no cat has. -/
def tom : Value :=
  .ofFields [("name", .null), ("kind", .str "cat"), ("likes", .list [.int 1, .int 2]),
    ("owner", .str "Ann")]

/-- A cat comes back through `Pet`, because pets are told apart by their kind alone. -/
theorem tom_returns : pets.table.Untangled ∧ tom.isJson = true ∧ ∃ v e,
    Codec.decode pets.contracts "Pet" tom = .ok v ∧ Codec.encode pets.contracts "Pet" v = .ok e ∧
      e.Reordered (pets.table.kept tom v) := by
  have untangled : pets.table.Untangled :=
    Table.untangled_of_isUntangled (by decide +kernel)
  have json : tom.isJson = true := by decide +kernel
  have decodes : (Codec.decode pets.contracts "Pet" tom).isOk = true := by decide +kernel
  obtain ⟨v, hv⟩ := exists_of_isOk decodes
  obtain ⟨e, he, reordered, -⟩ := encode_of_decode_ok pets untangled "Pet" false tom v json hv
  exact ⟨untangled, json, v, e, hv, he, reordered⟩

/-! ## Undiscriminated unions -/

/-- What an undiscriminated union has decoded is encoded, without an instance or anything unset
in the result, exactly if the table can write it by the union. That is so for all unions of a
table in which unions and discriminators do not mix. -/
theorem union_encodes_iff_writable (p : Pipeline) {context : String} {name : Option String}
    {mode : Schema.Combination} {variants : List WireType} {plan : Plan}
    (planned : (Contract.planOf p.table context (.union name mode none variants)).outcome.1 =
      .ok plan)
    {d v : Value} (json : d.isJson = true) {path : Codec.Path}
    (decoded : (plan.decoder (Codec.decoders p.contracts)).run d path = .ok v) :
    ((∃ e, (plan.encoder (Codec.encoders p.contracts)).run v path = .ok e ∧ e.isPlain = true) ↔
      p.table.Writable false (.union name mode none variants) v) ∧
    (p.table.Untangled → p.table.Occurs (.union name mode none variants) →
      p.table.Writable false (.union name mode none variants) v) := by
  have hp := Plan.planOf_implements (Logged.gives_of_outcome planned)
  have only : ∀ e, (plan.encoder (Codec.encoders p.contracts)).run v path = .ok e →
      e.isPlain = true → p.table.Writable false (.union name mode none variants) v := by
    intro e encoded plain
    refine Codec.writable_of_encoder (fun name ignoring v e path h => ?_) hp encoded plain
    exact Codec.writable_of_encodeModel p.wellFormed p.implement _ name ignoring v e path h
  refine ⟨⟨fun ⟨e, encoded, plain⟩ => only e encoded plain, fun writable => ?_⟩, ?_⟩
  · exact (Codec.written_of_writable p.wellFormed p.implement writable).plan plan hp rfl path
  · intro untangled occurs
    -- an untangled table writes all that it has read
    have reads : p.table.Reads false (.union name mode none variants) d v := by
      refine Codec.reads_of_decoder (fun name ignoring d v path json h => ?_) hp json decoded
      exact Codec.reads_of_decodeModel p.wellFormed p.implement _ name ignoring d v path json h
    obtain ⟨e, encoded, reordered⟩ := (Codec.written_of_reads p.wellFormed p.implement untangled
      p.plainEnums reads (.inr occurs) json).plan plan hp rfl path
    refine only e encoded (reordered.isPlain ?_)
    exact Table.isPlain_kept (Value.isPlain_of_isJson json)

/-- The plan of an undiscriminated union, with what it decodes a value as. -/
def decodedByUnion? (p : Pipeline) (name : String) (d : Value) : Option (Plan × Value) :=
  match p.table.get? name with
  | some (.union ⟨_, mode, none, variants⟩) =>
    match (Contract.planOf p.table name (.union (some name) mode none variants)).outcome.1 with
    | .ok plan =>
      ((plan.decoder (Codec.decoders p.contracts)).run d ⟨name, []⟩).toOption.map fun v => (plan, v)
    | .error _ => none
  | _ => none

theorem exists_of_decodedByUnion? {p : Pipeline} {name : String} {d v : Value} {plan : Plan}
    (h : p.decodedByUnion? name d = some (plan, v)) :
    ∃ mode variants, p.table.Occurs (.union (some name) mode none variants) ∧
      (Contract.planOf p.table name (.union (some name) mode none variants)).outcome.1 = .ok plan ∧
      (plan.decoder (Codec.decoders p.contracts)).run d ⟨name, []⟩ = .ok v := by
  unfold decodedByUnion? at h
  split at h
  · rename_i n mode variants found
    split at h
    · rename_i q planned
      obtain ⟨w, decoded, same⟩ := Option.map_eq_some_iff.mp h
      cases same
      have own : n = name := by simpa [Model.name] using Table.name_of_get? found
      subst own
      exact ⟨mode, variants, .of_get? found, planned, toOption_eq_some.mp decoded⟩
    · cases h
  · cases h

/-- The wire form of a pet that is no cat. -/
def pet : Value := .ofFields [("petType", .str "Pet")]

/-- A pet is decoded as a thing and can be written as one, because it is encoded. -/
theorem pet_is_written : ∃ mode variants plan v,
    (Contract.planOf family.table "Thing" (.union (some "Thing") mode none variants)).outcome.1 =
      .ok plan ∧ pet.isJson = true ∧
    (plan.decoder (Codec.decoders family.contracts)).run pet ⟨"Thing", []⟩ = .ok v ∧
    family.table.Writable false (.union (some "Thing") mode none variants) v := by
  have written : (family.decodedByUnion? "Thing" pet).any (fun (plan, v) =>
      ((plan.encoder (Codec.encoders family.contracts)).run v ⟨"Thing", []⟩).toOption.any
        Value.isPlain) = true := by
    decide +kernel
  obtain ⟨⟨plan, v⟩, found, encodes⟩ := (Option.any_eq_true _ _).mp written
  obtain ⟨e, encoded, plain⟩ := (Option.any_eq_true _ _).mp encodes
  obtain ⟨mode, variants, -, planned, decoded⟩ := exists_of_decodedByUnion? found
  have json : pet.isJson = true := by decide +kernel
  refine ⟨mode, variants, plan, v, planned, json, decoded, ?_⟩
  exact (union_encodes_iff_writable family planned json decoded).1.mp
    ⟨e, toOption_eq_some.mp encoded, plain⟩

/-- A cat is decoded as a thing, because every cat is a pet; but it is no instance of `Pet`, and
no text, so it is not encoded. -/
theorem cat_is_lost : ∃ mode variants plan v,
    family.table.Occurs (.union (some "Thing") mode none variants) ∧
    (Contract.planOf family.table "Thing" (.union (some "Thing") mode none variants)).outcome.1 =
      .ok plan ∧ cat.isJson = true ∧
    (plan.decoder (Codec.decoders family.contracts)).run cat ⟨"Thing", []⟩ = .ok v ∧
    ∀ e, (plan.encoder (Codec.encoders family.contracts)).run v ⟨"Thing", []⟩ ≠ .ok e := by
  have lost : (family.decodedByUnion? "Thing" cat).any (fun (plan, v) =>
      !((plan.encoder (Codec.encoders family.contracts)).run v ⟨"Thing", []⟩).isOk) = true := by
    decide +kernel
  obtain ⟨⟨plan, v⟩, found, lost⟩ := (Option.any_eq_true _ _).mp lost
  obtain ⟨mode, variants, occurs, planned, decoded⟩ := exists_of_decodedByUnion? found
  refine ⟨mode, variants, plan, v, occurs, planned, by decide +kernel, decoded, fun e encoded => ?_⟩
  dsimp only at lost
  rw [encoded] at lost
  cases lost

end WireModel.Pipeline
