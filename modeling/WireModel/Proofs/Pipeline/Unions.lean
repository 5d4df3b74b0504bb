import WireModel.Proofs.Codec.Termination
import WireModel.Proofs.Pipeline
import WireModel.Proofs.Plan.Existence
import WireModel.Proofs.Table.Invariants

/-!
# Unions that lead to unions

A union is tested by its options, and a reference to it by the predicate of the reference. That
predicate is selected on a walk through unions which leaves out every union that it is already
inside of, so where unions lead back to themselves it is not the union's own list of options. It
takes the same values for all that, because what a value needs is one path to a type that decides,
and a shortest one passes no union twice.

* **`exists_option_iff`**: an option of a union takes a value exactly if a variant has its shape.
* **`reference_accepts_iff`**: a reference to a union takes what the union takes, which is what one
  of its variants takes by itself.

Decoding has no such set of unions that it is inside of. A union that leads back to itself may hand
a value on for ever, but nothing else can.

* **`decode_ends`**: if no chain of unions returns to its start, decoding ends for every value.
-/

namespace WireModel

open Types (WireType)

/-- A value has the shape of a reference to a union exactly if it has that of a variant. -/
theorem Table.hasShape_union_iff {table : Table} {takes : RecordReading} {v : Value} {name : String}
    {u : UnionModel} (found : table.get? name = some (.union u)) :
    table.HasShape takes v (.model name) ↔ ∃ t ∈ u.variants, table.HasShape takes v t := by
  constructor
  · intro shape
    cases shape with
    | record other _ =>
      rw [found] at other
      cases other
    | named same mem shape =>
      rw [found] at same
      cases same
      exact ⟨_, mem, shape⟩
  · rintro ⟨t, mem, shape⟩
    exact .named found mem shape

/-- By induction on the variants. -/
theorem Plan.ImplementsAll.exists_option_iff {table : Table} {v : Value} {ts : List WireType}
    {options : List (Predicate × Plan)} (h : ImplementsAll table ts options) :
    options.any (fun option => option.1.holdsOfWire v) = true ↔
      ∃ t ∈ ts, table.HasShape .wire v t := by
  induction ts generalizing options with
  | nil =>
    cases h
    simp
  | cons t rest ih =>
    obtain ⟨p, plan, others, rfl, first, -, later⟩ := h
    rw [List.any_cons, Bool.or_eq_true, ih later, Predicate.holdsOfWire_eq,
      Table.predicateFor_holds_iff first, List.exists_mem_cons_iff]

namespace Pipeline

/-- All types of a table refer to its models only: a table with other names is refused. -/
theorem closed (p : Pipeline) : p.table.Closed := by
  obtain ⟨ignored, models, first, b⟩ := Table.exists_building p.builds
  exact b.refs_mem_of_occurs

/-- **A reference to a union takes what the union takes.** Unions may refer to one another and to
themselves. The predicate of a reference to a union without a discriminator is the one that the walk
without a bound selects, and it takes a value exactly if the test of the union does, which is to say
exactly if the predicate of some variant does that is derived by itself. All of them exist, and what
they take are the values of the union's shape. -/
theorem reference_accepts_iff (p : Pipeline) {name : String} {u : UnionModel}
    (found : p.table.get? name = some (.union u)) (untagged : u.discriminator = none) (v : Value) :
    (∀ t ∈ u.variants, ∃ q, Contract.predicateFor p.table t = .ok q) ∧
    ∃ q held, Contract.predicateFor p.table (.model name) = .ok q ∧
      Contract.Selects p.table [] (.model name) q ∧
      Codec.isInstance? p.contracts name v = some held ∧
      q.holdsOfWire v = held ∧
      (held = true ↔ p.table.HasShape .wire v (.model name)) ∧
      (held = true ↔ ∃ t ∈ u.variants, ∃ r, Contract.predicateFor p.table t = .ok r ∧
        r.holdsOfWire v = true) := by
  have occurs := Table.Occurs.of_get? found
  have selected : ∀ t ∈ u.variants, ∃ q, Contract.predicateFor p.table t = .ok q := by
    intro t mem
    obtain ⟨q, derived, -⟩ := Contract.predicateFor_selects p.closed (.variant occurs mem)
    exact ⟨q, derived⟩
  refine ⟨selected, ?_⟩
  have known : name ∈ p.table.names := Table.mem_names_iff.mpr ⟨_, found⟩
  obtain ⟨q, derived, selects⟩ := Contract.modelPredicate_selects p.closed List.nodup_nil nofun
    (Nat.le_refl _) known
  obtain ⟨c, contracted, implements⟩ := p.implement.some found
  cases implements with
  | @union _ c _ body =>
    rw [UnionModel.type, untagged] at body
    obtain ⟨options, description, same, all⟩ := body
    have tested : Codec.isInstance? p.contracts name v =
        some (options.any fun option => option.1.holdsOfWire v) := by
      rw [Codec.isInstance?, contracted, Option.map_some]
      dsimp only
      rw [same]
    -- The options of the union, the reference and the variants by themselves are all compared with
    -- the shape of a value: a derivation of that is finite, wherever the walks through unions stop.
    have shape : options.any (fun option => option.1.holdsOfWire v) = true ↔
        p.table.HasShape .wire v (.model name) := by
      rw [all.exists_option_iff, Table.hasShape_union_iff found]
    have taken {t : WireType} {q : Predicate} (derived : Contract.predicateFor p.table t = .ok q) :
        q.holdsOfWire v = true ↔ p.table.HasShape .wire v t := by
      rw [Predicate.holdsOfWire_eq, Table.predicateFor_holds_iff derived]
    refine ⟨q, _, derived, selects, tested, ?_, shape, ?_⟩
    · rw [Bool.eq_iff_iff, shape, taken (t := .model name) derived]
    · rw [all.exists_option_iff]
      constructor
      · rintro ⟨t, mem, here⟩
        obtain ⟨r, own⟩ := selected t mem
        exact ⟨t, mem, r, own, (taken own).mpr here⟩
      · rintro ⟨t, mem, r, own, takes⟩
        exact ⟨t, mem, (taken own).mp takes⟩

/-! ## Unions in a circle -/

/-- Two unions that lead to each other, and the second one to itself. -/
def circleDocument : Value :=
  .ofFields [("definitions", .ofFields [
    ("Left", .ofFields [("anyOf", .list [ref "Right", .ofFields [("type", .str "string")]])]),
    ("Right", .ofFields [("anyOf", .list [ref "Right", ref "Left",
      .ofFields [("type", .str "integer")]])])])]
where
  ref (name : String) : Value := .ofFields [("$ref", .str ("#/definitions/" ++ name))]

/-- What the stages make of the circle. -/
def circle : Pipeline := (run? circleDocument none "circle" {}).get (by decide +kernel)

/-- A union of a table that has no discriminator. -/
def untagged? (p : Pipeline) (name : String) : Option UnionModel :=
  match p.table.get? name with
  | some (.union u) => if u.discriminator = none then some u else none
  | _ => none

theorem eq_of_untagged? {p : Pipeline} {name : String} {u : UnionModel}
    (h : p.untagged? name = some u) :
    p.table.get? name = some (.union u) ∧ u.discriminator = none := by
  unfold untagged? at h
  split at h
  · rename_i v found
    split at h
    · rename_i plain
      cases h
      exact ⟨found, plain⟩
    · cases h
  · cases h

/-- `Right` takes texts, which only `Left` has an option for, and no instances of models. -/
theorem circle_takes_texts : ∃ u, circle.table.get? "Right" = some (.union u) ∧
    u.discriminator = none ∧ ∃ q, Contract.predicateFor circle.table (.model "Right") = .ok q ∧
      q.holdsOfWire (.str "x") = true ∧ q.holdsOfWire (.record "Right" []) = false := by
  have tests : (circle.untagged? "Right").isSome = true ∧
      Codec.isInstance? circle.contracts "Right" (.str "x") = some true ∧
      Codec.isInstance? circle.contracts "Right" (.record "Right" []) = some false := by
    decide +kernel
  obtain ⟨known, text, instanced⟩ := tests
  obtain ⟨u, known⟩ := Option.isSome_iff_exists.mp known
  obtain ⟨found, plain⟩ := eq_of_untagged? known
  obtain ⟨-, q, held, derived, -, tested, taken, -⟩ :=
    reference_accepts_iff circle found plain (.str "x")
  obtain ⟨-, q', held', derived', -, tested', taken', -⟩ :=
    reference_accepts_iff circle found plain (.record "Right" [])
  refine ⟨u, found, plain, q, derived, ?_, ?_⟩
  · rw [taken]
    exact Option.some.inj (tested.symm.trans text)
  · obtain rfl := Except.ok.inj (derived.symm.trans derived')
    rw [taken']
    exact Option.some.inj (tested'.symm.trans instanced)

/-! ## Chains of unions -/

/-- **Decoding ends.** If no chain of unions, each a variant of the one before or what its
discriminator leads to, returns to its start, then decoding a value as any model has an outcome,
however models refer to each other through fields and discriminators. One unit of fuel is spent on
each model that a decoder is inside of; as many of them as the value is deep, times two more than
there are unions, are always enough, and with more of them the outcome is the same. -/
theorem decode_ends (p : Pipeline) (acyclic : p.table.UnionsAcyclic) (name : String)
    (ignoring : Bool) (d : Value) :
    (Codec.decode p.contracts name d ignoring).Ends ∧
    ∀ fuel, (d.depth + 1) * (p.table.unions.length + 2) ≤ fuel →
      (∀ path, (Codec.decodeModel p.contracts fuel name ignoring d path).Ends) ∧
      (d.isNull = false → d.isUnset = false →
        Codec.decode p.contracts name d ignoring =
          Codec.decodeModel p.contracts fuel name ignoring d ⟨name, []⟩) := by
  have final {fuel : Nat} (enough : (d.depth + 1) * (p.table.unions.length + 2) ≤ fuel)
      (path : Codec.Path) :=
    Codec.decodeModel_final p.wellFormed p.implement acyclic name ignoring d path enough
  constructor
  · rw [Codec.decode]
    split
    · exact .ok
    · obtain ⟨ends, same⟩ := final (Nat.le_refl _) ⟨name, []⟩
      rw [same] at ends
      exact ends
  · intro fuel enough
    refine ⟨fun path => (final enough path).1, fun some set => ?_⟩
    rw [Codec.decode, some, set, (final enough ⟨name, []⟩).2]
    rfl

/-- Nodes lead to nodes, and what they hold is a text, a number, a node or an animal. Animals are a
family of three generations. -/
def nodesDocument : Value :=
  .ofFields [("definitions", .ofFields [
    ("Node", .ofFields [("type", .str "object"), ("properties", .ofFields [
      ("next", ref "Node"), ("holds", ref "Held")])]),
    ("Held", .ofFields [("anyOf", .list [ref "Plain", ref "Animal", ref "Node"])]),
    ("Plain", .ofFields [("anyOf", .list [.ofFields [("type", .str "string")],
      .ofFields [("type", .str "number")]])]),
    ("Animal", .ofFields [("type", .str "object"), ("required", .ofTexts ["kind"]),
      ("properties", .ofFields [("kind", .ofFields [("type", .str "string")])]),
      ("discriminator", .ofFields [("propertyName", .str "kind")])]),
    ("Cat", .ofFields [("allOf", .list [ref "Animal",
      .ofFields [("type", .str "object"), ("properties", .ofFields [("prey", ref "Held")])]])]),
    ("Tabby", .ofFields [("allOf", .list [ref "Cat"])])])]
where
  ref (name : String) : Value := .ofFields [("$ref", .str ("#/definitions/" ++ name))]

/-- What the stages make of nodes. -/
def nodes : Pipeline := (run? nodesDocument none "nodes" {}).get (by decide +kernel)

/-- A node that holds a cat in its next one, and the cat holds a text. -/
def nestedNode : Value :=
  .ofFields [("next", .ofFields [("holds", .ofFields [
    ("kind", .str "Tabby"), ("prey", .str "mouse")])])]

/-- `Held` leads to `Plain` and no union leads on from there. -/
theorem nodes_end : nodes.table.UnionsAcyclic ∧
    (Codec.decode nodes.contracts "Node" nestedNode).Ends ∧
    Codec.decode nodes.contracts "Node" nestedNode =
      Codec.decodeModel nodes.contracts 100 "Node" false nestedNode ⟨"Node", []⟩ := by
  have acyclic : nodes.table.UnionsAcyclic := by
    refine Table.unionsAcyclic_of_descends (fun name => if name = "Held" then 1 else 0) ?_
    decide +kernel
  have enough : (nestedNode.depth + 1) * (nodes.table.unions.length + 2) ≤ 100 := by
    decide +kernel
  obtain ⟨ends, final⟩ := decode_ends nodes acyclic "Node" false nestedNode
  exact ⟨acyclic, ends, (final 100 enough).2 rfl rfl⟩

end Pipeline
end WireModel
