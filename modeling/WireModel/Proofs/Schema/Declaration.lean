import WireModel.Proofs.Schema.Extraction
import WireModel.Proofs.Schema.Parsing
import WireModel.Proofs.Schema.Relocation

/-!
# Declaring the schema of a property

In a document the schema of a property moves to the container of named schemas, and a reference
takes its place (`Extraction.Declares`). If both documents are read, this is what happens to their
schemas, too: `Extraction.Declares.extracts`. The property may be that of an object, that of an
object next to or among the members of an `allOf`, or one in the root of the document.
-/

namespace WireModel.Schema

open Logged (Tracks gives_pure_iff)

/-- The schema of a property that gets a name. -/
structure Extraction where
  /-- The named schema that has the property. -/
  owner : String
  property : String
  schema : Value
  /-- Where the schema stands. -/
  place : String
  /-- The name that it gets. -/
  name : String
  /-- A pointer to the name. -/
  pointer : String

/-- A schema that refers to another one. -/
def referenceTo (pointer : String) : Value := .ofFields [("$ref", .str pointer)]

/-! ## Readings of objects -/

/-- Whether the declared type is that of an object, or none; null may be allowed. -/
def isObjectType : Option Value → Bool
  | none => true
  | some (.str type) => type == "object"
  | some (.list types) =>
    match types.mapM Value.asStr? with
    | some names => names.filter (· != "null") == ["object"]
    | none => false
  | some _ => false

/-- Whether the members of a schema are those of an object and not overruled by others. -/
def isObjectAlone (members : Members) : Bool :=
  (combinationsOf members).isEmpty && !Value.hasKey "enum" members &&
    isObjectType (Value.lookup "type" members)

/-- Whether the members of a schema say nothing that overrules combinations and properties. -/
def isStructured (members : Members) : Bool :=
  !Value.hasKey "$ref" members && !Value.hasKey "const" members

/-! ## Documents -/

/-- A schema at a place, and the same one with a reference for the schema of the property. Members
that hold named schemas are not part of a schema. -/
inductive Extraction.Edits (x : Extraction) : String → Value → Value → Prop
  | property {path members members' key before after} :
      isStructured members = true →
      (isObjectAlone members || Value.hasKey "allOf" members) = true →
      AgreesBut ("properties" :: containerKeys) members members' →
      Value.lookup "properties" members = some (.map (before ++ (key, x.schema) :: after)) →
      Value.lookup "properties" members' =
        some (.map (before ++ (key, referenceTo x.pointer) :: after)) →
      key.keyText = x.property →
      x.place = path ++ "/properties/" ++ Pointer.escape x.property →
      Edits x path (.map members) (.map members')
  | member {path members members' before v v' after} :
      isStructured members = true →
      AgreesBut ("allOf" :: containerKeys) members members' →
      Value.lookup "allOf" members = some (.list (before ++ v :: after)) →
      Value.lookup "allOf" members' = some (.list (before ++ v' :: after)) →
      Edits x (path ++ "/allOf/" ++ Decimal.ofNat before.length) v v' →
      Edits x path (.map members) (.map members')

/-- The second of two documents has in its container of named schemas the given entries, which are
those of the first one but for changes, and the schema of the property under its name. -/
structure Extraction.Adds (x : Extraction) (document document' : Value) (path : String)
    (entries others : Members) : Prop where
  found : findContainer document = .ok (path, entries)
  distinct : (entries.map Prod.fst).Nodup
  found' : ∃ path' before after,
    findContainer document' = .ok (path', before ++ (.str x.name, x.schema) :: after) ∧
      before ++ after = others ∧ (others ≠ [] → path' = path)
  counts : isComment (.str x.name, x.schema) = false
  refers : targetOf none x.pointer = .ok x.name

/-- A document, and the same one in which the schema of the property has a name. The property is
one of the root of the document, or of a schema in the container. -/
inductive Extraction.Declares (x : Extraction) (requested : Option String) : Value → Value → Prop
  | root {members members' path entries} :
      rootNameOf members requested = some x.owner →
      x.Edits "#" (.map members) (.map members') →
      x.Adds (.map members) (.map members') path entries entries →
      Declares x requested (.map members) (.map members')
  | named {members members' path before v v' after} :
      AgreesBut containerKeys members members' →
      isComment (.str x.owner, v) = false →
      x.Edits (path ++ "/" ++ Pointer.escape x.owner) v v' →
      x.Adds (.map members) (.map members') path (before ++ (.str x.owner, v) :: after)
        (before ++ (.str x.owner, v') :: after) →
      Declares x requested (.map members) (.map members')

/-- The name of the root model, if the root of the document is one. -/
def rootOf (document : Value) (requested : Option String) : Option String :=
  document.entries?.bind fun members => rootNameOf members requested

/-! ## References -/

theorem targetOf_of_none (root : Option String) {pointer name : String}
    (h : targetOf none pointer = .ok name) : targetOf root pointer = .ok name := by
  unfold targetOf at h ⊢
  split at h
  · cases h
  · exact h
  · cases h
  · cases h

theorem readLayer_reference {root : Option String} {sub : NodeReader} {pointer name path : String}
    (refers : targetOf root pointer = .ok name) :
    readLayer root sub (referenceTo pointer) path = pure (.reference (.at path) pointer name) := by
  have nonempty : pointer.isEmpty = false := by
    rw [Bool.eq_false_iff]
    intro empty
    rw [String.isEmpty_iff.mp empty] at refers
    cases refers
  have read : readReference root (.str pointer) path = pure (pointer, name) := by
    simp only [readReference, Value.asStr?, nonempty, Bool.false_eq_true, if_false, refers]
  show readSchema root sub [(.str "$ref", .str pointer)] path = _
  have found : Value.lookup "$ref" [(.str "$ref", .str pointer)] = some (.str pointer) := rfl
  simp only [readSchema, found, read, pure_bind]
  rfl

/-! ## Members -/

section

variable {members members' : Members}

theorem combinationsOf_cons (has : Value.hasKey "allOf" members = true) :
    ∃ others, combinationsOf members = .allOf :: others := by
  refine ⟨[Combination.oneOf, .anyOf].filter fun c => Value.hasKey c.keyword members, ?_⟩
  exact List.filter_cons_of_pos has

theorem hasKey_of_lookup {key : String} {v : Value} (found : Value.lookup key members = some v) :
    Value.hasKey key members = true := by
  rw [Value.hasKey, found]
  rfl

theorem propertyEntries_of_lookup {entries : Members} {path : String}
    (found : Value.lookup "properties" members = some (.map entries)) :
    propertyEntries members path = pure entries := by
  unfold propertyEntries truthy
  rw [found]
  cases entries <;> rfl

theorem lookup_of_isStructured (structured : isStructured members = true) :
    Value.lookup "$ref" members = none ∧ Value.lookup "const" members = none := by
  simpa [isStructured, Value.hasKey] using structured

variable (root : Option String) (sub sub' : NodeReader) (path : String)

/-- Schemas with properties of their own are read as objects. Two of them that differ in their
properties at most have the same notes. -/
theorem readSchema_eq_readObject (agrees : AgreesBut ("properties" :: containerKeys) members members')
    (structured : isStructured members = true) (alone : isObjectAlone members = true)
    (has : Value.hasKey "properties" members = true)
    (has' : Value.hasKey "properties" members' = true) :
    ∃ notes, readSchema root sub members path = readObject root sub members path notes ∧
      readSchema root sub' members' path = readObject root sub' members' path notes := by
  obtain ⟨reference, constant⟩ := lookup_of_isStructured structured
  simp only [isObjectAlone, Bool.and_eq_true, Bool.not_eq_true', List.isEmpty_iff] at alone
  obtain ⟨⟨combinations, enum⟩, type⟩ := alone
  have enum : Value.lookup "enum" members = none := by simpa [Value.hasKey] using enum
  have others : ∀ c : Combination, c.keyword ∉ "properties" :: containerKeys := by
    rintro ⟨⟩ <;> decide
  unfold readSchema
  simp only [agrees.notesOf_eq (.id path) (by decide), agrees "$ref" (by decide),
    agrees "const" (by decide), agrees "enum" (by decide), agrees "type" (by decide),
    agrees.combinationsOf_eq others, reference, constant, combinations, enum, has, has',
    Bool.true_or, if_true]
  generalize Value.lookup "type" members = declared at type
  unfold isObjectType at type
  split at type
  · exact ⟨_, rfl, rfl⟩
  · rw [beq_iff_eq] at type
    subst type
    exact ⟨_, rfl, rfl⟩
  · split at type
    · rename_i names texts
      rw [beq_iff_eq] at type
      cases names with
      | nil => cases type
      | cons first rest =>
        simp only [readType, texts, type]
        split <;> exact ⟨_, rfl, rfl⟩
    · cases type
  · cases type

/-- Schemas with an `allOf` are read as combinations. -/
theorem readSchema_eq_readComposite (structured : isStructured members = true)
    (has : Value.hasKey "allOf" members = true) :
    ∃ others, readSchema root sub members path =
      readComposite root sub .allOf others members path (notesOf members path) := by
  obtain ⟨reference, constant⟩ := lookup_of_isStructured structured
  obtain ⟨others, combinations⟩ := combinationsOf_cons has
  refine ⟨others, ?_⟩
  unfold readSchema
  simp only [reference, constant, combinations]

theorem AgreesBut.isStructured_eq {keys : List String} (agrees : AgreesBut keys members members')
    (reference : "$ref" ∉ keys) (constant : "const" ∉ keys) :
    isStructured members' = isStructured members := by
  rw [isStructured, isStructured, agrees.hasKey_eq _ reference, agrees.hasKey_eq _ constant]

end

/-! ## One layer of a schema -/

section

variable {x : Extraction} {root : Option String} {sub sub' : NodeReader} {schema : Node}
  {path : String} {members members' : Members}
  (relocates : Relocates id sub sub')
  (inline : ∀ {node}, (sub x.schema x.place).Gives node → node = schema)
  (referred : ∀ {path node}, (sub' (referenceTo x.pointer) path).Gives node →
    node = .reference (.at path) x.pointer x.name)

/-- A property with the schema that gets a name, and with a reference to the name. -/
def Extraction.Refers (x : Extraction) (schema : Node) (p p' : Property) : Prop :=
  ∃ required place, p = ⟨x.property, schema, required⟩ ∧
    p' = ⟨x.property, .reference (.at place) x.pointer x.name, required⟩

include inline referred in
theorem readProperty_extracts {key : Value} (named : key.keyText = x.property)
    (stands : x.place = path ++ "/properties/" ++ Pointer.escape x.property)
    (required : List String) :
    Tracks (x.Refers schema) (readProperty sub path required (key, x.schema))
      (readProperty sub' path required (key, referenceTo x.pointer)) := by
  refine .bind (R := fun _ _ => True) ⟨fun _ _ => trivial⟩ fun _ _ _ => ?_
  refine .bind (R := fun node node' => node = schema ∧
    ∃ place, node' = .reference (.at place) x.pointer x.name) ⟨fun h h' => ?_⟩ ?_
  · simp only [named, ← stands] at h
    exact ⟨inline h, _, referred h'⟩
  · rintro _ _ ⟨rfl, place, rfl⟩
    exact .pure ⟨_, place, by rw [named], by rw [named]⟩

include relocates inline referred in
/-- An object with the reference in it. -/
theorem readObject_extracts {keys : List String} {key : Value} {before after : Members}
    (agrees : AgreesBut keys members members')
    (others : ∀ key ∈ ["required", "additionalProperties", "discriminator"], key ∉ keys)
    (found : Value.lookup "properties" members = some (.map (before ++ (key, x.schema) :: after)))
    (found' : Value.lookup "properties" members' =
      some (.map (before ++ (key, referenceTo x.pointer) :: after)))
    (named : key.keyText = x.property)
    (stands : x.place = path ++ "/properties/" ++ Pointer.escape x.property) (notes : Notes) :
    Tracks (Node.Extracts x.property x.name schema) (readObject root sub members path notes)
      (readObject root sub' members' path notes) := by
  have same : ∀ required entry,
      Tracks Eq (readProperty sub path required entry) (readProperty sub' path required entry) := by
    intro required entry
    refine (readProperty_tracks relocates (.id path) required entry).imp fun p p' same => ?_
    rw [same, Node.relocate_id]
  have entries : Tracks (fun es es' => es = before ++ (key, x.schema) :: after ∧
      es' = before ++ (key, referenceTo x.pointer) :: after)
      (propertyEntries members path) (propertyEntries members' path) := by
    rw [propertyEntries_of_lookup found, propertyEntries_of_lookup found']
    exact .pure ⟨rfl, rfl⟩
  refine (readObject_tracks_of (Q := DifferInOne (x.Refers schema)) relocates (.id path) agrees
    others entries ?_ notes notes).imp ?_
  · rintro _ _ required ⟨rfl, rfl⟩
    exact .mapM_append_cons (same required)
      (readProperty_extracts inline referred named stands required) before
  · rintro _ _ ⟨ps, ps', required, additional, discriminator, ⟨start, p, p', rest, rfl, rfl,
      declared, place, rfl, rfl⟩, rfl, rfl⟩
    rw [relocateAdditional_id]
    exact .property

include relocates inline referred in
/-- The properties next to an `allOf` with the reference among them. -/
theorem readBeside_extracts {key : Value} {before after : Members}
    (agrees : AgreesBut ("properties" :: containerKeys) members members')
    (found : Value.lookup "properties" members = some (.map (before ++ (key, x.schema) :: after)))
    (found' : Value.lookup "properties" members' =
      some (.map (before ++ (key, referenceTo x.pointer) :: after)))
    (named : key.keyText = x.property)
    (stands : x.place = path ++ "/properties/" ++ Pointer.escape x.property) :
    Tracks (fun last last' => ∃ node node', last = [node] ∧ last' = [node'] ∧
        Node.Extracts x.property x.name schema node node')
      (readBeside root sub .allOf members path) (readBeside root sub' .allOf members' path) := by
  have nonempty : ¬(siblings members).isEmpty = true := by
    simp [isEmpty_siblings, hasKey_of_lookup found]
  have nonempty' : ¬(siblings members').isEmpty = true := by
    simp [isEmpty_siblings, hasKey_of_lookup found']
  rw [readBeside, readBeside, if_neg nonempty, if_neg nonempty', if_pos rfl, if_pos rfl]
  rw [← lookup_siblings (by decide)] at found found'
  have beside : AgreesBut ["properties"] (siblings members) (siblings members') :=
    agrees.siblings (by decide)
  refine (readObject_extracts relocates inline referred beside (by decide) found found' named
    stands (.at path)).map ?_
  intro node node' extracts
  exact ⟨node, node', rfl, rfl, extracts⟩

include relocates inline referred in
theorem readSchema_extracts_property {key : Value} {before after : Members}
    (structured : isStructured members = true)
    (form : (isObjectAlone members || Value.hasKey "allOf" members) = true)
    (agrees : AgreesBut ("properties" :: containerKeys) members members')
    (found : Value.lookup "properties" members = some (.map (before ++ (key, x.schema) :: after)))
    (found' : Value.lookup "properties" members' =
      some (.map (before ++ (key, referenceTo x.pointer) :: after)))
    (named : key.keyText = x.property)
    (stands : x.place = path ++ "/properties/" ++ Pointer.escape x.property) :
    Tracks (Node.Extracts x.property x.name schema) (readSchema root sub members path)
      (readSchema root sub' members' path) := by
  rw [Bool.or_eq_true] at form
  rcases form with alone | has
  · obtain ⟨notes, read, read'⟩ := readSchema_eq_readObject root sub sub' path agrees structured
      alone (hasKey_of_lookup found) (hasKey_of_lookup found')
    rw [read, read']
    exact readObject_extracts relocates inline referred agrees (by decide) found found' named
      stands notes
  · have structured' := (agrees.isStructured_eq (by decide) (by decide)).trans structured
    have has' := (agrees.hasKey_eq "allOf" (by decide)).trans has
    obtain ⟨others, read⟩ := readSchema_eq_readComposite root sub path structured has
    obtain ⟨others', read'⟩ := readSchema_eq_readComposite root sub' path structured' has'
    rw [read, read', agrees.notesOf_eq (.id path) (by decide)]
    have variants : ∀ values values',
        Value.lookup Combination.allOf.keyword members = some (.list values) →
        Value.lookup Combination.allOf.keyword members' = some (.list values') →
        Tracks Eq (readMembers sub (path ++ "/" ++ Combination.allOf.keyword) values)
          (readMembers sub' (path ++ "/" ++ Combination.allOf.keyword) values') := by
      intro values values' lookup lookup'
      rw [agrees _ (by decide), lookup] at lookup'
      cases lookup'
      refine (readMembers_tracks relocates (.id _) values).imp fun ns ns' same => ?_
      rw [same, relocateAll_id]
    refine (readComposite_tracks_of agrees (by decide) variants
      (readBeside_extracts relocates inline referred agrees found found' named stands)
      others others' _ _).imp ?_
    rintro _ _ ⟨ns, _, _, _, discriminator, rfl, ⟨node, node', rfl, rfl, extracts⟩, rfl, rfl⟩
    exact .member extracts

include relocates in
/-- A schema with the reference in a member of its `allOf`. -/
theorem readSchema_extracts_member {before after : List Value} {v v' : Value}
    (structured : isStructured members = true)
    (agrees : AgreesBut ("allOf" :: containerKeys) members members')
    (found : Value.lookup "allOf" members = some (.list (before ++ v :: after)))
    (found' : Value.lookup "allOf" members' = some (.list (before ++ v' :: after)))
    (inside : Tracks (Node.Extracts x.property x.name schema)
      (sub v (path ++ "/allOf/" ++ Decimal.ofNat before.length))
      (sub' v' (path ++ "/allOf/" ++ Decimal.ofNat before.length))) :
    Tracks (Node.Extracts x.property x.name schema) (readSchema root sub members path)
      (readSchema root sub' members' path) := by
  have structured' := (agrees.isStructured_eq (by decide) (by decide)).trans structured
  obtain ⟨others, read⟩ :=
    readSchema_eq_readComposite root sub path structured (hasKey_of_lookup found)
  obtain ⟨others', read'⟩ :=
    readSchema_eq_readComposite root sub' path structured' (hasKey_of_lookup found')
  rw [read, read', agrees.notesOf_eq (.id path) (by decide)]
  have variants : ∀ values values',
      Value.lookup Combination.allOf.keyword members = some (.list values) →
      Value.lookup Combination.allOf.keyword members' = some (.list values') →
      Tracks (DifferInOne (Node.Extracts x.property x.name schema))
        (readMembers sub (path ++ "/" ++ Combination.allOf.keyword) values)
        (readMembers sub' (path ++ "/" ++ Combination.allOf.keyword) values') := by
    intro values values' lookup lookup'
    cases found.symm.trans lookup
    cases found'.symm.trans lookup'
    unfold readMembers
    rw [List.zipIdx_append, List.zipIdx_cons, List.zipIdx_append, List.zipIdx_cons]
    refine Tracks.mapM_append_cons (fun entry => ?_) ?_ _
    · refine (relocates (.id _) entry.1).imp fun n n' same => ?_
      rw [same, Node.relocate_id]
    · have place : path ++ "/" ++ Combination.allOf.keyword ++ "/" = path ++ "/allOf/" := by
        simp only [String.append_assoc]
        rfl
      simpa only [place, Nat.zero_add] using inside
  refine (readComposite_tracks_of agrees (by decide) variants
    (readBeside_tracks relocates (.id path) agrees (by decide) .allOf) others others' _ _).imp ?_
  rintro _ _ ⟨_, _, last, _, discriminator, ⟨start, n, n', rest, rfl, rfl, extracts⟩, rfl, rfl, rfl⟩
  rw [relocateAll_id, List.append_assoc, List.append_assoc]
  exact .member extracts

end

/-! ## Schemas -/

section

variable {x : Extraction} {root : Option String} {schema : Node} {depth : Nat}
  (reads : (parseNode root depth x.schema x.place).Gives schema)
  (refers : targetOf root x.pointer = .ok x.name)
include reads refers

/-- A change of a document is one of the schema that is read of it. -/
theorem Extraction.Edits.extracts {path : String} {v v' : Value} (edits : x.Edits path v v')
    (n m : Nat) :
    Tracks (Node.Extracts x.property x.name schema) (parseNode root n v path)
      (parseNode root m v' path) := by
  have inline : ∀ n {node}, (partsReader root n x.schema x.place).Gives node → node = schema := by
    intro n node h
    have same := (partsReader_tracks root id n (depth + 1) (.id x.place) x.schema).related h reads
    rw [same, Node.relocate_id]
  have referred : ∀ m {path node}, (partsReader root m (referenceTo x.pointer) path).Gives node →
      node = .reference (.at path) x.pointer x.name := by
    intro m path node h
    cases m with
    | zero => exact absurd h not_gives_fail
    | succ m =>
      rw [partsReader, parseNode_eq, readLayer_reference refers] at h
      exact (gives_pure_iff.mp h).symm
  induction edits generalizing n m with
  | property structured form agrees found found' named stands =>
    rw [parseNode_eq, parseNode_eq]
    exact readSchema_extracts_property (partsReader_tracks root id n m) (inline n) (referred m)
      structured form agrees found found' named stands
  | member structured agrees found found' inside ih =>
    rw [parseNode_eq, parseNode_eq]
    refine readSchema_extracts_member (partsReader_tracks root id n m) structured agrees found found'
      ?_
    cases n with
    | zero => exact .of_throw
    | succ n =>
      cases m with
      | zero => exact .of_throw_right
      | succ m => exact ih n m

end

/-- What takes all places below one to those below another. -/
def movedTo (path path' : String) (place : String) : String :=
  path' ++ String.ofList (place.toList.drop path.length)

theorem moves_movedTo (path path' : String) : Moves (movedTo path path') path path' := by
  intro t
  have rest : (path.toList ++ t.toList).drop path.length = t.toList :=
    List.drop_left' String.length_toList
  rw [movedTo, String.toList_append, rest, String.ofList_toList]

/-! ## Named schemas -/

theorem changes_of_ne {owner property name : String} {schema : Node} {d : String × Node}
    (other : d.1 ≠ owner) : Changes owner property name schema d d :=
  ⟨rfl, by rw [if_neg other]⟩

section

variable {x : Extraction} {root : Option String} {schema : Node} {path : String}

theorem readDefinition_tracks (root : Option String) (path : String) (entry : Value × Value) :
    Tracks Eq (readDefinition root path entry) (readDefinition root path entry) where
  related {d d'} h h' := by
    obtain ⟨key, read⟩ := of_readDefinition h
    obtain ⟨key', read'⟩ := of_readDefinition h'
    have name : d.1 = d'.1 := Value.str.inj (key.symm.trans key')
    rw [← name] at read'
    have same := (parseNode_tracks root id _ _ (.id _) _).related read read'
    rw [Node.Relocated, Node.relocate_id] at same
    exact Prod.ext name same.symm

variable (reads : (parse root x.schema x.place).Gives schema)
  (refers : targetOf root x.pointer = .ok x.name)

include reads refers in
theorem readDefinition_extracts {v v' : Value}
    (edits : x.Edits (path ++ "/" ++ Pointer.escape x.owner) v v') :
    Tracks (fun d d' => d.1 = x.owner ∧ Changes x.owner x.property x.name schema d d')
      (readDefinition root path (.str x.owner, v)) (readDefinition root path (.str x.owner, v')) where
  related {d d'} h h' := by
    obtain ⟨key, read⟩ := of_readDefinition h
    obtain ⟨key', read'⟩ := of_readDefinition h'
    have owner : d.1 = x.owner := (Value.str.inj key).symm
    have owner' : d'.1 = x.owner := (Value.str.inj key').symm
    rw [owner] at read
    rw [owner'] at read'
    refine ⟨owner, owner'.trans owner.symm, ?_⟩
    rw [if_pos owner]
    exact (edits.extracts reads refers _ _).related read read'

omit x in
theorem readDefinition_unchanged {owner property name : String} {entry : Value × Value}
    (other : entry.1 ≠ .str owner) :
    Tracks (Changes owner property name schema) (readDefinition root path entry)
      (readDefinition root path entry) where
  related {d d'} h h' := by
    obtain rfl := (readDefinition_tracks root path entry).related h h'
    refine changes_of_ne fun same => other ?_
    rw [(of_readDefinition h).1, same]

include reads in
/-- The schema that is named is the one that stood at the property. -/
theorem eq_of_readDefinition {d : String × Node}
    (h : (readDefinition root path (.str x.name, x.schema)).Gives d) :
    ∃ place, d = (x.name, schema.relocate place) := by
  obtain ⟨key, read⟩ := of_readDefinition h
  have name : d.1 = x.name := (Value.str.inj key).symm
  exact ⟨_, Prod.ext name ((parseNode_tracks root _ _ _ (moves_movedTo _ _) _).related reads read)⟩

/-- What changes in entries changes in the schemas that are read of them. -/
theorem changes_of_entries {R : String × Node → String × Node → Prop} {entries others : Members}
    {named named' : List (String × Node)}
    (changes : List.Forall₂
      (fun e e' => Tracks R (readDefinition root path e) (readDefinition root path e')) entries others)
    (read : (entries.mapM (readDefinition root path)).Gives named)
    (read' : List.Forall₂ (fun e d => (readDefinition root path e).Gives d) others named') :
    List.Forall₂ R named named' := by
  refine (forall₂_comp (List.Forall₂.flip read.mapM) (forall₂_comp changes read')).imp ?_
  rintro d d' ⟨e, read, e', change, read'⟩
  exact change.related read read'

include reads in
/-- The named schemas of the second document. -/
theorem Extraction.Adds.definitions {document document' : Value} {entries others entries' : Members}
    {path' : String} {named' : List (String × Node)}
    (adds : x.Adds document document' path entries others)
    (found' : findContainer document' = .ok (path', entries'))
    (read' : ((entries'.filter (!isComment ·)).mapM (readDefinition root path')).Gives named') :
    ∃ place before after, named' = before ++ (x.name, schema.relocate place) :: after ∧
      List.Forall₂ (fun e d => (readDefinition root path e).Gives d) (others.filter (!isComment ·))
        (before ++ after) := by
  obtain ⟨container, before, after, found, rfl, paths⟩ := adds.found'
  cases found'.symm.trans found
  have counts : (!isComment (.str x.name, x.schema)) = true := by
    rw [adds.counts]
    rfl
  have all := read'.mapM
  rw [List.filter_append, List.filter_cons, if_pos counts] at all
  obtain ⟨start, d, rest, rfl, hstart, hd, hrest⟩ := exists_of_forall₂_append_cons all
  obtain ⟨place, rfl⟩ := eq_of_readDefinition reads hd
  refine ⟨place, start, rest, rfl, ?_⟩
  rw [List.filter_append]
  by_cases empty : before ++ after = []
  · obtain ⟨rfl, rfl⟩ := List.append_eq_nil_iff.mp empty
    cases hstart
    cases hrest
    exact .nil
  · rw [paths empty] at hstart hrest
    exact List.rel_append hstart hrest

end

/-! ## Documents -/

/-- Whether the root of a document is a schema depends on its keys, and its name on the title. -/
theorem rootNameOf_congr {members members' : Members} {requested : Option String}
    (keys : ∀ key ∈ ["openapi", "swagger", "properties", "allOf", "oneOf", "anyOf"],
      Value.hasKey key members' = Value.hasKey key members)
    (title : textOf "title" members' = textOf "title" members) :
    rootNameOf members' requested = rootNameOf members requested := by
  simp only [List.forall_mem_cons] at keys
  obtain ⟨openapi, swagger, properties, allOf, oneOf, anyOf, -⟩ := keys
  have combinations : combinationsOf members' = combinationsOf members := by
    refine List.filter_congr fun c _ => ?_
    cases c
    · exact allOf
    · exact oneOf
    · exact anyOf
  unfold rootNameOf
  rw [openapi, swagger, properties, combinations, title]

theorem AgreesBut.rootNameOf_eq {members members' : Members} {requested : Option String}
    (agrees : AgreesBut containerKeys members members') :
    rootNameOf members' requested = rootNameOf members requested := by
  refine rootNameOf_congr (fun key mem => agrees.hasKey_eq _ ?_) (agrees.textOf_eq (by decide))
  revert key
  decide

theorem Extraction.Edits.isComment_eq {x : Extraction} {path : String} {key v v' : Value}
    (edits : x.Edits path v v') : isComment (key, v') = isComment (key, v) := by
  cases edits <;> rfl

theorem Extraction.Edits.rootNameOf_eq {x : Extraction} {path : String} {members members' : Members}
    {requested : Option String} (edits : x.Edits path (.map members) (.map members')) :
    rootNameOf members' requested = rootNameOf members requested := by
  cases edits with
  | property _ _ agrees found found' =>
    refine rootNameOf_congr (fun key mem => ?_) (agrees.textOf_eq (by decide))
    by_cases own : key = "properties"
    · rw [own, hasKey_of_lookup found, hasKey_of_lookup found']
    · refine agrees.hasKey_eq _ fun other => ?_
      revert key
      decide
  | member _ agrees found found' =>
    refine rootNameOf_congr (fun key mem => ?_) (agrees.textOf_eq (by decide))
    by_cases own : key = "allOf"
    · rw [own, hasKey_of_lookup found, hasKey_of_lookup found']
    · refine agrees.hasKey_eq _ fun other => ?_
      revert key
      decide

/-- The root of a document is the same with other named schemas. -/
theorem parse_root_tracks {root : Option String} {members members' : Members}
    (agrees : AgreesBut containerKeys members members') (path : String) :
    Tracks Eq (parse root (.map members) path) (parse root (.map members') path) := by
  unfold parse
  rw [parseNode_eq, parseNode_eq]
  refine (readSchema_tracks (partsReader_tracks root id _ _) (.id path) agrees).imp ?_
  intro node node' same
  rw [same, Node.relocate_id]

section

variable {x : Extraction} {requested : Option String} {source source' : String}
  {graph graph' : Graph} {members members' : Members} {path : String} {schema : Node}
  (reads : (parse (rootNameOf members requested) x.schema x.place).Gives schema)
  (loads : (Graph.ofDocument (.map members) requested source).Gives graph)
  (loads' : (Graph.ofDocument (.map members') requested source').Gives graph')
  (fresh : x.name ∉ graph.definitions.map Prod.fst)
include reads loads loads' fresh

/-- A property of the root of the document. -/
theorem Extraction.Adds.extracts_root {entries : Members}
    (root : rootNameOf members requested = some x.owner)
    (edits : x.Edits "#" (.map members) (.map members'))
    (adds : x.Adds (.map members) (.map members') path entries entries) :
    graph.Extracts graph' x.owner x.property x.name schema := by
  have refers := targetOf_of_none (rootNameOf members requested) adds.refers
  obtain ⟨_, _, _, named, same, found, read, result⟩ := ofDocument_cases loads
  cases same
  cases found.symm.trans adds.found
  obtain ⟨_, path', entries', named', same, found', read', result'⟩ := ofDocument_cases loads'
  cases same
  rw [edits.rootNameOf_eq] at read' result'
  obtain ⟨place, before, after, rfl, all⟩ := adds.definitions reads found' read'
  have others : named = before ++ after := by
    rw [← List.forall₂_eq_eq_eq]
    exact changes_of_entries (List.forall₂_same.mpr fun e _ => readDefinition_tracks _ _ e) read all
  have keys := names_nodup_of_keys_nodup loads fun _ _ found => by
    cases found.symm.trans adds.found
    exact adds.distinct
  obtain ⟨none, -⟩ | ⟨owner, node, some, distinct, parsed, rfl⟩ := result
  · cases none.symm.trans root
  obtain ⟨none, -⟩ | ⟨owner', node', some', -, parsed', rfl⟩ := result'
  · cases none.symm.trans root
  cases some.symm.trans root
  cases some'.symm.trans root
  have unchanged : List.Forall₂ (Changes x.owner x.property x.name schema) named
      (before ++ after) := by
    rw [← others]
    exact List.forall₂_same.mpr fun d mem => changes_of_ne (distinct d mem)
  rw [root] at reads refers
  refine ⟨keys, List.mem_cons_self, fresh, place, (x.owner, node') :: before, after, rfl,
    .cons ⟨rfl, ?_⟩ unchanged⟩
  rw [if_pos rfl]
  exact (edits.extracts reads refers _ _).related parsed parsed'

/-- A property of a schema in the container. -/
theorem Extraction.Adds.extracts_named {before after : Members} {v v' : Value}
    (agrees : AgreesBut containerKeys members members')
    (counts : isComment (.str x.owner, v) = false)
    (edits : x.Edits (path ++ "/" ++ Pointer.escape x.owner) v v')
    (adds : x.Adds (.map members) (.map members') path (before ++ (.str x.owner, v) :: after)
      (before ++ (.str x.owner, v') :: after)) :
    graph.Extracts graph' x.owner x.property x.name schema := by
  have refers := targetOf_of_none (rootNameOf members requested) adds.refers
  obtain ⟨_, _, _, named, same, found, read, result⟩ := ofDocument_cases loads
  cases same
  cases found.symm.trans adds.found
  obtain ⟨_, path', entries', named', same, found', read', result'⟩ := ofDocument_cases loads'
  cases same
  rw [agrees.rootNameOf_eq] at read' result'
  obtain ⟨place, start, rest, rfl, all⟩ := adds.definitions reads found' read'
  have kept : (!isComment (.str x.owner, v)) = true := by
    rw [counts]
    rfl
  have kept' : (!isComment (.str x.owner, v')) = true := by
    rw [edits.isComment_eq, counts]
    rfl
  simp only [List.filter_append, List.filter_cons, kept, kept', if_true] at read all
  have changes : List.Forall₂ (Changes x.owner x.property x.name schema) named (start ++ rest) := by
    refine changes_of_entries (forall₂_append_cons ?_ fun e mem => ?_) read all
    · exact (readDefinition_extracts reads refers edits).imp fun _ _ both => both.2
    · refine readDefinition_unchanged fun same => ?_
      have distinct := adds.distinct
      rw [List.map_append, List.map_cons, List.nodup_middle] at distinct
      refine (List.nodup_cons.mp distinct).1 ?_
      rw [← List.map_append, ← same]
      rw [← List.filter_append] at mem
      exact List.mem_map.mpr ⟨e, (List.mem_filter.mp mem).1, rfl⟩
  have owned : x.owner ∈ named.map Prod.fst := by
    obtain ⟨d, mem, h⟩ := exists_right_of_forall₂ read.mapM
      (List.mem_append_right _ List.mem_cons_self)
    exact List.mem_map.mpr ⟨d, mem, (Value.str.inj (of_readDefinition h).1).symm⟩
  have keys := names_nodup_of_keys_nodup loads fun _ _ found => by
    cases found.symm.trans adds.found
    exact adds.distinct
  rcases result with ⟨none, rfl⟩ | ⟨name, node, some, distinct, parsed, rfl⟩
  · rcases result' with ⟨-, rfl⟩ | ⟨name', node', some', -⟩
    · exact ⟨keys, owned, fresh, place, start, rest, rfl, changes⟩
    · cases none.symm.trans some'
  · rcases result' with ⟨none', -⟩ | ⟨name', node', some', -, parsed', rfl⟩
    · cases none'.symm.trans some
    cases some.symm.trans some'
    refine ⟨keys, List.mem_cons_of_mem _ owned, fresh, place, (name, node') :: start, rest, rfl,
      .cons ?_ changes⟩
    obtain rfl := (parse_root_tracks agrees "#").related parsed parsed'
    refine changes_of_ne fun same => ?_
    obtain ⟨d, mem, eq⟩ := List.mem_map.mp owned
    exact distinct d mem (eq.trans same.symm)

end

/-- If two documents are read, what the second one declares for a property of the first one is what
a name is for the schema of the property. -/
theorem Extraction.Declares.extracts {x : Extraction} {requested : Option String}
    {source source' : String} {document document' : Value} {graph graph' : Graph} {schema : Node}
    (declares : x.Declares requested document document')
    (reads : (parse (rootOf document requested) x.schema x.place).Gives schema)
    (loads : (Graph.ofDocument document requested source).Gives graph)
    (loads' : (Graph.ofDocument document' requested source').Gives graph')
    (fresh : x.name ∉ graph.definitions.map Prod.fst) :
    graph.Extracts graph' x.owner x.property x.name schema := by
  cases declares with
  | root root edits adds => exact adds.extracts_root reads loads loads' fresh root edits
  | named agrees counts edits adds =>
    exact adds.extracts_named reads loads loads' fresh agrees counts edits

end WireModel.Schema
