import WireModel.Proofs.Lists
import WireModel.Proofs.Success
import WireModel.Proofs.Value.Plain
import WireModel.Schema.Graph

/-!
# Readings of schemas

What a reading takes from the document, if it gives a result: an object and a combination are read
in five steps each (`readObject_eq`, `readComposite_eq`), and a document is read as the schemas of
one container with the root in front of them (`ofDocument_cases`).

The keys of a JSON mapping are distinct, and the root of a document gets a name that none of the
named schemas has. So every schema of a document has a name of its own.
-/

namespace WireModel.Schema

open Logged (gives_pure_iff not_gives_throw)

/-! ## Parts -/

/-- A schema is a part of another one: that itself, or inside of it. -/
inductive Node.Part (part : Node) : Node → Prop
  | refl : Part part part
  | items {notes items} : Part part items → Part part (.array notes (some items))
  | property {notes properties required additional discriminator} {p : Property} :
      p ∈ properties → Part part p.node →
      Part part (.object notes properties required additional discriminator)
  | additional {notes properties required node discriminator} : Part part node →
      Part part (.object notes properties required (.schema node) discriminator)
  | member {notes mode members discriminator m} : m ∈ members → Part part m →
      Part part (.composite notes mode members discriminator)

/-- The schema for keys that are not listed, if there is one. -/
def AdditionalOf.nodes : Additional → List Node
  | .schema node => [node]
  | _ => []

/-- The schemas right inside of a schema. -/
def Node.children : Node → List Node
  | .array _ (some items) => [items]
  | .object _ properties _ additional _ => properties.map PropertyOf.node ++ additional.nodes
  | .composite _ _ members _ => members
  | _ => []

theorem Node.part_cases {part node : Node} (h : part.Part node) :
    part = node ∨ ∃ child ∈ node.children, part.Part child := by
  cases h with
  | refl => exact .inl rfl
  | items inner => exact .inr ⟨_, List.mem_singleton_self _, inner⟩
  | property mem inner =>
    exact .inr ⟨_, List.mem_append_left _ (List.mem_map_of_mem mem), inner⟩
  | additional inner =>
    exact .inr ⟨_, List.mem_append_right _ (List.mem_singleton_self _), inner⟩
  | member mem inner => exact .inr ⟨_, mem, inner⟩

/-- The values of all enumerations in a schema hold no instance and nothing unset. -/
def Node.EnumsPlain (node : Node) : Prop :=
  ∀ notes values kind, (Node.enum notes values kind).Part node → ∀ v ∈ values, v.isPlain = true

/-! ## Readers -/

theorem not_gives_fail {α : Type} {location : String} {cause : Cause} {a : α} :
    ¬(Reading.fail location cause : Reading α).Gives a :=
  not_gives_throw

theorem not_gives_failAbout {α : Type} {value : Value} {location : String} {cause : Cause} {a : α} :
    ¬(Reading.failAbout value location cause : Reading α).Gives a := by
  intro h
  obtain ⟨_, -, h⟩ := h.bind
  exact not_gives_fail h

theorem lookup_of_truthy {key : String} {members : Members} {v : Value}
    (h : truthy key members = some v) : Value.lookup key members = some v :=
  (Option.filter_eq_some_iff.mp h).1

variable {root : Option String} {sub : NodeReader} {members : Members} {path : String}
  {notes : Notes} {node : Node}

/-! ## Objects -/

/-- The entries of the properties of an object. -/
def propertyEntries (members : Members) (path : String) : Reading Members :=
  match truthy "properties" members with
  | none => pure []
  | some (.map entries) => pure entries
  | some _ => .fail (path ++ "/properties") .propertiesNotObject

/-- The names that an object requires. -/
def requiredKeys (members : Members) (path : String) : Reading (List String) :=
  match truthy "required" members with
  | none => pure []
  | some value =>
    match textsOf? value with
    | some names => pure names
    | none => .fail (path ++ "/required") .requiredNotTexts

/-- An object is read in five steps. -/
theorem readObject_eq (notes : Notes) :
    readObject root sub members path notes = (do
      let entries ← propertyEntries members path
      let required ← requiredKeys members path
      let properties ← entries.mapM (readProperty sub path required)
      let additional ← readAdditional sub members path
      let discriminator ← discriminatorOf root members path
      return .object notes properties required additional discriminator) := by
  unfold readObject propertyEntries requiredKeys
  cases truthy "required" members with
  | none =>
    cases truthy "properties" members with
    | none => rfl
    | some value => cases value <;> rfl
  | some value =>
    dsimp only
    cases textsOf? value <;>
    · cases truthy "properties" members with
      | none => rfl
      | some value => cases value <;> rfl

theorem entries_of_propertyEntries {entries : Members}
    (h : (propertyEntries members path).Gives entries) :
    entries = [] ∨ truthy "properties" members = some (.map entries) := by
  unfold propertyEntries at h
  split at h
  · exact .inl (gives_pure_iff.mp h).symm
  · rename_i found
    rw [← gives_pure_iff.mp h]
    exact .inr found
  · exact absurd h not_gives_fail

/-- The schemas right inside of an object are read from the document, and so is what tells its
variants apart. -/
theorem parts_of_readObject (h : (readObject root sub members path notes).Gives node) :
    ∃ entries required properties additional discriminator,
      (entries = [] ∨ truthy "properties" members = some (.map entries)) ∧
      List.Forall₂ (fun entry p => ∃ place, (sub entry.2 place).Gives (PropertyOf.node p)) entries
        properties ∧
      (∀ n, additional = .schema n → ∃ value place,
        Value.lookup "additionalProperties" members = some value ∧ (sub value place).Gives n) ∧
      (discriminatorOf root members path).Gives discriminator ∧
      node = .object notes properties required additional discriminator := by
  rw [readObject_eq] at h
  obtain ⟨entries, hentries, h⟩ := h.bind
  obtain ⟨required, -, h⟩ := h.bind
  obtain ⟨properties, hproperties, h⟩ := h.bind
  obtain ⟨additional, hadditional, h⟩ := h.bind
  obtain ⟨discriminator, hdiscriminator, h⟩ := h.bind
  refine ⟨entries, required, properties, additional, discriminator,
    entries_of_propertyEntries hentries, hproperties.mapM.imp fun entry p read => ?_, ?_,
    hdiscriminator, (gives_pure_iff.mp h).symm⟩
  · obtain ⟨_, -, read⟩ := read.bind
    obtain ⟨n, inner, read⟩ := read.bind
    rw [← gives_pure_iff.mp read]
    exact ⟨_, inner⟩
  · rintro n rfl
    unfold readAdditional at hadditional
    split at hadditional
    · cases gives_pure_iff.mp hadditional
    · cases gives_pure_iff.mp hadditional
    · rename_i found
      obtain ⟨_, inner, same⟩ := hadditional.bind
      cases gives_pure_iff.mp same
      exact ⟨_, _, found, inner⟩

/-! ## Combinations -/

/-- Reads the last member of an `allOf`, that of the properties next to it. -/
def readBeside (root : Option String) (sub : NodeReader) (mode : Combination) (members : Members)
    (path : String) : Reading (List Node) :=
  if (siblings members).isEmpty then pure []
  else if mode = .allOf then
    (fun last => [last]) <$> readObject root sub (siblings members) path (.at path)
  else pure []

/-- The values that a combination lists. -/
def combinedValues (mode : Combination) (members : Members) (place : String) :
    Reading (List Value) :=
  match Value.lookup mode.keyword members with
  | some (.list (v :: rest)) => pure (v :: rest)
  | _ => .fail place (.noMembers mode)

/-- Reads the properties next to a combination: they are the last member of an `allOf`, and others
are warned about them. -/
def readLast (root : Option String) (sub : NodeReader) (mode : Combination) (members : Members)
    (path : String) : Reading (List Node) :=
  if (siblings members).isEmpty then pure []
  else if mode = .allOf then
    (fun last => [last]) <$> readObject root sub (siblings members) path (.at path)
  else do
    Logged.warn (.ignoredProperties path mode.keyword)
    pure []

/-- Warns that only one of several combinations counts. -/
def warnOfOthers (mode : Combination) (others : List Combination) (path : String) :
    Reading Unit := do
  unless others.isEmpty do
    Logged.warn (.ignoredCombinations path mode.keyword (others.map Combination.keyword))

theorem readLast_bind {mode : Combination} (next : List Node → Reading Node) :
    (readLast root sub mode members path >>= next) =
      if (siblings members).isEmpty then next []
      else if mode = .allOf then do
        let last ← readObject root sub (siblings members) path (.at path)
        next [last]
      else (do
        Logged.warn (.ignoredProperties path mode.keyword)
        next []) := by
  unfold readLast
  split
  · rw [pure_bind]
  split
  · rw [bind_map_left]
  · simp only [bind_assoc, pure_bind]

/-- A combination is read in five steps. -/
theorem readComposite_eq (mode : Combination) (others : List Combination) :
    readComposite root sub mode others members path notes = (do
      warnOfOthers mode others path
      let values ← combinedValues mode members (path ++ "/" ++ mode.keyword)
      let variants ← readMembers sub (path ++ "/" ++ mode.keyword) values
      let last ← readLast root sub mode members path
      let discriminator ← discriminatorOf root members path
      return .composite notes mode (variants ++ last) discriminator) := by
  unfold readComposite warnOfOthers combinedValues
  simp only [readLast_bind, List.append_nil]
  split
  · split <;> simp only [pure_bind, *]
  · split <;> simp only [pure_bind, *]

theorem lookup_of_combinedValues {mode : Combination} {place : String} {values : List Value}
    (h : (combinedValues mode members place).Gives values) :
    Value.lookup mode.keyword members = some (.list values) := by
  unfold combinedValues at h
  split at h
  · rename_i found
    rw [found, gives_pure_iff.mp h]
  · exact absurd h not_gives_fail

theorem readBeside_of_readLast {mode : Combination} {last : List Node}
    (h : (readLast root sub mode members path).Gives last) :
    (readBeside root sub mode members path).Gives last := by
  unfold readLast at h
  split at h
  · rename_i none
    rw [readBeside, if_pos none]
    exact h
  rename_i some
  split at h
  · rename_i all
    rw [readBeside, if_neg some, if_pos all]
    exact h
  · rename_i other
    obtain ⟨_, -, h⟩ := h.bind
    rw [readBeside, if_neg some, if_neg other]
    exact h

theorem members_of_readComposite {mode : Combination} {others : List Combination}
    (h : (readComposite root sub mode others members path notes).Gives node) :
    ∃ values variants last discriminator,
      Value.lookup mode.keyword members = some (.list values) ∧
      (readMembers sub (path ++ "/" ++ mode.keyword) values).Gives variants ∧
      (readBeside root sub mode members path).Gives last ∧
      (discriminatorOf root members path).Gives discriminator ∧
      node = .composite notes mode (variants ++ last) discriminator := by
  rw [readComposite_eq] at h
  obtain ⟨_, -, h⟩ := h.bind
  obtain ⟨values, listed, h⟩ := h.bind
  obtain ⟨variants, hvariants, h⟩ := h.bind
  obtain ⟨last, hlast, h⟩ := h.bind
  obtain ⟨discriminator, hdiscriminator, h⟩ := h.bind
  exact ⟨values, variants, last, discriminator, lookup_of_combinedValues listed, hvariants,
    readBeside_of_readLast hlast, hdiscriminator, (gives_pure_iff.mp h).symm⟩

/-! ## Documents -/

/-- What is found inside of a document is a part of it. -/
theorem part_of_descend : ∀ {keys : List String} {value v : Value},
    descend value keys = some v → v.Part value
  | [], value, v, h => by
    rw [descend] at h
    split at h
    · cases h
    · cases h
      exact .refl
  | key :: keys, value, v, h => by
    unfold descend at h
    split at h
    · obtain ⟨inner, found, h⟩ := Option.bind_eq_some_iff.mp h
      exact (part_of_descend h).trans (Value.part_of_lookup found)
    · cases h

/-- The entries of a document are those in one of the containers; one without any has none. -/
theorem findContainer_cases {document : Value} {path : String} {entries : Members}
    (h : findContainer document = .ok (path, entries)) :
    ∃ container ∈ containers, path = containerPath container ∧
      (entries = [] ∨ descend document container = some (.map entries)) := by
  unfold findContainer at h
  split at h
  · cases h
    exact ⟨_, List.mem_cons_self, rfl, .inl rfl⟩
  · rename_i found
    cases h
    obtain ⟨container, mem, found⟩ := List.exists_of_findSome?_eq_some found
    obtain ⟨value, descends, same⟩ := Option.map_eq_some_iff.mp found
    cases same
    exact ⟨container, mem, rfl, .inr descends⟩
  · cases h

theorem part_of_findContainer {document : Value} {path : String} {entries : Members}
    (some : entries ≠ []) (h : findContainer document = .ok (path, entries)) :
    (Value.map entries).Part document := by
  obtain ⟨container, -, -, none | descends⟩ := findContainer_cases h
  · exact absurd none some
  · exact part_of_descend descends

theorem isJson_of_findContainer {document : Value} {path : String} {entries : Members}
    (json : document.isJson = true) (h : findContainer document = .ok (path, entries)) :
    (Value.map entries).isJson = true := by
  obtain ⟨container, -, -, rfl | descends⟩ := findContainer_cases h
  · rfl
  · exact (part_of_descend descends).isJson json

/-- What the reading of a document comes to: the schemas of its container, each read under its
own name, and in front of them the root if it is a schema. -/
theorem ofDocument_cases {document : Value} {requested : Option String} {source : String}
    {graph : Graph} (h : (Graph.ofDocument document requested source).Gives graph) :
    ∃ members container entries definitions, document = .map members ∧
      findContainer document = .ok (container, entries) ∧
      ((entries.filter (!isComment ·)).mapM
        (readDefinition (rootNameOf members requested) container)).Gives definitions ∧
      (rootNameOf members requested = none ∧ graph = ⟨"", container, source, definitions⟩ ∨
        ∃ name node, rootNameOf members requested = some name ∧
          (∀ d ∈ definitions, d.1 ≠ name) ∧ (parse (some name) document "#").Gives node ∧
          graph = ⟨name, container, source, (name, node) :: definitions⟩) := by
  unfold Graph.ofDocument at h
  split at h
  · rename_i members
    obtain ⟨⟨container, entries⟩, lifted, h⟩ := h.bind
    obtain ⟨definitions, read, h⟩ := h.bind
    have found : findContainer (.map members) = .ok (container, entries) := by
      unfold Graph.ofDocument.liftExcept at lifted
      split at lifted
      · rename_i found
        rw [found, gives_pure_iff.mp lifted]
      · exact absurd lifted not_gives_throw
    refine ⟨members, container, entries, definitions, rfl, found, read, ?_⟩
    cases root : rootNameOf members requested with
    | none =>
      rw [root] at h
      exact .inl ⟨rfl, (gives_pure_iff.mp h).symm⟩
    | some name =>
      rw [root] at h
      dsimp only at h
      split at h
      · exact absurd h not_gives_fail
      · rename_i fresh
        obtain ⟨node, hnode, h⟩ := h.bind
        refine .inr ⟨name, node, rfl, fun d mem same => fresh ?_, hnode, ?_⟩
        · exact List.any_eq_true.mpr ⟨d, mem, by simpa using same⟩
        · exact (gives_pure_iff.mp h).symm
  · exact absurd h not_gives_fail

/-! ## Names -/

/-- A named schema has the name under which it stands, and is read at its place. -/
theorem of_readDefinition {root : Option String} {container : String} {entry : Value × Value}
    {result : String × Node} (h : (readDefinition root container entry).Gives result) :
    entry.1 = .str result.1 ∧
      (parse root entry.2 (container ++ "/" ++ Pointer.escape result.1)).Gives result.2 := by
  unfold readDefinition at h
  split at h
  · exact absurd h not_gives_failAbout
  · rename_i name text
    split at h
    · exact absurd h not_gives_fail
    · obtain ⟨node, hnode, h⟩ := h.bind
      obtain rfl := gives_pure_iff.mp h
      refine ⟨?_, hnode⟩
      cases key : entry.1 with
      | str s =>
        rw [key] at text
        cases text
        rfl
      | _ =>
        rw [key] at text
        cases text

/-- Named schemas have the keys of their entries as names. -/
theorem keys_of_readDefinitions {root : Option String} {container : String} {entries : Members}
    {definitions : List (String × Node)}
    (h : (entries.mapM (readDefinition root container)).Gives definitions) :
    entries.map Prod.fst = definitions.map fun d => Value.str d.1 :=
  map_eq_map_of_forall₂ h.mapM fun _ _ h => (of_readDefinition h).1

/-- The schemas of a document have distinct names if the keys of its container are distinct. -/
theorem names_nodup_of_keys_nodup {document : Value} {requested : Option String} {source : String}
    {graph : Graph} (h : (Graph.ofDocument document requested source).Gives graph)
    (keys : ∀ container entries, findContainer document = .ok (container, entries) →
      (entries.map Prod.fst).Nodup) : (graph.definitions.map Prod.fst).Nodup := by
  obtain ⟨members, container, entries, definitions, -, found, read, cases⟩ := ofDocument_cases h
  have named : (definitions.map Prod.fst).Nodup := by
    have kept : (definitions.map fun d => Value.str d.1).Nodup := by
      rw [← keys_of_readDefinitions read]
      exact (keys container entries found).sublist (List.filter_sublist.map _)
    rw [← Function.comp_def Value.str, ← List.map_map] at kept
    exact kept.of_map
  rcases cases with ⟨-, rfl⟩ | ⟨name, node, -, fresh, -, rfl⟩
  · exact named
  · refine List.nodup_cons.mpr ⟨fun mem => ?_, named⟩
    obtain ⟨d, there, same⟩ := List.mem_map.mp mem
    exact fresh d there same

/-- The schemas of a JSON document have distinct names. -/
theorem names_nodup_of_ofDocument {document : Value} {requested : Option String} {source : String}
    {graph : Graph} (json : document.isJson = true)
    (h : (Graph.ofDocument document requested source).Gives graph) :
    (graph.definitions.map Prod.fst).Nodup :=
  names_nodup_of_keys_nodup h fun _ _ found =>
    Value.keys_nodup_of_isJson (isJson_of_findContainer json found)

end WireModel.Schema
