import WireModel.Proofs.Schema.Standing

/-!
# Where the nodes and the faults of a document are

Each reader is told once what it ends in: nodes that stand where they should or below a name in a
list of types, or a fault at the place of some value or below such a name (`Settles`). The theorem
for a reader assumes that what it reads stands at the keys that it is given, and that the reader of
the parts does its share.

* **`settles_parseNode`**: what is read where it stands is placed with all inside of it.
* **`locations_iff`**: when the places of nodes and of faults are right.
-/

namespace WireModel.Schema

open Logged (Ends gives_pure_iff)
open Pointer (place place_index place_keyword)

variable {document : Value} {root : Option String}

/-! ## What readers end in -/

/-- A reading ends in results of a kind, or in a fault that is placed. -/
abbrev Settles {α : Type} (document : Value) (reading : Reading α) (P : α → Prop) : Prop :=
  reading.Ends P (Fault.Placed document)

section

variable {α : Type} {P : α → Prop} {location : String} {keys : List String} {v : Value}

theorem settles_fail {cause : Cause} (at_keys : location = place keys)
    (stands : Stands document keys v) :
    Settles document (Reading.fail location cause : Reading α) P :=
  .throw (.inr ⟨keys, v, at_keys, stands⟩)

theorem settles_warn (warning : Warning) :
    Settles document (Logged.warn warning) fun _ => True :=
  .warn trivial

theorem settles_requireTellable (told : Value) :
    Settles document (Reading.requireTellable told) fun _ => True := by
  unfold Reading.requireTellable
  split
  · exact .pure trivial
  · exact .throw (.inl rfl)

theorem settles_failAbout {cause : Cause} (told : Value) (at_keys : location = place keys)
    (stands : Stands document keys v) :
    Settles document (Reading.failAbout told location cause : Reading α) P :=
  (settles_requireTellable told).bind fun _ _ => settles_fail at_keys stands

theorem settles_readReference {value : Value} (stands : Stands document keys v) :
    Settles document (readReference root value (place keys)) fun _ => True := by
  unfold readReference
  split
  · exact settles_fail rfl stands
  · split
    · exact settles_fail rfl stands
    · split
      · exact .pure trivial
      · exact settles_fail rfl stands

theorem settles_readTarget (entry : Value × Value) (stands : Stands document keys v) :
    Settles document (readTarget root (place keys) entry) fun _ => True := by
  unfold readTarget
  split
  · exact settles_failAbout _ rfl stands
  · split
    · exact settles_failAbout _ rfl stands
    · have keyed (name : String) : Settles document
          (do
            Reading.requireTellable entry.1
            return (entry.1.keyText, name)) fun _ => True :=
        (settles_requireTellable _).bind fun _ _ => .pure trivial
      dsimp only
      split
      · have meant : Settles document (Prod.snd <$> readReference root entry.2 (place keys))
            fun _ => True := (settles_readReference stands).map fun _ _ => trivial
        exact meant.bind fun name _ => keyed name
      · exact keyed _

end

section Readers

variable {members : Members} {keys : List String}

/-- The values of a JSON mapping stand at its keys. -/
structure Within (document : Value) (keys : List String) (members : Members) : Prop where
  json : (Value.map members).isJson = true
  stands : ∀ {key v}, Value.lookup key members = some v → Stands document (keys ++ [key]) v

theorem Stands.within (stands : Stands document keys (.map members))
    (json : (Value.map members).isJson = true) : Within document keys members :=
  ⟨json, fun found => stands.append found⟩

theorem Within.json_of_lookup {key : String} {v : Value} (within : Within document keys members)
    (found : Value.lookup key members = some v) : v.isJson = true :=
  Value.isJson_of_lookup within.json found

theorem settles_readDiscriminator {value : Value}
    (stands : Stands document (keys ++ ["discriminator"]) value) :
    Settles document (readDiscriminator root value (place keys)) fun _ => True := by
  have here : place keys ++ "/discriminator" = place (keys ++ ["discriminator"]) :=
    place_keyword keys (by decide)
  have mapping : place (keys ++ ["discriminator"]) ++ "/mapping" =
      place (keys ++ ["discriminator"] ++ ["mapping"]) := place_keyword _ (by decide)
  unfold readDiscriminator
  simp only [here, mapping]
  split
  · split
    · exact settles_fail rfl stands
    · split
      · exact settles_fail rfl stands
      · split
        · exact .pure trivial
        · rename_i found
          have inside := stands.append (lookup_of_truthy found)
          refine Ends.bind (.mapM fun entry _ => settles_readTarget entry inside) fun _ _ => ?_
          exact .pure trivial
        · rename_i found
          exact settles_fail rfl (stands.append (lookup_of_truthy found))
  · split
    · exact settles_fail rfl stands
    · exact .pure trivial
  · exact settles_fail rfl stands

theorem settles_discriminatorOf (within : Within document keys members) :
    Settles document (discriminatorOf root members (place keys)) fun _ => True := by
  unfold discriminatorOf
  split
  · exact .pure trivial
  · rename_i found
    exact (settles_readDiscriminator (within.stands found)).map fun _ _ => trivial

/-- What a reader reads where it stands is placed, and so are its faults. -/
def SettlesAll (document : Value) (root : Option String) (reader : NodeReader) : Prop :=
  ∀ keys v, Stands document keys v → v.isJson = true →
    Settles document (reader v (place keys)) (Node.AllPlaced document root)

/-- What stands in a list stands at its number. -/
theorem settles_readMembers {reader : NodeReader} {values : List Value}
    (settles : SettlesAll document root reader) (stands : Stands document keys (.list values))
    (json : ∀ v ∈ values, v.isJson = true) :
    Settles document (readMembers reader (place keys) values)
      fun nodes => ∀ node ∈ nodes, node.AllPlaced document root := by
  refine .mapM fun ⟨v, i⟩ mem => ?_
  have there : values[i]? = some v := List.mk_mem_zipIdx_iff_getElem?.mp mem
  have item : Stands document (keys ++ [Decimal.ofNat i]) v :=
    stands.append ((Value.child?_list values i).trans there)
  dsimp only
  rw [place_index]
  exact settles _ v item (json v (List.mem_of_getElem? there))

variable {depth : Nat} {notes : Notes}
  (settles : SettlesAll document root (partsReader root depth))
  (within : Within document keys members)

include settles within

theorem settles_readAdditional :
    Settles document (readAdditional (partsReader root depth) members (place keys))
      fun additional => ∀ node, additional = .schema node → node.AllPlaced document root := by
  have place_here : place keys ++ "/additionalProperties" =
      place (keys ++ ["additionalProperties"]) := place_keyword keys (by decide)
  unfold readAdditional
  rw [place_here]
  split
  · exact .pure nofun
  · exact .pure nofun
  · rename_i found
    have node := settles _ _ (within.stands found) (within.json_of_lookup found)
    refine node.bind fun node placed => .pure ?_
    rintro _ ⟨⟩
    exact placed

omit settles in
theorem settles_propertyEntries :
    Settles document (propertyEntries members (place keys)) fun entries =>
      entries = [] ∨ Value.lookup "properties" members = some (.map entries) := by
  unfold propertyEntries
  split
  · exact .pure (.inl rfl)
  · rename_i found
    exact .pure (.inr (lookup_of_truthy found))
  · rename_i found
    exact settles_fail (place_keyword keys (by decide)) (within.stands (lookup_of_truthy found))

omit settles in
theorem settles_requiredKeys :
    Settles document (requiredKeys members (place keys)) fun _ => True := by
  unfold requiredKeys
  split
  · exact .pure trivial
  · rename_i found
    split
    · exact .pure trivial
    · exact settles_fail (place_keyword keys (by decide)) (within.stands (lookup_of_truthy found))

theorem settles_readProperty {entries : Members} {entry : Value × Value} (required : List String)
    (found : Value.lookup "properties" members = some (.map entries)) (mem : entry ∈ entries) :
    Settles document (readProperty (partsReader root depth) (place keys) required entry)
      fun p => p.node.AllPlaced document root := by
  have json := within.json_of_lookup found
  obtain ⟨⟨name, text⟩, here⟩ := (Value.isJson_map.mp json).1 entry mem
  obtain ⟨key, v⟩ := entry
  obtain rfl : key = .str name := text
  have stands : Stands document (keys ++ ["properties"] ++ [name]) v :=
    (within.stands found).append (Value.lookup_of_mem (Value.keys_nodup_of_isJson json) mem)
  have slashes : "/properties/" = "/" ++ Pointer.escape "properties" ++ "/" := by decide
  have there : place (keys ++ ["properties"] ++ [name]) =
      place keys ++ "/properties/" ++ Pointer.escape name := by
    rw [Pointer.place_append, Pointer.place_append, slashes]
    simp only [String.append_assoc]
  have read := settles _ v stands here
  rw [there] at read
  exact (settles_requireTellable _).bind fun _ _ => read.bind fun node placed => .pure placed

theorem settles_readObject :
    Settles document (readObject root (partsReader root depth) members (place keys) notes)
      (Node.InnerPlaced document root) := by
  rw [readObject_eq]
  refine (settles_propertyEntries within).bind fun entries found => ?_
  refine (settles_requiredKeys within).bind fun required _ => ?_
  have properties : Settles document
      (entries.mapM (readProperty (partsReader root depth) (place keys) required))
      fun properties => ∀ p ∈ properties, p.node.AllPlaced document root := by
    refine .mapM fun entry mem => ?_
    have found := found.resolve_left fun none => by
      rw [none] at mem
      cases mem
    exact settles_readProperty settles within required found mem
  refine properties.bind fun properties placed => ?_
  refine (settles_readAdditional settles within).bind fun additional placed' => ?_
  refine (settles_discriminatorOf within).bind fun discriminator _ => .pure ?_
  intro child mem
  rcases List.mem_append.mp mem with mem | mem
  · obtain ⟨p, there, rfl⟩ := List.mem_map.mp mem
    exact placed p there
  · cases additional with
    | schema node =>
      rw [List.mem_singleton.mp mem]
      exact placed' node rfl
    | _ => cases mem

theorem settles_readArray :
    Settles document (readArray (partsReader root depth) members (place keys) notes)
      (Node.InnerPlaced document root) := by
  have here : place keys ++ "/items" = place (keys ++ ["items"]) := place_keyword keys (by decide)
  unfold readArray
  simp only [here]
  split
  · exact .pure nofun
  · exact .pure nofun
  · rename_i found
    exact settles_fail rfl (within.stands found)
  · rename_i items _ found
    have stands := within.stands found
    have json := Value.isJson_list.mp (within.json_of_lookup found)
    have variants := settles_readMembers settles stands json
    refine variants.and_gives.bind fun variants ⟨read, placed⟩ => .pure ?_
    have placed : Node.InnerPlaced document root
        (.composite (.at (place (keys ++ ["items"]))) .anyOf variants none) := placed
    intro child mem
    rw [List.mem_singleton.mp mem]
    exact placed.all (Node.placed_of_stands rfl stands fun there => .tuple there read)
  · rename_i found
    have items := settles _ _ (within.stands found) (within.json_of_lookup found)
    refine items.bind fun node placed => .pure ?_
    intro child mem
    rw [List.mem_singleton.mp mem]
    exact placed

/-! ### Types -/

theorem settles_readTyped (type : String) {v : Value}
    (declared : Stands document (keys ++ ["type"]) v) :
    Settles document (readTyped root (partsReader root depth) type members (place keys) notes)
      (Node.InnerPlaced document root) := by
  unfold readTyped
  split
  · exact settles_readArray settles within
  · split
    · exact settles_readObject settles within
    · split
      · exact .pure nofun
      · exact settles_fail (place_keyword keys (by decide)) declared

omit within in
/-- The types of a union are numbered without null, and what is inside of them is placed below a
name. -/
theorem settles_readVariant {names : List String} {type : String} {index : Nat}
    (stands : Stands document keys (.map members)) (json : (Value.map members).isJson = true)
    (types : typeNames? members = some names) (kept : (keptTypes names)[index]? = some type) :
    Settles document (readVariant root (partsReader root depth) members (place keys) type index)
      (Node.AllPlaced document root) := by
  have here : place keys ++ "/type/" ++ Decimal.ofNat index =
      place (keys ++ ["type", Decimal.ofNat index]) := by
    have slashes : "/type/" = "/" ++ Pointer.escape "type" ++ "/" := by decide
    rw [List.append_cons, ← place_index, Pointer.place_append, slashes]
    simp only [String.append_assoc]
  -- all members are read again at the place of the type, but no key leads on from its name
  have below (key : String) : Below document (keys ++ ["type", Decimal.ofNat index] ++ [key]) := by
    rcases stands with there | below
    · exact ⟨keys, names, Decimal.ofNat index, key, [], ⟨members, there, types⟩, by simp⟩
    · exact (below.append _).append _
  have inside : Within document (keys ++ ["type", Decimal.ofNat index]) members :=
    ⟨json, fun _ => .inr (below _)⟩
  have inner : Settles document
      (readVariant root (partsReader root depth) members (place keys) type index)
      (Node.InnerPlaced document root) := by
    unfold readVariant
    rw [here]
    exact settles_readTyped settles inside type (.inr (below "type") : Stands _ _ Value.null)
  refine inner.and_gives.imp fun node ⟨read, placed⟩ => placed.all ?_
  refine ⟨keys ++ ["type", Decimal.ofNat index], ?_, ?_⟩
  · rw [← here]
    exact path_of_readTyped read
  · rcases stands with there | below
    · exact .inr ⟨_, .variant there types kept read⟩
    · exact .inl (below.append _)

theorem settles_readType {value : Value} (stands : Stands document keys (.map members))
    (found : Value.lookup "type" members = some value) :
    Settles document (readType root (partsReader root depth) value members (place keys) notes)
      (Node.InnerPlaced document root) := by
  have here : place keys ++ "/type" = place (keys ++ ["type"]) := place_keyword keys (by decide)
  have declared := within.stands found
  unfold readType
  rw [here]
  split
  · rename_i types
    split
    · exact settles_fail rfl declared
    · exact settles_fail rfl declared
    · rename_i names _ texts
      have named : typeNames? members = some names := by
        rw [typeNames?, found]
        exact texts
      dsimp only
      split
      · exact .pure nofun
      · exact settles_readTyped settles within _ declared
      · refine Ends.bind (.mapM fun ⟨type, i⟩ mem => ?_) fun variants placed => .pure placed
        exact settles_readVariant settles stands within.json named
          (List.mk_mem_zipIdx_iff_getElem?.mp mem)
  · exact settles_readTyped settles within _ declared
  · exact settles_failAbout _ rfl declared

/-! ### Combinations -/

omit settles in
theorem Within.siblings : Within document keys (siblings members) where
  json := by
    obtain ⟨each, distinct⟩ := Value.isJson_map.mp within.json
    refine Value.isJson_map.mpr ⟨fun entry mem => each entry (List.mem_filter.mp mem).1, ?_⟩
    exact distinct.sublist (List.filter_sublist.map _)
  stands {key v} found := by
    by_cases own : key ∈ objectKeys
    · rw [lookup_siblings own] at found
      exact within.stands found
    · rw [lookup_siblings_of_not_mem own] at found
      cases found

theorem settles_readLast {mode : Combination} (stands : Stands document keys (.map members))
    (has : Value.hasKey mode.keyword members = true) :
    Settles document (readLast root (partsReader root depth) mode members (place keys))
      fun nodes => ∀ node ∈ nodes, node.AllPlaced document root := by
  unfold readLast
  split
  · exact .pure nofun
  split
  · rename_i all
    refine (settles_readObject settles within.siblings).and_gives.map fun node ⟨read, inner⟩ => ?_
    have origin (there : document.at? keys = some (.map members)) :
        Origin document root keys node (.map members) := by
      rw [all] at has
      exact .beside there has read
    exact List.forall_mem_singleton.mpr
      (inner.all (Node.placed_of_stands (path_of_readObject read) stands origin))
  · exact (settles_warn _).bind fun _ _ => .pure nofun

theorem settles_readComposite {mode : Combination} {others : List Combination}
    (stands : Stands document keys (.map members))
    (has : Value.hasKey mode.keyword members = true) :
    Settles document
      (readComposite root (partsReader root depth) mode others members (place keys) notes)
      (Node.InnerPlaced document root) := by
  have here : place keys ++ "/" ++ mode.keyword = place (keys ++ [mode.keyword]) := by
    have plain : Pointer.escape mode.keyword = mode.keyword := by
      cases mode <;> decide
    rw [Pointer.place_append, plain]
  obtain ⟨v, declared⟩ := Option.isSome_iff_exists.mp has
  have warns : Settles document (warnOfOthers mode others (place keys)) fun _ => True := by
    unfold warnOfOthers
    split
    · exact .pure trivial
    · exact settles_warn _
  have lists : Settles document (combinedValues mode members (place (keys ++ [mode.keyword])))
      fun values => Value.lookup mode.keyword members = some (.list values) := by
    unfold combinedValues
    split
    · rename_i found
      exact .pure found
    · exact settles_fail rfl (within.stands declared)
  rw [readComposite_eq, here]
  refine warns.bind fun _ _ => lists.bind fun values found => ?_
  have json := Value.isJson_list.mp (within.json_of_lookup found)
  refine (settles_readMembers settles (within.stands found) json).bind fun variants placed => ?_
  refine (settles_readLast settles within stands has).bind fun last placed' => ?_
  refine (settles_discriminatorOf within).bind fun discriminator _ => .pure ?_
  exact List.forall_mem_append.mpr ⟨placed, placed'⟩

/-! ### Schemas -/

theorem settles_readSchema (stands : Stands document keys (.map members)) :
    Settles document (readSchema root (partsReader root depth) members (place keys))
      (Node.InnerPlaced document root) := by
  unfold readSchema
  dsimp only
  split
  · exact (settles_readReference stands).bind fun _ _ => .pure nofun
  split
  · split
    · exact .pure nofun
    · exact .pure nofun
  split
  · rename_i combined
    have mem : _ ∈ combinationsOf members := combined ▸ List.mem_cons_self
    exact settles_readComposite settles within stands (List.mem_filter.mp mem).2
  split
  · rename_i found
    unfold readEnum
    split
    · dsimp only
      split
      · exact .pure nofun
      · exact .pure nofun
    · exact settles_fail (place_keyword keys (by decide)) (within.stands found)
  split
  · rename_i found
    exact settles_readType settles within stands found
  split
  · exact settles_readObject settles within
  split
  · exact settles_readArray settles within
  · exact .pure nofun

end Readers

/-- A schema is placed where it is read, with all inside of it. By induction on the depth of the
reader, that of its parts being one less. -/
theorem settles_parseNode (root : Option String) (depth : Nat) :
    SettlesAll document root (parseNode root depth) := by
  have step (depth : Nat) (settles : SettlesAll document root (partsReader root depth)) :
      SettlesAll document root (parseNode root depth) := by
    intro keys v stands json
    have inner : Settles document (parseNode root depth v (place keys))
        (Node.InnerPlaced document root) := by
      rw [parseNode_eq]
      unfold readLayer
      split
      · exact .pure nofun
      · exact .pure nofun
      · exact settles_readSchema settles (stands.within json) stands
      · exact settles_fail rfl stands
    refine inner.and_gives.imp fun node ⟨read, inner⟩ => inner.all ?_
    refine Node.placed_of_stands ?_ stands fun there => .schema there read
    rw [parseNode_eq] at read
    exact path_of_readLayer read
  induction depth with
  | zero => exact step 0 fun keys v stands _ => settles_fail rfl stands
  | succ depth ih => exact step (depth + 1) ih

/-! ## Documents -/

theorem settles_readDefinition {container : List String} {entries : Members} {entry : Value × Value}
    (there : document.at? container = some (.map entries))
    (json : (Value.map entries).isJson = true) (mem : entry ∈ entries) :
    Settles document (readDefinition root (place container) entry)
      fun d => d.2.AllPlaced document root := by
  have stands : Stands document container (.map entries) := .inl there
  unfold readDefinition
  split
  · exact settles_failAbout _ rfl stands
  · rename_i name text
    split
    · exact settles_fail rfl stands
    · obtain ⟨key, v⟩ := entry
      obtain ⟨⟨_, same⟩, here⟩ := (Value.isJson_map.mp json).1 _ mem
      obtain rfl : key = .str _ := same
      cases text
      have found : Stands document (container ++ [name]) v :=
        stands.append (Value.lookup_of_mem (Value.keys_nodup_of_isJson json) mem)
      have read := settles_parseNode root v.depth _ v found here
      rw [Pointer.place_append] at read
      exact read.bind fun node placed => .pure placed

theorem located_of_findContainer {fault : Fault} (h : findContainer document = .error fault) :
    fault.Located document := by
  unfold findContainer at h
  split at h
  · cases h
  · cases h
  · rename_i found
    cases h
    obtain ⟨container, mem, found⟩ := List.exists_of_findSome?_eq_some found
    obtain ⟨v, descends, same⟩ := Option.map_eq_some_iff.mp found
    cases same
    exact ⟨container, _, containerPath_eq mem, at?_of_descend descends⟩

theorem settles_ofDocument {members : Members} (json : (Value.map members).isJson = true)
    (requested : Option String) (source : String) :
    Settles (.map members) (Graph.ofDocument (.map members) requested source) fun graph =>
      ∀ node, graph.Holds node → node.Placed (.map members) (rootNameOf members requested) := by
  unfold Graph.ofDocument
  dsimp only
  cases found : findContainer (.map members) with
  | error fault =>
    obtain ⟨keys, v, path, there⟩ := located_of_findContainer found
    refine Ends.bind (P := fun _ => False) (.throw (.inr ⟨keys, v, path, .inl there⟩)) ?_
    exact fun _ => False.elim
  | ok container =>
    obtain ⟨path, entries⟩ := container
    obtain ⟨container, mem, rfl, there⟩ := container_of_findContainer found
    have entriesJson := isJson_of_findContainer json found
    refine Ends.bind (P := fun c => c = (containerPath container, entries)) (.pure rfl) ?_
    rintro _ rfl
    have named : Settles (.map members)
        ((entries.filter (!isComment ·)).mapM
          (readDefinition (rootNameOf members requested) (containerPath container)))
        fun definitions => ∀ d ∈ definitions,
          d.2.AllPlaced (.map members) (rootNameOf members requested) := by
      refine .mapM fun entry mem' => ?_
      have mem' := (List.mem_filter.mp mem').1
      -- without a container there are no entries at all
      have there := there.resolve_left (List.ne_nil_of_mem mem')
      rw [containerPath_eq mem]
      exact settles_readDefinition there entriesJson mem'
    refine named.bind fun definitions placed => ?_
    cases root : rootNameOf members requested with
    | none =>
      rw [root] at placed
      refine .pure fun node ⟨d, mem, inside⟩ => ?_
      exact placed d mem node inside
    | some name =>
      rw [root] at placed
      dsimp only
      have stands : Stands (.map members) [] (.map members) := .inl rfl
      split
      · exact settles_fail rfl stands
      · have whole := settles_parseNode (some name) (Value.map members).depth [] _ stands json
        refine Ends.bind whole fun node here => .pure fun part ⟨d, mem, inside⟩ => ?_
        rcases List.mem_cons.mp mem with rfl | mem
        · exact here part inside
        · exact placed d mem part inside

/-! ## Right places -/

/-- **Where nodes and faults are.** The place of every node of a JSON document leads to what the
node is read from, unless it is that of a type of a union whose number belongs to another name, or
below a name in a list of types; the place of a fault leads to a value, unless it is below such a
name. A document that is no mapping has a fault at its own name instead. -/
theorem locations_iff (json : document.isJson = true) (requested : Option String)
    (source : String) :
    (∀ graph, (Graph.ofDocument document requested source).outcome.1 = .ok graph →
      ∀ node, graph.Holds node →
        (node.Located document (rootOf document requested) ↔
          ¬∃ keys, node.path = place keys ∧ (Below document keys ∨ Renumbered document keys))) ∧
    ∀ fault, (Graph.ofDocument document requested source).outcome.1 = .error fault →
      fault.location.toList.head? = some '#' → fault.cause ≠ .documentNotObject →
        (fault.Located document ↔ ¬∃ keys, fault.location = place keys ∧ Below document keys) := by
  constructor
  · intro graph loads node holds
    have gives := Logged.gives_of_outcome loads
    obtain ⟨members, -, -, -, rfl, -⟩ := ofDocument_cases gives
    exact ((settles_ofDocument json requested source).gives graph gives node holds).located_iff
  · intro fault fails hash mapping
    have told : fault.location ≠ "" := by
      intro empty
      rw [empty] at hash
      cases hash
    cases document with
    | map members =>
      have placed := (settles_ofDocument json requested source).fails [] fault _ (Prod.ext fails rfl)
      exact placed.located_iff told
    | _ =>
      cases fails
      exact absurd rfl mapping

/-- A document with one schema. -/
def documentOf (members : List (String × Value)) : Value :=
  .ofFields [("definitions", .ofFields [("X", .ofFields members)])]

/-- A document with a union of types. -/
def unionDocument (types : List String) : Value := documentOf [("type", .ofTexts types)]

/-- A type of a union. -/
def variantAt (kind : Kind) (index : String) : Node :=
  .primitive (.at ("#/definitions/X/type/" ++ index)) kind none

/-- The union of texts and integers, or null. -/
def unionGraph : Graph :=
  ⟨"", "#/definitions", "union", [("X", .composite ⟨"#/definitions/X", none, true, none⟩ .oneOf
    [variantAt .string "0", variantAt .integer "1"] none)]⟩

theorem holds_variantAt : unionGraph.Holds (variantAt .string "0") ∧
    unionGraph.Holds (variantAt .integer "1") :=
  ⟨⟨_, List.mem_cons_self, .member List.mem_cons_self .refl⟩,
    _, List.mem_cons_self, .member (List.mem_cons_of_mem _ List.mem_cons_self) .refl⟩

/-- With null behind them, the types of a union stand where they should. -/
theorem locations_with_null_last :
    (unionDocument ["string", "integer", "null"]).isJson = true ∧
      (Graph.ofDocument (unionDocument ["string", "integer", "null"]) none "union").outcome.1 =
        .ok unionGraph ∧
      (variantAt .integer "1").Located (unionDocument ["string", "integer", "null"]) none := by
  have json : (unionDocument ["string", "integer", "null"]).isJson = true := by decide
  have loads : (Graph.ofDocument (unionDocument ["string", "integer", "null"]) none
      "union").outcome.1 = .ok unionGraph := rfl
  have types : TypesAt (unionDocument ["string", "integer", "null"]) ["definitions", "X"]
      ["string", "integer", "null"] := ⟨_, rfl, rfl⟩
  refine ⟨json, loads, ((locations_iff json none "union").1 _ loads _ holds_variantAt.2).mpr ?_⟩
  rintro ⟨keys, path, wrong⟩
  obtain rfl := Pointer.place_injective
    (show place ["definitions", "X", "type", "1"] = place keys from path)
  rcases wrong with ⟨outer, _, index, key, rest, -, same⟩ |
    ⟨outer, names, index, own, same, other⟩
  · rcases outer with _ | ⟨first, _ | ⟨second, outer⟩⟩
    · simp at same
    · simp at same
    · have long := congrArg List.length same
      simp only [List.length_cons, List.length_append, List.length_nil] at long
      omega
  · have same : ["definitions", "X"] ++ ["type", Decimal.ofNat 1] =
        outer ++ ["type", Decimal.ofNat index] := same
    obtain ⟨rfl, last⟩ := List.append_inj' same rfl
    obtain rfl := Decimal.ofNat_injective (List.cons.inj (List.cons.inj last).2).1
    obtain rfl := types.unique own
    exact other rfl

/-- A union of arrays and texts whose items are wrong. -/
def untypedDocument : Value :=
  documentOf [("type", .ofTexts ["array", "string"]), ("items", .list [])]

/-- With null in front of them, the first type stands where null does; and what is wrong with the
items of a union is told at a place where there is nothing. -/
theorem locations_with_null_first :
    ((unionDocument ["null", "string", "integer"]).isJson = true ∧
      (Graph.ofDocument (unionDocument ["null", "string", "integer"]) none "union").outcome.1 =
        .ok unionGraph ∧ unionGraph.Holds (variantAt .string "0") ∧
      ¬(variantAt .string "0").Located (unionDocument ["null", "string", "integer"]) none) ∧
    untypedDocument.isJson = true ∧
      (Graph.ofDocument untypedDocument none "union").outcome.1 =
        .error ⟨"#/definitions/X/type/0/items", .emptyItems⟩ ∧
      ¬Fault.Located untypedDocument ⟨"#/definitions/X/type/0/items", .emptyItems⟩ := by
  refine ⟨⟨by decide, rfl, holds_variantAt.1, fun located => located.not_astray ?_⟩, by decide, rfl,
    fun located => located.not_below ?_⟩
  · refine ⟨["definitions", "X", "type", "0"], rfl, .inr ?_⟩
    exact ⟨["definitions", "X"], ["null", "string", "integer"], 0, ⟨_, rfl, rfl⟩, rfl, by decide⟩
  · refine ⟨["definitions", "X", "type", "0", "items"], rfl, ?_⟩
    exact ⟨["definitions", "X"], ["array", "string"], "0", "items", [], ⟨_, rfl, rfl⟩, rfl⟩

end WireModel.Schema
