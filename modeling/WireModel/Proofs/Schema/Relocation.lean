import WireModel.Proofs.Schema.Extraction
import WireModel.Proofs.Schema.Parsing

/-!
# The same schema read elsewhere

A schema reads the same wherever it stands, but for the places in it: `parseNode_tracks` compares
readings of one value at two places, each as deep as it likes. This also is why a value read twice
is the same. Other members of a document than those of schemas make no difference.
-/

namespace WireModel.Schema

open Logged (Tracks)

/-! ## Places -/

/-- A map of places takes all places below one to those below another. -/
def Moves (place : String → String) (path path' : String) : Prop :=
  ∀ t, place (path ++ t) = path' ++ t

theorem Moves.id (path : String) : Moves id path path := fun _ => rfl

theorem Moves.here {place : String → String} {path path' : String} (h : Moves place path path') :
    place path = path' := by
  simpa using h ""

theorem Moves.at_eq {place : String → String} {path path' : String}
    (moves : Moves place path path') : Notes.at path' = (Notes.at path).relocate place := by
  rw [Notes.relocate, Notes.at, Notes.at, moves.here]

theorem Moves.below {place : String → String} {path path' : String} (h : Moves place path path')
    (t : String) : Moves place (path ++ t) (path' ++ t) := by
  intro u
  rw [String.append_assoc, h, String.append_assoc]

/-! ## Members -/

/-- The keys of the members that hold named schemas. -/
def containerKeys : List String := ["components", "definitions", "$defs"]

/-- The same members, but for some keys. -/
def AgreesBut (keys : List String) (members members' : Members) : Prop :=
  ∀ key, key ∉ keys → Value.lookup key members' = Value.lookup key members

namespace AgreesBut

variable {keys : List String} {members members' : Members}

theorem refl (keys : List String) (members : Members) : AgreesBut keys members members :=
  fun _ _ => rfl

variable (h : AgreesBut keys members members')
include h

theorem cons (entry : Value × Value) : AgreesBut keys (entry :: members) (entry :: members') := by
  intro key other
  rw [Value.lookup, Value.lookup, h key other]

theorem cons_of_mem {key : String} (mem : key ∈ keys) (v v' : Value) :
    AgreesBut keys ((.str key, v) :: members) ((.str key, v') :: members') := by
  intro k other
  have apart : ¬(Value.str key).isText k = true := by
    rw [Value.isText_iff]
    rintro ⟨⟩
    exact other mem
  rw [Value.lookup, Value.lookup, if_neg apart, if_neg apart, h k other]

theorem textOf_eq {key : String} (other : key ∉ keys) :
    textOf key members' = textOf key members := by
  rw [textOf, textOf, h key other]

theorem isTrue_eq {key : String} (other : key ∉ keys) :
    isTrue key members' = isTrue key members := by
  rw [isTrue, isTrue, h key other]

theorem truthy_eq {key : String} (other : key ∉ keys) :
    truthy key members' = truthy key members := by
  rw [truthy, truthy, h key other]

theorem hasKey_eq (key : String) (other : key ∉ keys) :
    Value.hasKey key members' = Value.hasKey key members := by
  rw [Value.hasKey, Value.hasKey, h key other]

theorem combinationsOf_eq (others : ∀ c : Combination, c.keyword ∉ keys) :
    combinationsOf members' = combinationsOf members :=
  List.filter_congr fun c _ => h.hasKey_eq _ (others c)

theorem notesOf_eq {place : String → String} {path path' : String} (moves : Moves place path path')
    (others : ∀ key ∈ ["description", "nullable", "x-nullable", "default"], key ∉ keys) :
    notesOf members' path' = (notesOf members path).relocate place := by
  simp only [List.forall_mem_cons] at others
  obtain ⟨description, nullable, extension, default, -⟩ := others
  rw [notesOf, notesOf, h.textOf_eq description, h.isTrue_eq nullable, h.isTrue_eq extension,
    h "default" default, Notes.relocate, moves.here]

end AgreesBut

/-! ## Parts without schemas -/

variable {root : Option String}

theorem readReference_tracks (value : Value) (path path' : String) :
    Tracks Eq (readReference root value path) (readReference root value path') := by
  unfold readReference
  cases value.asStr? with
  | none => exact .of_throw
  | some reference =>
    dsimp only
    split
    · exact .of_throw
    · split
      · exact .pure rfl
      · exact .of_throw

theorem tracks_failAbout {α β : Type} {R : α → β → Prop} {value : Value} {path : String}
    {cause : Cause} {y : Reading β} :
    Tracks R (Reading.failAbout value path cause : Reading α) y :=
  ⟨fun ha _ => absurd ha not_gives_failAbout⟩

theorem readTarget_tracks (path path' : String) (entry : Value × Value) :
    Tracks Eq (readTarget root path entry) (readTarget root path' entry) := by
  unfold readTarget
  cases entry.2.asStr? with
  | none => exact tracks_failAbout
  | some target =>
    dsimp only
    split
    · exact tracks_failAbout
    · have told : ∀ name : String, Tracks Eq
          (do
            Reading.requireTellable entry.1
            return (entry.1.keyText, name))
          (do
            Reading.requireTellable entry.1
            return (entry.1.keyText, name)) := fun name =>
        .bind (R := fun _ _ => True) ⟨fun _ _ => trivial⟩ fun _ _ _ => .pure rfl
      split
      · refine .bind (R := Eq) ((readReference_tracks _ _ _).map fun _ _ same => congrArg _ same) ?_
        rintro name _ rfl
        exact told name
      · exact .bind (R := Eq) (.pure rfl) fun name _ same => same ▸ told name

theorem readDiscriminator_tracks (value : Value) (path path' : String) :
    Tracks Eq (readDiscriminator root value path) (readDiscriminator root value path') := by
  unfold readDiscriminator
  cases value with
  | map members =>
    dsimp only
    split
    · exact .of_throw
    · split
      · exact .of_throw
      · split
        · exact .pure rfl
        · refine .bind (.mapM_same (readTarget_tracks _ _) _) ?_
          rintro entries _ rfl
          exact .pure rfl
        · exact .of_throw
  | str property =>
    dsimp only
    split
    · exact .of_throw
    · exact .pure rfl
  | _ => exact .of_throw

/-! ## Objects -/

section

variable {place : String → String} {path path' : String} {members members' : Members}
  {sub sub' : NodeReader} {keys : List String}

theorem discriminatorOf_tracks (agrees : AgreesBut keys members members')
    (other : "discriminator" ∉ keys) (path path' : String) :
    Tracks Eq (discriminatorOf root members path) (discriminatorOf root members' path') := by
  unfold discriminatorOf
  rw [agrees _ other]
  split
  · exact .pure rfl
  · exact (readDiscriminator_tracks _ _ _).map fun _ _ same => congrArg _ same

theorem propertyEntries_tracks (agrees : AgreesBut keys members members')
    (other : "properties" ∉ keys) (path path' : String) :
    Tracks Eq (propertyEntries members path) (propertyEntries members' path') := by
  unfold propertyEntries
  rw [agrees.truthy_eq other]
  split
  · exact .pure rfl
  · exact .pure rfl
  · exact .of_throw

theorem requiredKeys_tracks (agrees : AgreesBut keys members members') (other : "required" ∉ keys)
    (path path' : String) :
    Tracks Eq (requiredKeys members path) (requiredKeys members' path') := by
  unfold requiredKeys
  rw [agrees.truthy_eq other]
  split
  · exact .pure rfl
  · split
    · exact .pure rfl
    · exact .of_throw

/-- A schema and the same one elsewhere. -/
def Node.Relocated (place : String → String) (node node' : Node) : Prop :=
  node' = node.relocate place

theorem mapM_relocated {α : Type} {f g : α → Reading Node}
    (each : ∀ a, Tracks (Node.Relocated place) (f a) (g a)) (as : List α) :
    Tracks (fun ns ns' => ns' = relocateAll place ns) (as.mapM f) (as.mapM g) := by
  refine (Tracks.mapM_each each as).imp fun ns ns' all => ?_
  induction all with
  | nil => rfl
  | cons first _ ih => rw [relocateAll, first, ih]

/-- What one reader makes of a value, another makes of it elsewhere. -/
def Relocates (place : String → String) (sub sub' : NodeReader) : Prop :=
  ∀ {path path'}, Moves place path path' → ∀ v,
    Tracks (Node.Relocated place) (sub v path) (sub' v path')

theorem readProperty_tracks (relocates : Relocates place sub sub') (moves : Moves place path path')
    (required : List String) (entry : Value × Value) :
    Tracks (fun p p' : Property => p' = ⟨p.name, p.node.relocate place, p.required⟩)
      (readProperty sub path required entry) (readProperty sub' path' required entry) := by
  refine .bind (R := fun _ _ => True) ⟨fun _ _ => trivial⟩ fun _ _ _ => ?_
  have moves' : Moves place (path ++ "/properties/" ++ Pointer.escape entry.1.keyText)
      (path' ++ "/properties/" ++ Pointer.escape entry.1.keyText) :=
    (moves.below _).below _
  refine .bind (relocates moves' _) ?_
  rintro node _ rfl
  exact .pure rfl

theorem readProperties_tracks (relocates : Relocates place sub sub')
    (moves : Moves place path path') (required : List String) (entries : Members) :
    Tracks (fun ps ps' => ps' = relocateProperties place ps)
      (entries.mapM (readProperty sub path required))
      (entries.mapM (readProperty sub' path' required)) := by
  refine (Tracks.mapM_each (readProperty_tracks relocates moves required) entries).imp ?_
  intro ps ps' all
  induction all with
  | nil => rfl
  | cons first _ ih => rw [relocateProperties, first, ih]

theorem readAdditional_tracks (relocates : Relocates place sub sub')
    (moves : Moves place path path') (agrees : AgreesBut keys members members')
    (other : "additionalProperties" ∉ keys) :
    Tracks (fun a a' => a' = relocateAdditional place a) (readAdditional sub members path)
      (readAdditional sub' members' path') := by
  unfold readAdditional
  rw [agrees _ other]
  split
  · exact .pure rfl
  · exact .pure rfl
  · refine .bind (relocates (moves.below _) _) ?_
    rintro node _ rfl
    exact .pure rfl

/-- What two objects have in common that differ in their properties at most. -/
theorem readObject_tracks_of {P : Members → Members → Prop}
    {Q : List Property → List Property → Prop} (relocates : Relocates place sub sub')
    (moves : Moves place path path') (agrees : AgreesBut keys members members')
    (others : ∀ key ∈ ["required", "additionalProperties", "discriminator"], key ∉ keys)
    (entries : Tracks P (propertyEntries members path) (propertyEntries members' path'))
    (properties : ∀ es es' required, P es es' → Tracks Q (es.mapM (readProperty sub path required))
      (es'.mapM (readProperty sub' path' required))) (notes notes' : Notes) :
    Tracks (fun node node' => ∃ ps ps' required additional discriminator, Q ps ps' ∧
        node = .object notes ps required additional discriminator ∧
        node' = .object notes' ps' required (relocateAdditional place additional) discriminator)
      (readObject root sub members path notes) (readObject root sub' members' path' notes') := by
  simp only [List.forall_mem_cons] at others
  obtain ⟨otherRequired, otherAdditional, otherDiscriminator, -⟩ := others
  rw [readObject_eq, readObject_eq]
  refine .bind entries fun es es' related => ?_
  refine .bind (requiredKeys_tracks agrees otherRequired _ _) ?_
  rintro required _ rfl
  refine .bind (properties es es' required related) fun ps ps' related => ?_
  refine .bind (readAdditional_tracks relocates moves agrees otherAdditional) ?_
  rintro additional _ rfl
  refine .bind (discriminatorOf_tracks agrees otherDiscriminator _ _) ?_
  rintro discriminator _ rfl
  exact .pure ⟨ps, ps', required, additional, discriminator, related, rfl, rfl⟩

variable (relocates : Relocates place sub sub') (moves : Moves place path path')
  (agrees : AgreesBut containerKeys members members')
include relocates moves agrees

theorem readObject_tracks (notes : Notes) :
    Tracks (Node.Relocated place) (readObject root sub members path notes)
      (readObject root sub' members' path' (notes.relocate place)) := by
  have properties : ∀ (entries entries' : Members) required, entries = entries' →
      Tracks (fun ps ps' => ps' = relocateProperties place ps)
        (entries.mapM (readProperty sub path required))
        (entries'.mapM (readProperty sub' path' required)) := by
    rintro entries _ required rfl
    exact readProperties_tracks relocates moves required entries
  refine (readObject_tracks_of relocates moves agrees (by decide)
    (propertyEntries_tracks agrees (by decide) _ _) properties _ _).imp ?_
  rintro _ _ ⟨ps, _, required, additional, discriminator, rfl, rfl, rfl⟩
  rfl

/-! ## Arrays, enumerations and types -/

omit agrees in
theorem readMembers_tracks (values : List Value) :
    Tracks (fun ns ns' => ns' = relocateAll place ns) (readMembers sub path values)
      (readMembers sub' path' values) := by
  refine mapM_relocated ?_ values.zipIdx
  rintro ⟨value, i⟩
  exact relocates ((moves.below _).below _) value

theorem readArray_tracks (notes : Notes) :
    Tracks (Node.Relocated place) (readArray sub members path notes)
      (readArray sub' members' path' (notes.relocate place)) := by
  unfold readArray
  rw [agrees "items" (by decide)]
  split
  · exact .pure rfl
  · exact .pure rfl
  · exact .of_throw
  · refine .bind (readMembers_tracks relocates (moves.below _) _) ?_
    rintro variants _ rfl
    refine .pure ?_
    rw [Node.Relocated, Node.relocate, Node.relocate, Notes.relocate, ← (moves.below _).here]
    rfl
  · refine .bind (relocates (moves.below _) _) ?_
    rintro items _ rfl
    exact .pure rfl

omit relocates moves in
theorem readEnum_tracks (value : Value) (notes : Notes) (path path' : String) :
    Tracks (Node.Relocated place) (readEnum value members path notes)
      (readEnum value members' path' (notes.relocate place)) := by
  unfold readEnum
  rw [agrees "type" (by decide)]
  split
  · dsimp only
    split <;> split <;> exact .pure rfl
  · exact .of_throw

theorem readTyped_tracks (type : String) (notes : Notes) :
    Tracks (Node.Relocated place) (readTyped root sub type members path notes)
      (readTyped root sub' type members' path' (notes.relocate place)) := by
  unfold readTyped
  split
  · exact readArray_tracks relocates moves agrees notes
  split
  · exact readObject_tracks relocates moves agrees notes
  rw [agrees.textOf_eq (by decide)]
  split
  · exact .pure rfl
  · exact .of_throw

theorem readVariant_tracks (type : String) (index : Nat) :
    Tracks (Node.Relocated place) (readVariant root sub members path type index)
      (readVariant root sub' members' path' type index) := by
  have moves' := (moves.below "/type/").below (Decimal.ofNat index)
  have typed : Tracks (Node.Relocated place) (readTyped root sub type members _ _) _ :=
    readTyped_tracks relocates moves' agrees type
      ⟨path ++ "/type/" ++ Decimal.ofNat index, none, isTrue "x-nullable" members, none⟩
  rw [Notes.relocate, moves'.here] at typed
  rwa [readVariant, readVariant, agrees.isTrue_eq (by decide)]

theorem readType_tracks (value : Value) (notes : Notes) :
    Tracks (Node.Relocated place) (readType root sub value members path notes)
      (readType root sub' value members' path' (notes.relocate place)) := by
  unfold readType
  split
  · split
    · exact .of_throw
    · exact .of_throw
    · dsimp only
      split
      · split <;> exact .pure rfl
      · split <;> exact readTyped_tracks relocates moves agrees _ _
      · refine .bind (mapM_relocated (fun (type, i) =>
          readVariant_tracks relocates moves agrees type i) _) ?_
        rintro variants _ rfl
        split <;> exact .pure rfl
  · exact readTyped_tracks relocates moves agrees _ notes
  · exact tracks_failAbout

end

/-! ## Combinations -/

/-- The keys of the members that say what properties an object has. -/
def objectKeys : List String := ["properties", "required", "additionalProperties"]

theorem lookup_siblings {key : String} (own : key ∈ objectKeys) (members : Members) :
    Value.lookup key (siblings members) = Value.lookup key members := by
  refine Value.lookup_filter (fun v => ?_) members
  simp only [objectKeys, List.mem_cons, List.not_mem_nil, or_false] at own
  rcases own with rfl | rfl | rfl <;> rfl

theorem lookup_siblings_of_not_mem {key : String} (other : key ∉ objectKeys) (members : Members) :
    Value.lookup key (siblings members) = none := by
  refine Value.lookup_filter_eq_none (fun v => ?_) members
  simp only [objectKeys, List.mem_cons, List.not_mem_nil, or_false, not_or] at other
  simp [Value.isText, other]

theorem isEmpty_siblings (members : Members) :
    (siblings members).isEmpty = !(Value.hasKey "properties" members ||
      Value.hasKey "required" members || Value.hasKey "additionalProperties" members) := by
  induction members with
  | nil => rfl
  | cons entry rest ih =>
    obtain ⟨k, v⟩ := entry
    unfold siblings Value.hasKey at ih ⊢
    rw [List.filter_cons]
    simp only [Value.lookup]
    cases k.isText "properties" <;> cases k.isText "required" <;>
      cases k.isText "additionalProperties" <;> simp [ih]

theorem AgreesBut.siblings {keys others : List String} {members members' : Members}
    (agrees : AgreesBut keys members members') (sub : ∀ key ∈ objectKeys, key ∈ keys → key ∈ others) :
    AgreesBut others (siblings members) (siblings members') := by
  intro key other
  by_cases own : key ∈ objectKeys
  · rw [lookup_siblings own, lookup_siblings own, agrees key fun mem => other (sub key own mem)]
  · rw [lookup_siblings_of_not_mem own, lookup_siblings_of_not_mem own]

theorem relocateAll_append (place : String → String) (nodes others : List Node) :
    relocateAll place (nodes ++ others) = relocateAll place nodes ++ relocateAll place others := by
  simp only [relocateAll_eq_map, List.map_append]

theorem keyword_not_mem (mode : Combination) : mode.keyword ∉ containerKeys := by
  cases mode <;> decide

section

variable {place : String → String} {path path' : String} {members members' : Members}
  {sub sub' : NodeReader} {keys : List String}

/-- What two combinations have in common that differ in their members at most. -/
theorem readComposite_tracks_of {P Q : List Node → List Node → Prop} {mode : Combination}
    (agrees : AgreesBut keys members members') (other : "discriminator" ∉ keys)
    (variants : ∀ values values', Value.lookup mode.keyword members = some (.list values) →
      Value.lookup mode.keyword members' = some (.list values') →
      Tracks P (readMembers sub (path ++ "/" ++ mode.keyword) values)
        (readMembers sub' (path' ++ "/" ++ mode.keyword) values'))
    (beside : Tracks Q (readBeside root sub mode members path)
      (readBeside root sub' mode members' path'))
    (others others' : List Combination) (notes notes' : Notes) :
    Tracks (fun node node' => ∃ ns ns' last last' discriminator, P ns ns' ∧ Q last last' ∧
        node = .composite notes mode (ns ++ last) discriminator ∧
        node' = .composite notes' mode (ns' ++ last') discriminator)
      (readComposite root sub mode others members path notes)
      (readComposite root sub' mode others' members' path' notes') where
  related h h' := by
    obtain ⟨values, ns, last, discriminator, found, hns, hlast, hdiscriminator, rfl⟩ :=
      members_of_readComposite h
    obtain ⟨values', ns', last', _, found', hns', hlast', hdiscriminator', rfl⟩ :=
      members_of_readComposite h'
    obtain rfl := (discriminatorOf_tracks agrees other _ _).related hdiscriminator hdiscriminator'
    exact ⟨ns, ns', last, last', discriminator,
      (variants values values' found found').related hns hns', beside.related hlast hlast', rfl, rfl⟩

variable (relocates : Relocates place sub sub') (moves : Moves place path path')
include relocates moves

theorem readBeside_tracks (agrees : AgreesBut keys members members')
    (others : ∀ key ∈ objectKeys, key ∉ keys) (mode : Combination) :
    Tracks (fun ns ns' => ns' = relocateAll place ns) (readBeside root sub mode members path)
      (readBeside root sub' mode members' path') := by
  unfold readBeside
  have empty : (siblings members').isEmpty = (siblings members).isEmpty := by
    simp only [isEmpty_siblings, agrees.hasKey_eq _ (others "properties" (by decide)),
      agrees.hasKey_eq _ (others "required" (by decide)),
      agrees.hasKey_eq _ (others "additionalProperties" (by decide))]
  rw [empty]
  split
  · exact .pure rfl
  split
  · have last : Tracks (Node.Relocated place) (readObject root sub (siblings members) path _) _ :=
      readObject_tracks relocates moves
        (agrees.siblings fun key own mem => absurd mem (others key own)) (.at path)
    rw [← moves.at_eq] at last
    refine last.map ?_
    rintro node _ rfl
    rfl
  · exact .pure rfl

theorem readComposite_tracks (agrees : AgreesBut containerKeys members members')
    (mode : Combination) (others others' : List Combination) (notes : Notes) :
    Tracks (Node.Relocated place) (readComposite root sub mode others members path notes)
      (readComposite root sub' mode others' members' path' (notes.relocate place)) := by
  have variants : ∀ values values', Value.lookup mode.keyword members = some (.list values) →
      Value.lookup mode.keyword members' = some (.list values') →
      Tracks (fun ns ns' => ns' = relocateAll place ns)
        (readMembers sub (path ++ "/" ++ mode.keyword) values)
        (readMembers sub' (path' ++ "/" ++ mode.keyword) values') := by
    intro values values' found found'
    rw [agrees _ (keyword_not_mem mode), found] at found'
    cases found'
    exact readMembers_tracks relocates ((moves.below "/").below mode.keyword) values
  refine (readComposite_tracks_of agrees (by decide) variants
    (readBeside_tracks relocates moves agrees (by decide) mode) others others' notes _).imp ?_
  rintro _ _ ⟨ns, _, last, _, discriminator, rfl, rfl, rfl, rfl⟩
  rw [Node.Relocated, Node.relocate, relocateAll_append]

end

/-! ## Schemas -/

theorem readSchema_tracks {place : String → String} {path path' : String}
    {members members' : Members} {sub sub' : NodeReader} (relocates : Relocates place sub sub')
    (moves : Moves place path path') (agrees : AgreesBut containerKeys members members') :
    Tracks (Node.Relocated place) (readSchema root sub members path)
      (readSchema root sub' members' path') := by
  unfold readSchema
  simp only [agrees.notesOf_eq moves (by decide), agrees "$ref" (by decide),
    agrees "const" (by decide), agrees "enum" (by decide), agrees "type" (by decide),
    agrees.combinationsOf_eq keyword_not_mem, agrees.hasKey_eq "properties" (by decide),
    agrees.hasKey_eq "additionalProperties" (by decide),
    agrees.hasKey_eq "items" (by decide)]
  split
  · refine .bind (readReference_tracks _ _ _) ?_
    rintro ⟨pointer, target⟩ _ rfl
    exact .pure rfl
  split
  · split <;> exact .pure rfl
  split
  · exact readComposite_tracks relocates moves agrees _ _ _ _
  split
  · exact readEnum_tracks agrees _ _ _ _
  split
  · exact readType_tracks relocates moves agrees _ _
  split
  · exact readObject_tracks relocates moves agrees _
  split
  · exact readArray_tracks relocates moves agrees _
  · exact .pure rfl

theorem readLayer_tracks {place : String → String} {sub sub' : NodeReader}
    (relocates : Relocates place sub sub') :
    Relocates place (readLayer root sub) (readLayer root sub') := by
  intro path path' moves v
  unfold readLayer
  split
  · exact .pure (by rw [moves.at_eq]; rfl)
  · exact .pure (by rw [moves.at_eq]; rfl)
  · exact readSchema_tracks relocates moves (.refl _ _)
  · exact .of_throw

/-- The reader of the parts of schemas that are at most so deep. -/
def partsReader (root : Option String) : Nat → NodeReader
  | 0 => fun _ path => .fail path .notObject
  | depth + 1 => parseNode root depth

theorem parseNode_eq (root : Option String) (depth : Nat) :
    parseNode root depth = readLayer root (partsReader root depth) := by
  cases depth <;> rfl

/-- A schema is the same wherever it is read, up to the places in it, and however deep the reader
looks. -/
theorem parseNode_tracks (root : Option String) (place : String → String) (n m : Nat) :
    Relocates place (parseNode root n) (parseNode root m) := by
  rw [parseNode_eq, parseNode_eq]
  intro path path' moves v
  induction n generalizing m path path' v with
  | zero => exact readLayer_tracks (fun _ _ => .of_throw) moves v
  | succ n ih =>
    cases m with
    | zero => exact readLayer_tracks (fun _ _ => .of_throw_right) moves v
    | succ m =>
      refine readLayer_tracks (fun moves v => ?_) moves v
      rw [partsReader, partsReader, parseNode_eq, parseNode_eq]
      exact ih m moves v

theorem partsReader_tracks (root : Option String) (place : String → String) (n m : Nat) :
    Relocates place (partsReader root n) (partsReader root m) := by
  cases n with
  | zero => exact fun _ _ => .of_throw
  | succ n =>
    cases m with
    | zero => exact fun _ _ => .of_throw_right
    | succ m => exact parseNode_tracks root place n m

end WireModel.Schema
