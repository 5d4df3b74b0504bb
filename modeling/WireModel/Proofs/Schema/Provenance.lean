import WireModel.Proofs.Schema.Parsing
import WireModel.Proofs.Value.Plain

/-!
# What schemas say is in the document

The default of a schema, the values of an enumeration and the text of a discriminator or a reference
are parts of the document that the schema was read from (`saidIn_of_ofDocument`), by induction on
the depth of the reader, with one lemma for each form of schema. So what holds of all parts of a
document holds of them: the enumerations of a plain document are plain
(`enumsPlain_of_ofDocument`), in a JSON document they are JSON values, and the tags of a
discriminator are distinct (`Discriminator.ReadIn.tags_nodup`).
-/

namespace WireModel.Schema

open Logged (gives_pure_iff)

/-- The discriminator that a schema has itself. -/
def Node.discriminator? : Node → Option Discriminator
  | .object _ _ _ _ discriminator | .composite _ _ _ discriminator => discriminator
  | _ => none

/-- The values of a schema that is an enumeration. -/
def Node.enumValues : Node → List Value
  | .enum _ values _ => values
  | _ => []

/-- The pointer of a schema that is a reference, and the name that it gives. -/
def Node.reference? : Node → Option (String × String)
  | .reference _ pointer target => some (pointer, target)
  | _ => none

/-- A discriminator is read from some part of a document. -/
def Discriminator.ReadIn (document : Value) (d : Discriminator) : Prop :=
  ∃ root value path, value.Part document ∧ (readDiscriminator root value path).Gives d

/-- A pointer and the name that it gives are read from some part of a document. -/
def ReferenceIn (document : Value) (r : String × String) : Prop :=
  ∃ root value path, value.Part document ∧ (readReference root value path).Gives r

/-- A document has what a schema says itself, apart from the schemas inside of it. -/
structure Node.SaidIn (document : Value) (node : Node) : Prop where
  default : ∀ v, node.notes.default = some v → v.Part document
  values : ∀ v ∈ node.enumValues, v.Part document
  discriminator : ∀ d, node.discriminator? = some d → d.ReadIn document
  reference : ∀ r, node.reference? = some r → ReferenceIn document r

/-- A document has all that a schema says. -/
def Node.StemsFrom (document : Value) (node : Node) : Prop :=
  ∀ part : Node, part.Part node → part.SaidIn document

/-- A schema stands in a graph: a named one, or inside of one. -/
def Graph.Holds (graph : Graph) (part : Node) : Prop :=
  ∃ declared ∈ graph.definitions, part.Part declared.2

/-! ## Schemas and their parts -/

theorem Node.Part.trans {a b c : Node} (inner : a.Part b) (outer : b.Part c) : a.Part c := by
  induction outer with
  | refl => exact inner
  | items _ ih => exact .items ih
  | property mem _ ih => exact .property mem ih
  | additional _ ih => exact .additional ih
  | member mem _ ih => exact .member mem ih

theorem Graph.Holds.part {graph : Graph} {part node : Node} (holds : graph.Holds node)
    (isPart : part.Part node) : graph.Holds part := by
  obtain ⟨declared, mem, inside⟩ := holds
  exact ⟨declared, mem, isPart.trans inside⟩

theorem Node.SaidIn.of_part {v document : Value} {node : Node} (said : node.SaidIn v)
    (inside : v.Part document) : node.SaidIn document where
  default w same := (said.default w same).trans inside
  values w mem := (said.values w mem).trans inside
  discriminator d same := by
    obtain ⟨root, value, path, part, gives⟩ := said.discriminator d same
    exact ⟨root, value, path, part.trans inside, gives⟩
  reference r same := by
    obtain ⟨root, value, path, part, gives⟩ := said.reference r same
    exact ⟨root, value, path, part.trans inside, gives⟩

theorem Node.StemsFrom.of_part {v document : Value} {node : Node} (h : node.StemsFrom v)
    (inside : v.Part document) : node.StemsFrom document :=
  fun part isPart => (h part isPart).of_part inside

section Forms

variable {document : Value} {notes : Notes}

/-- The default of a schema is in the document. -/
def Notes.SaidIn (document : Value) (notes : Notes) : Prop :=
  ∀ v, notes.default = some v → v.Part document

theorem Notes.saidIn_at {path : String} : (Notes.at path).SaidIn document := nofun

theorem stemsFrom_primitive {kind : Kind} {format : Option String} (said : notes.SaidIn document) :
    (Node.primitive notes kind format).StemsFrom document := by
  intro part isPart
  cases isPart
  exact ⟨said, nofun, nofun, nofun⟩

theorem stemsFrom_reference {pointer target : String} (said : notes.SaidIn document)
    (read : ReferenceIn document (pointer, target)) :
    (Node.reference notes pointer target).StemsFrom document := by
  intro part isPart
  cases isPart
  refine ⟨said, nofun, nofun, ?_⟩
  rintro r ⟨⟩
  exact read

theorem stemsFrom_enum {values : List Value} {kind : Kind} (said : notes.SaidIn document)
    (inside : ∀ v ∈ values, v.Part document) :
    (Node.enum notes values kind).StemsFrom document := by
  intro part isPart
  cases isPart
  exact ⟨said, inside, nofun, nofun⟩

theorem stemsFrom_list (said : notes.SaidIn document) :
    (Node.array notes none).StemsFrom document := by
  intro part isPart
  cases isPart
  exact ⟨said, nofun, nofun, nofun⟩

theorem stemsFrom_array {items : Node} (said : notes.SaidIn document)
    (inner : items.StemsFrom document) : (Node.array notes (some items)).StemsFrom document := by
  intro part isPart
  cases isPart with
  | refl => exact ⟨said, nofun, nofun, nofun⟩
  | items isPart => exact inner part isPart

theorem stemsFrom_object {properties : List Property} {required : List String}
    {additional : Additional} {discriminator : Option Discriminator} (said : notes.SaidIn document)
    (read : ∀ d, discriminator = some d → d.ReadIn document)
    (inner : ∀ p ∈ properties, p.node.StemsFrom document)
    (other : ∀ node, additional = .schema node → node.StemsFrom document) :
    (Node.object notes properties required additional discriminator).StemsFrom document := by
  intro part isPart
  cases isPart with
  | refl => exact ⟨said, nofun, read, nofun⟩
  | property mem isPart => exact inner _ mem part isPart
  | additional isPart => exact other _ rfl part isPart

theorem stemsFrom_composite {mode : Combination} {members : List Node}
    {discriminator : Option Discriminator} (said : notes.SaidIn document)
    (read : ∀ d, discriminator = some d → d.ReadIn document)
    (inner : ∀ m ∈ members, m.StemsFrom document) :
    (Node.composite notes mode members discriminator).StemsFrom document := by
  intro part isPart
  cases isPart with
  | refl => exact ⟨said, nofun, read, nofun⟩
  | member mem isPart => exact inner _ mem part isPart

end Forms

/-! ## Objects and arrays -/

/-- What a reader makes of a value stems from that value. -/
def ReadsFrom (sub : NodeReader) : Prop :=
  ∀ value path node, (sub value path).Gives node → node.StemsFrom value

variable {root : Option String} {sub : NodeReader} {document : Value} {members : Members}
  {path : String} {notes : Notes} {node : Node}

/-- The members of a schema are in the document. -/
def InsideOf (document : Value) (members : Members) : Prop :=
  ∀ entry ∈ members, entry.2.Part document

theorem InsideOf.part_of_lookup (inside : InsideOf document members) {key : String} {v : Value}
    (found : Value.lookup key members = some v) : v.Part document :=
  inside _ (Value.mem_of_lookup found)

theorem InsideOf.part_of_truthy (inside : InsideOf document members) {key : String} {v : Value}
    (found : truthy key members = some v) : v.Part document :=
  inside.part_of_lookup (lookup_of_truthy found)

theorem InsideOf.discriminatorOf (inside : InsideOf document members)
    {discriminator : Option Discriminator}
    (h : (discriminatorOf root members path).Gives discriminator) :
    ∀ d, discriminator = some d → d.ReadIn document := by
  rintro d rfl
  unfold Schema.discriminatorOf at h
  split at h
  · cases gives_pure_iff.mp h
  · rename_i value found
    obtain ⟨_, read, same⟩ := h.map
    cases same
    exact ⟨root, value, path, inside.part_of_lookup found, read⟩

theorem InsideOf.saidIn (inside : InsideOf document members) :
    (notesOf members path).SaidIn document :=
  fun _ found => inside.part_of_lookup found

section Readers

variable (reads : ReadsFrom sub) (inside : InsideOf document members)
  (said : notes.SaidIn document)

include reads

theorem readMembers_stemsFrom {values : List Value} {nodes : List Node}
    (parts : ∀ v ∈ values, v.Part document) (h : (readMembers sub path values).Gives nodes) :
    ∀ n ∈ nodes, n.StemsFrom document := by
  intro n mem
  obtain ⟨⟨v, i⟩, mem, h⟩ := exists_left_of_forall₂ h.mapM mem
  exact (reads v _ n h).of_part (parts v (List.fst_mem_of_mem_zipIdx mem))

include inside said

theorem readObject_stemsFrom (h : (readObject root sub members path notes).Gives node) :
    node.StemsFrom document := by
  obtain ⟨entries, required, properties, additional, discriminator, listed, inner, other,
    hdiscriminator, rfl⟩ := parts_of_readObject h
  refine stemsFrom_object said (inside.discriminatorOf hdiscriminator) (fun p mem => ?_) ?_
  · obtain ⟨entry, there, place, read⟩ := exists_left_of_forall₂ inner mem
    -- without properties there is no entry either
    have found := listed.resolve_left (List.ne_nil_of_mem there)
    exact (reads _ _ _ read).of_part
      ((Value.part_of_mem_entries there).trans (inside.part_of_truthy found))
  · rintro n rfl
    obtain ⟨value, place, found, read⟩ := other n rfl
    exact (reads _ _ n read).of_part (inside.part_of_lookup found)

theorem readArray_stemsFrom (h : (readArray sub members path notes).Gives node) :
    node.StemsFrom document := by
  unfold readArray at h
  split at h
  · obtain rfl := gives_pure_iff.mp h
    exact stemsFrom_list said
  · obtain rfl := gives_pure_iff.mp h
    exact stemsFrom_list said
  · exact absurd h not_gives_fail
  · rename_i items _ found
    obtain ⟨variants, hvariants, h⟩ := h.bind
    obtain rfl := gives_pure_iff.mp h
    refine stemsFrom_array said (stemsFrom_composite Notes.saidIn_at nofun ?_)
    exact readMembers_stemsFrom reads
      (fun v mem => (Value.part_of_mem mem).trans (inside.part_of_lookup found)) hvariants
  · rename_i value _ _ _ found
    obtain ⟨items, hitems, h⟩ := h.bind
    obtain rfl := gives_pure_iff.mp h
    exact stemsFrom_array said ((reads _ _ _ hitems).of_part (inside.part_of_lookup found))

/-! ## Enumerations and types -/

omit reads inside in
theorem readEnum_stemsFrom {value : Value} (part : value.Part document)
    (h : (readEnum value members path notes).Gives node) : node.StemsFrom document := by
  have noted (c : Prop) [Decidable c] :
      (if c then { notes with nullable := true } else notes).SaidIn document := by
    split <;> exact said
  unfold readEnum at h
  split at h
  · rename_i values
    dsimp only at h
    split at h <;> obtain rfl := gives_pure_iff.mp h
    · exact stemsFrom_primitive (noted _)
    · refine stemsFrom_enum (noted _) fun v mem => ?_
      exact (Value.part_of_mem (List.mem_filter.mp mem).1).trans part
  · exact absurd h not_gives_fail

theorem readTyped_stemsFrom {type : String}
    (h : (readTyped root sub type members path notes).Gives node) : node.StemsFrom document := by
  unfold readTyped at h
  split at h
  · exact readArray_stemsFrom reads inside said h
  · split at h
    · exact readObject_stemsFrom reads inside said h
    · split at h
      · obtain rfl := gives_pure_iff.mp h
        exact stemsFrom_primitive said
      · exact absurd h not_gives_fail

theorem readType_stemsFrom {value : Value}
    (h : (readType root sub value members path notes).Gives node) : node.StemsFrom document := by
  have noted (c : Prop) [Decidable c] :
      (if c then { notes with nullable := true } else notes).SaidIn document := by
    split <;> exact said
  unfold readType at h
  split at h
  · split at h
    · exact absurd h not_gives_fail
    · exact absurd h not_gives_fail
    · rename_i names _ _
      dsimp only at h
      have noted := noted ((names.filter (· != "null")).length < names.length)
      split at h
      · obtain rfl := gives_pure_iff.mp h
        exact stemsFrom_primitive noted
      · exact readTyped_stemsFrom reads inside noted h
      · obtain ⟨variants, hvariants, h⟩ := h.bind
        obtain rfl := gives_pure_iff.mp h
        refine stemsFrom_composite noted nofun fun m mem => ?_
        obtain ⟨⟨type, i⟩, -, hm⟩ := exists_left_of_forall₂ hvariants.mapM mem
        have silent {place : String} {allowed : Bool} :
            (Notes.mk place none allowed none).SaidIn document := nofun
        exact readTyped_stemsFrom reads inside silent hm
  · exact readTyped_stemsFrom reads inside said h
  · exact absurd h not_gives_failAbout

/-! ## Combinations -/

omit said in
theorem readBeside_stemsFrom {mode : Combination} {last : List Node}
    (h : (readBeside root sub mode members path).Gives last) :
    ∀ n ∈ last, n.StemsFrom document := by
  have beside : InsideOf document (siblings members) :=
    fun entry mem => inside entry (List.mem_filter.mp mem).1
  unfold readBeside at h
  split at h
  · rw [← gives_pure_iff.mp h]
    exact fun n mem => nomatch mem
  split at h
  · obtain ⟨n, hn, rfl⟩ := h.map
    exact List.forall_mem_singleton.mpr (readObject_stemsFrom reads beside Notes.saidIn_at hn)
  · rw [← gives_pure_iff.mp h]
    exact fun n mem => nomatch mem

theorem readComposite_stemsFrom {mode : Combination} {others : List Combination}
    (h : (readComposite root sub mode others members path notes).Gives node) :
    node.StemsFrom document := by
  obtain ⟨values, variants, last, discriminator, found, hvariants, hlast, hdiscriminator, rfl⟩ :=
    members_of_readComposite h
  have parts : ∀ v ∈ values, v.Part document :=
    fun v mem => (Value.part_of_mem mem).trans (inside.part_of_lookup found)
  refine stemsFrom_composite said (inside.discriminatorOf hdiscriminator) ?_
  exact List.forall_mem_append.mpr ⟨readMembers_stemsFrom reads parts hvariants,
    readBeside_stemsFrom reads inside hlast⟩

/-! ## Schemas -/

omit said in
theorem readSchema_stemsFrom (h : (readSchema root sub members path).Gives node) :
    node.StemsFrom document := by
  have said : (notesOf members path).SaidIn document := inside.saidIn
  unfold readSchema at h
  dsimp only at h
  split at h
  · rename_i reference found
    obtain ⟨r, read, h⟩ := h.bind
    obtain rfl := gives_pure_iff.mp h
    exact stemsFrom_reference said ⟨root, reference, path, inside.part_of_lookup found, read⟩
  split at h
  · rename_i constant found
    split at h <;> obtain rfl := gives_pure_iff.mp h
    · exact stemsFrom_primitive said
    · exact stemsFrom_enum said (List.forall_mem_singleton.mpr (inside.part_of_lookup found))
  split at h
  · exact readComposite_stemsFrom reads inside said h
  split at h
  · rename_i values found
    exact readEnum_stemsFrom said (inside.part_of_lookup found) h
  split at h
  · exact readType_stemsFrom reads inside said h
  split at h
  · exact readObject_stemsFrom reads inside said h
  split at h
  · exact readArray_stemsFrom reads inside said h
  · obtain rfl := gives_pure_iff.mp h
    exact stemsFrom_primitive said

end Readers

theorem readLayer_readsFrom (reads : ReadsFrom sub) : ReadsFrom (readLayer root sub) := by
  intro value path node h
  unfold readLayer at h
  split at h
  · obtain rfl := gives_pure_iff.mp h
    exact stemsFrom_primitive Notes.saidIn_at
  · obtain rfl := gives_pure_iff.mp h
    exact stemsFrom_primitive Notes.saidIn_at
  · exact readSchema_stemsFrom reads (fun entry mem => Value.part_of_mem_entries mem) h
  · exact absurd h not_gives_fail

theorem parseNode_readsFrom (root : Option String) (depth : Nat) :
    ReadsFrom (parseNode root depth) := by
  induction depth with
  | zero => exact readLayer_readsFrom fun _ _ _ h => absurd h not_gives_fail
  | succ depth ih => exact readLayer_readsFrom ih

/-! ## Documents -/

/-- All that the schemas of a document say is in the document. -/
theorem saidIn_of_ofDocument {requested : Option String} {source : String} {graph : Graph}
    (h : (Graph.ofDocument document requested source).Gives graph) {node : Node}
    (holds : graph.Holds node) : node.SaidIn document := by
  suffices all : ∀ definition ∈ graph.definitions, definition.2.StemsFrom document by
    obtain ⟨declared, mem, isPart⟩ := holds
    exact all declared mem node isPart
  obtain ⟨members, container, entries, definitions, -, found, read, cases⟩ := ofDocument_cases h
  have named : ∀ definition ∈ definitions, definition.2.StemsFrom document := by
    intro definition mem
    obtain ⟨entry, mem, hd⟩ := exists_left_of_forall₂ read.mapM mem
    have mem := (List.mem_filter.mp mem).1
    have part := part_of_findContainer (List.ne_nil_of_mem mem) found
    exact (parseNode_readsFrom _ _ _ _ _ (of_readDefinition hd).2).of_part
      ((Value.part_of_mem_entries mem).trans part)
  rcases cases with ⟨-, rfl⟩ | ⟨name, node, -, -, hnode, rfl⟩
  · exact named
  · exact List.forall_mem_cons.mpr ⟨parseNode_readsFrom _ _ _ _ _ hnode, named⟩

/-- All schemas of a plain document have plain enumerations. -/
theorem enumsPlain_of_ofDocument {document : Value} {requested : Option String} {source : String}
    {graph : Graph} (plain : document.isPlain = true)
    (h : (Graph.ofDocument document requested source).Gives graph) :
    ∀ definition ∈ graph.definitions, definition.2.EnumsPlain :=
  fun definition there _ _ _ part v mem =>
    ((saidIn_of_ofDocument h ⟨definition, there, part⟩).values v mem).isPlain plain

/-! ## Discriminators -/

theorem fst_of_readTarget {entry : Value × Value} {result : String × String}
    (h : (readTarget root path entry).Gives result) : result.1 = entry.1.keyText := by
  unfold readTarget at h
  split at h
  · exact absurd h not_gives_failAbout
  · split at h
    · exact absurd h not_gives_failAbout
    · dsimp only at h
      split at h
      all_goals
        obtain ⟨name, -, h⟩ := h.bind
        obtain ⟨_, -, h⟩ := h.bind
        rw [← gives_pure_iff.mp h]

/-- In a JSON document the tags of a discriminator are distinct. -/
theorem Discriminator.ReadIn.tags_nodup {d : Discriminator} (h : d.ReadIn document)
    (json : document.isJson = true) : (d.mapping.map Prod.fst).Nodup := by
  obtain ⟨root, value, path, part, h⟩ := h
  have json := part.isJson json
  unfold readDiscriminator at h
  dsimp only at h
  split at h
  · split at h
    · exact absurd h not_gives_fail
    · split at h
      · exact absurd h not_gives_fail
      · split at h
        · rw [← gives_pure_iff.mp h]
          exact .nil
        · rename_i entries found
          obtain ⟨mapping, read, h⟩ := h.bind
          rw [← gives_pure_iff.mp h]
          have json : (Value.map entries).isJson = true :=
            (Value.part_of_lookup (lookup_of_truthy found)).isJson json
          have tags : mapping.map Prod.fst = entries.map fun entry => entry.1.keyText :=
            (map_eq_map_of_forall₂ read.mapM fun _ _ given => (fst_of_readTarget given).symm).symm
          exact tags ▸ Value.keyTexts_nodup_of_isJson json
        · exact absurd h not_gives_fail
  · split at h
    · exact absurd h not_gives_fail
    · rw [← gives_pure_iff.mp h]
      exact .nil
  · exact absurd h not_gives_fail

end WireModel.Schema
