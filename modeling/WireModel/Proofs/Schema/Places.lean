import WireModel.Proofs.Pointers
import WireModel.Proofs.Schema.Declaration
import WireModel.Proofs.Schema.Provenance

/-!
# Where the schemas of a document stand

A schema keeps the place at which it was read (`path_of_parse`). So a named schema is what is read
at the keys of its container and its name, and the root of the document what is read at no keys
(`exists_container`).

A reference is read by its last key alone: whatever container the other keys lead to
(`named_of_holds`).
-/

namespace WireModel.Schema

open Logged (gives_pure_iff)

/-! ## Places of schemas -/

section

variable {root : Option String} {sub : NodeReader} {members : Members} {path : String}
  {notes : Notes} {node : Node}

theorem path_of_readObject (h : (readObject root sub members path notes).Gives node) :
    node.notes.path = notes.path := by
  obtain ⟨_, _, _, _, _, -, -, -, -, rfl⟩ := parts_of_readObject h
  rfl

theorem path_of_readArray (h : (readArray sub members path notes).Gives node) :
    node.notes.path = notes.path := by
  unfold readArray at h
  split at h
  · rw [← gives_pure_iff.mp h]
    rfl
  · rw [← gives_pure_iff.mp h]
    rfl
  · exact absurd h not_gives_fail
  all_goals
    obtain ⟨_, -, h⟩ := h.bind
    rw [← gives_pure_iff.mp h]
    rfl

/-- Notes that null is allowed leave the place alone. -/
theorem path_ite (c : Prop) [Decidable c] :
    (if c then { notes with nullable := true } else notes).path = notes.path := by
  split <;> rfl

theorem path_of_readEnum {value : Value} (h : (readEnum value members path notes).Gives node) :
    node.notes.path = notes.path := by
  unfold readEnum at h
  split at h
  · dsimp only at h
    split at h <;> rw [← gives_pure_iff.mp h] <;> exact path_ite _
  · exact absurd h not_gives_fail

theorem path_of_readTyped {type : String}
    (h : (readTyped root sub type members path notes).Gives node) :
    node.notes.path = notes.path := by
  unfold readTyped at h
  split at h
  · exact path_of_readArray h
  · split at h
    · exact path_of_readObject h
    · split at h
      · rw [← gives_pure_iff.mp h]
        rfl
      · exact absurd h not_gives_fail

theorem path_of_readType {value : Value}
    (h : (readType root sub value members path notes).Gives node) :
    node.notes.path = notes.path := by
  unfold readType at h
  split at h
  · split at h
    · exact absurd h not_gives_fail
    · exact absurd h not_gives_fail
    · dsimp only at h
      split at h
      · rw [← gives_pure_iff.mp h]
        exact path_ite _
      · rw [path_of_readTyped h]
        exact path_ite _
      · obtain ⟨_, -, h⟩ := h.bind
        rw [← gives_pure_iff.mp h]
        exact path_ite _
  · exact path_of_readTyped h
  · exact absurd h not_gives_failAbout

theorem path_of_readComposite {mode : Combination} {others : List Combination}
    (h : (readComposite root sub mode others members path notes).Gives node) :
    node.notes.path = notes.path := by
  obtain ⟨_, _, _, _, -, -, -, -, rfl⟩ := members_of_readComposite h
  rfl

theorem path_of_readSchema (h : (readSchema root sub members path).Gives node) :
    node.notes.path = path := by
  unfold readSchema at h
  dsimp only at h
  split at h
  · obtain ⟨_, -, h⟩ := h.bind
    rw [← gives_pure_iff.mp h]
    rfl
  split at h
  · split at h <;> rw [← gives_pure_iff.mp h] <;> rfl
  split at h
  · exact path_of_readComposite h
  split at h
  · exact path_of_readEnum h
  split at h
  · exact path_of_readType h
  split at h
  · exact path_of_readObject h
  split at h
  · exact path_of_readArray h
  · rw [← gives_pure_iff.mp h]
    rfl

theorem path_of_readLayer {value : Value} (h : (readLayer root sub value path).Gives node) :
    node.notes.path = path := by
  unfold readLayer at h
  split at h
  · rw [← gives_pure_iff.mp h]
    rfl
  · rw [← gives_pure_iff.mp h]
    rfl
  · exact path_of_readSchema h
  · exact absurd h not_gives_fail

/-- A schema keeps the place at which it was read. -/
theorem path_of_parse {value : Value} (h : (parse root value path).Gives node) :
    node.notes.path = path := by
  unfold parse at h
  cases depth : value.depth with
  | zero =>
    rw [depth] at h
    exact path_of_readLayer h
  | succ n =>
    rw [depth] at h
    exact path_of_readLayer h

end

/-! ## Containers -/

/-- The name of a container is its place. -/
theorem containerPath_eq {container : List String} (mem : container ∈ containers) :
    containerPath container = Pointer.place container := by
  revert container
  decide

theorem at?_of_descend : ∀ {keys : List String} {value v : Value},
    descend value keys = some v → value.at? keys = some v
  | [], value, v, h => by
    rw [descend] at h
    split at h
    · cases h
    · exact h
  | key :: keys, value, v, h => by
    unfold descend at h
    split at h
    · rename_i entries
      obtain ⟨inner, found, h⟩ := Option.bind_eq_some_iff.mp h
      have child : (Value.map entries).child? key = some inner := found
      rw [Value.at?, List.foldlM_cons, child]
      exact at?_of_descend h
    · cases h

/-- The entries of the container that a document has are at its keys. -/
theorem container_of_findContainer {document : Value} {path : String} {entries : Members}
    (h : findContainer document = .ok (path, entries)) :
    ∃ container ∈ containers, path = containerPath container ∧
      (entries = [] ∨ document.at? container = some (.map entries)) := by
  obtain ⟨container, mem, same, entries⟩ := findContainer_cases h
  exact ⟨container, mem, same, entries.imp_right at?_of_descend⟩

/-! ## Named schemas -/

/-- A schema is what is read at keys into a document. -/
def ReadAt (document : Value) (requested : Option String) (keys : List String) (node : Node) :
    Prop :=
  ∃ value, document.at? keys = some value ∧
    (parse (rootOf document requested) value (Pointer.place keys)).Gives node

/-- A schema is read at one list of keys at most. -/
theorem ReadAt.unique {document : Value} {requested : Option String} {keys others : List String}
    {node : Node} (h : ReadAt document requested keys node)
    (h' : ReadAt document requested others node) : keys = others := by
  obtain ⟨_, -, read⟩ := h
  obtain ⟨_, -, read'⟩ := h'
  exact Pointer.place_injective ((path_of_parse read).symm.trans (path_of_parse read'))

/-- The keys of a name: none for the root of the document. -/
def keysOf (root : Option String) (container : List String) (name : String) : List String :=
  if root = some name then [] else container ++ [name]

/-- The schemas of a document are what is read at the root and in one of the containers, each at the
keys of its name. -/
theorem exists_container {document : Value} {requested : Option String} {source : String}
    {graph : Graph} (loads : (Graph.ofDocument document requested source).Gives graph)
    (distinct : ∀ path entries, findContainer document = .ok (path, entries) →
      (entries.map Prod.fst).Nodup) :
    ∃ container ∈ containers, graph.container = containerPath container ∧
      ∀ d ∈ graph.definitions,
        ReadAt document requested (keysOf (rootOf document requested) container d.1) d.2 := by
  obtain ⟨members, path, entries, definitions, rfl, found, read, cases⟩ := ofDocument_cases loads
  have distinct := distinct path entries found
  obtain ⟨container, mem, rfl, entriesAt⟩ := container_of_findContainer found
  have named : ∀ d ∈ definitions, ReadAt (.map members) requested (container ++ [d.1]) d.2 := by
    intro d there
    obtain ⟨⟨key, value⟩, there, read⟩ := exists_left_of_forall₂ read.mapM there
    obtain ⟨rfl, read⟩ := of_readDefinition read
    have there := (List.mem_filter.mp there).1
    -- without a container there are no entries at all
    have entriesAt := entriesAt.resolve_left fun none => by
      rw [none] at there
      cases there
    refine ⟨value, ?_, ?_⟩
    · rw [Value.at?_append, entriesAt, Option.bind_some, Value.at?_singleton]
      exact Value.lookup_of_mem distinct there
    · rw [Pointer.place_append, ← containerPath_eq mem]
      exact read
  refine ⟨container, mem, ?_⟩
  rcases cases with ⟨none, rfl⟩ | ⟨name, node, root, fresh, read, rfl⟩
  · refine ⟨rfl, fun d there => ?_⟩
    have other : rootOf (.map members) requested ≠ some d.1 := fun root =>
      nomatch none.symm.trans root
    rw [keysOf, if_neg other]
    exact named d there
  · have root : rootOf (.map members) requested = some name := root
    refine ⟨rfl, List.forall_mem_cons.mpr ⟨?_, fun d there => ?_⟩⟩
    · rw [keysOf, if_pos root]
      refine ⟨_, rfl, ?_⟩
      rw [root]
      exact read
    · have other : rootOf (.map members) requested ≠ some d.1 := fun same =>
        fresh d there (Option.some.inj (same.symm.trans root))
      rw [keysOf, if_neg other]
      exact named d there

/-! ## References -/

theorem nameIn_eq {container keys : List String} {name : String}
    (h : nameIn container keys = some name) : keys = container ++ [name] := by
  unfold nameIn at h
  split at h
  · rename_i begins
    obtain ⟨rest, rfl⟩ := List.isPrefixOf_iff_prefix.mp begins
    rw [List.drop_left] at h
    split at h
    · split at h
      · cases h
      · cases h
        rfl
    · cases h
  · cases h

/-- A pointer that is no mere `#` gives the key after those of any container. -/
theorem named_of_targetOf {root : Option String} {pointer target : String}
    (h : targetOf root pointer = .ok target) (other : pointer ≠ "#") :
    ∃ fragment, pointer.toList = '#' :: '/' :: fragment ∧
      ∃ named ∈ containers, Pointer.keys fragment = named ++ [target] := by
  unfold targetOf at h
  split at h
  · rename_i same
    exact absurd (String.toList_injective same) other
  · rename_i fragment same
    split at h
    · rename_i found
      cases h
      obtain ⟨named, mem, found⟩ := List.exists_of_findSome?_eq_some found
      exact ⟨fragment, same, named, mem, nameIn_eq found⟩
    · cases h
  · cases h
  · cases h

/-- What a reference in a document gives. -/
theorem named_of_holds {document : Value} {requested : Option String} {source : String}
    {graph : Graph} (loads : (Graph.ofDocument document requested source).Gives graph)
    {notes : Notes} {pointer target : String} (holds : graph.Holds (.reference notes pointer target))
    (other : pointer ≠ "#") :
    ∃ fragment, pointer.toList = '#' :: '/' :: fragment ∧
      ∃ named ∈ containers, Pointer.keys fragment = named ++ [target] := by
  obtain ⟨root, value, path, -, read⟩ := (saidIn_of_ofDocument loads holds).reference _ rfl
  unfold readReference at read
  split at read
  · exact absurd read not_gives_fail
  · split at read
    · exact absurd read not_gives_fail
    · split at read
      · rename_i found
        cases gives_pure_iff.mp read
        exact named_of_targetOf found other
      · exact absurd read not_gives_fail

end WireModel.Schema
