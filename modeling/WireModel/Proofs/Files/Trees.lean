import WireModel.Files.Tree

/-!
# Changes of file trees

A tree is told by its entries: what is at each path without `..`. A change puts something at one
path, or takes it away, and leaves all other entries as they are.

* **`peek?_put`**, **`peek?_remove`**: the entries after a change.
* **`Tree.SameFiles`**: nothing is different but that directories may be new.
* **`Tree.Gains`**: moreover a path leads to a file of some content.
* **`gains_of_write`**: writing a file does just that.
-/

namespace WireModel.Files

/-- What may be at a path. -/
inductive Entry where
  | file (content : List UInt8)
  | directory
  deriving DecidableEq

namespace Tree

/-- A tree without what is below it. -/
def top : Tree → Entry
  | .file content => .file content
  | .directory _ => .directory

/-- What is at a path without `..`. -/
def peek? (t : Tree) (place : Place) : Option Entry := (t.at? place).map top

/-! ## Entries -/

theorem top_eq_file {t : Tree} {content : List UInt8} :
    t.top = .file content ↔ t = .file content := by
  cases t <;> simp [top]

theorem top_eq_directory {t : Tree} : t.top = .directory ↔ ∃ members, t = .directory members := by
  cases t <;> simp [top]

theorem peek?_eq_file {t : Tree} {place : Place} {content : List UInt8} :
    t.peek? place = some (.file content) ↔ t.at? place = some (.file content) := by
  simp [peek?, Option.map_eq_some_iff, top_eq_file]

theorem peek?_eq_directory {t : Tree} {place : Place} :
    t.peek? place = some .directory ↔ ∃ members, t.at? place = some (.directory members) := by
  simp only [peek?, Option.map_eq_some_iff, top_eq_directory]
  constructor
  · rintro ⟨_, found, members, rfl⟩
    exact ⟨members, found⟩
  · rintro ⟨members, found⟩
    exact ⟨_, found, members, rfl⟩

theorem peek?_eq_none {t : Tree} {place : Place} : t.peek? place = none ↔ t.at? place = none :=
  Option.map_eq_none_iff

theorem peek?_nil (t : Tree) : t.peek? [] = some t.top := rfl

theorem peek?_file_cons (content : List UInt8) (part : String) (rest : Place) :
    (Tree.file content).peek? (part :: rest) = none := rfl

theorem peek?_directory_cons (members : List (String × Tree)) (part : String) (rest : Place) :
    (Tree.directory members).peek? (part :: rest) =
      (members.lookup part).bind fun child => child.peek? rest := by
  rw [peek?, at?, member?]
  cases members.lookup part <;> rfl

theorem at?_append (t : Tree) (place below : Place) :
    t.at? (place ++ below) = (t.at? place).bind fun found => found.at? below := by
  induction place generalizing t with
  | nil => rfl
  | cons part rest ih =>
    rw [List.cons_append, at?, at?]
    cases t.member? part with
    | none => rfl
    | some child => exact ih child

theorem peek?_append (t : Tree) (place below : Place) :
    t.peek? (place ++ below) = (t.at? place).bind fun found => found.peek? below := by
  rw [peek?, at?_append]
  cases t.at? place <;> rfl

/-- Only directories have anything below them. -/
theorem peek?_below {t : Tree} {place : Place} (leaf : t.peek? place ≠ some .directory)
    (part : String) (rest : Place) : t.peek? (place ++ part :: rest) = none := by
  rw [peek?_append]
  cases found : t.at? place with
  | none => rfl
  | some child =>
    cases child with
    | file content => rfl
    | directory members => exact absurd (peek?_eq_directory.mpr ⟨members, found⟩) leaf

theorem directory_of_peek? {t : Tree} (h : t.peek? [] = some .directory) :
    ∃ members, t = .directory members :=
  top_eq_directory.mp (Option.some.inj h)

/-! ## Putting and taking away -/

/-- By induction on the path to the directory, along which a tree is rebuilt. -/
theorem peek?_put (new : Tree) {name : String} :
    ∀ {t : Tree} {above : Place}, t.peek? above = some .directory → ∀ place,
      (put new t (above ++ [name])).peek? place =
        if above ++ [name] <+: place then new.peek? (place.drop (above.length + 1))
        else t.peek? place
  | t, [], holds, place => by
    obtain ⟨members, rfl⟩ := directory_of_peek? holds
    cases place with
    | nil => rfl
    | cons part rest =>
      rw [List.nil_append, put, put, peek?_directory_cons, peek?_directory_cons]
      by_cases same : part = name
      · subst same
        rw [lookup_putMember, if_pos (by simp), Option.bind_some]
        rfl
      · rw [lookup_putMember_of_ne same, if_neg (by simpa using Ne.symm same)]
  | t, next :: above, holds, place => by
    cases t with
    | file content => cases holds
    | directory members =>
      rw [peek?_directory_cons] at holds
      obtain ⟨child, found, inner⟩ := Option.bind_eq_some_iff.mp holds
      cases place with
      | nil => rfl
      | cons part rest =>
        rw [List.cons_append, put, found, Option.getD_some, peek?_directory_cons,
          peek?_directory_cons]
        by_cases same : part = next
        · subst same
          rw [lookup_putMember, found, Option.bind_some, Option.bind_some,
            peek?_put new inner rest]
          simp only [List.prefix_cons_inj, List.length_cons, List.drop_succ_cons]
        · rw [lookup_putMember_of_ne same,
            if_neg fun begins => same (List.cons_prefix_cons.mp begins).1.symm]

/-- A file or an empty directory in place of nothing or of a file changes one entry. -/
theorem peek?_put_leaf (new : Tree) {t : Tree} {above : Place} {name : String}
    (holds : t.peek? above = some .directory)
    (leaf : ∀ part rest, new.peek? (part :: rest) = none)
    (free : t.peek? (above ++ [name]) ≠ some .directory) :
    (put new t (above ++ [name])).peek? (above ++ [name]) = some new.top ∧
      ∀ place ≠ above ++ [name], (put new t (above ++ [name])).peek? place = t.peek? place := by
  constructor
  · rw [peek?_put new holds, if_pos (List.prefix_refl _),
      List.drop_eq_nil_of_le (by simp), peek?_nil]
  · intro place other
    rw [peek?_put new holds]
    split
    · rename_i begins
      obtain ⟨below, rfl⟩ := begins
      cases below with
      | nil => exact absurd (List.append_nil _) other
      | cons part rest =>
        rw [List.drop_left' (by simp), leaf, peek?_below free]
    · rfl

theorem lookup_filter_ne (members : List (String × Tree)) (name part : String) :
    (members.filter fun entry => entry.1 != name).lookup part =
      if part = name then none else members.lookup part := by
  induction members with
  | nil => simp
  | cons entry rest ih =>
    obtain ⟨key, child⟩ := entry
    by_cases other : key = name
    · subst other
      rw [List.filter_cons_of_neg (by simp), ih, List.lookup_cons]
      by_cases same : part = key
      · rw [if_pos same, if_pos same]
      · rw [if_neg same, if_neg same, beq_false_of_ne same]
    · rw [List.filter_cons_of_pos (by simpa using other), List.lookup_cons, List.lookup_cons, ih]
      by_cases same : part = key
      · subst same
        rw [beq_self_eq_true]
        exact (if_neg other).symm
      · rw [beq_false_of_ne same]

theorem remove_cons (members : List (String × Tree)) (next : String) {below : Place}
    (inner : below ≠ []) :
    (Tree.directory members).remove (next :: below) =
      match members.lookup next with
      | none => .directory members
      | some child => .directory (putMember next (child.remove below) members) := by
  cases below with
  | nil => exact absurd rfl inner
  | cons => rfl

/-- By induction on the path: what is at it and below it is gone. -/
theorem peek?_remove :
    ∀ {t : Tree} {gone : Place}, gone ≠ [] → ∀ place,
      (t.remove gone).peek? place = if gone <+: place then none else t.peek? place
  | .file content, part :: below, _, place => by
    have same : (Tree.file content).remove (part :: below) = .file content := by
      cases below <;> rfl
    rw [same]
    cases place with
    | nil => simp
    | cons => rw [peek?_file_cons, ite_self]
  | .directory members, [name], _, place => by
    cases place with
    | nil => rfl
    | cons part rest =>
      rw [remove, peek?_directory_cons, peek?_directory_cons, lookup_filter_ne]
      by_cases same : part = name
      · subst same
        rw [if_pos rfl, if_pos (by simp)]
        rfl
      · rw [if_neg same, if_neg (by simpa using Ne.symm same)]
  | .directory members, next :: follow :: below, _, place => by
    cases place with
    | nil =>
      rw [remove_cons members next (List.cons_ne_nil _ _)]
      cases members.lookup next <;> rfl
    | cons part rest =>
      rw [remove_cons members next (List.cons_ne_nil _ _)]
      cases found : members.lookup next with
      | none =>
        by_cases begins : next :: follow :: below <+: part :: rest
        · rw [if_pos begins, ← (List.cons_prefix_cons.mp begins).1, peek?_directory_cons, found]
          rfl
        · rw [if_neg begins]
      | some child =>
        dsimp only
        rw [peek?_directory_cons, peek?_directory_cons]
        by_cases same : part = next
        · subst same
          rw [lookup_putMember, found, Option.bind_some, Option.bind_some,
            peek?_remove (List.cons_ne_nil _ _) rest]
          simp only [List.prefix_cons_inj]
        · rw [lookup_putMember_of_ne same,
            if_neg fun begins => same (List.cons_prefix_cons.mp begins).1.symm]

/-- A file that is taken away is the one entry that changes. -/
theorem peek?_remove_leaf {t : Tree} {gone : Place} (inner : gone ≠ [])
    (leaf : t.peek? gone ≠ some .directory) :
    (t.remove gone).peek? gone = none ∧
      ∀ place ≠ gone, (t.remove gone).peek? place = t.peek? place := by
  constructor
  · rw [peek?_remove inner, if_pos (List.prefix_refl _)]
  · intro place other
    rw [peek?_remove inner]
    split
    · rename_i begins
      obtain ⟨below, rfl⟩ := begins
      cases below with
      | nil => exact absurd (List.append_nil _) other
      | cons part rest => rw [peek?_below leaf]
    · rfl

/-- A file can be filled anew where there is one. -/
theorem peek?_put_file {t : Tree} {place : Place} {old : List UInt8} (content : List UInt8)
    (inner : place ≠ []) (there : t.peek? place = some (.file old)) :
    (put (.file content) t place).peek? place = some (.file content) ∧
      ∀ other ≠ place, (put (.file content) t place).peek? other = t.peek? other := by
  have split := List.dropLast_concat_getLast inner
  rw [← split] at there ⊢
  have above : t.peek? place.dropLast = some .directory := by
    rw [peek?_append] at there
    obtain ⟨child, found, there⟩ := Option.bind_eq_some_iff.mp there
    cases child with
    | file => cases there
    | directory members => exact peek?_eq_directory.mpr ⟨members, found⟩
  refine peek?_put_leaf _ above (fun _ _ => rfl) ?_
  rw [there]
  nofun

/-! ## Following paths -/

theorem resolveFrom_append (t : Tree) (here place below : Place) :
    t.resolveFrom here (place ++ below) =
      match t.resolveFrom here place with
      | .ok there => t.resolveFrom there below
      | .error fault => .error fault := by
  induction place generalizing here with
  | nil => rfl
  | cons part rest ih =>
    rw [List.cons_append, resolveFrom, resolveFrom]
    split
    · split
      · exact ih _
      · split
        · rfl
        · split
          · exact ih _
          · rfl
    · rfl

/-- A path leads where it led before as long as nothing is gone and directories stay such. -/
theorem resolveFrom_mono {t t' : Tree}
    (stays : ∀ place, t.peek? place = some .directory → t'.peek? place = some .directory)
    (there : ∀ place, t.peek? place ≠ none → t'.peek? place ≠ none) :
    ∀ {place here target : Place}, t.resolveFrom here place = .ok target →
      t'.resolveFrom here place = .ok target
  | [], _, _, h => h
  | part :: rest, here, target, h => by
    unfold resolveFrom at h
    split at h
    · rename_i members found
      obtain ⟨members', found'⟩ :=
        peek?_eq_directory.mp (stays here (peek?_eq_directory.mpr ⟨members, found⟩))
      rw [resolveFrom, found']
      dsimp only
      -- a step back asks for nothing but the directory; a step forth needs an entry too
      split at h
      · rename_i back
        rw [if_pos back]
        exact resolveFrom_mono stays there h
      · rename_i forth
        rw [if_neg forth]
        split at h
        · cases h
        · rename_i short
          rw [if_neg short]
          split at h
          · rename_i found
            have found' : t'.peek? (here ++ [part]) ≠ none :=
              there _ fun none => by
                rw [peek?_eq_none.mp none] at found
                cases found
            rw [if_pos (Option.isSome_iff_ne_none.mpr fun none => found' (peek?_eq_none.mpr none))]
            exact resolveFrom_mono stays there h
          · cases h
    · cases h

/-- Following a path takes its parts `..` together with the parts before them. -/
theorem eq_of_resolveFrom {t : Tree} :
    ∀ {place here target : Place}, t.resolveFrom here place = .ok target →
      target = place.foldl
        (fun before part => if part == ".." then before.dropLast else before ++ [part]) here
  | [], _, _, h => by
    cases h
    rfl
  | part :: rest, here, target, h => by
    rw [List.foldl_cons]
    unfold resolveFrom at h
    split at h
    · split at h
      · rename_i back
        rw [if_pos back]
        exact eq_of_resolveFrom h
      · rename_i forth
        rw [if_neg forth]
        split at h
        · cases h
        · split at h
          · exact eq_of_resolveFrom h
          · cases h
    · cases h

theorem resolveFrom_of_resolve {t : Tree} {place here : Place} (h : t.resolve place = .ok here) :
    place.hasNull = false ∧ t.resolveFrom [] place = .ok here := by
  unfold resolve at h
  split at h
  · cases h
  · rename_i clean
    exact ⟨Bool.eq_false_iff.mpr clean, h⟩

/-- A path that leads to anything leads to its simple form. -/
theorem eq_simplify_of_resolve {t : Tree} {place here : Place} (h : t.resolve place = .ok here) :
    here = place.simplify :=
  eq_of_resolveFrom (resolveFrom_of_resolve h).2

/-- A path without `..` leads to what is at it, if its parts are names at all: another tree in which
it leads somewhere shows that they are. -/
theorem resolveFrom_of_peek? {t other : Tree} :
    ∀ {place here target : Place}, ".." ∉ place → other.resolveFrom here place = .ok target →
      t.peek? (here ++ place) ≠ none → t.resolveFrom here place = .ok (here ++ place)
  | [], here, _, _, _, _ => by
    rw [List.append_nil]
    rfl
  | part :: rest, here, target, simple, h, there => by
    have forth : (part == "..") = false := by
      simpa using fun same : part = ".." => simple (same ▸ List.mem_cons_self)
    have split : here ++ part :: rest = here ++ [part] ++ rest := by simp
    -- the first part leads to something, since all of the path does
    have inside : t.peek? (here ++ [part]) ≠ none := by
      intro none
      rw [split, peek?_append, peek?_eq_none.mp none] at there
      exact there rfl
    obtain ⟨members, above⟩ : ∃ members, t.at? here = some (.directory members) := by
      refine peek?_eq_directory.mp (Decidable.not_not.mp fun leaf => there ?_)
      exact peek?_below leaf part rest
    unfold resolveFrom at h
    split at h
    · rw [if_neg (by rw [forth]; nofun)] at h
      split at h
      · cases h
      rename_i short
      split at h
      · have found : (t.at? (here ++ [part])).isSome = true :=
          Option.isSome_iff_ne_none.mpr fun none => inside (peek?_eq_none.mpr none)
        rw [split] at there ⊢
        rw [resolveFrom, above]
        dsimp only
        rw [if_neg (by rw [forth]; nofun), if_neg short, if_pos found]
        exact resolveFrom_of_peek? (fun mem => simple (List.mem_cons_of_mem _ mem)) h there
      · cases h
    · cases h

theorem find_eq_ok {t found : Tree} {place : Place} :
    t.find place = .ok found ↔ ∃ here, t.resolve place = .ok here ∧ t.at? here = some found := by
  unfold find
  constructor
  · intro h
    split at h
    · cases h
    · rename_i here leads
      split at h
      · rename_i same
        cases h
        exact ⟨here, leads, same⟩
      · cases h
  · rintro ⟨here, leads, there⟩
    rw [leads]
    dsimp only
    rw [there]

theorem hasPlace_iff {t : Tree} {place : Place} :
    t.hasPlace place = true ↔ ∃ found, t.find place = .ok found := by
  unfold hasPlace
  split
  · rename_i found leads
    exact ⟨fun _ => ⟨found, leads⟩, fun _ => rfl⟩
  · rename_i fault leads
    exact ⟨nofun, fun ⟨found, same⟩ => by rw [leads] at same; cases same⟩

/-- A path to a file leads to what is at its simple form. -/
theorem read_of_hasPlace {t : Tree} {place : Place} {content : List UInt8}
    (leads : t.hasPlace place = true) (there : t.peek? place.simplify = some (.file content)) :
    t.read place = .ok content := by
  obtain ⟨found, same⟩ := hasPlace_iff.mp leads
  obtain ⟨here, resolved, at'⟩ := find_eq_ok.mp same
  rw [eq_simplify_of_resolve resolved, peek?_eq_file.mp there] at at'
  cases at'
  rw [read, same]

/-! ## Writing -/

/-- What a destination is: a name in a directory to which the path leads. -/
theorem of_destination {t : Tree} {place here : Place} (h : t.destination place = .ok here) :
    place ≠ [] ∧ place.hasNull = false ∧ place.name ≠ ".." ∧ Place.isTooLong place.name = false ∧
      ∃ above, t.resolveFrom [] place.dropLast = .ok above ∧
        t.peek? above = some .directory ∧ here = above ++ [place.name] := by
  unfold destination at h
  split at h
  · cases h
  rename_i clean
  split at h
  · cases h
  rename_i above leads
  unfold resolve at leads
  split at leads
  · cases leads
  split at h
  · rename_i members found
    split at h
    · cases h
    rename_i short
    split at h
    · cases h
    rename_i proper
    cases h
    rw [Bool.or_eq_true, not_or, beq_iff_eq, List.isEmpty_iff] at proper
    exact ⟨proper.2, Bool.eq_false_iff.mpr clean, proper.1, Bool.eq_false_iff.mpr short, above,
      leads, peek?_eq_directory.mpr ⟨members, found⟩, rfl⟩
  · cases h

/-- A path leads to what is at its destination. -/
theorem resolve_of_destination {t : Tree} {place here : Place}
    (h : t.destination place = .ok here) (there : t.peek? here ≠ none) :
    t.resolve place = .ok here := by
  obtain ⟨inner, clean, forth, short, above, leads, holds, rfl⟩ := of_destination h
  obtain ⟨members, found⟩ := peek?_eq_directory.mp holds
  have last : place.getLast inner = place.name := by
    rw [Place.name, List.getLast?_eq_some_getLast inner, Option.getD_some]
  have split : place = place.dropLast ++ [place.name] := by
    rw [← last, List.dropLast_concat_getLast]
  have present : (t.at? (above ++ [place.name])).isSome = true :=
    Option.isSome_iff_ne_none.mpr fun none => there (peek?_eq_none.mpr none)
  have step : t.resolveFrom above [place.name] = .ok (above ++ [place.name]) := by
    rw [resolveFrom, found]
    dsimp only
    rw [if_neg (by simpa using forth), short, if_neg Bool.false_ne_true, present, if_pos rfl]
    rfl
  rw [resolve, clean, if_neg Bool.false_ne_true]
  calc t.resolveFrom [] place
      = t.resolveFrom [] (place.dropLast ++ [place.name]) := by rw [← split]
    _ = t.resolveFrom above [place.name] := by rw [resolveFrom_append, leads]
    _ = .ok (above ++ [place.name]) := step

/-- Entries that are the same, or a new directory. -/
def Keeps (before after : Option Entry) : Prop :=
  after = before ∨ before = none ∧ after = some .directory

/-- Nothing is different but that directories may be new. -/
def SameFiles (before after : Tree) : Prop :=
  ∀ place, Keeps (before.peek? place) (after.peek? place)

/-- A path leads to a file of some content; otherwise nothing is different but that directories
may be new. -/
def Gains (before : Tree) (place : Place) (content : List UInt8) (after : Tree) : Prop :=
  ∃ here, after.resolve place = .ok here ∧ after.peek? here = some (.file content) ∧
    ∀ other ≠ here, Keeps (before.peek? other) (after.peek? other)

/-- What is there stays. -/
theorem Keeps.of_some {entry : Entry} {after : Option Entry} (h : Keeps (some entry) after) :
    after = some entry := by
  rcases h with same | ⟨none, -⟩
  · exact same
  · cases none

theorem Keeps.trans {a b c : Option Entry} (h : Keeps a b) (h' : Keeps b c) : Keeps a c := by
  rcases h with rfl | ⟨rfl, rfl⟩
  · exact h'
  · rcases h' with rfl | ⟨none, -⟩
    · exact .inr ⟨rfl, rfl⟩
    · cases none

theorem SameFiles.refl (t : Tree) : t.SameFiles t := fun _ => .inl rfl

theorem SameFiles.trans {a b c : Tree} (h : a.SameFiles b) (h' : b.SameFiles c) : a.SameFiles c :=
  fun place => (h place).trans (h' place)

theorem SameFiles.of_entries {t t' : Tree} (same : ∀ place, t'.peek? place = t.peek? place) :
    t.SameFiles t' :=
  fun place => .inl (same place)

theorem SameFiles.gains {a b c : Tree} {place : Place} {content : List UInt8} (h : a.SameFiles b)
    (h' : b.Gains place content c) : a.Gains place content c := by
  obtain ⟨here, leads, there, others⟩ := h'
  exact ⟨here, leads, there, fun other ne => (h other).trans (others other ne)⟩

/-- The file that a path leads to has the content. -/
theorem Gains.read {t t' : Tree} {place : Place} {content : List UInt8}
    (h : t.Gains place content t') : t'.read place = .ok content := by
  obtain ⟨here, leads, there, -⟩ := h
  have found := peek?_eq_file.mp there
  rw [Tree.read, find, leads]
  dsimp only
  rw [found]

/-- The destination of a path stays where it is while nothing is gone. -/
theorem destination_mono {t t' : Tree} {place here : Place}
    (stays : ∀ place, t.peek? place = some .directory → t'.peek? place = some .directory)
    (there : ∀ place, t.peek? place ≠ none → t'.peek? place ≠ none)
    (h : t.destination place = .ok here) : t'.destination place = .ok here := by
  obtain ⟨inner, clean, forth, short, above, leads, holds, rfl⟩ := of_destination h
  obtain ⟨members, found⟩ := peek?_eq_directory.mp (stays above holds)
  have clean' : Place.hasNull place.dropLast = false := by
    rw [Place.hasNull, List.any_eq_false] at clean ⊢
    exact fun part mem => clean part (List.dropLast_subset _ mem)
  have proper : (place.name == ".." || place.isEmpty) = false := by
    rw [Bool.or_eq_false_iff]
    exact ⟨by simpa using forth, by simpa using inner⟩
  rw [destination, clean, if_neg Bool.false_ne_true, resolve, clean', if_neg Bool.false_ne_true,
    resolveFrom_mono stays there leads]
  dsimp only
  rw [found]
  dsimp only
  rw [short, if_neg Bool.false_ne_true, proper, if_neg Bool.false_ne_true]

/-- A file at a destination is the one entry that changes. -/
theorem peek?_put_destination {t : Tree} {place here : Place} (content : List UInt8)
    (h : t.destination place = .ok here) (free : t.peek? here ≠ some .directory) :
    (put (.file content) t here).peek? here = some (.file content) ∧
      ∀ other ≠ here, (put (.file content) t here).peek? other = t.peek? other := by
  obtain ⟨-, -, -, -, above, -, holds, rfl⟩ := of_destination h
  exact peek?_put_leaf _ holds (fun _ _ => rfl) free

/-- What is there stays, and directories stay such; files may get other contents. -/
structure Grows (before after : Tree) : Prop where
  directories : ∀ place, before.peek? place = some .directory → after.peek? place = some .directory
  entries : ∀ place, before.peek? place ≠ none → after.peek? place ≠ none

theorem Grows.trans {a b c : Tree} (h : a.Grows b) (h' : b.Grows c) : a.Grows c :=
  ⟨fun place holds => h'.directories place (h.directories place holds),
    fun place there => h'.entries place (h.entries place there)⟩

/-- Paths lead where they led before. -/
theorem Grows.resolve {t t' : Tree} (h : t.Grows t') {place here : Place}
    (leads : t.resolve place = .ok here) : t'.resolve place = .ok here := by
  obtain ⟨clean, followed⟩ := resolveFrom_of_resolve leads
  rw [Tree.resolve, clean, if_neg Bool.false_ne_true]
  exact resolveFrom_mono h.directories h.entries followed

theorem SameFiles.grows {t t' : Tree} (h : t.SameFiles t') : t.Grows t' := by
  constructor
  · intro place holds
    rcases h place with same | ⟨none, -⟩
    · rw [same, holds]
    · rw [holds] at none
      cases none
  · intro place there
    rcases h place with same | ⟨none, -⟩
    · rwa [same]
    · exact absurd none there

theorem grows_of_put {t : Tree} {place here : Place} (content : List UInt8)
    (h : t.destination place = .ok here) (free : t.peek? here ≠ some .directory) :
    t.Grows (put (.file content) t here) := by
  obtain ⟨new, others⟩ := peek?_put_destination content h free
  constructor
  · intro place holds
    rwa [others place fun same => free (same ▸ holds)]
  · intro place there
    by_cases same : place = here
    · rw [same, new]
      nofun
    · rwa [others place same]

theorem put_of_write {t t' : Tree} {place : Place} {content : List UInt8}
    (h : t.write place content = .ok t') :
    ∃ here, t.destination place = .ok here ∧ t.peek? here ≠ some .directory ∧
      put (.file content) t here = t' := by
  unfold write at h
  split at h
  · cases h
  rename_i here leads
  split at h
  · cases h
  rename_i leaf
  cases h
  refine ⟨here, leads, fun taken => ?_, rfl⟩
  obtain ⟨members, found⟩ := peek?_eq_directory.mp taken
  exact leaf members found

theorem grows_of_write {t t' : Tree} {place : Place} {content : List UInt8}
    (h : t.write place content = .ok t') : t.Grows t' := by
  obtain ⟨here, leads, free, rfl⟩ := put_of_write h
  exact grows_of_put content leads free

/-- **A file that is written is there**, and nothing else is different. -/
theorem of_write {t t' : Tree} {place : Place} {content : List UInt8}
    (h : t.write place content = .ok t') :
    ∃ here, t'.resolve place = .ok here ∧ t'.peek? here = some (.file content) ∧
      ∀ other ≠ here, t'.peek? other = t.peek? other := by
  obtain ⟨here, leads, free, rfl⟩ := put_of_write h
  obtain ⟨new, others⟩ := peek?_put_destination content leads free
  have grows := grows_of_put content leads free
  -- the path is followed in the changed tree, where the new file is the last step
  refine ⟨here, resolve_of_destination (destination_mono grows.directories grows.entries leads) ?_,
    new, others⟩
  rw [new]
  nofun

theorem of_create {t t' : Tree} {place here : Place} (h : t.create place = .ok (here, t')) :
    here ≠ [] ∧ t.peek? here = none ∧ t'.peek? here = some (.file []) ∧
      ∀ other ≠ here, t'.peek? other = t.peek? other := by
  unfold create at h
  split at h
  · cases h
  rename_i leads
  split at h
  · cases h
  rename_i absent
  cases h
  have free : t.peek? here = none := peek?_eq_none.mpr (Option.not_isSome_iff_eq_none.mp absent)
  obtain ⟨-, -, -, -, above, -, -, rfl⟩ := of_destination leads
  refine ⟨by simp, free, peek?_put_destination [] leads ?_⟩
  rw [free]
  nofun

theorem sameFiles_of_makeDirectory {t t' : Tree} {backwards : List String}
    (h : t.makeDirectory backwards = .ok t') : t.SameFiles t' := by
  cases backwards with
  | nil => cases h
  | cons name above =>
    simp only [makeDirectory] at h
    split at h
    · cases h
    split at h
    · cases h
    rename_i here leads
    split at h
    · rename_i members found
      split at h
      · cases h
      split at h
      · cases h
      rename_i proper
      cases h
      rw [Bool.or_eq_true, not_or] at proper
      have free := peek?_eq_none.mpr (Option.not_isSome_iff_eq_none.mp proper.2)
      have holds := peek?_eq_directory.mpr ⟨members, found⟩
      have leaf : t.peek? (here ++ [name]) ≠ some .directory := by
        rw [free]
        nofun
      obtain ⟨new, others⟩ := peek?_put_leaf (.directory []) holds (fun _ _ => rfl) leaf
      intro place
      by_cases same : place = here ++ [name]
      · rw [same]
        exact .inr ⟨free, new⟩
      · exact .inl (others place same)
    · cases h

theorem gains_of_write {t t' : Tree} {place : Place} {content : List UInt8}
    (h : t.write place content = .ok t') : t.Gains place content t' := by
  obtain ⟨here, leads, there, others⟩ := of_write h
  exact ⟨here, leads, there, fun other ne => .inl (others other ne)⟩

end Tree
end WireModel.Files
