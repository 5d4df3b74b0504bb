import WireModel.Emit.Literal
import WireModel.Proofs.Success
import WireModel.Proofs.Value.Plain

/-!
# What text hinges on

Text fails for one reason only, an integer that is too long. `Hinges` says so of a result: there is
no other fault, the result is there if everything that it may show can be shown, and if it is
there, what it does show can be. The literal and the JSON text of a tree hinge on the tree.
-/

namespace WireModel

section

variable {ε α β : Type} {long : ε} {whole P Q : Prop}

/-- A result that is there if `whole` holds, only if `shown` holds, and that has no other fault
than `long`. -/
structure Hinges (long : ε) (whole : Prop) (x : Except ε α) (shown : Prop) : Prop where
  ok : whole → ∃ a, x = .ok a
  shown : ∀ a, x = .ok a → shown
  fault : ErrsOnly x (· = long)

namespace Hinges

theorem of_ok {x : Except ε α} {a : α} (h : x = .ok a) : Hinges long whole x True :=
  ⟨fun _ => ⟨a, h⟩, fun _ _ => trivial, .of_eq_ok h⟩

theorem pure {a : α} : Hinges long whole (Pure.pure a : Except ε α) True := of_ok rfl

theorem of_error (lacks : ¬whole) : Hinges long whole (.error long : Except ε α) P where
  ok all := absurd all lacks
  shown a found := by cases found
  fault := .error rfl

theorem imp {whole' : Prop} {x : Except ε α} (h : Hinges long whole x P) (enough : whole' → whole)
    (needed : P → Q) : Hinges long whole' x Q :=
  ⟨fun all => h.ok (enough all), fun a found => needed (h.shown a found), h.fault⟩

theorem mono {x : Except ε α} (h : Hinges long whole x P) (needed : P → Q) :
    Hinges long whole x Q := h.imp id needed

/-- What comes next is asked only about results that there are. -/
theorem bind {x : Except ε α} {f : α → Except ε β} (h : Hinges long whole x P)
    (h' : ∀ a, x = .ok a → Hinges long whole (f a) Q) : Hinges long whole (x >>= f) (P ∧ Q) := by
  cases x with
  | error fault =>
    refine ⟨fun all => ?_, fun b found => ?_, .error (h.fault fault rfl)⟩
    · obtain ⟨a, found⟩ := h.ok all
      cases found
    · cases found
  | ok a => exact (h' a rfl).mono fun q => ⟨h.shown a rfl, q⟩

/-- What comes next shows no more. -/
theorem bind_left {x : Except ε α} {f : α → Except ε β} (h : Hinges long whole x P)
    (h' : ∀ a, x = .ok a → Hinges long whole (f a) True) : Hinges long whole (x >>= f) P :=
  (h.bind h').mono And.left

theorem bind_pure {x : Except ε α} {f : α → β} (h : Hinges long whole x P) :
    Hinges long whole (do return f (← x)) P :=
  h.bind_left fun _ _ => pure

/-- What comes first is there. -/
theorem bind_of_ok {x : Except ε α} {a : α} {f : α → Except ε β} (h : x = .ok a)
    (h' : Hinges long whole (f a) P) : Hinges long whole (x >>= f) P := by
  rw [h]
  exact h'

theorem map {x : Except ε α} {f : α → β} (h : Hinges long whole x P) :
    Hinges long whole (x.map f) P := by
  have same : x.map f = (do return f (← x)) := by cases x <;> rfl
  exact same ▸ h.bind_pure

theorem mapM {f : α → Except ε β} {P : α → Prop} :
    ∀ {l : List α}, (∀ a ∈ l, Hinges long whole (f a) (P a)) →
      Hinges long whole (l.mapM f) (∀ a ∈ l, P a)
  | [], _ => pure.mono fun _ => nofun
  | a :: l, h => by
    rw [List.mapM_cons]
    have first := h a List.mem_cons_self
    have rest := mapM fun a mem => h a (List.mem_cons_of_mem _ mem)
    refine (first.bind fun b _ => rest.bind_pure).mono ?_
    exact fun ⟨here, others⟩ => List.forall_mem_cons.mpr ⟨here, others⟩

/-- A filter shows what its elements show. -/
theorem filterMapM {f : α → Except ε (Option β)} {P : α → Prop} :
    ∀ {l : List α}, (∀ a ∈ l, Hinges long whole (f a) (P a)) →
      Hinges long whole (l.filterMapM f) (∀ a ∈ l, P a)
  | [], _ => by
    rw [List.filterMapM_nil]
    exact pure.mono fun _ => nofun
  | a :: l, h => by
    rw [List.filterMapM_cons]
    have first := h a List.mem_cons_self
    have rest := filterMapM fun a mem => h a (List.mem_cons_of_mem _ mem)
    refine (first.bind (Q := ∀ a ∈ l, P a) fun o _ => ?_).mono List.forall_mem_cons.mpr
    cases o with
    | none => exact rest
    | some b => exact rest.bind_pure

theorem self {x : Except ε α} (h : Hinges long whole x P) :
    Hinges long whole x (∃ a, x = .ok a) := ⟨h.ok, fun a found => ⟨a, found⟩, h.fault⟩

theorem ok_iff {x : Except ε α} (h : Hinges long whole x whole) : (∃ a, x = .ok a) ↔ whole :=
  ⟨fun ⟨a, found⟩ => h.shown a found, h.ok⟩

end Hinges
end

/-! ## Trees -/

namespace Value

/-- A value of lists and of mappings with text keys. A key may come twice in it. -/
inductive Tree : Value → Prop
  | null : Tree .null
  | bool {b} : Tree (.bool b)
  | int {n} : Tree (.int n)
  | float {x} : Tree (.float x)
  | str {s} : Tree (.str s)
  | list {items} : (∀ v ∈ items, Tree v) → Tree (.list items)
  | map {entries : List (Value × Value)} : (∀ entry ∈ entries, ∃ key, entry.1 = .str key) →
      (∀ entry ∈ entries, Tree entry.2) → Tree (.map entries)

mutual

theorem tree_of_isJson : ∀ {v : Value}, v.isJson = true → v.Tree
  | .null, _ => .null
  | .bool _, _ => .bool
  | .int _, _ => .int
  | .float _, _ => .float
  | .str _, _ => .str
  | .list _, json => .list (tree_of_areJson json)
  | .map _, json =>
    .map (fun _ mem => ((isJson_map.mp json).1 _ mem).1)
      (tree_of_areJsonEntries (Bool.and_eq_true .. ▸ json).1)

theorem tree_of_areJson : ∀ {items : List Value}, areJson items = true → ∀ v ∈ items, v.Tree
  | [], _ => nofun
  | _ :: _, json =>
    have both := Bool.and_eq_true .. ▸ json
    List.forall_mem_cons.mpr ⟨tree_of_isJson both.1, tree_of_areJson both.2⟩

theorem tree_of_areJsonEntries : ∀ {entries : List (Value × Value)},
    areJsonEntries entries = true → ∀ entry ∈ entries, entry.2.Tree
  | [], _ => nofun
  | (_, _) :: _, json => by
    simp only [areJsonEntries, Bool.and_eq_true] at json
    exact List.forall_mem_cons.mpr ⟨tree_of_isJson json.1.2, tree_of_areJsonEntries json.2⟩

end

end Value

/-! ## Literals -/

namespace Emit

theorem literals_eq_mapM (values : List Value) : literals values = values.mapM literal := by
  induction values with
  | nil => rfl
  | cons v rest ih => rw [literals, List.mapM_cons, ih]

/-- The literal of an entry of a mapping. -/
def entryLiteral (entry : Value × Value) : Except Fault String := do
  let key ← literal entry.1
  let part ← literal entry.2
  return key ++ ": " ++ part

theorem entryLiterals_eq_mapM (entries : List (Value × Value)) :
    entryLiterals entries = entries.mapM entryLiteral := by
  induction entries with
  | nil => rfl
  | cons entry rest ih =>
    rw [entryLiterals, List.mapM_cons, ih, entryLiteral]
    simp only [bind_assoc, pure_bind]

/-- A result in a module: the only fault is an integer that is too long. -/
abbrev Writes {α : Type} (whole : Prop) (x : Except Fault α) (shown : Prop) : Prop :=
  Hinges Fault.overlong whole x shown

variable {whole : Prop}

theorem literal_writes {v : Value} (tree : v.Tree) :
    Writes (v.isTellable = true) (literal v) (v.isTellable = true) := by
  induction tree with
  | null | bool | float | str => exact (Hinges.of_ok rfl).mono fun _ => rfl
  | @int n =>
    rw [literal, Value.isTellable]
    split
    · rename_i short
      exact (Hinges.of_ok rfl).mono fun _ => short
    · rename_i long
      exact .of_error long
  | @list items _ ih =>
    rw [literal, literals_eq_mapM, Value.isTellable_list]
    refine Hinges.bind_pure (.mapM fun v mem => ?_)
    exact (ih v mem).imp (fun all => all v mem) id
  | @map entries keys _ ih =>
    rw [literal, entryLiterals_eq_mapM, Value.isTellable_map]
    refine Hinges.bind_pure (.mapM fun entry mem => ?_)
    obtain ⟨key, text⟩ := keys entry mem
    have written : literal entry.1 = .ok (Json.quote key) := by rw [text, literal_str]
    refine (Hinges.bind_of_ok written (ih entry mem).bind_pure).imp ?_ fun told => ?_
    · exact fun all => (all entry mem).2
    · exact ⟨by rw [text]; rfl, told⟩

theorem literals_writes {values : List Value} (trees : ∀ v ∈ values, v.Tree)
    (enough : whole → ∀ v ∈ values, v.isTellable = true) :
    Writes whole (literals values) (∀ v ∈ values, v.isTellable = true) := by
  rw [literals_eq_mapM]
  exact .mapM fun v mem => (literal_writes (trees v mem)).imp (fun all => enough all v mem) id

end Emit
end WireModel
