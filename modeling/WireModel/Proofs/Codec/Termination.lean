import Mathlib.Logic.Relation
import WireModel.Proofs.Codec.Refusals
import WireModel.Proofs.Table.WellFormed

/-!
# Decoding ends

A decoder meets models on its way into a value. Fields, elements and the values of mappings are less
deep than the value that they are in, so a model can only be met again and again at one and the same
value by way of unions and of discriminators. A record hands a value on to another record at most
once, and that one does not look at the discriminator again. What is left are chains of unions.

* **`Ending.decoder`**: a decoder ends if the models end that its type leads to at the same value,
  and all models at values that are less deep.
* **`decodeModel_ends`**: where a rank decreases along unions, decoding ends with as much fuel as
  the value is deep times what the ranks take at one value.
* **`exists_rank`**: there is such a rank unless some chain of unions leads back to its start.
-/

namespace WireModel

open Types (WireType)

/-! ## Chains of unions -/

namespace Types.WireType

mutual

/-- The models that a value is handed to as it stands: the variants of a union, or the models that
its discriminator leads to; a variant that is a union in turn hands the value on to its own. -/
def alternatives : WireType → List String
  | .model name => [name]
  | .optional inner | .nullable inner => inner.alternatives
  | .union _ _ (some d) _ => targets (some d)
  | .union _ _ none variants => alternativesOfAll variants
  | .primitive .. | .enum .. | .sequence _ | .mapping _ => []

def alternativesOfAll : List WireType → List String
  | [] => []
  | t :: rest => t.alternatives ++ alternativesOfAll rest

end

theorem alternatives_subset_of_mem {t : WireType} {ts : List WireType} (mem : t ∈ ts) :
    t.alternatives ⊆ alternativesOfAll ts := by
  induction ts with
  | nil => cases mem
  | cons s rest ih =>
    rw [alternativesOfAll]
    rcases List.mem_cons.mp mem with rfl | mem
    · exact List.subset_append_left _ _
    · exact List.subset_append_of_subset_right _ (ih mem)

end Types.WireType

namespace Table

/-- One union hands a value on to another one. -/
def HandsOn (table : Table) (a b : String) : Prop :=
  ∃ u v, table.get? a = some (.union u) ∧ table.get? b = some (.union v) ∧
    b ∈ u.type.alternatives

/-- No chain of unions, each handed a value by the one before, returns to its start. -/
def UnionsAcyclic (table : Table) : Prop := ∀ name, ¬Relation.TransGen table.HandsOn name name

/-- The unions of a table. -/
def unions (table : Table) : List String := table.names.filter fun name =>
  match table.get? name with
  | some (.union _) => true
  | _ => false

theorem mem_unions_iff {table : Table} {name : String} :
    name ∈ table.unions ↔ ∃ u, table.get? name = some (.union u) := by
  rw [unions, List.mem_filter, mem_names_iff]
  constructor
  · rintro ⟨-, union⟩
    split at union
    · rename_i u found
      exact ⟨u, found⟩
    · cases union
  · rintro ⟨u, found⟩
    rw [found]
    exact ⟨⟨_, rfl⟩, rfl⟩

/-- Unions can be ranked by how many unions they lead to, unless a chain returns to its start. -/
theorem exists_rank {table : Table} (acyclic : table.UnionsAcyclic) :
    ∃ rank : String → Nat, (∀ {a b}, table.HandsOn a b → rank b < rank a) ∧
      ∀ {name}, name ∈ table.unions → rank name < table.unions.length := by
  classical
  -- The rank of a union is the number of unions below it: what is below the next one in a chain is
  -- below it too, and the next one itself is not below itself.
  let below := fun name => table.unions.toFinset.filter (Relation.TransGen table.HandsOn name)
  have not_mem (name : String) : name ∉ below name := fun mem =>
    acyclic name (Finset.mem_filter.mp mem).2
  refine ⟨fun name => (below name).card, fun {a b} step => ?_, fun {name} mem => ?_⟩
  · have shorter : below b ⊆ below a := fun n mem =>
      Finset.mem_filter.mpr ((Finset.mem_filter.mp mem).imp_right (.head step))
    have next : b ∈ below a := by
      obtain ⟨-, v, -, found, -⟩ := id step
      exact Finset.mem_filter.mpr
        ⟨List.mem_toFinset.mpr (mem_unions_iff.mpr ⟨v, found⟩), .single step⟩
    exact Finset.card_lt_card ((Finset.ssubset_iff_of_subset shorter).mpr ⟨b, next, not_mem b⟩)
  · have inside : below name ⊂ table.unions.toFinset :=
      (Finset.ssubset_iff_of_subset (Finset.filter_subset _ _)).mpr
        ⟨name, List.mem_toFinset.mpr mem, not_mem name⟩
    exact (Finset.card_lt_card inside).trans_le (List.toFinset_card_le _)

/-- Whether a rank decreases along all unions of a table. -/
def descends (table : Table) (rank : String → Nat) : Bool :=
  table.models.all fun
    | .union u => u.type.alternatives.all fun n =>
      match table.get? n with
      | some (.union _) => rank n < rank u.name
      | _ => true
    | .record _ => true

/-- A rank that decreases along all unions rules out that a chain returns to its start. -/
theorem unionsAcyclic_of_descends {table : Table} (rank : String → Nat)
    (h : table.descends rank = true) : table.UnionsAcyclic := by
  have less {a b : String} : table.HandsOn a b → rank b < rank a := by
    rintro ⟨u, v, found, next, alternative⟩
    have all := List.all_eq_true.mp (List.all_eq_true.mp h _ (mem_of_get? found)) b alternative
    rw [next] at all
    rw [← name_of_get? found]
    exact of_decide_eq_true all
  have along {a b : String} (chain : Relation.TransGen table.HandsOn a b) : rank b < rank a := by
    induction chain with
    | single step => exact less step
    | tail _ step ih => exact (less step).trans ih
  exact fun name chain => Nat.lt_irrefl _ (along chain)

end Table

namespace Codec

/-! ## Outcomes -/

/-- A computation has an outcome, whatever it is: it does not run out of fuel. -/
def Outcome.Ends {α : Type} (x : Outcome α) : Prop :=
  x.FailsOnly fun fault => fault.cause ≠ .endless

theorem Outcome.ends_iff {α : Type} {x : Outcome α} : x.Ends ↔ ¬x.IsEndless := by
  constructor
  · rintro ends ⟨path, fails⟩
    exact ends _ fails rfl
  · rintro ends ⟨cause, path⟩ fails rfl
    exact ends ⟨path, fails⟩

/-! ## Combinators -/

/-- What a codec needs to end at a value: some models end at the value itself, and all models at
values that are less deep. -/
structure ModelsEnd (models : ModelCodec) (names : List String) (v : Value) (path : Path) :
    Prop where
  here : ∀ name ∈ names, (models name false v path).Ends
  inside : ∀ w, w.depth < v.depth → ∀ name ignoring place, (models name ignoring w place).Ends

theorem ModelsEnd.part {models : ModelCodec} {names others : List String} {v w : Value}
    {path : Path} (h : ModelsEnd models names v path) (less : w.depth < v.depth) (place : Path) :
    ModelsEnd models others w place where
  here name _ := h.inside w less name false place
  inside u deeper := h.inside u (deeper.trans less)

/-- A codec ends wherever the models do that it leads to. -/
def Ending (models : ModelCodec) (names : List String) (c : Codec) : Prop :=
  ∀ v path, ModelsEnd models names v path → (c.run v path).Ends

namespace Ending

variable {models : ModelCodec} {names others : List String} {c : Codec}

theorem identity : Ending models names .identity := fun _ _ _ => .ok

theorem enumOf (values : List Value) : Ending models names (.enumOf values) := by
  intro v path _
  rw [Codec.enumOf]
  dsimp only
  split
  · exact .ok
  · exact .failAbout (by simp) (by simp)

theorem nullable (h : Ending models names c) : Ending models names c.nullable := by
  intro v path ends
  rw [Codec.nullable]
  dsimp only
  split
  · exact .ok
  · exact h v path ends

theorem element (h : Ending models names c) {v : Value} {path : Path}
    (ends : ModelsEnd models names v path) : (c.element path v).Ends := by
  rw [Codec.element]
  split
  · exact .fail (by simp)
  · exact h v path ends

theorem elements (h : Ending models names c) (path : Path) :
    ∀ (i : Nat) (vs : List Value), (∀ v ∈ vs, ∀ place, ModelsEnd models names v place) →
      (c.elements path i vs).Ends
  | _, [], _ => .ok
  | i, v :: rest, ends => by
    refine (h.element (ends v List.mem_cons_self _)).bind fun w => ?_
    exact (elements h path (i + 1) rest fun v mem => ends v (List.mem_cons_of_mem _ mem)).bind
      fun ws => .ok

theorem entries (h : Ending models names c) (path : Path) :
    ∀ entries : List (Value × Value),
      (∀ entry ∈ entries, ∀ place, ModelsEnd models names entry.2 place) →
        (c.entries path entries).Ends
  | [], _ => .ok
  | (k, v) :: rest, ends => by
    have later := entries h path rest fun entry mem => ends entry (List.mem_cons_of_mem _ mem)
    have whole := (h.element (ends (k, v) List.mem_cons_self (path.push (.key k)))).bind
      fun w => later.bind fun ws => .ok (a := (k, w) :: ws)
    unfold Codec.entries
    split
    · exact whole
    · exact .bind (.fail (by simp)) fun _ => whole

theorem listOf (h : Ending models names c) : Ending models others c.listOf := by
  intro v path ends
  rw [Codec.listOf]
  dsimp only
  cases held : v.elements? with
  | none => exact .fail (by simp)
  | some items =>
    exact (h.elements path 0 items fun w mem place =>
      ends.part (Value.depth_lt_of_mem_elements held mem) place).map

theorem dictOf (h : Ending models names c) : Ending models others c.dictOf := by
  intro v path ends
  rw [Codec.dictOf]
  dsimp only
  cases held : v.entries? with
  | none => exact .fail (by simp)
  | some members =>
    exact (h.entries path members fun entry mem place =>
      ends.part (Value.depth_lt_of_mem_entries held mem) place).map

theorem modelCodec {name : String} (mem : name ∈ names) :
    Ending models names (Plan.modelCodec models name) :=
  fun _ _ ends => ends.here name mem

theorem firstMatch {options : List ((Value → Bool) × Codec)} (description : String)
    (h : ∀ option ∈ options, Ending models names option.2) :
    Ending models names (.firstMatch options description) := by
  intro v path ends
  rw [Codec.firstMatch]
  dsimp only
  split
  · rename_i option found
    exact h option (List.mem_of_find?_eq_some found) v path ends
  · exact .fail (by simp)

end Ending

theorem requireMapping_ends (model : String) (v : Value) (path : Path) :
    (requireMapping model v path).Ends := by
  cases v with
  | map members => exact .ok
  | _ => exact .fail (by simp)

theorem selectVariant_ends {α : Type} (members : List (Value × Value)) (property : String)
    (cases : List (String × α)) (path : Path) :
    (selectVariant members property cases path).Ends := by
  simp only [selectVariant]
  split
  · exact .ok
  · exact .failAbout (by simp) (by simp)

theorem mem_of_selectVariant {α : Type} {members : List (Value × Value)} {property : String}
    {cases : List (String × α)} {path : Path} {selected : α}
    (h : selectVariant members property cases path = .ok selected) :
    ∃ tag, (tag, selected) ∈ cases := by
  obtain ⟨tag, -, leads⟩ := selectVariant_ok_iff.mp h
  exact ⟨tag, List.mem_reverse.mp (Table.mem_of_lookup leads)⟩

namespace Ending

variable {models : ModelCodec} {names : List String}

theorem dispatchOn {property : String} {cases : List (String × String)}
    (h : cases.map Prod.snd ⊆ names) : Ending models names
      (.dispatchOn property (cases.map fun c => (c.1, Plan.modelCodec models c.2))) := by
  intro v path ends
  refine (requireMapping_ends _ v path).bind fun members => ?_
  refine (selectVariant_ends _ _ _ path).bind_of fun codec selected => ?_
  obtain ⟨tag, mem⟩ := mem_of_selectVariant selected
  obtain ⟨⟨_, target⟩, there, same⟩ := List.mem_map.mp mem
  obtain ⟨-, rfl⟩ := Prod.mk.inj same
  exact ends.here target (h (List.mem_map.mpr ⟨_, there, rfl⟩))

/-- The decoder of a type ends if the models do that a value of the type is handed to. By induction
on the type: inside of elements and of the values of mappings all models end. -/
theorem decoder {table : Table} {t : WireType} {p : Plan} (implements : Plan.Implements table t p)
    (leads : t.alternatives ⊆ names) : Ending models names (p.decoder models) := by
  induction t using WireType.induct generalizing p names with
  | primitive kind format =>
    cases implements
    exact .identity
  | enum name values kind =>
    cases implements
    exact .enumOf values
  | model name =>
    cases implements
    exact .modelCodec (leads List.mem_cons_self)
  | optional inner ih => exact ih implements leads
  | nullable inner ih =>
    obtain ⟨q, rfl, implements⟩ := implements
    exact (ih implements leads).nullable
  | sequence element ih =>
    obtain ⟨q, rfl, implements⟩ := implements
    exact (ih implements (List.Subset.refl _)).listOf
  | mapping value ih =>
    obtain ⟨q, rfl, implements⟩ := implements
    exact (ih implements (List.Subset.refl _)).dictOf
  | union name mode d variants ih =>
    cases d with
    | some d =>
      cases implements
      exact .dispatchOn leads
    | none =>
      obtain ⟨options, description, rfl, all⟩ := implements
      rw [Plan.decoder, decoders_eq_map]
      refine .firstMatch description (List.forall_mem_map.mpr fun option mem => ?_)
      obtain ⟨t, there, implements⟩ := all.exists_variant mem
      exact ih t there implements
        (List.Subset.trans (WireType.alternatives_subset_of_mem there) leads)

end Ending

/-! ## Models -/

section

variable {models : ModelCodec} {members : List (Value × Value)} {path : Path}

theorem decodeField_ends (rule : FieldRule) {names : List String} {c : Codec}
    (ending : Ending models names c) (ends : ModelsEnd models [] (.map members) path) :
    (decodeField rule c members path).Ends := by
  simp only [decodeField]
  cases held : Value.lookup rule.wireName members with
  | none =>
    dsimp only
    split
    · exact .fail (by simp)
    · exact .ok
  | some v =>
    have shallow := Value.depth_le_of_lookup held
    dsimp only
    split
    · split
      · exact .ok
      · exact .fail (by simp)
    · refine ending v _ (ends.part ?_ _)
      rw [Value.depth]
      omega

variable {table : Table}

theorem decodeFields_ends {r : RecordModel} {c : RecordContract}
    (implements : RecordContract.Implements table r c)
    (ends : ModelsEnd models [] (.map members) path) :
    (decodeFields models c members path).Ends := by
  refine .bind (.mapM fun f mem => ?_) fun fields => .ok
  obtain ⟨g, -, own⟩ := exists_left_of_forall₂ implements.fields mem
  have ending : Ending models g.type.alternatives (f.plan.decoder models) :=
    .decoder own.plan (List.Subset.refl _)
  exact .bind (decodeField_ends _ ending ends) fun v => .ok

end

/-- The models end that a model hands its value on to: a union to its alternatives, with a look at
their discriminators, and a record to another record without one. -/
structure OthersEnd (table : Table) (models : ModelCodec) (name : String) (ignoring : Bool)
    (v : Value) (path : Path) : Prop where
  union : ∀ u, table.get? name = some (.union u) → ∀ n ∈ u.type.alternatives,
    (models n false v path).Ends
  record : ∀ r, table.get? name = some (.record r) → ignoring = false → ∀ n s,
    table.get? n = some (.record s) → (models n true v path).Ends
  inside : ∀ w, w.depth < v.depth → ∀ n ignoring place, (models n ignoring w place).Ends

/-- One step: a model ends if what it hands its value on to does, and everything less deep. -/
theorem decodeStep_ends {table : Table} {contracts : Contracts} (wellFormed : table.WellFormed)
    (implement : contracts.Implement table) {models : ModelCodec} {name : String} {ignoring : Bool}
    {v : Value} {path : Path} (ends : OthersEnd table models name ignoring v path) :
    (decodeStep contracts models name ignoring v path).Ends := by
  unfold decodeStep
  cases found : table.get? name with
  | none =>
    rw [implement.none found]
    exact .fail (by simp)
  | some m =>
    obtain ⟨c, contracted, implements⟩ := implement.some found
    rw [contracted]
    cases implements with
    | @union u c _ body =>
      exact Ending.decoder body (List.Subset.refl _) v path ⟨ends.union u found, ends.inside⟩
    | @record r c implements =>
      refine (requireMapping_ends name v path).bind_of fun members mapped => ?_
      obtain rfl := requireMapping_ok_iff.mp mapped
      -- the values of fields are less deep, so all models end for them
      have fields : (decodeFields models c members path).Ends :=
        decodeFields_ends implements ⟨nofun, ends.inside⟩
      dsimp only
      split
      · exact fields
      · rename_i d dispatched
        obtain ⟨tagged, looks⟩ := Option.filter_eq_some_iff.mp dispatched
        refine (selectVariant_ends _ _ _ path).bind_of fun target selected => ?_
        split
        · exact fields
        · obtain ⟨tag, mem⟩ := mem_of_selectVariant selected
          rw [implements.discriminator] at tagged
          -- the discriminator leads to a record, which is told not to ask again
          obtain ⟨s, leads⟩ := wellFormed.targets (Table.mem_of_get? found) tagged mem
          have plain : ignoring = false := by simpa using (Bool.and_eq_true_iff.mp looks).1
          exact ends.record r found plain target s leads

/-! ## Runs -/

/-- How many models a value is handed on to at most. -/
def hops (table : Table) (rank : String → Nat) (name : String) (ignoring : Bool) : Nat :=
  match table.get? name with
  | some (.union _) => rank name + 3
  | some (.record _) => if ignoring then 1 else 2
  | none => 1

theorem hops_pos (table : Table) (rank : String → Nat) (name : String) (ignoring : Bool) :
    0 < hops table rank name ignoring := by
  unfold hops
  split
  · omega
  · split <;> omega
  · omega

/-- By induction on the fuel: each step goes deeper into the value, or hands it on to a model with
fewer hops ahead. -/
theorem decodeModel_ends {table : Table} {contracts : Contracts} (wellFormed : table.WellFormed)
    (implement : contracts.Implement table) {rank : String → Nat}
    (less : ∀ {a b}, table.HandsOn a b → rank b < rank a) {most : Nat}
    (bounded : ∀ name ignoring, hops table rank name ignoring ≤ most) (fuel : Nat) :
    ∀ (name : String) (ignoring : Bool) (v : Value) (path : Path),
      v.depth * most + hops table rank name ignoring ≤ fuel →
        (decodeModel contracts fuel name ignoring v path).Ends := by
  induction fuel with
  | zero =>
    intro name ignoring v path enough
    have := hops_pos table rank name ignoring
    omega
  | succ fuel ih =>
    intro name ignoring v path enough
    rw [decodeModel_succ]
    refine decodeStep_ends wellFormed implement ⟨?_, ?_, ?_⟩
    -- A union below this one has a smaller rank, and a record has two hops where it has three.
    · intro u found n alternative
      refine ih n false v path ?_
      have own : hops table rank name ignoring = rank name + 3 := by rw [hops, found]
      have fewer : hops table rank n false < rank name + 3 := by
        rw [hops]
        split
        · rename_i w there
          have := less ⟨u, w, found, there, alternative⟩
          omega
        · simp
        · omega
      omega
    -- A record that hands a value on looks at its discriminator, and the next one does not.
    · rintro r found rfl n s there
      refine ih n true v path ?_
      have own : hops table rank name false = 2 := by rw [hops, found]; rfl
      have fewer : hops table rank n true = 1 := by rw [hops, there]; rfl
      omega
    -- One level less of the value pays for all hops that a model can have.
    · intro w deeper n ignoring' place
      refine ih n ignoring' w place ?_
      have inside : (w.depth + 1) * most ≤ v.depth * most := Nat.mul_le_mul_right most deeper
      rw [Nat.succ_mul] at inside
      have := bounded n ignoring'
      have := hops_pos table rank name ignoring
      omega

/-- Decoding ends in every table where no chain of unions returns to its start, and more fuel than
the bound changes nothing. -/
theorem decodeModel_final {table : Table} {contracts : Contracts} (wellFormed : table.WellFormed)
    (implement : contracts.Implement table) (acyclic : table.UnionsAcyclic) (name : String)
    (ignoring : Bool) (v : Value) (path : Path) {fuel : Nat}
    (enough : (v.depth + 1) * (table.unions.length + 2) ≤ fuel) :
    (decodeModel contracts fuel name ignoring v path).Ends ∧
      decodeModel contracts fuel name ignoring v path =
        decoders contracts name ignoring v path := by
  obtain ⟨rank, less, bounded⟩ := Table.exists_rank acyclic
  have bounded : ∀ name ignoring, hops table rank name ignoring ≤ table.unions.length + 2 := by
    intro name ignoring
    rw [hops]
    split
    · rename_i u found
      have := bounded (Table.mem_unions_iff.mpr ⟨u, found⟩)
      omega
    · split <;> omega
    · omega
  have ends : (decodeModel contracts fuel name ignoring v path).Ends := by
    refine decodeModel_ends wellFormed implement less bounded fuel name ignoring v path ?_
    have := bounded name ignoring
    rw [Nat.succ_mul] at enough
    omega
  exact ⟨ends, ((decodeModel_rounds contracts).refines_bound fuel name ignoring v path).final
    (Outcome.ends_iff.mp ends)⟩

end Codec
end WireModel
