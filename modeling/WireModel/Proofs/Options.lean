import WireModel.Options
import WireModel.Proofs.Success

/-!
# What options list

An option may be a list, a tuple, a text or a mapping. Whatever it is, the texts among its
elements are the names that it lists.
-/

namespace WireModel.Options

/-- The texts among the elements of an option. -/
def textsIn (option : Option Value) : List String :=
  match option.map elements with
  | some (.ok items) => items.filterMap Value.asStr?
  | _ => []

theorem textsIn_of_elements {v : Value} {items : List Value} (h : elements v = .ok items) :
    textsIn (some v) = items.filterMap Value.asStr? := by
  rw [textsIn, Option.map_some, h]

/-- The loop that collects names adds the texts in their order. -/
theorem collected {items : List Value} :
    ∀ {found result : List String}, items.foldlM (fun found v =>
        match unhashable? v with
        | some kind => (.error (.unhashable kind) : Except Misuse (List String))
        | none => .ok (found ++ v.asStr?.toList)) found = .ok result →
      result = found ++ items.filterMap Value.asStr? := by
  induction items with
  | nil =>
    intro found result h
    rw [List.foldlM_nil, pure_eq_ok] at h
    rw [← h, List.filterMap_nil, List.append_nil]
  | cons v rest ih =>
    intro found result h
    rw [List.foldlM_cons] at h
    obtain ⟨middle, first, h⟩ := bind_eq_ok.mp h
    have added : middle = found ++ v.asStr?.toList := by
      split at first
      · cases first
      · cases first
        rfl
    rw [ih h, added, List.append_assoc]
    cases text : v.asStr? <;> simp [text]

theorem names_eq {v : Value} {found : List String} (h : names v = .ok found) :
    found = textsIn (some v) := by
  obtain ⟨items, elements, h⟩ := bind_eq_ok.mp h
  rw [textsIn_of_elements elements, collected h, List.nil_append]

theorem demand_eq_ok {α : Type} {name : String} {option : Option α} {v : α}
    (h : demand name option = .ok v) : option = some v := by
  cases option with
  | none => cases h
  | some w =>
    cases h
    rfl

theorem ignoredClasses_eq {options : Options} {found : List String}
    (h : options.ignoredClasses = .ok found) : found = textsIn options.ignoreClasses := by
  obtain ⟨v, present, h⟩ := bind_eq_ok.mp h
  rw [demand_eq_ok present, names_eq h]

theorem firstClasses_eq {options : Options} {found : List String}
    (h : options.firstClasses = .ok found) : found = textsIn options.orderClasses := by
  obtain ⟨v, present, h⟩ := bind_eq_ok.mp h
  rw [demand_eq_ok present, names_eq h]

/-! ## Lists of texts -/

/-- The options that are collections are lists of texts. -/
structure AreTexts (options : Options) : Prop where
  ignoreClasses : ∃ texts, options.ignoreClasses = some (.ofTexts texts)
  ignoreFields : ∃ texts, options.ignoreFields = some (.ofTexts texts)
  orderClasses : ∃ texts, options.orderClasses = some (.ofTexts texts)

theorem foldlM_texts : ∀ (texts found : List String),
    (texts.map Value.str).foldlM (fun found v =>
      match unhashable? v with
      | some kind => (.error (.unhashable kind) : Except Misuse (List String))
      | none => .ok (found ++ v.asStr?.toList)) found = .ok (found ++ texts)
  | [], found => by
    rw [List.append_nil]
    rfl
  | text :: texts, found => by
    rw [List.map_cons, List.foldlM_cons]
    refine (foldlM_texts texts (found ++ [text])).trans ?_
    rw [List.append_assoc]
    rfl

theorem names_ofTexts (texts : List String) : names (.ofTexts texts) = .ok texts :=
  foldlM_texts texts []

namespace AreTexts

variable {options : Options} (h : options.AreTexts)

include h

theorem ignoredClasses_ok : ∃ texts, options.ignoredClasses = .ok texts := by
  obtain ⟨texts, same⟩ := h.ignoreClasses
  refine ⟨texts, ?_⟩
  rw [ignoredClasses, same]
  exact names_ofTexts texts

theorem firstClasses_ok : ∃ texts, options.firstClasses = .ok texts := by
  obtain ⟨texts, same⟩ := h.orderClasses
  refine ⟨texts, ?_⟩
  rw [firstClasses, same]
  exact names_ofTexts texts

theorem ignoresField_ok (name : String) : ∃ listed, options.ignoresField name = .ok listed := by
  obtain ⟨texts, same⟩ := h.ignoreFields
  rw [ignoresField, same]
  exact ⟨_, rfl⟩

end AreTexts

/-! ## Membership -/

theorem occursIn_singleton {c : Char} {cs : List Char} (mem : c ∈ cs) :
    Text.occursIn [c] cs = true := by
  obtain ⟨before, after, rfl⟩ := List.append_of_mem mem
  have whole : before ++ c :: after = before ++ [c] ++ after := by simp
  rw [whole]
  exact Text.occursIn_append_left

theorem hasKey_of_mem {name : String} :
    ∀ {entries : List (Value × Value)}, Value.str name ∈ entries.map Prod.fst →
      Value.hasKey name entries = true
  | (k, v) :: rest, mem => by
    unfold Value.hasKey Value.lookup
    split
    · rfl
    · rename_i other
      rcases List.mem_cons.mp mem with same | mem
      · dsimp only at same
        rw [← same] at other
        simp [Value.isText] at other
      · exact hasKey_of_mem mem

/-- An element of an option is listed by it. A text lists its parts, so also its characters. -/
theorem lists_of_mem {option : Value} {items : List Value} {name : String}
    (h : elements option = .ok items) (mem : Value.str name ∈ items) :
    lists option name = .ok true := by
  unfold elements at h
  split at h
  · cases h
    have found : items.any (Value.isText name) = true :=
      List.any_eq_true.mpr ⟨_, mem, by simp [Value.isText]⟩
    rw [lists, found]
  · cases h
    have found : items.any (Value.isText name) = true :=
      List.any_eq_true.mpr ⟨_, mem, by simp [Value.isText]⟩
    rw [lists, found]
  · cases h
    obtain ⟨c, there, same⟩ := List.mem_map.mp mem
    cases same
    rw [lists, String.toList_singleton, occursIn_singleton there]
  · cases h
    rw [lists, hasKey_of_mem mem]
  · cases h

/-- A field that is kept is not listed. -/
theorem not_mem_textsIn_of_ignoresField {options : Options} {name : String}
    (h : options.ignoresField name = .ok false) : name ∉ textsIn options.ignoreFields := by
  intro listed
  obtain ⟨v, present, h⟩ := bind_eq_ok.mp h
  rw [demand_eq_ok present] at listed
  cases found : elements v with
  | error misuse =>
    rw [textsIn, Option.map_some, found] at listed
    cases listed
  | ok items =>
    rw [textsIn_of_elements found] at listed
    obtain ⟨item, mem, text⟩ := List.mem_filterMap.mp listed
    have same : item = .str name := by
      cases item with
      | str s =>
        cases text
        rfl
      | _ => cases text
    rw [same] at mem
    rw [lists_of_mem found mem] at h
    cases h

end WireModel.Options
