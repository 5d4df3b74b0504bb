import WireModel.Proofs.Table.Occurrence

/-!
# Shapes before and after decoding

An undiscriminated union chooses a variant twice: by the shape of the wire form, and by the shape
of what decoding made of that. The second choice is the first one if

* a decoded value has no shape that its wire form did not have (`Reads.wire_of_held`), which
  always holds, and
* it has the shape of the variant that was chosen (`Reads.held_of_wire`), which holds for
  variants that do not lead to a discriminator.
-/

namespace WireModel.Table

open Types (WireType)

variable {table : Table}

/-! ## What is read plainly is read unchanged -/

/-- A result that holds no instance and nothing unset is the wire form itself. -/
theorem Reads.eq_of_isPlain {i : Bool} {t : WireType} {d v : Value} (h : table.Reads i t d v)
    (plain : v.isPlain = true) : v = d := by
  induction h with
  | primitive | enum _ | null => rfl
  | optional _ ih | nullable _ _ ih | named _ _ ih | tagged _ _ ih | untagged _ _ ih =>
    exact ih plain
  | sequence same _ _ ih =>
    have plains := Value.isPlain_list.mp plain
    rw [eq_of_zip same fun p mem => ih p mem (plains _ (List.of_mem_zip mem).2)]
  | mapping keys _ _ ih =>
    have plains := Value.isPlain_map.mp plain
    have same := congrArg List.length keys
    simp only [List.length_map] at same
    congr 1
    refine eq_of_zip same fun p mem => Prod.ext (eq_of_zip_of_map_eq keys p mem).symm ?_
    exact ih p mem (plains _ (List.of_mem_zip mem).2).2
  | record => cases plain

/-- Null is read from null only. -/
theorem Reads.eq_null {i : Bool} {t : WireType} {d : Value} (h : table.Reads i t d .null) :
    d = .null :=
  (h.eq_of_isPlain rfl).symm

theorem Reads.unset {i : Bool} {t : WireType} {d v : Value} (h : table.Reads i t d v)
    (unset : v = .unset) : d = .unset := by
  induction h with
  | primitive | enum _ => exact unset
  | optional _ ih | nullable _ _ ih | named _ _ ih | tagged _ _ ih | untagged _ _ ih =>
    exact ih unset
  | null | sequence | mapping | record => cases unset

/-! ## Shapes of results are shapes of wire forms -/

theorem Reads.isSequence {i : Bool} {t : WireType} {d v : Value} (h : table.Reads i t d v)
    (sequence : v.isSequence = true) : d.isSequence = true := by
  induction h with
  | primitive | enum _ => exact sequence
  | optional _ ih | nullable _ _ ih | named _ _ ih | tagged _ _ ih | untagged _ _ ih =>
    exact ih sequence
  | sequence => rfl
  | null | mapping | record => cases sequence

theorem Reads.isMap {i : Bool} {t : WireType} {d v : Value} (h : table.Reads i t d v)
    (map : v.isMap = true) : d.isMap = true := by
  induction h with
  | primitive | enum _ => exact map
  | optional _ ih | nullable _ _ ih | named _ _ ih | tagged _ _ ih | untagged _ _ ih =>
    exact ih map
  | mapping => rfl
  | null | sequence | record => cases map

/-- Only the kind of everything takes what is no scalar. -/
theorem isKind_of_not_scalar {kind : Schema.Kind} {v : Value} (h : Codec.isKind kind v = true)
    (container : v.isPlain = false) : kind = .any := by
  cases kind <;> cases v <;> simp_all [Codec.isKind, Value.isPlain]

theorem Reads.isKind {i : Bool} {t : WireType} {d v : Value} (h : table.Reads i t d v)
    {kind : Schema.Kind} (ofKind : Codec.isKind kind v = true) : Codec.isKind kind d = true := by
  by_cases plain : v.isPlain = true
  · rw [← h.eq_of_isPlain plain]
    exact ofKind
  · rw [isKind_of_not_scalar ofKind (by simpa using plain)]
    rfl

/-- The record that is chosen is the one of its name. -/
theorem record?_of_chosen {i : Bool} {name : String} {r s : RecordModel}
    {members : List (Value × Value)} (found : table.record? name = some r)
    (h : table.chosen i r members = some s) : table.record? s.name = some s := by
  unfold chosen at h
  split at h
  · cases h
    rw [record_name found]
    exact found
  · obtain ⟨target, -, h⟩ := Option.bind_eq_some_iff.mp h
    rw [record_name h]
    exact h

/-- A record without a discriminator is read as an instance of itself. -/
theorem Reads.own {i : Bool} {name : String} {d v : Value}
    (h : table.Reads i (.model name) d v) {r : RecordModel} (found : table.record? name = some r)
    (plain : r.discriminator = none) : ∃ fields, v = .record name fields := by
  cases h with
  | record found' chosen =>
    rw [found] at found'
    cases found'
    simp only [Table.chosen, plain, Option.filter_none, Option.some.injEq] at chosen
    rw [← chosen, record_name found]
    exact ⟨_, rfl⟩
  | named union _ =>
    rw [record?_eq_some.mp found] at union
    cases union

/-- An instance comes from a mapping with all required names of its model. -/
theorem Reads.hasRequired {i : Bool} {t : WireType} {d v : Value} (h : table.Reads i t d v)
    {model : String} {fields : List (String × Value)} (held : v = .record model fields)
    (plain : d.isPlain = true) {s : RecordModel} (found : table.record? model = some s) :
    Codec.hasRequired s.requiredNames d = true := by
  induction h with
  | primitive | enum _ =>
    subst held
    cases plain
  | optional _ ih | nullable _ _ ih | named _ _ ih | tagged _ _ ih | untagged _ _ ih =>
    exact ih held plain
  | null | sequence | mapping => cases held
  | record there chosen _ absent _ _ =>
    cases held
    rw [record?_of_chosen there chosen] at found
    cases found
    simp only [Codec.hasRequired, RecordModel.requiredNames, List.all_map, List.all_eq_true,
      List.mem_filter, Function.comp_apply, Value.hasKey]
    rintro f ⟨mem, required⟩
    cases present : Value.lookup f.wireName _ with
    | none => simp [(absent f mem present).1] at required
    | some _ => rfl

/-- A decoded value has no shape that its wire form did not have. -/
theorem Reads.wire_of_held {i : Bool} {t : WireType} {d v : Value} (h : table.Reads i t d v)
    (plain : d.isPlain = true) (enums : table.PlainEnums) {s : WireType}
    (occurs : table.Occurs s)
    (held : table.HasShape RecordReading.held v s) :
    table.HasShape RecordReading.wire d s := by
  induction held with
  | primitive ofKind => exact .primitive (h.isKind ofKind)
  | enum member =>
    have plainResult := Value.isPlain_of_member (enums occurs) member
    rw [← h.eq_of_isPlain plainResult]
    exact .enum member
  | sequence sequence => exact .sequence (h.isSequence sequence)
  | mapping map => exact .mapping (h.isMap map)
  | optional _ ih => exact .optional (ih occurs.optional)
  | nullable _ ih => exact .nullable (ih occurs.nullable)
  | @record name r found takes =>
    refine .record found ?_
    cases v <;> try cases takes
    rename_i model fields
    simp only [RecordReading.held, Codec.isInstanceOf, beq_iff_eq] at takes
    have there := record?_eq_some.mpr found
    rw [record_name there] at takes
    exact h.hasRequired rfl plain (takes ▸ there)
  | named found mem _ ih => exact .named found mem (ih ((Occurs.of_get? found).variant mem))
  | union mem _ ih => exact .union mem (ih (occurs.variant mem))

/-! ## The chosen variant keeps its shape -/

/-- What is no mapping has the shape of no record, so both readings of records agree. -/
theorem HasShape.held_of_not_map {d : Value} {t : WireType}
    (h : table.HasShape RecordReading.wire d t) (other : d.isMap = false) :
    table.HasShape RecordReading.held d t := by
  induction h with
  | primitive h => exact .primitive h
  | enum h => exact .enum h
  | sequence h => exact .sequence h
  | mapping h => exact .mapping h
  | optional _ ih => exact .optional ih
  | nullable _ ih => exact .nullable ih
  | record _ takes =>
    cases d <;> simp_all [RecordReading.wire, Codec.hasRequired, Value.isMap]
  | named found mem _ ih => exact .named found mem ih
  | union mem _ ih => exact .union mem ih

/-- A decoded value has the shape of its type if its wire form had, unless a discriminator led
elsewhere. -/
theorem Reads.held_of_wire {i : Bool} {t : WireType} {d v : Value} (h : table.Reads i t d v)
    (untagged : ¬table.LeadsToTagged t) (wire : table.HasShape RecordReading.wire d t) :
    table.HasShape RecordReading.held v t := by
  induction h with
  | primitive =>
    cases wire with
    | primitive h => exact .primitive h
  | enum member => exact .enum member
  | optional _ ih =>
    cases wire with
    | optional wire => exact .optional (ih (fun leads => untagged (.optional leads)) wire)
  | null => exact wire.held_of_not_map rfl
  | nullable _ _ ih =>
    cases wire with
    | nullable wire => exact .nullable (ih (fun leads => untagged (.nullable leads)) wire)
  | sequence => exact .sequence rfl
  | mapping => exact .mapping rfl
  | @record i name r s members fields found chosen =>
    have none : r.discriminator = none := by
      by_contra tagged
      exact untagged (.record found tagged)
    have same : r = s := by simpa [Table.chosen, none] using chosen
    subst same
    exact .record (record?_eq_some.mp found) (by simp [RecordReading.held, Codec.isInstanceOf])
  | named found _ ih =>
    have inner := fun leads => untagged (.named found leads)
    cases wire with
    | record other _ =>
      rw [found] at other
      cases other
    | named other mem wire =>
      rw [found] at other
      cases other
      cases ih inner (.union mem wire) with
      | union mem held => exact .named found mem held
  | tagged => exact absurd .tagged untagged
  | untagged first _ ih =>
    have mem := first.mem
    obtain ⟨-, -, -, -, shape⟩ := first
    exact .union mem (ih (fun leads => untagged (.variant mem leads)) shape)

/-- Both choices of an undiscriminated union are the same. -/
theorem Reads.isFirst_held {name : Option String} {mode : Schema.Combination}
    {variants : List WireType} {t : WireType} {d v : Value} (h : table.Reads false t d v)
    (plain : d.isPlain = true) (enums : table.PlainEnums) (untangled : table.Untangled)
    (occurs : table.Occurs (.union name mode none variants))
    (first : Types.IsFirst (table.HasShape RecordReading.wire d) variants t) :
    Types.IsFirst (table.HasShape RecordReading.held v) variants t := by
  have mem := first.mem
  obtain ⟨before, after, rfl, none, shape⟩ := first
  refine ⟨before, after, rfl, fun s hs held => none s hs ?_, ?_⟩
  · exact h.wire_of_held plain enums (occurs.variant (List.mem_append_left _ hs)) held
  · exact h.held_of_wire (untangled.untagged occurs mem) shape

end WireModel.Table
