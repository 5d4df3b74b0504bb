import WireModel.Proofs.Codec.Encoding
import WireModel.Proofs.Table.Kept
import WireModel.Proofs.Table.Shapes

/-!
# What is read is written back

By induction on how a wire form is read: the decoded value is encoded, and the result is the
wire form without the keys that no field reads, up to the order of entries. A record comes back
from the model that was chosen for it, directly or through the root of its family, and an
undiscriminated union chooses its variant a second time.
-/

namespace WireModel.Codec

open Types (WireType)

variable {table : Table} {contracts : Contracts}

/-! ## Containers -/

theorem zip_keptItems {R : Value → Value → Prop} :
    ∀ {items vs es : List Value}, items.length = vs.length → List.Forall₂ R vs es →
      ∀ p ∈ es.zip (table.keptItems items vs),
        ∃ d v, (d, v) ∈ items.zip vs ∧ R v p.1 ∧ p.2 = table.kept d v
  | [], [], [], _, .nil, p, mem => by cases mem
  | d :: items, v :: vs, e :: es, same, .cons first rest, p, mem => by
    rw [Table.keptItems] at mem
    rcases List.mem_cons.mp mem with rfl | mem
    · exact ⟨d, v, List.mem_cons_self, first, rfl⟩
    · obtain ⟨d', v', mem', r, eq⟩ := zip_keptItems (by simpa using same) rest p mem
      exact ⟨d', v', List.mem_cons_of_mem _ mem', r, eq⟩

theorem length_keptItems : ∀ {items vs : List Value}, items.length = vs.length →
    (table.keptItems items vs).length = vs.length
  | [], [], _ => rfl
  | d :: items, v :: vs, same => by
    simp only [Table.keptItems, List.length_cons, length_keptItems (by simpa using same)]

theorem zip_keptEntries {R : Value × Value → Value × Value → Prop} :
    ∀ {entries results es : List (Value × Value)}, entries.length = results.length →
      List.Forall₂ R results es → ∀ p ∈ es.zip (table.keptEntries entries results),
        ∃ entry result, (entry, result) ∈ entries.zip results ∧ R result p.1 ∧
          p.2.2 = table.kept entry.2 result.2
  | [], [], [], _, .nil, p, mem => by cases mem
  | (key, d) :: entries, (key', v) :: results, e :: es, same, .cons first rest, p, mem => by
    rw [Table.keptEntries] at mem
    rcases List.mem_cons.mp mem with rfl | mem
    · exact ⟨(key, d), (key', v), List.mem_cons_self, first, rfl⟩
    · obtain ⟨entry, result, mem', r, eq⟩ := zip_keptEntries (by simpa using same) rest p mem
      exact ⟨entry, result, List.mem_cons_of_mem _ mem', r, eq⟩

theorem keys_keptEntries : ∀ entries results : List (Value × Value),
    (table.keptEntries entries results).map Prod.fst = entries.map Prod.fst
  | [], _ => rfl
  | (key, d) :: entries, [] => rfl
  | (key, d) :: entries, (_, v) :: results => by
    rw [Table.keptEntries, List.map_cons, List.map_cons, keys_keptEntries entries results]

/-- Mappings with the same keys in one order are compared entry by entry. -/
theorem reordered_map_of_zip {entries others : List (Value × Value)}
    (keys : entries.map Prod.fst = others.map Prod.fst) (distinct : (entries.map Prod.fst).Nodup)
    (h : ∀ p ∈ entries.zip others, Value.Reordered p.1.2 p.2.2) :
    Value.Reordered (.map entries) (.map others) :=
  .map (keys ▸ List.Perm.refl _) fun _ _ _ mem mem' =>
    h _ (mem_zip_of_keys keys distinct mem mem')

/-- A sequence is written back if its elements are. -/
theorem written_sequence {ignoring : Bool} {t : WireType} {items vs : List Value}
    (same : items.length = vs.length) (nulls : ∀ d ∈ items, d = .null → t.isNullable = true)
    (reads : ∀ p ∈ items.zip vs, table.Reads false t p.1 p.2)
    (each : ∀ p ∈ items.zip vs, Written table contracts false t p.2
      fun e => e.Reordered (table.kept p.1 p.2)) :
    Written table contracts ignoring (.sequence t) (.list vs)
      fun e => e.Reordered (table.kept (.list items) (.list vs)) := by
  -- equal elements may have been read from different items: one result serves them all
  have all : ∀ v ∈ vs, Written table contracts false t v fun e =>
      ∀ d, (d, v) ∈ items.zip vs → e.Reordered (table.kept d v) := fun v mem =>
    .all (exists_zip_of_mem_right same mem) fun d pair => each (d, v) pair
  have null : ∀ v ∈ vs, v = .null → t.isNullable = true := by
    rintro v mem rfl
    obtain ⟨d, pair⟩ := exists_zip_of_mem_right same mem
    exact nulls d (List.of_mem_zip pair).1 (reads _ pair).eq_null
  refine .sequence (structural_encoder _) rfl null all fun es results => .list ?_ fun x mem => ?_
  · rw [length_keptItems same, results.length_eq]
  · obtain ⟨d, v, pair, reordered, eq⟩ := zip_keptItems same results x mem
    rw [eq]
    exact reordered d pair

/-- A mapping is written back, in the order of its entries, if its values are. -/
theorem written_mapping {ignoring : Bool} {t : WireType} {entries results : List (Value × Value)}
    (keys : entries.map Prod.fst = results.map Prod.fst) (json : (Value.map entries).isJson = true)
    (nulls : ∀ entry ∈ entries, entry.2 = .null → t.isNullable = true)
    (reads : ∀ p ∈ entries.zip results, table.Reads false t p.1.2 p.2.2)
    (each : ∀ p ∈ entries.zip results, Written table contracts false t p.2.2
      fun e => e.Reordered (table.kept p.1.2 p.2.2)) :
    Written table contracts ignoring (.mapping t) (.map results)
      fun e => e.Reordered (table.kept (.map entries) (.map results)) := by
  have jsons := (Value.isJson_map.mp json).1
  have same : entries.length = results.length := by simpa using congrArg List.length keys
  have all : ∀ result ∈ results, Written table contracts false t result.2 fun e =>
      ∀ entry, (entry, result) ∈ entries.zip results →
        e.Reordered (table.kept entry.2 result.2) := fun result mem =>
    .all (exists_zip_of_mem_right same mem) fun entry pair => each (entry, result) pair
  have tellable : ∀ result ∈ results, result.1.isTellable = true := by
    intro result mem
    obtain ⟨entry, pair⟩ := exists_zip_of_mem_right same mem
    obtain ⟨⟨key, text⟩, -⟩ := jsons entry (List.of_mem_zip pair).1
    rw [← eq_of_zip_of_map_eq keys _ pair, text]
    rfl
  have null : ∀ result ∈ results, result.2 = .null → t.isNullable = true := by
    intro result mem isNull
    obtain ⟨entry, pair⟩ := exists_zip_of_mem_right same mem
    exact nulls entry (List.of_mem_zip pair).1 (isNull ▸ reads _ pair).eq_null
  refine .mapping (structural_encoder _) tellable null all fun es written => ?_
  have keysOut : es.map Prod.fst = entries.map Prod.fst := by
    rw [keys]
    exact (map_eq_map_of_forall₂ written fun _ _ h => h.1.symm).symm
  refine reordered_map_of_zip ?_ ?_ fun x mem => ?_
  · rw [keys_keptEntries, keysOut]
  · rw [keysOut]
    exact Value.keys_nodup_of_isJson json
  · obtain ⟨entry, result, pair, ⟨-, reordered⟩, eq⟩ := zip_keptEntries same written x mem
    rw [eq]
    exact reordered entry pair

/-! ## Instances -/

/-- An instance of the chosen record is encoded by the model that it was decoded with. -/
theorem exists_chosen_written (impl : contracts.Implement table) {name : String}
    {ignoring : Bool} {r s : RecordModel} {members : List (Value × Value)}
    (found : table.record? name = some r) (chosen : table.chosen ignoring r members = some s)
    {fields : List (String × Value)} {Q : Value → Prop}
    (own : ∀ c, RecordContract.Implements table s c → ∀ path,
      ∃ e, encodeFields (encoders contracts) c fields path = .ok e ∧ Q e) (path : Path) :
    ∃ e, encoders contracts name ignoring (.record s.name fields) path = .ok e ∧ Q e := by
  have there := Table.record?_of_chosen found chosen
  obtain ⟨_, hget, hc⟩ := impl.some (Table.record?_eq_some.mp there)
  cases hc with
  | record hc =>
    obtain ⟨e, he, q⟩ := own _ hc path
    -- the root of the family hands an instance of another record on to the record's own encoder
    by_cases same : s.name = name
    · subst same
      exact ⟨e, (encoders_own_ok_iff hget).mpr he, q⟩
    · unfold Table.chosen at chosen
      split at chosen
      · cases chosen
        exact absurd (Table.record_name found) same
      · rename_i disc hd
        obtain ⟨own, followed⟩ := Option.filter_eq_some_iff.mp hd
        simp only [Bool.and_eq_true, Bool.not_eq_true'] at followed
        obtain ⟨target, chosen, hs⟩ := Option.bind_eq_some_iff.mp chosen
        obtain ⟨tag, mem⟩ := Table.mem_of_chosen chosen
        rw [← Table.record_name hs] at mem
        obtain ⟨_, hget', hc'⟩ := impl.some (Table.record?_eq_some.mp found)
        cases hc' with
        | record hc' =>
          refine ⟨e, ?_, q⟩
          rw [followed.1]
          refine encoders_family_ok hget' same ?_ ((encoders_own_ok_iff hget).mpr he)
          rw [hc'.discriminator, own]
          exact List.mem_map.mpr ⟨_, mem, rfl⟩

/-- What is written for a field of the chosen record: something exactly if its key is there, and
then what is kept of its value. -/
def Restores (table : Table) (members : List (Value × Value)) (fields : List (String × Value))
    (f : Field) : Option Value → Prop
  | none => Value.lookup f.wireName members = none
  | some w => ∃ d, Value.lookup f.wireName members = some d ∧
      w.Reordered (table.kept d (Value.attributeOf fields f.attributeName))

theorem fieldOfKey?_eq_some {r : RecordModel} {key : Value} {f : Field}
    (h : Table.fieldOfKey? r key = some f) : key = .str f.wireName ∧ f ∈ r.fields := by
  have text : key.isText f.wireName = true := by simpa using List.find?_some h
  refine ⟨?_, List.mem_of_find?_eq_some h⟩
  cases key <;> simp_all [Value.isText]

theorem exists_fieldOfKey? {r : RecordModel} {f : Field} (mem : f ∈ r.fields) :
    ∃ g, Table.fieldOfKey? r (.str f.wireName) = some g := by
  refine Option.isSome_iff_exists.mp (List.find?_isSome.mpr ⟨f, mem, ?_⟩)
  simp [Value.isText]

/-- The entries of restored fields are what is kept of the mapping, in the order of the fields. -/
theorem reordered_of_restores {s : RecordModel} {members entries : List (Value × Value)}
    {fields : List (String × Value)} (distinct : (s.fields.map Field.wireName).Nodup)
    (keys : (members.map Prod.fst).Nodup) (unique : (entries.map Prod.fst).Nodup)
    (of : ∀ entry ∈ entries, ∃ f ∈ s.fields, entry.1 = .str f.wireName ∧
      Restores table members fields f (some entry.2))
    (all : ∀ f ∈ s.fields, Restores table members fields f none ∨
      ∃ w, (.str f.wireName, w) ∈ entries) :
    Value.Reordered (.map entries) (.map (table.keptMembers s fields members)) := by
  refine .map ?_ fun key v w mem mem' => ?_
  · -- the keys: both sides have those of the mapping that fields read, each once
    rw [List.perm_ext_iff_of_nodup unique (keys.sublist (Table.keys_keptMembers s fields members))]
    intro key
    simp only [List.mem_map]
    constructor
    · rintro ⟨entry, mem, rfl⟩
      obtain ⟨f, hf, key, d, present, -⟩ := of entry mem
      obtain ⟨g, hg⟩ := exists_fieldOfKey? hf
      rw [key]
      exact ⟨_, Table.mem_keptMembers.mpr ⟨d, g, Value.mem_of_lookup present, hg, rfl⟩, rfl⟩
    · rintro ⟨⟨key, w⟩, mem, rfl⟩
      obtain ⟨d, f, mem, found, -⟩ := Table.mem_keptMembers.mp mem
      obtain ⟨rfl, hf⟩ := fieldOfKey?_eq_some found
      rcases all f hf with absent | ⟨w, mem'⟩
      · rw [Restores, Value.lookup_of_mem keys mem] at absent
        cases absent
      · exact ⟨_, mem', rfl⟩
  · -- the values: wire names are distinct, so one key belongs to one field
    obtain ⟨f, hf, same, d, present, reordered⟩ := of _ mem
    obtain ⟨d', g, member, found, rfl⟩ := Table.mem_keptMembers.mp mem'
    obtain ⟨rfl, hg⟩ := fieldOfKey?_eq_some found
    have eq : g = f := List.inj_on_of_nodup_map distinct hg hf (Value.str.inj same)
    subst eq
    rw [Value.lookup_of_mem keys member] at present
    cases present
    exact reordered

/-- An instance that was read from a mapping is written back, if the values of its fields are. -/
theorem exists_read_written (wf : table.WellFormed) {s : RecordModel} (mem : .record s ∈ table.models)
    (there : table.record? s.name = some s)
    {members : List (Value × Value)} {fields : List (String × Value)}
    (json : (Value.map members).isJson = true)
    (absent : ∀ f ∈ s.fields, Value.lookup f.wireName members = none →
      f.required = false ∧ Value.attributeOf fields f.attributeName = .unset)
    (null : ∀ f ∈ s.fields, Value.lookup f.wireName members = some .null →
      f.nullable = true ∧ Value.attributeOf fields f.attributeName = .null)
    (present : ∀ f ∈ s.fields, ∀ d, Value.lookup f.wireName members = some d → d ≠ .null →
      table.Reads false f.type d (Value.attributeOf fields f.attributeName))
    (ih : ∀ f ∈ s.fields, ∀ d, Value.lookup f.wireName members = some d → d ≠ .null →
      Written table contracts false f.type (Value.attributeOf fields f.attributeName) fun e =>
        e.Reordered (table.kept d (Value.attributeOf fields f.attributeName)))
    (c : RecordContract) (hc : RecordContract.Implements table s c) (path : Path) :
    ∃ e, encodeFields (encoders contracts) c fields path = .ok e ∧
      e.Reordered (table.kept (.map members) (.record s.name fields)) := by
  have each : ∀ f ∈ s.fields, ∀ fc, FieldContract.Implements table f fc →
      ∃ o, FieldWrites (encoders contracts) path fields fc o ∧
        Restores table members fields f o := by
    intro f hf fc hfc
    cases hd : Value.lookup f.wireName members with
    | none =>
      obtain ⟨required, unset⟩ := absent f hf hd
      exact ⟨none, ⟨hfc.attributeName ▸ unset, hfc.required ▸ required⟩, hd⟩
    | some d =>
      -- a value that is read from something is neither unset nor null, so its encoder is asked
      by_cases isNull : d = .null
      · subst isNull
        obtain ⟨nullable, attr⟩ := null f hf hd
        refine ⟨some .null, .inl ⟨hfc.attributeName ▸ attr, hfc.nullable ▸ nullable, rfl⟩, .null,
          hd, ?_⟩
        rw [attr]
        exact .refl
      · have read := present f hf d hd isNull
        have set : Value.attributeOf fields f.attributeName ≠ .unset := by
          intro unset
          have jsonValue := Value.isJson_of_lookup json hd
          rw [read.unset unset] at jsonValue
          cases jsonValue
        have notNull : Value.attributeOf fields f.attributeName ≠ .null := by
          intro attr
          rw [attr] at read
          exact isNull read.eq_null
        obtain ⟨e, he, reordered⟩ := (ih f hf d hd isNull).plan fc.plan hfc.plan rfl
          (path.push (.field fc.wireName))
        rw [← hfc.attributeName] at set notNull he
        exact ⟨some e, .inr ⟨set, notNull, he⟩, d, hd, reordered⟩
  obtain ⟨entries, he, unique, of, all⟩ :=
    exists_encodeFields_ok hc (wf.wireNames mem) path each
  refine ⟨_, he, ?_⟩
  simp only [Table.kept, there]
  exact reordered_of_restores (wf.wireNames mem) (Value.keys_nodup_of_isJson json) unique of all

/-! ## Round trip -/

/-- Whatever is read is written back: what is kept of the wire form, up to the order of
entries. -/
theorem written_of_reads (wf : table.WellFormed) (impl : contracts.Implement table)
    (untangled : table.Untangled) (enums : table.PlainEnums) {ignoring : Bool} {t : WireType}
    {d v : Value} (h : table.Reads ignoring t d v)
    (occurs : (∃ name, t = .model name) ∨ table.Occurs t) (json : d.isJson = true) :
    Written table contracts ignoring t v fun e => e.Reordered (table.kept d v) := by
  -- a type occurs in the table, or is a model, which `Untangled` says nothing about
  have inner : ∀ {t s}, (∀ name, t ≠ .model name) → (∃ name, t = .model name) ∨ table.Occurs t →
      (table.Occurs t → table.Occurs s) → (∃ name, s = .model name) ∨ table.Occurs s := by
    rintro t s other (⟨name, same⟩ | occurs) step
    · exact absurd same (other name)
    · exact .inr (step occurs)
  induction h with
  | @primitive _ _ _ d =>
    refine .of_plan nofun fun p hp path => ?_
    cases hp
    exact ⟨d, rfl, by rw [Table.kept_self]; exact .refl⟩
  | @enum _ _ _ _ d member =>
    refine .of_plan nofun fun p hp path => ?_
    cases hp
    exact ⟨d, enumOf_run_ok_iff.mpr ⟨member, rfl⟩, by rw [Table.kept_self]; exact .refl⟩
  | optional _ ih => exact (ih (inner (by nofun) occurs .optional) json).optional
  | null => exact .null (structural_encoder _) .refl
  | nullable some read ih =>
    refine (ih (inner (by nofun) occurs .nullable) json).nullable (structural_encoder _) ?_
    rintro rfl
    exact some read.eq_null
  | sequence same nulls reads ih =>
    have jsons := Value.isJson_list.mp json
    refine written_sequence same nulls reads fun x mem => ?_
    exact ih x mem (inner (by nofun) occurs .sequence) (jsons _ (List.of_mem_zip mem).1)
  | mapping keys nulls reads ih =>
    have jsons := (Value.isJson_map.mp json).1
    refine written_mapping keys json nulls reads fun x mem => ?_
    exact ih x mem (inner (by nofun) occurs .mapping) (jsons _ (List.of_mem_zip mem).1).2
  | @record _ name r s members fields found chosen _ absent null present ih =>
    refine .of_model rfl fun path => ?_
    have there := Table.record?_of_chosen found chosen
    have mem := Table.record_mem there
    refine exists_chosen_written impl found chosen (fun c hc path => ?_) path
    refine exists_read_written wf mem there json absent null present ?_ c hc path
    exact fun f hf d hd some =>
      ih f hf d hd some (.inr (.field mem hf)) (Value.isJson_of_lookup json hd)
  | named found _ ih =>
    refine .of_model rfl fun path => ?_
    obtain ⟨_, hget, hc⟩ := impl.some found
    cases hc with
    | union _ hbody =>
      obtain ⟨e, he, reordered⟩ := (ih (.inr (.of_get? found)) json).plan _ hbody rfl path
      exact ⟨e, encoders_union_ok hget he, reordered⟩
  | @tagged _ _ _ disc variants members target v chosen read ih =>
    refine .of_plan nofun fun p hp path => ?_
    cases hp
    obtain ⟨e, he, reordered⟩ := (ih (.inl ⟨_, rfl⟩) json).model _ rfl path
    rcases occurs with ⟨_, same⟩ | occurs
    · cases same
    · -- the target is a record without a discriminator, so the instance is one of its own
      obtain ⟨tag, mem⟩ := Table.mem_of_chosen chosen
      have target : target ∈ WireType.targets (some disc) := List.mem_map.mpr ⟨_, mem, rfl⟩
      obtain ⟨r, found, plain⟩ := untangled.tagged occurs target
      obtain ⟨fields, rfl⟩ := read.own found plain
      obtain ⟨_, hget, hc⟩ := impl.some (Table.record?_eq_some.mp found)
      cases hc with
      | record hc =>
        rw [encoders_own_ok_iff hget] at he
        exact ⟨e, dispatch_encoder_run_ok_iff.mpr
          ⟨_, _, rfl, target, (encoders_own_ok_iff hget).mpr he⟩, reordered⟩
  | @untagged _ _ _ variants t d v first read ih =>
    refine .of_plan nofun fun p hp path => ?_
    obtain ⟨options, description, rfl, all⟩ := hp
    rcases occurs with ⟨_, same⟩ | occurs
    · cases same
    · -- what the first fitting variant has decoded, that variant is again the first to fit
      have again := read.isFirst_held (Value.isPlain_of_isJson json) enums untangled occurs first
      obtain ⟨option, found, hplan⟩ := all.exists_find? (holdsOfDecoded_iff v) again
      obtain ⟨e, he, reordered⟩ :=
        (ih (.inr (occurs.variant first.mem)) json).plan _ hplan rfl path
      exact ⟨e, firstMatch_encoder_run_ok_iff.mpr ⟨option, found, he⟩, reordered⟩

end WireModel.Codec
