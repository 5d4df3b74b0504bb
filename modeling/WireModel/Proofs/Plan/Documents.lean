import WireModel.Emit.Report
import WireModel.Proofs.Value.Membership

/-!
# Plans are read off their documents

Whoever reads the report of a table sees plans and predicates as documents only. These tell the
constructors by a tag and hold everything else in members of their own; what is left out is the
description of alternatives, and the name of an enumeration if it is empty.

Documents may be compared as they are, or as JSON values, where mappings have no order. Either way a
comparison sees texts, items of lists and members (`Compares`), and that is enough.

* **`Predicate.agree_of_toDocument`**: predicates with the same document are the same, but for how
  the values of enumerations are compared.
* **`Plan.agree_of_toDocument`**: so are plans whose enumerations have no empty name, but for
  descriptions.
* **`Plan.toDocument_eq_iff`**: compared as they are, documents tell plans up to descriptions.
-/

namespace WireModel

/-! ## Comparisons -/

namespace Value

/-- A comparison sees texts, lists item by item, and mappings member by member. -/
structure Compares (R : Value → Value → Prop) : Prop where
  text : ∀ {s t : String}, R (.str s) (.str t) → s = t
  items : ∀ {vs ws : List Value}, R (.list vs) (.list ws) → List.Forall₂ R vs ws
  members : ∀ {fields others : List (String × Value)}, R (.ofFields fields) (.ofFields others) →
    ∀ key, Option.Rel R (fields.lookup key) (others.lookup key)

namespace Compares

variable {R : Value → Value → Prop} (compares : Compares R)

include compares

theorem member {fields others : List (String × Value)} {v w : Value}
    (h : R (.ofFields fields) (.ofFields others)) (key : String)
    (found : fields.lookup key = some v) (found' : others.lookup key = some w) : R v w := by
  have here := compares.members h key
  rw [found, found'] at here
  cases here with
  | some here => exact here

theorem textMember {fields others : List (String × Value)} {s t : String}
    (h : R (.ofFields fields) (.ofFields others)) (key : String)
    (found : fields.lookup key = some (.str s)) (found' : others.lookup key = some (.str t)) : s = t :=
  compares.text (compares.member h key found found')

theorem listMember {fields others : List (String × Value)} {vs ws : List Value}
    (h : R (.ofFields fields) (.ofFields others)) (key : String)
    (found : fields.lookup key = some (.list vs)) (found' : others.lookup key = some (.list ws)) :
    List.Forall₂ R vs ws :=
  compares.items (compares.member h key found found')

theorem texts : ∀ {ss ts : List String}, List.Forall₂ R (ss.map .str) (ts.map .str) → ss = ts
  | [], [], _ => rfl
  | s :: ss, t :: ts, .cons first rest => by rw [compares.text first, texts rest]

end Compares

theorem compares_eq : Compares (· = ·) where
  text same := by cases same; rfl
  items same := by
    cases same
    exact List.forall₂_same.mpr fun _ _ => rfl
  members same key := by
    rw [← lookup_texts, ← lookup_texts, Value.map.inj same]
    cases lookup key _ with
    | none => exact .none
    | some v => exact .some rfl

theorem compares_sameJson : Compares SameJson where
  text same := by
    cases same with
    | scalar one =>
      cases one.1 with
      | str => rfl
      | number first => cases first
  items same := by
    cases same with
    | scalar one =>
      cases one.1 with
      | number first => cases first
    | list size each => exact forall₂_of_zip size each
  members same key := by
    rw [← lookup_texts, ← lookup_texts]
    cases same with
    | scalar one =>
      cases one.1 with
      | number first => cases first
    -- The mappings have the same keys in any order, so members are found by key, not by place.
    | map keys each =>
      have known := keys key
      cases found : lookup key _ with
      | none =>
        rw [found] at known
        rw [Option.isSome_eq_false_iff.mp known.symm |> Option.isNone_iff_eq_none.mp]
        exact .none
      | some v =>
        rw [found] at known
        obtain ⟨w, found'⟩ := Option.isSome_iff_exists.mp known.symm
        rw [found']
        exact .some (each key v w found found')

end Value

/-! ## Predicates -/

theorem Schema.Kind.name_inj {k l : Schema.Kind} : k.name = l.name ↔ k = l := by
  cases k <;> cases l <;> decide

namespace Predicate

mutual

/-- Two predicates are the same, but for how the values of enumerations are compared. -/
inductive Agree (R : Value → Value → Prop) : Predicate → Predicate → Prop
  | record {model required} : Agree R (.record model required) (.record model required)
  | primitive {kind} : Agree R (.primitive kind) (.primitive kind)
  | sequence : Agree R .sequence .sequence
  | mapping : Agree R .mapping .mapping
  | enumMember {values others} : List.Forall₂ R values others →
      Agree R (.enumMember values) (.enumMember others)
  | anyOf {ps qs} : AgreeAll R ps qs → Agree R (.anyOf ps) (.anyOf qs)

inductive AgreeAll (R : Value → Value → Prop) : List Predicate → List Predicate → Prop
  | nil : AgreeAll R [] []
  | cons {p q ps qs} : Agree R p q → AgreeAll R ps qs → AgreeAll R (p :: ps) (q :: qs)

end

mutual

theorem Agree.eq : ∀ {p q : Predicate}, p.Agree (· = ·) q → p = q
  | _, _, .record | _, _, .primitive | _, _, .sequence | _, _, .mapping => rfl
  | _, _, .enumMember same => by
    rw [List.forall₂_eq_eq_eq] at same
    rw [same]
  | _, _, .anyOf all => by rw [all.eq]

theorem AgreeAll.eq : ∀ {ps qs : List Predicate}, AgreeAll (· = ·) ps qs → ps = qs
  | _, _, .nil => rfl
  | _, _, .cons first rest => by rw [first.eq, rest.eq]

end

/-- What the document of a predicate calls it. -/
def tag : Predicate → String
  | .record .. => "is_instance_of"
  | .primitive _ => "is_primitive"
  | .sequence => "is_sequence"
  | .mapping => "is_mapping"
  | .enumMember _ => "is_enum_member"
  | .anyOf _ => "matches_any"

theorem exists_toDocument (p : Predicate) :
    ∃ fields, p.toDocument = .ofFields (("predicate", .str p.tag) :: fields) := by
  cases p <;> exact ⟨_, rfl⟩

variable {R : Value → Value → Prop}

theorem tag_eq (compares : Value.Compares R) {p q : Predicate}
    (h : R p.toDocument q.toDocument) : p.tag = q.tag := by
  obtain ⟨fields, left⟩ := p.exists_toDocument
  obtain ⟨others, right⟩ := q.exists_toDocument
  rw [left, right] at h
  exact compares.textMember h "predicate" rfl rfl

mutual

/-- By induction on one of the predicates; the tag tells the constructor of the other one. -/
theorem agree_of_toDocument (compares : Value.Compares R) :
    ∀ {p q : Predicate}, R p.toDocument q.toDocument → p.Agree R q
  | .record model required, q, h => by
    have tagged := tag_eq compares h
    cases q with
    | record other names =>
      obtain rfl := compares.textMember h "model" rfl rfl
      obtain rfl := compares.texts (compares.listMember h "required" rfl rfl)
      exact .record
    | _ => simp [tag] at tagged
  | .primitive kind, q, h => by
    have tagged := tag_eq compares h
    cases q with
    | primitive other =>
      obtain rfl := Schema.Kind.name_inj.mp (compares.textMember h "type" rfl rfl)
      exact .primitive
    | _ => simp [tag] at tagged
  | .sequence, q, h => by
    have tagged := tag_eq compares h
    cases q with
    | sequence => exact .sequence
    | _ => simp [tag] at tagged
  | .mapping, q, h => by
    have tagged := tag_eq compares h
    cases q with
    | mapping => exact .mapping
    | _ => simp [tag] at tagged
  | .enumMember values, q, h => by
    have tagged := tag_eq compares h
    cases q with
    | enumMember others => exact .enumMember (compares.listMember h "values" rfl rfl)
    | _ => simp [tag] at tagged
  | .anyOf ps, q, h => by
    have tagged := tag_eq compares h
    cases q with
    | anyOf qs =>
      exact .anyOf (agreeAll_of_toDocuments compares
        (compares.listMember h "predicates" rfl rfl))
    | _ => simp [tag] at tagged

theorem agreeAll_of_toDocuments (compares : Value.Compares R) : ∀ {ps qs : List Predicate},
    List.Forall₂ R (toDocuments ps) (toDocuments qs) → AgreeAll R ps qs
  | [], [], _ => .nil
  | p :: ps, q :: qs, h => by
    obtain ⟨first, rest⟩ := List.forall₂_cons.mp h
    exact .cons (agree_of_toDocument compares first) (agreeAll_of_toDocuments compares rest)

end

/-- The document of a predicate tells it. -/
theorem toDocument_eq_iff {p q : Predicate} : p.toDocument = q.toDocument ↔ p = q :=
  ⟨fun same => (agree_of_toDocument Value.compares_eq same).eq, congrArg toDocument⟩

end Predicate

/-! ## Plans -/

namespace Plan

mutual

/-- Two plans are the same, but for descriptions and how the values of enumerations are compared. -/
inductive Agree (R : Value → Value → Prop) : Plan → Plan → Prop
  | pass {kind} : Agree R (.pass kind) (.pass kind)
  | checkEnum {values others name} : List.Forall₂ R values others →
      Agree R (.checkEnum values name) (.checkEnum others name)
  | nullable {p q} : Agree R p q → Agree R (.nullable p) (.nullable q)
  | eachElement {p q} : Agree R p q → Agree R (.eachElement p) (.eachElement q)
  | eachValue {p q} : Agree R p q → Agree R (.eachValue p) (.eachValue q)
  | call {model} : Agree R (.call model) (.call model)
  | dispatch {property cases} : Agree R (.dispatch property cases) (.dispatch property cases)
  | firstMatch {options others description other} : AgreeAll R options others →
      Agree R (.firstMatch options description) (.firstMatch others other)

inductive AgreeAll (R : Value → Value → Prop) :
    List (Predicate × Plan) → List (Predicate × Plan) → Prop
  | nil : AgreeAll R [] []
  | cons {a b p q options others} : a.Agree R b → Agree R p q → AgreeAll R options others →
      AgreeAll R ((a, p) :: options) ((b, q) :: others)

end

mutual

/-- A plan without the descriptions of its alternatives. -/
def undescribed : Plan → Plan
  | .pass kind => .pass kind
  | .checkEnum values name => .checkEnum values name
  | .nullable inner => .nullable inner.undescribed
  | .eachElement element => .eachElement element.undescribed
  | .eachValue value => .eachValue value.undescribed
  | .call model => .call model
  | .dispatch property cases => .dispatch property cases
  | .firstMatch options _ => .firstMatch (undescribedOptions options) ""

def undescribedOptions : List (Predicate × Plan) → List (Predicate × Plan)
  | [] => []
  | (p, plan) :: rest => (p, plan.undescribed) :: undescribedOptions rest

end

mutual

theorem Agree.undescribed_eq : ∀ {p q : Plan}, p.Agree (· = ·) q → p.undescribed = q.undescribed
  | _, _, .pass | _, _, .call | _, _, .dispatch => rfl
  | _, _, .checkEnum same => by
    rw [List.forall₂_eq_eq_eq] at same
    rw [same]
  | _, _, .nullable h | _, _, .eachElement h | _, _, .eachValue h => by
    simp only [undescribed, h.undescribed_eq]
  | _, _, .firstMatch all => by simp only [undescribed, all.undescribed_eq]

theorem AgreeAll.undescribed_eq : ∀ {options others : List (Predicate × Plan)},
    AgreeAll (· = ·) options others → undescribedOptions options = undescribedOptions others
  | _, _, .nil => rfl
  | _, _, .cons first plan rest => by
    simp only [undescribedOptions, first.eq, plan.undescribed_eq, rest.undescribed_eq]

end

mutual

/-- Descriptions are not in documents. -/
theorem toDocument_undescribed : ∀ p : Plan, p.undescribed.toDocument = p.toDocument
  | .pass _ | .checkEnum .. | .call _ | .dispatch .. => rfl
  | .nullable inner => by simp only [undescribed, toDocument, toDocument_undescribed inner]
  | .eachElement element => by simp only [undescribed, toDocument, toDocument_undescribed element]
  | .eachValue value => by simp only [undescribed, toDocument, toDocument_undescribed value]
  | .firstMatch options _ => by
    simp only [undescribed, toDocument, optionDocuments_undescribed options]

theorem optionDocuments_undescribed : ∀ options : List (Predicate × Plan),
    optionDocuments (undescribedOptions options) = optionDocuments options
  | [] => rfl
  | (p, plan) :: rest => by
    simp only [undescribedOptions, optionDocuments, toDocument_undescribed plan,
      optionDocuments_undescribed rest]

end

/-- What the document of a plan calls it. -/
def tag : Plan → String
  | .pass _ => "pass_through"
  | .checkEnum .. => "check_enum"
  | .nullable _ => "nullable"
  | .eachElement _ => "each_element"
  | .eachValue _ => "each_value"
  | .call _ => "call_model"
  | .dispatch .. => "dispatch"
  | .firstMatch .. => "first_match"

theorem exists_toDocument (p : Plan) :
    ∃ fields, p.toDocument = .ofFields (("plan", .str p.tag) :: fields) := by
  cases p <;> exact ⟨_, rfl⟩

/-- No enumeration in a plan has the empty name: that is left out of documents like no name. -/
def Named (p : Plan) : Prop := ∀ values, ¬(Plan.checkEnum values (some "")).Part p

theorem Part.trans {a b c : Plan} (inner : a.Part b) (outer : b.Part c) : a.Part c := by
  induction outer with
  | refl => exact inner
  | nullable _ ih => exact .nullable ih
  | eachElement _ ih => exact .eachElement ih
  | eachValue _ ih => exact .eachValue ih
  | option mem _ ih => exact .option mem ih

theorem Named.part {p q : Plan} (named : p.Named) (part : q.Part p) : q.Named :=
  fun values inner => named values (inner.trans part)

theorem toDocument_checkEnum {values : List Value} {name : Option String}
    (named : (Plan.checkEnum values name).Named) : (Plan.checkEnum values name).toDocument =
      .ofFields ([("plan", .str "check_enum"), ("values", .list values)] ++
        (name.map fun n => ("name", .str n)).toList) := by
  cases name with
  | none => rfl
  | some n =>
    have some : n.isEmpty = false := by
      rw [← Bool.not_eq_true, String.isEmpty_iff]
      rintro rfl
      exact named values .refl
    simp [toDocument, some]

variable {R : Value → Value → Prop}

theorem tag_eq (compares : Value.Compares R) {p q : Plan} (h : R p.toDocument q.toDocument) :
    p.tag = q.tag := by
  obtain ⟨fields, left⟩ := p.exists_toDocument
  obtain ⟨others, right⟩ := q.exists_toDocument
  rw [left, right] at h
  exact compares.textMember h "plan" rfl rfl

theorem checkEnum_agree (compares : Value.Compares R) {values others : List Value}
    {name other : Option String} (named : (Plan.checkEnum values name).Named)
    (named' : (Plan.checkEnum others other).Named)
    (h : R (Plan.checkEnum values name).toDocument (Plan.checkEnum others other).toDocument) :
    (Plan.checkEnum values name).Agree R (.checkEnum others other) := by
  rw [toDocument_checkEnum named, toDocument_checkEnum named'] at h
  have items := compares.listMember h "values" rfl rfl
  have names := compares.members h "name"
  cases name with
  | none =>
    cases other with
    | none => exact .checkEnum items
    | some other => nomatch names
  | some name =>
    cases other with
    | none => nomatch names
    | some other =>
      obtain rfl := compares.textMember h "name" rfl rfl
      exact .checkEnum items

theorem caseDocuments_inj (compares : Value.Compares R) : ∀ {cases others : List (String × String)},
    List.Forall₂ R (cases.map fun c => .ofFields [("value", .str c.1), ("model", .str c.2)])
      (others.map fun c => .ofFields [("value", .str c.1), ("model", .str c.2)]) → cases = others
  | [], [], _ => rfl
  | (value, model) :: cases, (value', model') :: others, h => by
    obtain ⟨first, rest⟩ := List.forall₂_cons.mp h
    obtain rfl := compares.textMember first "value" rfl rfl
    obtain rfl := compares.textMember first "model" rfl rfl
    rw [caseDocuments_inj compares rest]

mutual

/-- By induction on one of the plans; the tag tells the constructor of the other one. -/
theorem agree_of_toDocument (compares : Value.Compares R) : ∀ {p q : Plan}, p.Named → q.Named →
    R p.toDocument q.toDocument → p.Agree R q
  | .pass kind, q, _, _, h => by
    have tagged := tag_eq compares h
    cases q with
    | pass other =>
      obtain rfl := Schema.Kind.name_inj.mp (compares.textMember h "type" rfl rfl)
      exact .pass
    | _ => simp [tag] at tagged
  | .checkEnum values name, q, named, named', h => by
    have tagged := tag_eq compares h
    cases q with
    | checkEnum others other => exact checkEnum_agree compares named named' h
    | _ => simp [tag] at tagged
  | .nullable inner, q, named, named', h => by
    have tagged := tag_eq compares h
    cases q with
    | nullable other =>
      exact .nullable (agree_of_toDocument compares (named.part (.nullable .refl))
        (named'.part (.nullable .refl)) (compares.member h "inner" rfl rfl))
    | _ => simp [tag] at tagged
  | .eachElement element, q, named, named', h => by
    have tagged := tag_eq compares h
    cases q with
    | eachElement other =>
      exact .eachElement (agree_of_toDocument compares (named.part (.eachElement .refl))
        (named'.part (.eachElement .refl)) (compares.member h "element" rfl rfl))
    | _ => simp [tag] at tagged
  | .eachValue value, q, named, named', h => by
    have tagged := tag_eq compares h
    cases q with
    | eachValue other =>
      exact .eachValue (agree_of_toDocument compares (named.part (.eachValue .refl))
        (named'.part (.eachValue .refl)) (compares.member h "value" rfl rfl))
    | _ => simp [tag] at tagged
  | .call model, q, _, _, h => by
    have tagged := tag_eq compares h
    cases q with
    | call other =>
      obtain rfl := compares.textMember h "model" rfl rfl
      exact .call
    | _ => simp [tag] at tagged
  | .dispatch property cases, q, _, _, h => by
    have tagged := tag_eq compares h
    cases q with
    | dispatch other others =>
      obtain rfl := compares.textMember h "property_name" rfl rfl
      obtain rfl := caseDocuments_inj compares (compares.listMember h "cases" rfl rfl)
      exact .dispatch
    | _ => simp [tag] at tagged
  | .firstMatch options description, q, named, named', h => by
    have tagged := tag_eq compares h
    cases q with
    | firstMatch others other =>
      exact .firstMatch (agreeAll_of_optionDocuments compares
        (fun _ mem => named.part (.option mem .refl)) (fun _ mem => named'.part (.option mem .refl))
        (compares.listMember h "options" rfl rfl))
    | _ => simp [tag] at tagged

theorem agreeAll_of_optionDocuments (compares : Value.Compares R) :
    ∀ {options others : List (Predicate × Plan)}, (∀ option ∈ options, option.2.Named) →
      (∀ option ∈ others, option.2.Named) →
        List.Forall₂ R (optionDocuments options) (optionDocuments others) →
          AgreeAll R options others
  | [], [], _, _, _ => .nil
  | (a, p) :: options, (b, q) :: others, named, named', h => by
    obtain ⟨first, rest⟩ := List.forall₂_cons.mp h
    obtain ⟨here, named⟩ := List.forall_mem_cons.mp named
    obtain ⟨here', named'⟩ := List.forall_mem_cons.mp named'
    exact .cons (Predicate.agree_of_toDocument compares (compares.member first "when" rfl rfl))
      (agree_of_toDocument compares here here' (compares.member first "then" rfl rfl))
      (agreeAll_of_optionDocuments compares named named' rest)

end

/-- The document of a plan tells it up to descriptions. -/
theorem toDocument_eq_iff {p q : Plan} (named : p.Named) (named' : q.Named) :
    p.toDocument = q.toDocument ↔ p.undescribed = q.undescribed := by
  constructor
  · exact fun same => (agree_of_toDocument Value.compares_eq named named' same).undescribed_eq
  · intro same
    rw [← toDocument_undescribed p, same, toDocument_undescribed]

end Plan
end WireModel
