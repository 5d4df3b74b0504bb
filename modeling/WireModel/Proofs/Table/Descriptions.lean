import WireModel.Plan.Contract
import WireModel.Proofs.Success

/-!
# Descriptions of fields

Nothing that is decided about a model depends on what its fields are said to be for.

* **`Table.undescribed`**: a table without the descriptions of its fields.
* **`derive_undescribed`**: its contracts are those of the table.
-/

namespace WireModel

open Types (WireType)

/-! ## Without descriptions -/

def Field.undescribed (f : Field) : Field := { f with description := none }

def RecordModel.undescribed (r : RecordModel) : RecordModel :=
  { r with fields := r.fields.map Field.undescribed }

def Model.undescribed : Model → Model
  | .record r => .record r.undescribed
  | .union u => .union u

/-- The table without the descriptions of the fields of its models. -/
def Table.undescribed (table : Table) : Table :=
  { table with models := table.models.map Model.undescribed }

theorem Model.name_undescribed (m : Model) : m.undescribed.name = m.name := by
  cases m <;> rfl

theorem RecordModel.requiredNames_undescribed (r : RecordModel) :
    r.undescribed.requiredNames = r.requiredNames := by
  rw [requiredNames, undescribed, List.filter_map, List.map_map]
  rfl

namespace Table

theorem names_undescribed (table : Table) : table.undescribed.names = table.names := by
  rw [names, undescribed, List.map_map]
  exact List.map_congr_left fun m _ => m.name_undescribed

theorem get?_undescribed (table : Table) (name : String) :
    table.undescribed.get? name = (table.get? name).map Model.undescribed := by
  have same : (fun m : Model => m.name == name) ∘ Model.undescribed = fun m => m.name == name :=
    funext fun m => congrArg (· == name) m.name_undescribed
  rw [get?, undescribed, List.find?_map, same]
  rfl

theorem length_undescribed (table : Table) :
    table.undescribed.models.length = table.models.length := List.length_map _

end Table

/-! ## Contracts -/

namespace Contract

variable {table : Table}

/-- By induction on the depth of the walk. -/
theorem modelPredicate_undescribed (depth : Nat) (seen : List String) :
    modelPredicate table.undescribed depth seen = modelPredicate table depth seen := by
  induction depth generalizing seen with
  | zero => rfl
  | succ depth ih =>
    funext name
    rw [modelPredicate, modelPredicate, Table.get?_undescribed, ih]
    rcases table.get? name with _ | ⟨r | u⟩
    · rfl
    · rw [Option.map_some, Model.undescribed]
      dsimp only
      rw [r.requiredNames_undescribed]
      rfl
    · rfl

theorem predicateFor_undescribed : predicateFor table.undescribed = predicateFor table := by
  funext t
  rw [predicateFor, predicateFor, Table.length_undescribed, modelPredicate_undescribed]

mutual

theorem planOf_undescribed (context : String) :
    ∀ t : WireType, planOf table.undescribed context t = planOf table context t
  | .primitive .. | .enum .. | .model _ | .union _ _ (some _) _ => by simp only [planOf]
  | .nullable inner | .optional inner => by simp only [planOf, planOf_undescribed context inner]
  | .sequence inner | .mapping inner => by simp only [planOf, planOf_undescribed _ inner]
  | .union _ _ none variants => by simp only [planOf, optionsOf_undescribed _ variants]

theorem optionsOf_undescribed (context : String) :
    ∀ ts : List WireType, optionsOf table.undescribed context ts = optionsOf table context ts
  | [] => by simp only [optionsOf]
  | t :: rest => by
    simp only [optionsOf, predicateFor_undescribed, planOf_undescribed context t,
      optionsOf_undescribed context rest]

end

theorem ofModel_undescribed (m : Model) :
    ofModel table.undescribed m.undescribed = ofModel table m := by
  cases m with
  | record r =>
    have each : ofField table.undescribed r.name ∘ Field.undescribed = ofField table r.name := by
      funext f
      rw [Function.comp_apply, ofField, ofField, Field.undescribed, planOf_undescribed]
    rw [Model.undescribed, ofModel, ofModel, r.requiredNames_undescribed]
    simp only [RecordModel.undescribed, List.mapM_map, each]
  | union u => rw [Model.undescribed, ofModel, ofModel, planOf_undescribed]

/-- **Contracts do not depend on descriptions.** -/
theorem derive_undescribed (table : Table) : derive table.undescribed = derive table := by
  rw [derive, derive, Table.undescribed, List.mapM_map]
  exact congrArg (fun f => table.models.mapM f) (funext fun m => ofModel_undescribed m)

end Contract
end WireModel
