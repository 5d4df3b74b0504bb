import WireModel.Proofs.Options
import WireModel.Proofs.Success
import WireModel.Table.Build

/-!
# Faults of tables

A table is refused for what its definitions say. With options that list texts it is never refused
for an option of the wrong kind.
-/

namespace WireModel.Table

open Types (ObjectType Definition)

/-- A fault is one of the definitions, not one of the options. -/
def Fault.IsOfDefinitions : Fault → Prop
  | .options _ => False
  | _ => True

variable {options : Options} {P : Fault → Prop}

theorem ofOption_errs {α : Type} {result : Except Options.Misuse α}
    (h : (∃ a, result = .ok a) ∨ ∀ misuse, P (.options misuse)) : ErrsOnly (ofOption result) P := by
  cases result with
  | ok a => exact .ok
  | error misuse =>
    rcases h with ⟨a, none⟩ | misused
    · cases none
    · exact .error (misused misuse)

/-- A model is refused for a default or for a field that stands twice, if not for the options. -/
theorem modelOf_errs (option : ∀ name, ErrsOnly (ofOption (options.ignoresField name)) P)
    (conflict : ∀ model field, P (.requiredWithDefault model field))
    (duplicate : ∀ model field, P (.duplicateField model field)) {name : String}
    {definition : Definition} : ErrsOnly (modelOf options name definition) P := by
  unfold modelOf
  split
  · refine .map (.bind (.foldlM fun fields f _ => ?_) fun fields => .ok)
    unfold addField
    refine (option f.name).bind fun ignored => ?_
    split
    · exact .ok
    · dsimp only
      split
      · exact .error (conflict _ _)
      · split
        · exact .error (duplicate _ _)
        · exact .ok
  · exact .ok
  · exact .ok

/-- A discriminator is refused for what it leads to. -/
theorem checkDiscriminator_errs (target : ∀ model target, P (.targetNotRecord model target))
    (property : ∀ property model target, P (.propertyMissing property model target))
    {models : List Model} {m : Model} : ErrsOnly (checkDiscriminator models m) P := by
  unfold checkDiscriminator
  split
  · exact .ok
  · refine .forM fun entry _ => ?_
    obtain ⟨tag, name⟩ := entry
    dsimp only [checkTarget]
    split
    · split
      · exact .ok
      · exact .error (property _ _ _)
    · exact .error (target _ _)

/-- With options that list texts a table is only refused for its definitions. -/
theorem build_errs (texts : options.AreTexts) {definitions : List (String × Definition)} :
    ErrsOnly (build options definitions) Fault.IsOfDefinitions := by
  have models (d : String × Definition) :
      ErrsOnly (modelOf options d.1 d.2) Fault.IsOfDefinitions :=
    modelOf_errs (fun name => ofOption_errs (.inl (texts.ignoresField_ok name)))
      (fun _ _ => trivial) fun _ _ => trivial
  have checks (models : List Model) :
      ErrsOnly (models.forM (checkDiscriminator models)) Fault.IsOfDefinitions :=
    .forM fun m _ => checkDiscriminator_errs (fun _ _ => trivial) fun _ _ _ => trivial
  have first : ErrsOnly (ofOption options.firstClasses) Fault.IsOfDefinitions :=
    ofOption_errs (.inl texts.firstClasses_ok)
  unfold build
  refine (ofOption_errs (.inl texts.ignoredClasses_ok)).bind fun ignored => ?_
  refine (ErrsOnly.filterMapM fun d _ => models d).bind fun models => ?_
  dsimp only
  split
  · exact (checks models).bind fun _ => first.bind fun first => .ok
  · refine ErrsOnly.bind (.error trivial) fun _ => ?_
    exact (checks models).bind fun _ => first.bind fun first => .ok

end WireModel.Table
