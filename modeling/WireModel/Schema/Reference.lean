import WireModel.Pointer
import WireModel.Schema.Fault

/-!
# References

A reference names a schema by a pointer into one of the containers of named schemas, or the
root of the document by `#` alone.
-/

namespace WireModel.Schema

/-- Where named schemas may live, the most specific place first. -/
def containers : List (List String) := [["components", "schemas"], ["definitions"], ["$defs"]]

/-- The pointer of a container. -/
def containerPath (container : List String) : String := "#/" ++ String.intercalate "/" container

/-- The name that keys into a container denote. -/
def nameIn (container keys : List String) : Option String :=
  if container.isPrefixOf keys then
    match keys.drop container.length with
    | [name] => if name.isEmpty then none else some name
    | _ => none
  else none

/-- The name of the schema that a reference means; `root` is the name of the root model. -/
def targetOf (root : Option String) (reference : String) : Except Cause String :=
  match reference.toList with
  | ['#'] =>
    match root with
    | some name => .ok name
    | none => .error .rootNotModel
  | '#' :: '/' :: fragment =>
    match containers.findSome? fun container => nameIn container (Pointer.keys fragment) with
    | some name => .ok name
    | none => .error (.notNamedSchema reference)
  | '#' :: _ => .error (.notPointer reference)
  | _ => .error (.externalReference reference)

/-- Reads the value of a reference. -/
def readReference (root : Option String) (value : Value) (path : String) :
    Reading (String × String) :=
  match value.asStr? with
  | none => .fail path .referenceNotText
  | some reference =>
    if reference.isEmpty then .fail path .referenceNotText
    else
      match targetOf root reference with
      | .ok target => pure (reference, target)
      | .error cause => .fail path cause

theorem nameIn_ne_empty {container keys : List String} {name : String}
    (h : nameIn container keys = some name) : name.isEmpty = false := by
  unfold nameIn at h
  split at h
  · split at h
    · split at h
      · cases h
      · rename_i nonempty; cases h; exact Bool.eq_false_iff.mpr nonempty
    · cases h
  · cases h

theorem targetOf_root (name : String) : targetOf (some name) "#" = .ok name := rfl

end WireModel.Schema
