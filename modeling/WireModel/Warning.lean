import WireModel.Decimal.Text

/-!
# Warnings

What is accepted but worth telling. A `Logged` computation keeps its warnings in order, also
when it fails.
-/

namespace WireModel

/-- A warning about a schema document. -/
inductive Warning where
  /-- A schema combines others by several keywords, and only the first one counts. -/
  | ignoredCombinations (path used : String) (ignored : List String)
  /-- A schema combines alternatives and declares properties of its own. -/
  | ignoredProperties (path combination : String)
  /-- An object schema has properties, so its schema for other keys is not used. -/
  | ignoredAdditional (path : String)
  /-- An earlier alternative of a union takes every value of a later one; counted from one. -/
  | overlap (context : String) (earlier later : Nat)
  deriving DecidableEq

def Warning.message : Warning → String
  | .ignoredCombinations path used ignored =>
    path ++ ": only '" ++ used ++ "' is used, ignoring " ++ String.intercalate ", " ignored
  | .ignoredProperties path combination =>
    path ++ ": properties next to '" ++ combination ++ "' are ignored"
  | .ignoredAdditional path => path ++ ": additionalProperties next to properties is ignored"
  | .overlap context earlier later =>
    context ++ ": variant " ++ Decimal.ofNat earlier ++ " overlaps variant " ++
      Decimal.ofNat later ++ " without a discriminator; variant " ++ Decimal.ofNat earlier ++
      " always wins"

/-- A computation that may fail and keeps its warnings either way. -/
abbrev Logged (ε : Type) := ExceptT ε (StateM (List Warning))

/-- Adds a warning to the log. -/
def Logged.warn {ε : Type} (w : Warning) : Logged ε Unit := fun log => (.ok (), log ++ [w])

/-- The result and the warnings of a computation. -/
def Logged.outcome {ε α : Type} (computation : Logged ε α) : Except ε α × List Warning :=
  computation.run.run []

theorem Logged.outcome_warn {ε : Type} (w : Warning) :
    (Logged.warn w : Logged ε Unit).outcome = (.ok (), [w]) := rfl

end WireModel
