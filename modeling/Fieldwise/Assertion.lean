/-
This file holds assertions on validated values and what they say when they fail.
-/

import Fieldwise.CallCounter

namespace Fieldwise

/-- Why an assertion failed, with the values as they are shown. -/
inductive AssertionFailure where
  /-- A valid value was expected. -/
  | notValid (evidence : String)
  /-- Evidence was expected. -/
  | notInvalid (value : String)
  /-- Certain evidence was expected. -/
  | notInvalidWith (expected value : String)
  /-- Other evidence was expected. -/
  | otherEvidence (found expected : String)
deriving DecidableEq, Repr, Inhabited

/-- The wording of a failure. -/
def AssertionFailure.message : AssertionFailure → String
  | .notValid evidence => "Expected Valid, got Invalid: " ++ evidence
  | .notInvalid value => "Expected Invalid, got Valid: " ++ value
  | .notInvalidWith expected value =>
    "Expected Invalid with " ++ expected ++ ", got Valid: " ++ value
  | .otherEvidence found expected =>
    "assertion `left == right` failed\n  left: " ++ found ++ "\n right: " ++ expected

namespace Validated

variable {E A : Type} [Debug E] [Debug A]

/-- Asserts that the value is valid. -/
def assertValid : Validated E A → Except AssertionFailure Unit
  | .valid _ => .ok ()
  | .invalid evidence => .error (.notValid (debug evidence))

/-- Asserts that there is evidence against the value. -/
def assertInvalid : Validated E A → Except AssertionFailure Unit
  | .invalid _ => .ok ()
  | .valid value => .error (.notInvalid (debug value))

/-- Asserts that the evidence against the value is as expected. -/
def assertInvalidWith [BEq E] (expected : E) : Validated E A → Except AssertionFailure Unit
  | .invalid evidence =>
    if evidence == expected then .ok ()
    else .error (.otherEvidence (debug evidence) (debug expected))
  | .valid value => .error (.notInvalidWith (debug expected) (debug value))

end Validated

end Fieldwise
