/-
This file holds validated values: a valid value, or evidence why there is none. Where
several validated values are put together, all evidence is kept, in order.
-/

import Fieldwise.Combine
import Fieldwise.Either

namespace Fieldwise

/-- A valid value, or the evidence against it. -/
inductive Validated (E A : Type) where
  | invalid (evidence : E)
  | valid (value : A)
deriving DecidableEq, Repr, Inhabited

namespace Validated

variable {E E' A B Result : Type}

instance [BEq E] [BEq A] : BEq (Validated E A) where
  beq
    | .invalid first, .invalid second => first == second
    | .valid first, .valid second => first == second
    | _, _ => false

/-! ### Looking and transforming -/

/-- Whether the value is valid. -/
def isValid : Validated E A → Bool
  | .invalid _ => false
  | .valid _ => true

/-- Whether there is evidence against the value. -/
def isInvalid : Validated E A → Bool
  | .invalid _ => true
  | .valid _ => false

/-- What the function for its case makes of it. -/
def fold (onInvalid : E → Result) (onValid : A → Result) : Validated E A → Result
  | .invalid evidence => onInvalid evidence
  | .valid value => onValid value

/-- Applies a function to a valid value. -/
def map (function : A → B) : Validated E A → Validated E B := fold .invalid (.valid <| function ·)

/-- Applies a function to the evidence. -/
def mapInvalid (function : E → E') : Validated E A → Validated E' A :=
  fold (.invalid <| function ·) .valid

/-- A success is valid, and an error is evidence. -/
def ofResult : Except E A → Validated E A
  | .ok value => .valid value
  | .error evidence => .invalid evidence

/-- A valid value is a success, and evidence an error. -/
def toResult : Validated E A → Except E A := fold .error .ok

/-! ### Putting together -/

/-- Both values if both are valid, else all the evidence. -/
def and [Combine E] : Validated E A → Validated E B → Validated E (A × B)
  | .valid first, .valid second => .valid (first, second)
  | .invalid first, .invalid second => .invalid (combine first second)
  | .invalid evidence, .valid _ => .invalid evidence
  | .valid _, .invalid evidence => .invalid evidence

/-- All values if all are valid, else all the evidence. -/
def all [Combine E] (items : List (Validated E A)) : Validated E (List A) :=
  items.foldl (fun before item => (before.and item).map fun (values, value) => values ++ [value])
    (.valid [])

end Validated

/-- A left value becomes evidence, and a right one a valid value. -/
def Either.toValidated {L R : Type} : Either L R → Validated L R := Either.fold .invalid .valid

end Fieldwise
