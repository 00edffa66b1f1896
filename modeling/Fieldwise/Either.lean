/-
This file holds values of one of two kinds. Neither kind stands for failure, but the
operations that work on one side work on the right.
-/

namespace Fieldwise

/-- A left value or a right value. -/
inductive Either (L R : Type) where
  | left (value : L)
  | right (value : R)
deriving DecidableEq, Repr, Inhabited

namespace Either

variable {L L' R R' Result : Type}

/-! ### Looking -/

/-- Whether the value is a left one. -/
def isLeft : Either L R → Bool
  | .left _ => true
  | .right _ => false

/-- Whether the value is a right one. -/
def isRight : Either L R → Bool
  | .left _ => false
  | .right _ => true

/-- The left value, if it is one. -/
def left? : Either L R → Option L
  | .left value => some value
  | .right _ => none

/-- The right value, if it is one. -/
def right? : Either L R → Option R
  | .left _ => none
  | .right value => some value

/-- The right value, or another value in its place. -/
def rightOr (default : R) (either : Either L R) : R := either.right?.getD default

/-- The right value as a list of at most one. -/
def toList (either : Either L R) : List R := either.right?.toList

/-! ### Transforming -/

/-- What the function for its kind makes of the value. -/
def fold (onLeft : L → Result) (onRight : R → Result) : Either L R → Result
  | .left value => onLeft value
  | .right value => onRight value

/-- Applies a function to each kind. -/
def bimap (onLeft : L → L') (onRight : R → R') : Either L R → Either L' R' :=
  fold (fun value => .left (onLeft value)) fun value => .right (onRight value)

/-- Applies a function to a right value. -/
def map (function : R → R') : Either L R → Either L R' := bimap id function

/-- Applies a function to a left value. -/
def mapLeft (function : L → L') : Either L R → Either L' R := bimap function id

/-- Makes left right and right left. -/
def swap : Either L R → Either R L := fold .right .left

/-- Goes on from a right value. -/
def andThen (next : R → Either L R') : Either L R → Either L R' := fold .left next

/-! ### Results -/

/-- A success is a right value, and an error a left one. -/
def ofResult : Except L R → Either L R
  | .ok value => .right value
  | .error value => .left value

/-- A right value is a success, and a left one an error. -/
def toResult : Either L R → Except L R := fold .error .ok

/-! ### Order -/

/-- Left values come before right values. -/
def ordering [Ord L] [Ord R] : Either L R → Either L R → Ordering
  | .left first, .left second => compare first second
  | .left _, .right _ => .lt
  | .right _, .left _ => .gt
  | .right first, .right second => compare first second

instance [Ord L] [Ord R] : Ord (Either L R) := ⟨ordering⟩

end Either

end Fieldwise
