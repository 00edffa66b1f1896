/-
This file holds traversals. A traversal focuses on some values inside a source: it
applies a function to each of them, in order, and rebuilds the source inside the effect
of the function. All other operations follow from this one by the choice of effect.
-/

import Fieldwise.Capability

namespace Fieldwise

/-- A focus on the values of one type inside a source of another. -/
structure Traversal (S A : Type) where
  /-- The name shown to developers. -/
  name : String
  /-- Applies a function, which has a state of its own, to the focused values. -/
  modifyWith : {F : Type → Type} → {State : Type} → Capability F →
    (A → State → F A × State) → S → State → F S × State

namespace Traversal

variable {S A B : Type}

/-- Applies a function without a state, inside its effect. -/
def modifyEach (traversal : Traversal S A) {F : Type → Type} (capability : Capability F)
    (function : A → F A) (source : S) : F S :=
  (traversal.modifyWith capability (fun value state => (function value, state)) source ()).1

/-- Applies a plain function. -/
def modify (traversal : Traversal S A) (source : S) (function : A → A) : S :=
  traversal.modifyEach .identity function source

/-- Puts one value in the place of every focused one. -/
def setAll (traversal : Traversal S A) (source : S) (value : A) : S :=
  traversal.modify source fun _ => value

/-- The focused values, in order. -/
def getAll (traversal : Traversal S A) (source : S) : List A :=
  traversal.modifyEach (.constant (List A)) (fun value => [value]) source

/-- How many values are focused. -/
def count (traversal : Traversal S A) (source : S) : Nat :=
  let units : Constant (List Unit) S :=
    traversal.modifyEach (.constant (List Unit)) (fun _ => [()]) source
  units.length

/-- The name of two traversals, one inside the other. -/
def composedName (outer inner : String) : String :=
  "Composed \x7b outer: " ++ outer ++ ", inner: " ++ inner ++ " \x7d"

/-- Focuses on the values inside the focused ones. -/
def andThen (outer : Traversal S A) (inner : Traversal A B) : Traversal S B where
  name := composedName outer.name inner.name
  modifyWith capability function source state :=
    outer.modifyWith capability (inner.modifyWith capability function) source state

end Traversal

end Fieldwise
