/-
This file holds the ready instances of containers. An instance runs a function over the
elements of a container in their order, joins the effects, and rebuilds a container of
the same shape. What carries no element is passed on without calling the function.
-/

import Fieldwise.Capability

namespace Fieldwise

/-- A way to run effects through containers of one kind. -/
structure Traverse (Of : Type → Type) where
  /-- The name shown to developers. -/
  name : String
  /-- Runs a function, which has a state of its own, over the elements of a container. -/
  run : {F : Type → Type} → {A B State : Type} → Capability F →
    (A → State → F B × State) → Of A → State → F (Of B) × State

/-- A box around one value. -/
structure Boxed (A : Type) where
  content : A
deriving DecidableEq, Repr, Inhabited

/-- A value whose order is turned around. -/
structure Reversed (A : Type) where
  content : A
deriving DecidableEq, Repr, Inhabited

namespace Traverse

/-- Applies a function inside the effect and leaves the state as it is. -/
def mapEffect {F : Type → Type} {A B State : Type} (capability : Capability F)
    (function : A → B) (result : F A × State) : F B × State :=
  (capability.map result.1 function, result.2)

/-- Vectors: every element, in order. -/
def vector : Traverse List where
  name := "VecTraverse"
  run capability function items state := capability.traverseList function items state

/-- Deques: every element, front to back. -/
def deque : Traverse Deque where
  name := "VecDequeTraverse"
  run capability function items state :=
    mapEffect capability Deque.mk (capability.traverseList function items.toList state)

/-- Linked lists: every element, front to back. -/
def linkedList : Traverse LinkedList where
  name := "LinkedListTraverse"
  run capability function items state :=
    mapEffect capability LinkedList.mk (capability.traverseList function items.toList state)

/-- Optional values: the value if it is there. -/
def option : Traverse Option where
  name := "OptionTraverse"
  run capability function
    | some value, state => mapEffect capability some (function value state)
    | none, state => (capability.pure none, state)

/-- Boxes: the one value. -/
def boxed : Traverse Boxed where
  name := "BoxTraverse"
  run capability function box state := mapEffect capability Boxed.mk (function box.content state)

/-- Reversed values: the one value. -/
def reversed : Traverse Reversed where
  name := "ReverseTraverse"
  run capability function value state :=
    mapEffect capability Reversed.mk (function value.content state)

/-- Results: the value of a success. -/
def result (E : Type) : Traverse (Except E) where
  name := "ResultTraverse"
  run capability function
    | .ok value, state => mapEffect capability .ok (function value state)
    | .error error, state => (capability.pure (.error error), state)

/-- Either of two values: the right one. -/
def either (L : Type) : Traverse (Either L) where
  name := "EitherTraverse"
  run capability function
    | .right value, state => mapEffect capability .right (function value state)
    | .left value, state => (capability.pure (.left value), state)

/-- Validated values: the valid one. -/
def validated (E : Type) : Traverse (Validated E) where
  name := "ValidatedTraverse"
  run capability function
    | .valid value, state => mapEffect capability .valid (function value state)
    | .invalid evidence, state => (capability.pure (.invalid evidence), state)

end Traverse

end Fieldwise
