/-
This file joins the containers that come with a ready instance to that instance and to
the values that stand for such containers.
-/

import Fieldwise.Container.Basic
import Fieldwise.Traverse
import Fieldwise.Value.Basic

namespace Fieldwise

/-- A kind of containers, its instance, and its containers as values. -/
structure ContainerModel where
  Of : Type → Type
  traverse : Traverse Of
  /-- The container that a value stands for, if it stands for one of the kind. -/
  read : Value → Option (Of Value)
  /-- The value that stands for a container. -/
  write : Of Value → Value
  /-- Only the value that stands for a container is read as it. -/
  write_read : ∀ {value : Value} {container : Of Value},
    read value = some container → write container = value

namespace ContainerModel

/-- Vectors: lists of values. -/
def vector : ContainerModel where
  Of := List
  traverse := .vector
  read
    | .tree .list parts => some parts
    | _ => none
  write parts := .tree .list parts
  write_read {value} _ found := by cases value <;> grind

/-- Deques. -/
def deque : ContainerModel where
  Of := Deque
  traverse := .deque
  read
    | .tree .deque parts => some ⟨parts⟩
    | _ => none
  write deque := .tree .deque deque.toList
  write_read {value} _ found := by cases value <;> grind

/-- Linked lists. -/
def linkedList : ContainerModel where
  Of := LinkedList
  traverse := .linkedList
  read
    | .tree .linkedList parts => some ⟨parts⟩
    | _ => none
  write linked := .tree .linkedList linked.toList
  write_read {value} _ found := by cases value <;> grind

/-- Optional values. -/
def option : ContainerModel where
  Of := Option
  traverse := .option
  read
    | .tree .none [] => some none
    | .tree .some [content] => some (some content)
    | _ => none
  write
    | none => .tree .none []
    | some content => .tree .some [content]
  write_read {value} _ found := by cases value <;> grind

/-- Results. -/
def result : ContainerModel where
  Of := Except Value
  traverse := .result Value
  read
    | .tree .ok [content] => some (.ok content)
    | .tree .error [content] => some (.error content)
    | _ => none
  write
    | .ok content => .tree .ok [content]
    | .error content => .tree .error [content]
  write_read {value} _ found := by cases value <;> grind

/-- Boxes. -/
def boxed : ContainerModel where
  Of := Boxed
  traverse := .boxed
  read
    | .tree .boxed [content] => some ⟨content⟩
    | _ => none
  write box := .tree .boxed [box.content]
  write_read {value} _ found := by cases value <;> grind

/-- Reversed values. -/
def reversed : ContainerModel where
  Of := Reversed
  traverse := .reversed
  read
    | .tree .reversed [content] => some ⟨content⟩
    | _ => none
  write value := .tree .reversed [value.content]
  write_read {value} _ found := by cases value <;> grind

/-- Values of one of two kinds. -/
def either : ContainerModel where
  Of := Either Value
  traverse := .either Value
  read
    | .tree .right [content] => some (.right content)
    | .tree .left [content] => some (.left content)
    | _ => none
  write
    | .right content => .tree .right [content]
    | .left content => .tree .left [content]
  write_read {value} _ found := by cases value <;> grind

/-- Validated values. -/
def validated : ContainerModel where
  Of := Validated Value
  traverse := .validated Value
  read
    | .tree .valid [content] => some (.valid content)
    | .tree .invalid [content] => some (.invalid content)
    | _ => none
  write
    | .valid content => .tree .valid [content]
    | .invalid content => .tree .invalid [content]
  write_read {value} _ found := by cases value <;> grind

end ContainerModel

/-- What a container's instance works on. -/
def Container.model : Container → ContainerModel
  | .vector => .vector
  | .deque => .deque
  | .linkedList => .linkedList
  | .option => .option
  | .result => .result
  | .boxed => .boxed
  | .reversed => .reversed
  | .either => .either
  | .validated => .validated

end Fieldwise
