/-
This file holds the containers that come with a ready instance for traversing them, and the table of
known containers: every spelling of such a container, with the facts needed to use its instance.
-/

import Fieldwise.Text.Brackets

namespace Fieldwise

/-! ### Containers -/

/-- A family of containers with a ready instance. -/
inductive Container where
  | vector
  | deque
  | linkedList
  | option
  | result
  | boxed
  | reversed
  | either
  | validated
deriving DecidableEq, Repr, Inhabited

namespace Container

/-- The name of the instance. -/
def instanceName : Container → String
  | .vector => "VecTraverse"
  | .deque => "VecDequeTraverse"
  | .linkedList => "LinkedListTraverse"
  | .option => "OptionTraverse"
  | .result => "ResultTraverse"
  | .boxed => "BoxTraverse"
  | .reversed => "ReverseTraverse"
  | .either => "EitherTraverse"
  | .validated => "ValidatedTraverse"

/-- The path of the instance from the root of the runtime. -/
def instancePath (container : Container) : List String := ["traverse", container.instanceName]

/-- All containers with a ready instance. -/
def all : List Container :=
  [.vector, .deque, .linkedList, .option, .boxed, .reversed, .result, .either, .validated]

end Container

/-! ### Numbers of focused values -/

/-- How many focused values one instance of a shape contributes. -/
inductive Multiplicity where
  | exactlyOne
  | zeroOrOne
  | zeroOrMore
deriving DecidableEq, Repr, Inhabited

namespace Multiplicity

/-- The multiplicity in words. -/
def display : Multiplicity → String
  | .exactlyOne => "exactly one"
  | .zeroOrOne => "zero or one"
  | .zeroOrMore => "zero or more"

/-- The multiplicity as one name. -/
def title : Multiplicity → String
  | .exactlyOne => "ExactlyOne"
  | .zeroOrOne => "ZeroOrOne"
  | .zeroOrMore => "ZeroOrMore"

/-- All multiplicities. -/
def all : List Multiplicity := [.exactlyOne, .zeroOrOne, .zeroOrMore]

end Multiplicity

/-! ### Spellings -/

/-- One spelling of a container with a ready instance. -/
structure KnownContainer where
  /-- The name as it is written in a field's type. -/
  spelling : String
  container : Container
  multiplicity : Multiplicity
  /-- Whether the instance takes the arguments that are not traversed. -/
  takesOthers : Bool
  /-- Which type argument is traversed. -/
  focusIndex : Nat
deriving DecidableEq, Repr, Inhabited

namespace KnownContainer

/-- Rows for the spellings of a container with a single argument. -/
def plain (container : Container) (multiplicity : Multiplicity) (spellings : List String) :
    List KnownContainer :=
  spellings.map fun spelling => ⟨spelling, container, multiplicity, false, 0⟩

/-- Rows for the spellings of a container one of whose branches is traversed. -/
def branching (container : Container) (focusIndex : Nat) (spellings : List String) :
    List KnownContainer :=
  spellings.map fun spelling => ⟨spelling, container, .zeroOrOne, true, focusIndex⟩

/-- The table of known containers. -/
def table : List KnownContainer :=
  plain .vector .zeroOrMore ["Vec", "std::vec::Vec", "alloc::vec::Vec"] ++
  plain .deque .zeroOrMore
    ["VecDeque", "std::collections::VecDeque", "alloc::collections::VecDeque"] ++
  plain .linkedList .zeroOrMore
    ["LinkedList", "std::collections::LinkedList", "alloc::collections::LinkedList"] ++
  plain .option .zeroOrOne ["Option", "std::option::Option", "core::option::Option"] ++
  branching .result 0 ["Result", "std::result::Result", "core::result::Result"] ++
  plain .boxed .exactlyOne ["Box", "std::boxed::Box", "alloc::boxed::Box"] ++
  plain .reversed .exactlyOne ["Reverse", "std::cmp::Reverse", "core::cmp::Reverse"] ++
  branching .either 1 ["Either", "undertow::Either", "undertow::either::Either"] ++
  branching .validated 1
    ["Validated", "undertow::Validated", "undertow::validated::Validated"]

/-- The row with exactly this spelling. -/
def find? (spelling : String) : Option KnownContainer :=
  table.find? (·.spelling == spelling)

/-- The path of the row's instance from the root of the runtime, as text. -/
def instancePathText (known : KnownContainer) : String :=
  "::".intercalate known.container.instancePath

end KnownContainer

/-- Whether the name belongs to the runtime's own names: it starts with the name of the
runtime, a `::` before it apart, and goes on after it. -/
def isRuntimeName (name : String) : Bool :=
  match Text.after? "undertow::".toList (Text.withoutRoot name).toList with
  | some rest => !rest.isEmpty
  | none => false

end Fieldwise
