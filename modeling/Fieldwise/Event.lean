/-
This file holds the events that the library reports while it works. Work that reports
events is a function of the level that is listened to, so that its result can be seen
not to depend on it.
-/

import Fieldwise.Text.Quoted

namespace Fieldwise

/-! ### Levels -/

/-- How much detail an event has. -/
inductive Level where
  | trace
  | debug
  | info
  | warn
  | error
deriving DecidableEq, Repr, Inhabited

namespace Level

/-- The level in capitals. -/
def display : Level → String
  | .trace => "TRACE"
  | .debug => "DEBUG"
  | .info => "INFO"
  | .warn => "WARN"
  | .error => "ERROR"

/-- The place of the level from the most detail to the least. -/
def rank : Level → Nat
  | .trace => 0
  | .debug => 1
  | .info => 2
  | .warn => 3
  | .error => 4

/-- Whether a listener at the first level hears events of the second. -/
def hears (listener event : Level) : Bool := listener.rank ≤ event.rank

end Level

/-! ### Events -/

/-- What is reported. -/
inductive Event where
  /-- A generator was added at a position of a registry. -/
  | registered (generator : String) (position : Nat)
  /-- Several generators support a type. -/
  | overlapping (type chosen : String) (shadowed : List String)
  /-- A generator was found for a field. -/
  | resolved (aggregate field generator : String)
  /-- A body was written. -/
  | written (generator body : String)
  /-- A declaration is done. -/
  | synthesized (aggregate : String) (traversals diagnostics : Nat)
  /-- A field was taken as a leaf. -/
  | leaf (note : String)
deriving DecidableEq, Repr, Inhabited

namespace Event

/-- The level of an event. -/
def level : Event → Level
  | .written _ _ => .trace
  | _ => .debug

/-- What an event says. -/
def message : Event → String
  | .registered _ _ => "registered shape generator"
  | .overlapping _ _ _ => "overlapping shape generators, first registered wins"
  | .resolved _ _ _ => "resolved shape generator"
  | .written _ _ => "synthesized traversal body"
  | .synthesized _ _ _ => "synthesized declaration"
  | .leaf _ => "field left as a leaf"

/-- A list of texts, each between double quotes. -/
def listed (texts : List String) : String :=
  "[" ++ ", ".intercalate (texts.map Text.quoted) ++ "]"

/-- The particulars of an event, by name. -/
def details : Event → List (String × String)
  | .registered generator position =>
    [("generator", generator), ("position", toString position)]
  | .overlapping type chosen shadowed =>
    [("ty", type), ("chosen", chosen), ("shadowed", listed shadowed)]
  | .resolved aggregate field generator =>
    [("aggregate", aggregate), ("field", field), ("generator", generator)]
  | .written generator body => [("generator", generator), ("body", body)]
  | .synthesized aggregate traversals diagnostics =>
    [("aggregate", aggregate), ("traversals", toString traversals),
      ("diagnostics", toString diagnostics)]
  | .leaf note => [("note", note)]

end Event

/-! ### Work that reports events -/

/-- Work with a result and, for each level that may be listened to, the events heard. -/
def Logged (Result : Type) : Type := Level → Result × List Event

namespace Logged

/-- The result, whatever is listened to. -/
def result {Result : Type} (work : Logged Result) (listener : Level) : Result :=
  (work listener).1

/-- The events that a listener hears, in order. -/
def events {Result : Type} (work : Logged Result) (listener : Level) : List Event :=
  (work listener).2

instance : Monad Logged where
  pure result := fun _ => (result, [])
  bind work next := fun listener =>
    let (middle, before) := work listener
    let (result, after) := next middle listener
    (result, before ++ after)

/-- Reports an event. -/
def report (event : Event) : Logged Unit := fun listener =>
  ((), if listener.hears event.level then [event] else [])

end Logged

end Fieldwise
