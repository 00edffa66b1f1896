/-
This file holds capabilities. A capability says what an effect is: how a plain value
becomes an effect, how a function is applied inside one, and how two effects become one,
the first before the second. Running a function over items with a capability gives one
effect that carries all results.
-/

import Fieldwise.Validated

namespace Fieldwise

/-- What it takes to work inside effects of one kind. -/
structure Capability (F : Type → Type) where
  /-- The name shown to developers. -/
  name : String
  /-- A plain value as an effect that does nothing. -/
  pure : {A : Type} → A → F A
  /-- Applies a function to the value inside an effect. -/
  map : {A B : Type} → F A → (A → B) → F B
  /-- Joins two effects and applies a function to both values. -/
  map2 : {A B C : Type} → F A → F B → (A → B → C) → F C

/-- An effect that carries no value, only evidence. -/
abbrev Constant (M : Type) (_ : Type) : Type := M

namespace Capability

/-! ### Kinds of effects -/

/-- No effect at all. -/
def identity : Capability Id where
  name := "Identity"
  pure value := value
  map value function := function value
  map2 first second function := function first second

/-- Joins two optional values; one that is missing leaves nothing. -/
def joinOptions {A B C : Type} : Option A → Option B → (A → B → C) → Option C
  | some first, some second, function => some (function first second)
  | _, _, _ => none

/-- Values that may be missing. -/
def option : Capability Option where
  name := "OptionApplicative"
  pure := some
  map value function := value.map function
  map2 := joinOptions

/-- Joins two results; the first error counts. -/
def joinResults {E A B C : Type} : Except E A → Except E B → (A → B → C) → Except E C
  | .ok first, .ok second, function => .ok (function first second)
  | .ok _, .error error, _ => .error error
  | .error error, _, _ => .error error

/-- Results of which the first error counts. -/
def result (E : Type) : Capability (Except E) where
  name := "ResultApplicative"
  pure := .ok
  map value function := value.map function
  map2 := joinResults

/-- Joins two values of either kind; the first left one counts. -/
def joinEithers {L A B C : Type} : Either L A → Either L B → (A → B → C) → Either L C
  | .right first, .right second, function => .right (function first second)
  | .right _, .left value, _ => .left value
  | .left value, _, _ => .left value

/-- Right values of which the first left one counts. -/
def either (L : Type) : Capability (Either L) where
  name := "EitherApplicative"
  pure := .right
  map value function := value.map function
  map2 := joinEithers

/-- Joins two validated values; all evidence is kept. -/
def joinValidated {E A B C : Type} [Combine E] :
    Validated E A → Validated E B → (A → B → C) → Validated E C
  | .valid first, .valid second, function => .valid (function first second)
  | .invalid first, .invalid second, _ => .invalid (combine first second)
  | .invalid evidence, .valid _, _ => .invalid evidence
  | .valid _, .invalid evidence, _ => .invalid evidence

/-- Validated values whose evidence is kept, all of it. -/
def validated (E : Type) [Combine E] : Capability (Validated E) where
  name := "ValidatedApplicative"
  pure := .valid
  map value function := value.map function
  map2 := joinValidated

/-- Evidence alone. -/
def constant (M : Type) [CombineEmpty M] : Capability (Constant M) where
  name := "Const"
  pure _ := CombineEmpty.empty
  map evidence _ := evidence
  map2 first second _ := combine first second

/-! ### Visiting items -/

variable {F : Type → Type} {Item A B C State : Type}

/-- Visits the items in order and adds what each gives to the values before it, all
inside one effect. Every item is visited, whatever the effects before it are; the state
is that of the visitor. -/
def collect (capability : Capability F) (visit : Item → State → F B × State)
    (slot : Item → B → C) : List Item → F (List C) → State → F (List C) × State
  | [], before, state => (before, state)
  | item :: rest, before, state =>
    match visit item state with
    | (effect, state) =>
      capability.collect visit slot rest
        (capability.map2 before effect fun values value => values ++ [slot item value]) state

/-- One round of a loop joins what was collected before with what the item gives. -/
theorem collect_cons (capability : Capability F) (visit : Item → State → F B × State)
    (slot : Item → B → C) (item : Item) (rest : List Item) (before : F (List C))
    (state : State) :
    capability.collect visit slot (item :: rest) before state =
      capability.collect visit slot rest
        (capability.map2 before (visit item state).1 fun values value =>
          values ++ [slot item value])
        (visit item state).2 := rfl

/-- The results of a function on all items, inside one effect. -/
def traverseList (capability : Capability F) (function : A → State → F B × State)
    (items : List A) (state : State) : F (List B) × State :=
  capability.collect function (fun _ value => value) items (capability.pure []) state

/-- The values of all effects, inside one effect. -/
def sequenceList (capability : Capability F) (effects : List (F A)) : F (List A) :=
  (capability.traverseList (fun effect state => (effect, state)) effects ()).1

end Capability

end Fieldwise
