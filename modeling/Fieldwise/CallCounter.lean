/-
This file holds what helps to watch a program: how values are shown to developers, and a counter of
the calls of functions. Texts are shown in double quotes, elements of collections in brackets or
braces, and the name of a form before what it carries in parentheses.
-/

import Fieldwise.Text.Quoted
import Fieldwise.Validated
import Fieldwise.Value.Order

namespace Fieldwise

/-! ### Shown values -/

/-- Values that can be shown to developers. -/
class Debug (A : Type) where
  /-- The value as it is shown. -/
  debug : A → String

export Debug (debug)

namespace Debug

/-- The name of a form with what it carries. -/
def form (name content : String) : String := name ++ "(" ++ content ++ ")"

/-- Items between an opening and a closing mark. -/
def enclosed (opening closing : String) (items : List String) : String :=
  opening ++ ", ".intercalate items ++ closing

/-- What a tuple shows between its parentheses; the rest of a longer tuple follows its
first part. -/
class Parts (A : Type) where
  parts : A → List String

end Debug

variable {A B : Type}

instance : Debug Value := ⟨Value.render⟩
instance : Debug String := ⟨Text.quoted⟩
instance : Debug Bool := ⟨fun flag => if flag then "true" else "false"⟩
instance : Debug Int64 := ⟨fun number => toString number.toInt⟩
instance : Debug Unit := ⟨fun _ => "()"⟩

instance [Debug A] : Debug (List A) := ⟨fun items => Debug.enclosed "[" "]" (items.map debug)⟩
instance [Debug A] : Debug (Deque A) := ⟨fun items => debug items.toList⟩

instance [Debug A] [Ord A] : Debug (OrderedSet A) :=
  ⟨fun set => Debug.enclosed "\x7b" "\x7d" (set.toList.map debug)⟩

/-- A hashed set is shown in ascending order, whatever its own order is. -/
instance [Debug A] [DecidableEq A] [Ord A] [Std.TransOrd A] [Std.LawfulEqOrd A] :
    Debug (HashedSet A) :=
  ⟨fun set => debug (OrderedSet.ofList set.toList)⟩

instance [Debug A] : Debug (Option A) where
  debug
    | none => "None"
    | some value => Debug.form "Some" (debug value)

instance [Debug A] [Debug B] : Debug (Except A B) where
  debug
    | .ok value => Debug.form "Ok" (debug value)
    | .error error => Debug.form "Err" (debug error)

instance [Debug A] [Debug B] : Debug (Either A B) where
  debug
    | .left value => Debug.form "Left" (debug value)
    | .right value => Debug.form "Right" (debug value)

instance [Debug A] [Debug B] : Debug (Validated A B) where
  debug
    | .invalid evidence => Debug.form "Invalid" (debug evidence)
    | .valid value => Debug.form "Valid" (debug value)

/-- The last part of a tuple. -/
instance (priority := low) [Debug A] : Debug.Parts A := ⟨fun value => [debug value]⟩

instance [Debug A] [Debug.Parts B] : Debug.Parts (A × B) :=
  ⟨fun pair => debug pair.1 :: Debug.Parts.parts pair.2⟩

instance [Debug A] [Debug.Parts B] : Debug (A × B) :=
  ⟨fun pair => Debug.enclosed "(" ")" (Debug.Parts.parts pair)⟩

/-! ### Counted calls -/

/-- How often functions were called. -/
structure CallCounter where
  calls : Nat
deriving DecidableEq, Repr, Inhabited

namespace CallCounter

/-- No calls yet. -/
def new : CallCounter := ⟨0⟩

/-- The function with every call of it counted; the counter is part of its state. -/
def wrap {A B State : Type} (function : A → State → B × State) (argument : A)
    (state : CallCounter × State) : B × CallCounter × State :=
  match function argument state.2 with
  | (result, after) => (result, ⟨state.1.calls + 1⟩, after)

/-- The counter with no calls. -/
def reset (_ : CallCounter) : CallCounter := new

/-- The counter as it is shown to developers. -/
def debug (counter : CallCounter) : String :=
  "CallCounter \x7b calls: Cell \x7b value: " ++ toString counter.calls ++ " \x7d \x7d"

end CallCounter

end Fieldwise
