/-
This file says what the body of a traversal does when it runs. The source is a value
that holds one part for each field; the body takes it apart, runs the function over the
focused values of the target, and puts the new target in its place. A source or target of
another form than the body expects holds no focused values and is passed on as it is.
-/

import Fieldwise.Body.Basic
import Fieldwise.Container.Model
import Fieldwise.Definition
import Fieldwise.Traversal
import Fieldwise.Value.Collection

namespace Fieldwise

/-! ### Taking apart and putting together -/

namespace Reconstruction

/-- The local names of the fields with the values they are bound to. -/
def bind (rebuild : Reconstruction) : Value → Option (List (Identifier × Value))
  | .tree .record parts =>
    if parts.length = rebuild.aggregate.fields.length then
      some ((rebuild.bindings.map (·.2)).zip parts)
    else none
  | _ => none

/-- What stands in a slot: the replacement, or the value that its local name is bound
to. -/
def fill (values : List (Identifier × Value)) (replacement : Value) : Slot → Value
  | .replaced => replacement
  | .kept binding => (values.lookup binding).getD .null

/-- The aggregate with the replacement in the target's slot. -/
def build (rebuild : Reconstruction) (values : List (Identifier × Value))
    (replacement : Value) : Value :=
  .tree .record (rebuild.slots.map fun slot => fill values replacement slot.2)

end Reconstruction

/-! ### Plans -/

namespace Gathering

/-- The elements of the target. -/
def elements? : Gathering → Value → Option (List Value)
  | .list, .tree .list parts => some parts
  | .array _, .tree .array parts => some parts
  | .declared, target => target.setElements?
  | _, _ => none

/-- The new target, given the old one with the number of its elements and the new values.
An array has as many slots as the old one had elements; should the values not fill them,
the old array stays. -/
def finish (target : Value) (count : Nat) (values : List Value) : Gathering → Value
  | .list => .tree .list values
  | .array _ =>
    match collectArray count values with
    | .ok slots => .tree .array slots.toList
    | .error _ => target
  | .declared => target.setLike values

end Gathering

namespace Branching

/-- The label of the form that carries the focus. -/
def focusLabel : Branching → Label
  | .option => .some
  | .result => .ok
  | .either _ => .right
  | .validated _ => .valid

/-- The label of the other form. -/
def otherLabel : Branching → Label
  | .option => .none
  | .result => .error
  | .either _ => .left
  | .validated _ => .invalid

/-- The focus on the right, or on the left a target in the other form. -/
def look (branching : Branching) : Value → Option (Either Value Value)
  | .tree label parts =>
    if label = branching.focusLabel then
      match parts with
      | [content] => some (.right content)
      | _ => none
    else if label = branching.otherLabel then some (.left (.tree label parts))
    else none
  | _ => none

end Branching

namespace Plan

open Traverse (mapEffect)

variable {F : Type → Type} {State : Type} (capability : Capability F)
  (function : Value → State → F Value × State) (source target : Value) (build : Value → Value)

/-- Runs a loop over elements. -/
def runElements (gathering : Gathering) (state : State) : F Value × State :=
  match gathering.elements? target with
  | none => (capability.pure source, state)
  | some [] => (capability.pure (build target), state)
  | some items =>
    mapEffect capability (fun values => build (gathering.finish target items.length values))
      (capability.traverseList function items state)

/-- Runs a loop over entries; each new value stays with its key. -/
def runEntries (state : State) : F Value × State :=
  match target.mapEntries? with
  | none => (capability.pure source, state)
  | some [] => (capability.pure (build target), state)
  | some pairs =>
    mapEffect capability (fun pairs => build (target.mapLike pairs))
      (capability.collect (fun pair => function pair.2) (fun pair value => (pair.1, value))
        pairs (capability.pure []) state)

/-- Runs a look at the branches. -/
def runBranches (branching : Branching) (state : State) : F Value × State :=
  match branching.look target with
  | none => (capability.pure source, state)
  | some (.left other) => (capability.pure (build other), state)
  | some (.right content) =>
    mapEffect capability (fun value => build (.tree branching.focusLabel [value]))
      (function content state)

/-- Runs the instance of a container. -/
def runInstance (container : Container) (state : State) : F Value × State :=
  match container.model.read target with
  | none => (capability.pure source, state)
  | some content =>
    mapEffect capability (fun traversed => build (container.model.write traversed))
      (container.model.traverse.run capability function content state)

/-- Runs a plan on a target, given the source and how it is rebuilt. -/
def run (plan : Plan) (state : State) : F Value × State :=
  match plan with
  | .loop .elements gathering =>
    runElements capability function source target build gathering state
  | .loop (.entries _) _ => runEntries capability function source target build state
  | .branches branching => runBranches capability function source target build branching state
  | .delegate container _ => runInstance capability function source target build container state

end Plan

/-! ### Bodies -/

/-- Runs a body on a source. -/
def Body.run (body : Body) {F : Type → Type} {State : Type} (capability : Capability F)
    (function : Value → State → F Value × State) (source : Value) (state : State) :
    F Value × State :=
  match body.rebuild.bind source with
  | none => (capability.pure source, state)
  | some values =>
    match values.lookup body.rebuild.binding with
    | none => (capability.pure source, state)
    | some target =>
      body.plan.run capability function source target (body.rebuild.build values) state

/-- The traversal that a body stands for. -/
def Body.traversal (body : Body) (name : String) : Traversal Value Value where
  name := name
  modifyWith capability function source state := body.run capability function source state

/-- The traversal that a definition stands for; tokens that a generator wrote on its own
stand for none. -/
def Definition.traversal? (definition : Definition) : Option (Traversal Value Value) :=
  match definition.body.body with
  | .planned body => some (body.traversal definition.structureName.spelling)
  | .verbatim _ => none

end Fieldwise
