/-
This file says on which values a traversal focuses, apart from how it runs: the elements of
a container in the order in which it is iterated, the values of a map in the order of its
entries, and of a value in one of two forms what the first form carries. A target that is
empty, absent or in its other form holds no focused value.
-/

import Fieldwise.Body.Meaning

namespace Fieldwise

/-! ### Ready instances -/

namespace Traverse

/-- The ready instances, each with the elements of its containers in order. -/
inductive Ready : {Of : Type → Type} → Traverse Of → ((A : Type) → Of A → List A) → Prop
  | vector : Ready vector fun _ items => items
  | deque : Ready deque fun _ items => items.toList
  | linkedList : Ready linkedList fun _ items => items.toList
  | option : Ready option fun _ value => value.toList
  | boxed : Ready boxed fun _ box => [box.content]
  | reversed : Ready reversed fun _ value => [value.content]
  | result (E : Type) : Ready (result E) fun _ value => value.toOption.toList
  | either (L : Type) : Ready (either L) fun _ value => value.toList
  | validated (E : Type) : Ready (validated E) fun _ value => value.toResult.toOption.toList

/-- An instance as a traversal that leaves the type of the elements as it is. -/
def traversal {Of : Type → Type} (traverse : Traverse Of) (A : Type) : Traversal (Of A) A where
  name := traverse.name
  modifyWith capability function := traverse.run capability function

end Traverse

namespace Container

/-- The elements of a container in order. -/
def elements (A : Type) : (container : Container) → container.model.Of A → List A
  | .vector, items => items
  | .deque, items => items.toList
  | .linkedList, items => items.toList
  | .option, value => value.toList
  | .result, value => value.toOption.toList
  | .boxed, box => [box.content]
  | .reversed, value => [value.content]
  | .either, value => value.toList
  | .validated, value => value.toResult.toOption.toList

/-- Bodies leave their work to ready instances only. -/
theorem ready (container : Container) :
    container.model.traverse.Ready fun A => container.elements A := by
  cases container with
  | vector => exact .vector
  | deque => exact .deque
  | linkedList => exact .linkedList
  | option => exact .option
  | result => exact .result Value
  | boxed => exact .boxed
  | reversed => exact .reversed
  | either => exact .either Value
  | validated => exact .validated Value

end Container

/-! ### Targets -/

/-- The values of a target that a plan focuses on, in order. -/
def Plan.focused (target : Value) : Plan → List Value
  | .loop .elements gathering => (gathering.elements? target).getD []
  | .loop (.entries _) _ => (target.mapEntries?.getD []).map (·.2)
  | .branches branching =>
    match branching.look target with
    | some (.right content) => [content]
    | _ => []
  | .delegate container _ =>
    match container.model.read target with
    | some content => container.elements Value content
    | none => []

namespace Branching

variable {branching : Branching} {target content other : Value}

/-- A target with a focus is that focus in its form. -/
theorem eq_of_look_right (found : branching.look target = some (.right content)) :
    target = .tree branching.focusLabel [content] := by
  unfold look at found
  grind

/-- A target without a focus is what is passed on. -/
theorem eq_of_look_left (found : branching.look target = some (.left other)) :
    target = other := by
  unfold look at found
  grind

end Branching

/-! ### Vacant targets -/

/-- A value that holds nothing to focus on: an empty container, an absent value, or the
other form of a result, of either of two values, or of a validated value. -/
inductive Value.Vacant : Value → Prop
  | empty (label : Label) : Vacant (.tree label [])
  | absent (parts : List Value) : Vacant (.tree .none parts)
  | error (parts : List Value) : Vacant (.tree .error parts)
  | left (parts : List Value) : Vacant (.tree .left parts)
  | invalid (parts : List Value) : Vacant (.tree .invalid parts)

namespace Value.Vacant

variable {target : Value} (vacant : target.Vacant)

include vacant

theorem elements_eq_nil (gathering : Gathering) :
    (gathering.elements? target).getD [] = [] := by
  unfold Gathering.elements?
  split
  · cases vacant
    rfl
  · cases vacant
    rfl
  · unfold setElements?
    split
    · cases vacant
      rfl
    · cases vacant
      rfl
    · rfl
  · rfl

theorem mapEntries_eq_nil : target.mapEntries?.getD [] = [] := by
  unfold mapEntries?
  split
  · cases vacant
    rfl
  · cases vacant
    rfl
  · rfl

theorem look_ne_right (branching : Branching) (content : Value) :
    branching.look target ≠ some (.right content) := by
  intro found
  rw [Branching.eq_of_look_right found] at vacant
  cases branching <;> exact nomatch vacant

theorem elements_of_read {container : Container} {content : container.model.Of Value}
    (found : container.model.read target = some content) :
    container.elements Value content = [] := by
  rw [← container.model.write_read found] at vacant
  cases container with
  | vector =>
    cases (vacant : Vacant (.tree .list content))
    rfl
  | deque =>
    obtain ⟨items⟩ := content
    cases (vacant : Vacant (.tree .deque items))
    rfl
  | linkedList =>
    obtain ⟨items⟩ := content
    cases (vacant : Vacant (.tree .linkedList items))
    rfl
  | option =>
    cases content with
    | none => rfl
    | some value => exact nomatch (vacant : Vacant (.tree .some [value]))
  | result =>
    cases content with
    | ok value => exact nomatch (vacant : Vacant (.tree .ok [value]))
    | error error => rfl
  | boxed => exact nomatch (vacant : Vacant (.tree .boxed [content.content]))
  | reversed => exact nomatch (vacant : Vacant (.tree .reversed [content.content]))
  | either =>
    cases content with
    | left value => rfl
    | right value => exact nomatch (vacant : Vacant (.tree .right [value]))
  | validated =>
    cases content with
    | invalid evidence => rfl
    | valid value => exact nomatch (vacant : Vacant (.tree .valid [value]))

/-- No plan focuses on anything in a value that holds nothing. -/
theorem focused_eq_nil (plan : Plan) : plan.focused target = [] := by
  cases plan with
  | loop items gathering =>
    cases items with
    | elements => exact vacant.elements_eq_nil gathering
    | entries _ => exact congrArg (List.map (·.2)) vacant.mapEntries_eq_nil
  | branches branching =>
    rw [Plan.focused]
    split
    · rename_i content found
      exact absurd found (vacant.look_ne_right branching content)
    · rfl
  | delegate container _ =>
    rw [Plan.focused]
    split
    · rename_i content found
      exact vacant.elements_of_read found
    · rfl

end Value.Vacant

/-! ### Sources -/

namespace Body

/-- The value of the field that a body traverses. -/
def target? (body : Body) (source : Value) : Option Value :=
  (body.rebuild.bind source).bind (·.lookup body.rebuild.binding)

/-- The values of a source that a body focuses on, in order. -/
def focused (body : Body) (source : Value) : List Value :=
  match body.target? source with
  | some target => body.plan.focused target
  | none => []

variable {body : Body} {source target : Value} {values : List (Identifier × Value)}
  {F : Type → Type} {State : Type} (capability : Capability F)
  (function : Value → State → F Value × State) (state : State)

theorem target?_eq_some_iff :
    body.target? source = some target ↔
      ∃ values, body.rebuild.bind source = some values ∧
        values.lookup body.rebuild.binding = some target :=
  Option.bind_eq_some_iff

theorem focused_of_target? (held : body.target? source = some target) :
    body.focused source = body.plan.focused target := by
  rw [focused, held]

theorem focused_of_target?_eq_none (absent : body.target? source = none) :
    body.focused source = [] := by
  rw [focused, absent]

/-- A body runs its plan on the field's value, and rebuilds around the values of the other
fields. -/
theorem run_of_lookup (bound : body.rebuild.bind source = some values)
    (found : values.lookup body.rebuild.binding = some target) :
    body.run capability function source state =
      body.plan.run capability function source target (body.rebuild.build values) state := by
  rw [run, bound]
  dsimp only
  rw [found]

/-- A source without the field is passed on. -/
theorem run_of_target?_eq_none (absent : body.target? source = none) :
    body.run capability function source state = (capability.pure source, state) := by
  rw [target?] at absent
  cases bound : body.rebuild.bind source with
  | none => rw [run, bound]
  | some values =>
    rw [bound, Option.bind_some] at absent
    rw [run, bound]
    dsimp only
    rw [absent]

end Body

end Fieldwise
