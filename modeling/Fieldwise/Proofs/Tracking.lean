/-
This file says how to prove something of the run of a traversal and of the values that its
function was called on. A tracking is a property of these values and of what a run has given
for them, its effect with its state, that holds of plain values before any call, that a
function applied inside the effect does not change, and that goes on from one run to a next
one joined to it.

Loops call their function on one item after the other and join each effect to what they have
collected. So a tracking that each call keeps is kept by every loop, by every ready instance
and by every body, and it ends up at the focused values.
-/

import Fieldwise.Proofs.Focus

namespace Fieldwise

open Traverse (mapEffect)

variable {F : Type → Type} {A B C Item State : Type}

/-- A property of the values that a function was called on, of the state before the first
call, and of the effect and the state after the last one. -/
structure Tracking (capability : Capability F) (A State : Type) where
  Holds : {B : Type} → List A → State → F B × State → Prop
  pure : ∀ {B : Type} (value : B) (state : State), Holds [] state (capability.pure value, state)
  map : ∀ {B C : Type} {called : List A} {state : State} {result : F B × State}
    (function : B → C), Holds called state result →
      Holds called state (mapEffect capability function result)
  map2 : ∀ {B C D : Type} {called called' : List A} {state : State} {first : F B × State}
    {second : F C × State} (function : B → C → D), Holds called state first →
      Holds called' first.2 second →
        Holds (called ++ called') state (capability.map2 first.1 second.1 function, second.2)

namespace Tracking

variable {capability : Capability F} (tracking : Tracking capability A State)

/-- Each call of a function keeps the tracking. -/
def Kept (function : A → State → F B × State) : Prop :=
  ∀ value state, tracking.Holds [value] state (function value state)

/-- The tracking of calls on values that are each the reason for several calls. -/
def through (inside : B → List A) : Tracking capability B State where
  Holds called := tracking.Holds (called.flatMap inside)
  pure := tracking.pure
  map := tracking.map
  map2 {_ _ _ called called' state first second} function held held' := by
    rw [List.flatMap_append]
    exact tracking.map2 function held held'

/-- A call that keeps the tracking of the calls it makes keeps it as one call. -/
theorem kept_through {inside : B → List A} {function : B → State → F C × State}
    (held : ∀ value state, tracking.Holds (inside value) state (function value state)) :
    (tracking.through inside).Kept function := by
  intro value state
  show tracking.Holds ([value].flatMap inside) state _
  rw [List.flatMap_singleton]
  exact held value state

/-- The tracking of evidence that lists the values called on. -/
def evidence (A State : Type) : Tracking (.constant (List A)) A State where
  Holds called _ result := result.1 = called
  pure _ _ := rfl
  map _ held := held
  map2 {_ _ _ called called' _ first second} _ held held' := by
    show combine (first.1 : List A) second.1 = called ++ called'
    rw [held, held']
    rfl

variable {tracking}

/-! ### Loops and instances -/

/-- A loop goes on from what was collected before it. -/
theorem holds_collect {visit : Item → State → F B × State} {taken : Item → A}
    (kept : ∀ item state, tracking.Holds [taken item] state (visit item state))
    (slot : Item → B → C) (items : List Item) {called : List A} {start : State}
    {before : F (List C)} {state : State} (held : tracking.Holds called start (before, state)) :
    tracking.Holds (called ++ items.map taken) start
      (capability.collect visit slot items before state) := by
  induction items generalizing called before state with
  | nil => rwa [List.map_nil, List.append_nil]
  | cons item rest inductionHypothesis =>
    rw [List.map_cons, List.append_cons, Capability.collect_cons]
    exact inductionHypothesis (tracking.map2 _ held (kept item state))

theorem holds_traverseList {function : A → State → F B × State} (kept : tracking.Kept function)
    (items : List A) (state : State) :
    tracking.Holds items state (capability.traverseList function items state) := by
  have held : tracking.Holds ([] ++ items.map fun item => item) state
      (capability.traverseList function items state) :=
    holds_collect kept _ items (tracking.pure [] state)
  rwa [List.nil_append, List.map_id'] at held

end Tracking

/-- A ready instance calls its function on the elements of the container. -/
theorem Traverse.Ready.holds {Of : Type → Type} {traverse : Traverse Of}
    {elements : (A : Type) → Of A → List A} (ready : traverse.Ready elements)
    {capability : Capability F} {tracking : Tracking capability A State}
    {function : A → State → F B × State} (kept : tracking.Kept function) (content : Of A)
    (state : State) :
    tracking.Holds (elements A content) state
      (traverse.run capability function content state) := by
  cases ready with
  | vector => exact Tracking.holds_traverseList kept content state
  | deque => exact tracking.map Deque.mk (Tracking.holds_traverseList kept content.toList state)
  | linkedList =>
    exact tracking.map LinkedList.mk (Tracking.holds_traverseList kept content.toList state)
  | option =>
    cases content with
    | none => exact tracking.pure none state
    | some value => exact tracking.map some (kept value state)
  | boxed => exact tracking.map Boxed.mk (kept content.content state)
  | reversed => exact tracking.map Reversed.mk (kept content.content state)
  | result E =>
    cases content with
    | ok value => exact tracking.map Except.ok (kept value state)
    | error error => exact tracking.pure (Except.error error) state
  | either L =>
    cases content with
    | right value => exact tracking.map Either.right (kept value state)
    | left value => exact tracking.pure (Either.left value) state
  | validated E =>
    cases content with
    | valid value => exact tracking.map Validated.valid (kept value state)
    | invalid evidence => exact tracking.pure (Validated.invalid evidence) state

/-! ### Bodies -/

namespace Plan

variable {capability : Capability F} {tracking : Tracking capability Value State}
  {function : Value → State → F Value × State} (kept : tracking.Kept function)
  (source target : Value) (build : Value → Value) (state : State)

include kept

theorem holds_runElements (gathering : Gathering) :
    tracking.Holds ((gathering.elements? target).getD []) state
      (runElements capability function source target build gathering state) := by
  rw [runElements]
  cases gathering.elements? target with
  | none => exact tracking.pure source state
  | some items =>
    cases items with
    | nil => exact tracking.pure (build target) state
    | cons item rest =>
      exact tracking.map _ (Tracking.holds_traverseList kept (item :: rest) state)

theorem holds_runEntries :
    tracking.Holds ((target.mapEntries?.getD []).map (·.2)) state
      (runEntries capability function source target build state) := by
  have entries : ∀ pair : Value × Value, ∀ state,
      tracking.Holds [pair.2] state (function pair.2 state) := fun pair => kept pair.2
  rw [runEntries]
  cases target.mapEntries? with
  | none => exact tracking.pure source state
  | some pairs =>
    cases pairs with
    | nil => exact tracking.pure (build target) state
    | cons pair rest =>
      exact tracking.map _
        (Tracking.holds_collect entries _ (pair :: rest) (tracking.pure [] state))

theorem holds_runBranches (branching : Branching) :
    tracking.Holds ((branches branching).focused target) state
      (runBranches capability function source target build branching state) := by
  rw [focused, runBranches]
  cases branching.look target with
  | none => exact tracking.pure source state
  | some form =>
    cases form with
    | left other => exact tracking.pure (build other) state
    | right content => exact tracking.map _ (kept content state)

theorem holds_runInstance (container : Container) (taken : List TypeExpression) :
    tracking.Holds ((delegate container taken).focused target) state
      (runInstance capability function source target build container state) := by
  rw [focused, runInstance]
  cases container.model.read target with
  | none => exact tracking.pure source state
  | some content => exact tracking.map _ (container.ready.holds kept content state)

/-- Whatever a body does with its target, it calls the function on the values of the target
that it focuses on. -/
theorem holds_run (plan : Plan) :
    tracking.Holds (plan.focused target) state
      (plan.run capability function source target build state) := by
  cases plan with
  | loop items gathering =>
    cases items with
    | elements => exact holds_runElements kept source target build state gathering
    | entries _ => exact holds_runEntries kept source target build state
  | branches branching => exact holds_runBranches kept source target build state branching
  | delegate container taken =>
    exact holds_runInstance kept source target build state container taken

end Plan

theorem Body.holds_run {capability : Capability F} {tracking : Tracking capability Value State}
    {function : Value → State → F Value × State} (kept : tracking.Kept function) (body : Body)
    (source : Value) (state : State) :
    tracking.Holds (body.focused source) state (body.run capability function source state) := by
  cases held : body.target? source with
  | none =>
    rw [run_of_target?_eq_none _ _ _ held, focused_of_target?_eq_none held]
    exact tracking.pure source state
  | some target =>
    obtain ⟨values, bound, found⟩ := target?_eq_some_iff.mp held
    rw [run_of_lookup _ _ _ bound found, focused_of_target? held]
    exact Plan.holds_run kept source target _ state body.plan

end Fieldwise
