/-
This file compares runs of one traversal inside the effects of two capabilities. A
simulation relates effects of the one to effects of the other so that plain values are
related, and so are the results of applying one function and of joining with one function.

The content here is that traversals know nothing else of a capability. A loop, a look at
the branches and a ready instance only make plain values effects, apply functions inside
effects and join effects, in an order that no effect decides. So related functions make
related runs, for every simulation, and the states that the functions leave behind go
together as well. What is to be known of a traversal inside an involved effect follows from
what it does inside a simple one.
-/

import Fieldwise.Proofs.Focus

namespace Fieldwise

variable {F G : Type → Type} {A B C Item S State State' : Type}

/-- A relation between the effects of two capabilities that all three operations keep. -/
structure Simulation (first : Capability F) (second : Capability G) where
  Related : {A : Type} → F A → G A → Prop
  pure : ∀ {A : Type} (value : A), Related (first.pure value) (second.pure value)
  map : ∀ {A B : Type} {left : F A} {right : G A} (function : A → B), Related left right →
    Related (first.map left function) (second.map right function)
  map2 : ∀ {A B C : Type} {left : F A} {right : G A} {left' : F B} {right' : G B}
    (function : A → B → C), Related left right → Related left' right' →
      Related (first.map2 left left' function) (second.map2 right right' function)

namespace Simulation

variable {first : Capability F} {second : Capability G} (simulation : Simulation first second)
  (agree : State → State' → Prop)

/-- Two effects are related and the states beside them agree. -/
def Results (left : F A × State) (right : G A × State') : Prop :=
  simulation.Related left.1 right.1 ∧ agree left.2 right.2

/-- Two functions take agreeing states to related results. -/
def Functions (left : A → State → F B × State) (right : A → State' → G B × State') : Prop :=
  ∀ value state state', agree state state' →
    simulation.Results agree (left value state) (right value state')

variable {simulation agree}

/-! ### Steps -/

theorem results_pure (value : A) {state : State} {state' : State'} (agrees : agree state state') :
    simulation.Results agree (first.pure value, state) (second.pure value, state') :=
  ⟨simulation.pure value, agrees⟩

open Traverse (mapEffect) in
theorem results_mapEffect (function : A → B) {left : F A × State} {right : G A × State'}
    (related : simulation.Results agree left right) :
    simulation.Results agree (mapEffect first function left) (mapEffect second function right) :=
  ⟨simulation.map function related.1, related.2⟩

/-! ### Loops -/

variable {visit : Item → State → F B × State} {visit' : Item → State' → G B × State'}

/-- Loops over the same items are related when what was collected before them is. -/
theorem results_collect (related : simulation.Functions agree visit visit')
    (slot : Item → B → C) (items : List Item) {before : F (List C)} {before' : G (List C)}
    {state : State} {state' : State'} (relatedBefore : simulation.Related before before')
    (agrees : agree state state') :
    simulation.Results agree (first.collect visit slot items before state)
      (second.collect visit' slot items before' state') := by
  induction items generalizing before before' state state' with
  | nil => exact ⟨relatedBefore, agrees⟩
  | cons item rest inductionHypothesis =>
    obtain ⟨effects, states⟩ := related item state state' agrees
    exact inductionHypothesis (simulation.map2 _ relatedBefore effects) states

theorem results_traverseList (related : simulation.Functions agree visit visit')
    (items : List Item) {state : State} {state' : State'} (agrees : agree state state') :
    simulation.Results agree (first.traverseList visit items state)
      (second.traverseList visit' items state') :=
  results_collect related _ items (simulation.pure []) agrees

end Simulation

/-! ### Ready instances -/

open Simulation in
/-- A ready instance makes related runs of related functions. -/
theorem Traverse.Ready.related {Of : Type → Type} {traverse : Traverse Of}
    {elements : (A : Type) → Of A → List A} (ready : traverse.Ready elements)
    {first : Capability F} {second : Capability G} {simulation : Simulation first second}
    {agree : State → State' → Prop} {left : A → State → F B × State}
    {right : A → State' → G B × State'} (related : simulation.Functions agree left right) :
    simulation.Functions agree (traverse.run first left) (traverse.run second right) := by
  intro container state state' agrees
  cases ready with
  | vector => exact results_traverseList related container agrees
  | deque => exact results_mapEffect Deque.mk (results_traverseList related _ agrees)
  | linkedList => exact results_mapEffect LinkedList.mk (results_traverseList related _ agrees)
  | option =>
    cases container with
    | none => exact results_pure none agrees
    | some value => exact results_mapEffect some (related value _ _ agrees)
  | boxed => exact results_mapEffect Boxed.mk (related container.content _ _ agrees)
  | reversed => exact results_mapEffect Reversed.mk (related container.content _ _ agrees)
  | result E =>
    cases container with
    | ok value => exact results_mapEffect Except.ok (related value _ _ agrees)
    | error error => exact results_pure (Except.error error) agrees
  | either L =>
    cases container with
    | right value => exact results_mapEffect Either.right (related value _ _ agrees)
    | left value => exact results_pure (Either.left value) agrees
  | validated E =>
    cases container with
    | valid value => exact results_mapEffect Validated.valid (related value _ _ agrees)
    | invalid evidence => exact results_pure (Validated.invalid evidence) agrees

/-! ### Plans -/

namespace Plan

variable {first : Capability F} {second : Capability G} {simulation : Simulation first second}
  {agree : State → State' → Prop} {left : Value → State → F Value × State}
  {right : Value → State' → G Value × State'} (related : simulation.Functions agree left right)
  (source target : Value) (build : Value → Value) {state : State} {state' : State'}
  (agrees : agree state state')

include related agrees

open Simulation

theorem results_runElements (gathering : Gathering) :
    simulation.Results agree (runElements first left source target build gathering state)
      (runElements second right source target build gathering state') := by
  unfold runElements
  split
  · exact results_pure source agrees
  · exact results_pure _ agrees
  · exact results_mapEffect _ (results_traverseList related _ agrees)

theorem results_runEntries :
    simulation.Results agree (runEntries first left source target build state)
      (runEntries second right source target build state') := by
  unfold runEntries
  split
  · exact results_pure source agrees
  · exact results_pure _ agrees
  · have entries : simulation.Functions agree (fun pair : Value × Value => left pair.2)
        fun pair => right pair.2 := fun pair => related pair.2
    exact results_mapEffect _ (results_collect entries _ _ (simulation.pure []) agrees)

theorem results_runBranches (branching : Branching) :
    simulation.Results agree (runBranches first left source target build branching state)
      (runBranches second right source target build branching state') := by
  unfold runBranches
  split
  · exact results_pure source agrees
  · exact results_pure _ agrees
  · exact results_mapEffect _ (related _ _ _ agrees)

theorem results_runInstance (container : Container) :
    simulation.Results agree (runInstance first left source target build container state)
      (runInstance second right source target build container state') := by
  unfold runInstance
  split
  · exact results_pure source agrees
  · exact results_mapEffect _ (container.ready.related related _ _ _ agrees)

/-- Whatever a body does with its target, it makes related runs of related functions. -/
theorem results_run (plan : Plan) :
    simulation.Results agree (run first left source target build plan state)
      (run second right source target build plan state') := by
  cases plan with
  | loop items gathering =>
    cases items with
    | elements => exact results_runElements related source target build agrees gathering
    | entries _ => exact results_runEntries related source target build agrees
  | branches branching => exact results_runBranches related source target build agrees branching
  | delegate container _ => exact results_runInstance related source target build agrees container

end Plan

/-! ### Traversals -/

namespace Traversal

/-- A traversal makes related runs of related functions. -/
def Uniform (traversal : Traversal S A) : Prop :=
  ∀ {F G : Type → Type} {first : Capability F} {second : Capability G}
    (simulation : Simulation first second) {State State' : Type} {agree : State → State' → Prop}
    {left : A → State → F A × State} {right : A → State' → G A × State'},
    simulation.Functions agree left right →
      simulation.Functions agree (traversal.modifyWith first left)
        (traversal.modifyWith second right)

theorem body_uniform (body : Body) (name : String) : (body.traversal name).Uniform := by
  intro _ _ first second simulation _ _ _ left right related source state state' agrees
  show simulation.Results _ (body.run first left source state) (body.run second right source state')
  cases held : body.target? source with
  | none =>
    rw [Body.run_of_target?_eq_none _ _ _ held, Body.run_of_target?_eq_none _ _ _ held]
    exact Simulation.results_pure source agrees
  | some target =>
    obtain ⟨values, bound, found⟩ := Body.target?_eq_some_iff.mp held
    rw [Body.run_of_lookup _ _ _ bound found, Body.run_of_lookup _ _ _ bound found]
    exact Plan.results_run related source target _ agrees body.plan

/-- One inside the other, traversals stay uniform: what the outer one applies to its focused
values is a run of the inner one. -/
theorem Uniform.andThen {outer : Traversal S A} {inner : Traversal A B}
    (outerUniform : outer.Uniform) (innerUniform : inner.Uniform) :
    (outer.andThen inner).Uniform := by
  intro _ _ _ _ simulation _ _ _ _ _ related
  exact outerUniform simulation (innerUniform simulation related)

/-- Without states, related functions make related effects. -/
theorem Uniform.related {traversal : Traversal S A} (uniform : traversal.Uniform)
    {first : Capability F} {second : Capability G} (simulation : Simulation first second)
    {left : A → F A} {right : A → G A}
    (related : ∀ value, simulation.Related (left value) (right value)) (source : S) :
    simulation.Related (traversal.modifyEach first left source)
      (traversal.modifyEach second right source) := by
  have functions : simulation.Functions (fun _ _ : Unit => True)
      (fun value state => (left value, state)) fun value state => (right value, state) :=
    fun value _ _ _ => ⟨related value, trivial⟩
  exact (uniform simulation functions source () () trivial).1

end Traversal

end Fieldwise
