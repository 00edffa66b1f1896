/-
This file proves the identity law of derived traversals: the function that only makes a
value an effect gives the source as an effect, in every capability in which plain values
stay plain.

In such a capability everything that a body collects on the way is a plain value inside the
effect. So what is left is that the collected elements are those that were taken apart, and
that an aggregate with its own part put back is the aggregate it was.
-/

import Fieldwise.Proofs.Collecting
import Fieldwise.Proofs.Derived
import Fieldwise.Proofs.PureLaws

namespace Fieldwise

variable {F : Type → Type} {capability : Capability F} {S A B C Item State : Type}

/-! ### Plain runs of loops and instances -/

namespace Capability

/-- The function that makes every value an effect that does nothing. -/
def lift (capability : Capability F) (value : A) (state : State) : F A × State :=
  (capability.pure value, state)

open Traverse (mapEffect) in
theorem PureLaws.mapEffect_pure (laws : capability.PureLaws) (function : A → B) (value : A)
    (state : State) :
    mapEffect capability function (capability.pure value, state) =
      (capability.pure (function value), state) := by
  rw [mapEffect, laws.map_pure]

/-- A loop whose items all give plain values collects them as plain values. -/
theorem PureLaws.collect_lift (laws : capability.PureLaws) (value : Item → B)
    (slot : Item → B → C) (items : List Item) (before : List C) (state : State) :
    capability.collect (fun item => capability.lift (value item)) slot items
        (capability.pure before) state =
      (capability.pure (before ++ items.map fun item => slot item (value item)), state) := by
  induction items generalizing before with
  | nil => rw [List.map_nil, List.append_nil]; rfl
  | cons item rest inductionHypothesis =>
    rw [List.map_cons, List.append_cons, ← inductionHypothesis, collect_cons, lift,
      laws.map2_pure]

theorem PureLaws.traverseList_lift (laws : capability.PureLaws) (items : List A)
    (state : State) :
    capability.traverseList capability.lift items state = (capability.pure items, state) := by
  have collected := laws.collect_lift (fun item : A => item) (fun _ value => value) items []
    state
  rwa [List.map_id', List.nil_append] at collected

end Capability

/-- A ready instance puts the elements back where they were. -/
theorem Traverse.Ready.run_lift {Of : Type → Type} {traverse : Traverse Of}
    {elements : (A : Type) → Of A → List A} (ready : traverse.Ready elements)
    (laws : capability.PureLaws) (content : Of A) (state : State) :
    traverse.run capability capability.lift content state =
      (capability.pure content, state) := by
  cases ready with
  | vector => exact laws.traverseList_lift content state
  | deque =>
    show mapEffect capability Deque.mk (capability.traverseList _ content.toList state) = _
    rw [laws.traverseList_lift, laws.mapEffect_pure]
  | linkedList =>
    show mapEffect capability LinkedList.mk (capability.traverseList _ content.toList state) = _
    rw [laws.traverseList_lift, laws.mapEffect_pure]
  | option =>
    cases content with
    | none => rfl
    | some value => exact laws.mapEffect_pure some value state
  | boxed => exact laws.mapEffect_pure Boxed.mk content.content state
  | reversed => exact laws.mapEffect_pure Reversed.mk content.content state
  | result E =>
    cases content with
    | ok value => exact laws.mapEffect_pure Except.ok value state
    | error error => rfl
  | either L =>
    cases content with
    | right value => exact laws.mapEffect_pure Either.right value state
    | left value => rfl
  | validated E =>
    cases content with
    | valid value => exact laws.mapEffect_pure Validated.valid value state
    | invalid evidence => rfl

/-! ### Plain runs of bodies -/

namespace Plan

variable (laws : capability.PureLaws) {source target : Value} {build : Value → Value}
  (rebuilt : build target = source) (state : State)

include laws rebuilt

theorem runElements_lift (gathering : Gathering) :
    runElements capability capability.lift source target build gathering state =
      (capability.pure source, state) := by
  unfold runElements
  split
  · rfl
  · rw [rebuilt]
  · rename_i items _ found
    rw [laws.traverseList_lift, laws.mapEffect_pure, Gathering.finish_elements found, rebuilt]

theorem runEntries_lift :
    runEntries capability capability.lift source target build state =
      (capability.pure source, state) := by
  unfold runEntries
  split
  · rfl
  · rw [rebuilt]
  · rename_i pairs _ found
    have collected := laws.collect_lift (fun pair : Value × Value => pair.2)
      (fun pair value => (pair.1, value)) pairs [] state
    rw [List.map_id', List.nil_append] at collected
    rw [collected, laws.mapEffect_pure, Value.mapLike_mapEntries found, rebuilt]

theorem runBranches_lift (branching : Branching) :
    runBranches capability capability.lift source target build branching state =
      (capability.pure source, state) := by
  unfold runBranches
  split
  · rfl
  · rename_i other found
    rw [← Branching.eq_of_look_left found, rebuilt]
  · rename_i content found
    rw [Capability.lift, laws.mapEffect_pure, ← Branching.eq_of_look_right found, rebuilt]

theorem runInstance_lift (container : Container) :
    runInstance capability capability.lift source target build container state =
      (capability.pure source, state) := by
  unfold runInstance
  split
  · rfl
  · rename_i content found
    rw [container.ready.run_lift laws, laws.mapEffect_pure, container.model.write_read found,
      rebuilt]

/-- Whatever a body does with its target, it puts the focused values back where they were. -/
theorem run_lift (plan : Plan) :
    run capability capability.lift source target build plan state =
      (capability.pure source, state) := by
  cases plan with
  | loop items gathering =>
    cases items with
    | elements => exact runElements_lift laws rebuilt state gathering
    | entries _ => exact runEntries_lift laws rebuilt state
  | branches branching => exact runBranches_lift laws rebuilt state branching
  | delegate container _ => exact runInstance_lift laws rebuilt state container

end Plan

theorem Body.run_lift (laws : capability.PureLaws) {body : Body}
    (distinct : body.rebuild.aggregate.DistinctNames) (source : Value) (state : State) :
    body.run capability capability.lift source state = (capability.pure source, state) := by
  cases held : body.target? source with
  | none => exact run_of_target?_eq_none _ _ _ held
  | some target =>
    obtain ⟨values, bound, found⟩ := target?_eq_some_iff.mp held
    rw [run_of_lookup _ _ _ bound found]
    exact Plan.run_lift laws (Reconstruction.build_lookup distinct bound found) state body.plan

/-! ### Derived traversals -/

namespace Traversal

/-- In a run of one traversal inside another, the inner one gives plain effects, so the outer
one is run with the function that does nothing else. -/
theorem Derived.modifyWith_lift {traversal : Traversal S A} {focused : S → List A}
    (derived : traversal.Derived focused) (laws : capability.PureLaws) (source : S)
    (state : State) :
    traversal.modifyWith capability capability.lift source state =
      (capability.pure source, state) := by
  induction derived generalizing state with
  | written name builtIn distinct success planned =>
    rw [← aggregate_of_written builtIn success planned] at distinct
    exact Body.run_lift laws distinct source state
  | ready ready A => exact ready.run_lift laws source state
  | @andThen S A B outer inner _ _ _ _ outerLift innerLift =>
    have inside : inner.modifyWith capability capability.lift =
        (capability.lift : A → State → F A × State) :=
      funext fun value => funext fun state => innerLift value state
    show outer.modifyWith capability (inner.modifyWith capability capability.lift) source state =
      _
    rw [inside, outerLift]

/-- The identity law: making every focused value an effect that does nothing makes the source
one. It asks of the capability only that plain values stay plain, which they do in every
capability that comes with the library. -/
theorem identity_law :
    (∀ {F : Type → Type} {capability : Capability F}, capability.BuiltIn →
      capability.PureLaws) ∧
    ∀ {S A : Type} {traversal : Traversal S A} {focused : S → List A},
      traversal.Derived focused → ∀ {F : Type → Type} (capability : Capability F),
        capability.PureLaws → ∀ source : S,
          traversal.modifyEach capability capability.pure source = capability.pure source := by
  refine ⟨fun builtIn => builtIn.pureLaws, ?_⟩
  intro S A traversal focused derived F capability laws source
  exact congrArg Prod.fst (derived.modifyWith_lift laws source ())

/-- The law on a directory with two directories in it, one of which holds a third: the
traversal over the directories two levels below reaches that one only. -/
theorem identity_law_directory :
    (Directory.traversal.andThen Directory.traversal).getAll Directory.nested =
        [Directory.value "leaf" []] ∧
      (Directory.traversal.andThen Directory.traversal).modifyEach (.validated String) .valid
        Directory.nested = .valid Directory.nested :=
  ⟨rfl, identity_law.2 (.andThen Directory.derived Directory.derived) (.validated String)
    (identity_law.1 (.validated String)) Directory.nested⟩

end Traversal

end Fieldwise
