/-
This file proves that leaving the work to a ready instance does what a plan that is written out
does: the loop over a vector, and the look at the branches of an optional value, a result, either
of two values or a validated one. An instance makes the new container inside the effect, and the
body then makes the new aggregate of it, where a plan makes the aggregate at once; what an
instance passes on without a call is a plain value inside the effect, which a plan returns early.

So the two differ by how often a function is applied inside the effect, and they are equal in
every capability in which applying functions there obeys the usual two laws. The calls that they
make are equal whatever the capability does.
-/

import Fieldwise.Proofs.Calls
import Fieldwise.Proofs.PureLaws

namespace Fieldwise

open Traverse (mapEffect)

variable {F : Type → Type} {A B C State : Type}

/-! ### Functions inside effects -/

namespace Capability

/-- A function that is applied to a plain value gives a plain value, and two functions that are
applied one after the other are one. -/
structure MapLaws (capability : Capability F) : Prop where
  map_pure : ∀ {A B : Type} (value : A) (function : A → B),
    capability.map (capability.pure value) function = capability.pure (function value)
  map_map : ∀ {A B C : Type} (effect : F A) (first : A → B) (second : B → C),
    capability.map (capability.map effect first) second =
      capability.map effect fun value => second (first value)

variable {capability : Capability F}

theorem MapLaws.mapEffect_pure (laws : capability.MapLaws) (function : A → B) (value : A)
    (state : State) :
    mapEffect capability function (capability.pure value, state) =
      (capability.pure (function value), state) := by
  rw [mapEffect, laws.map_pure]

theorem MapLaws.mapEffect_mapEffect (laws : capability.MapLaws) (first : A → B) (second : B → C)
    (result : F A × State) :
    mapEffect capability second (mapEffect capability first result) =
      mapEffect capability (fun value => second (first value)) result := by
  rw [mapEffect, mapEffect, laws.map_map, mapEffect]

/-- The capabilities that come with the library obey the laws. -/
theorem BuiltIn.mapLaws (builtIn : capability.BuiltIn) : capability.MapLaws := by
  cases builtIn with
  | identity => exact ⟨fun _ _ => rfl, fun _ _ _ => rfl⟩
  | option => exact ⟨fun _ _ => rfl, fun effect _ _ => by cases effect <;> rfl⟩
  | result E => exact ⟨fun _ _ => rfl, fun effect _ _ => by cases effect <;> rfl⟩
  | either L => exact ⟨fun _ _ => rfl, fun effect _ _ => by cases effect <;> rfl⟩
  | validated E => exact ⟨fun _ _ => rfl, fun effect _ _ => by cases effect <;> rfl⟩
  | constant M => exact ⟨fun _ _ => rfl, fun _ _ _ => rfl⟩

end Capability

/-! ### Plans that are written out -/

/-- The container whose forms a branching tells apart. -/
def Branching.container : Branching → Container
  | .option => .option
  | .result => .result
  | .either _ => .either
  | .validated _ => .validated

/-- The plan writes out what the instance of a container does. -/
inductive Plan.WritesOut : Plan → Container → Prop
  | vector : WritesOut (.loop .elements .list) .vector
  | branches (branching : Branching) : WritesOut (.branches branching) branching.container

namespace Plan

variable {capability : Capability F} (laws : capability.MapLaws)
  (function : Value → State → F Value × State) {source target : Value} {build : Value → Value}
  (state : State)

theorem elements?_list (target : Value) :
    Gathering.list.elements? target = Container.vector.model.read target := by
  cases target with
  | tree label parts => cases label <;> rfl
  | _ => rfl

include laws

/-- The early end of a loop over nothing is what the instance collects from nothing. -/
theorem runElements_list :
    runElements capability function source target build .list state =
      runInstance capability function source target build .vector state := by
  rw [runElements, runInstance, elements?_list]
  cases read : Container.vector.model.read target with
  | none => rfl
  | some items =>
    have written := Container.vector.model.write_read read
    cases items with
    | nil =>
      rw [← written]
      exact (laws.mapEffect_pure (fun values => build (.tree .list values)) [] state).symm
    | cons item rest => rfl

variable {branching : Branching}

/-- A look that finds the focus and the instance both call the function on it. -/
theorem runInstance_of_look_right {content : Value}
    (found : branching.look target = some (.right content)) :
    runInstance capability function source target build branching.container state =
      mapEffect capability (fun value => build (.tree branching.focusLabel [value]))
        (function content state) := by
  rw [Branching.eq_of_look_right found]
  cases branching <;> exact laws.mapEffect_mapEffect _ _ (function content state)

/-- Without a focus the instance passes the container on, if it can be read as one at all. -/
theorem runInstance_of_look_ne_right (rebuilt : build target = source)
    (unfocused : ∀ content, branching.look target ≠ some (.right content)) :
    runInstance capability function source target build branching.container state =
      (capability.pure source, state) := by
  unfold runInstance
  split
  · rfl
  · rename_i content read
    have written := branching.container.model.write_read read
    have passed : branching.container.model.traverse.run capability function content state =
        (capability.pure content, state) := by
      -- The form that carries the focus is the one that the look would have found.
      cases branching <;> cases content <;>
        first | rfl | exact absurd rfl (written ▸ unfocused _)
    rw [passed, laws.mapEffect_pure, written, rebuilt]

omit laws

/-- Without a focus a look rebuilds the source from its own parts, or passes it on. -/
theorem runBranches_of_look_ne_right (rebuilt : build target = source)
    (unfocused : ∀ content, branching.look target ≠ some (.right content)) :
    runBranches capability function source target build branching state =
      (capability.pure source, state) := by
  unfold runBranches
  split
  · rfl
  · rename_i other found
    rw [← Branching.eq_of_look_left found, rebuilt]
  · rename_i content found
    exact absurd found (unfocused content)

include laws

theorem runBranches_eq (rebuilt : build target = source) (branching : Branching) :
    runBranches capability function source target build branching state =
      runInstance capability function source target build branching.container state := by
  by_cases focused : ∃ content, branching.look target = some (.right content)
  · obtain ⟨content, found⟩ := focused
    rw [runInstance_of_look_right laws function state found, runBranches, found]
  · have unfocused : ∀ content, branching.look target ≠ some (.right content) :=
      fun content found => focused ⟨content, found⟩
    rw [runBranches_of_look_ne_right function state rebuilt unfocused,
      runInstance_of_look_ne_right laws function state rebuilt unfocused]

/-- A plan that is written out runs like the instance, on a target that was taken from the
source. -/
theorem WritesOut.run_eq {plan : Plan} {container : Container}
    (writesOut : plan.WritesOut container) (rebuilt : build target = source)
    (taken : List TypeExpression) :
    plan.run capability function source target build state =
      (delegate container taken).run capability function source target build state := by
  cases writesOut with
  | vector => exact runElements_list laws function state
  | branches branching => exact runBranches_eq laws function state rebuilt branching

omit laws

/-- A call whose effect is the evidence of its own argument. -/
def noted (value : Value) (state : Unit) : Constant (List Value) Value × Unit := ([value], state)

/-- Evidence that lists the values called on tells what a plan focuses on. -/
theorem run_noted (plan : Plan) (target : Value) :
    (plan.run (.constant (List Value)) noted target target id ()).1 = plan.focused target := by
  have kept : (Tracking.evidence Value Unit).Kept noted := fun _ _ => rfl
  exact holds_run kept target target id () plan

theorem WritesOut.focused_eq {plan : Plan} {container : Container}
    (writesOut : plan.WritesOut container) (taken : List TypeExpression) (target : Value) :
    plan.focused target = (delegate container taken).focused target := by
  have laws : (Capability.constant (List Value)).MapLaws := (Capability.BuiltIn.constant _).mapLaws
  have rebuilt : id target = target := rfl
  rw [← run_noted, ← run_noted, writesOut.run_eq laws noted () rebuilt taken]

end Plan

/-! ### Bodies -/

namespace Body

theorem run_state (body : Body) (capability : Capability F)
    (function : Value → State → F Value × State) (source : Value) (state : State) :
    (body.run capability function source state).2 =
      stateAfter function (body.focused source) state := by
  have kept : (Tracking.ofState capability function).Kept function := fun _ _ => rfl
  exact holds_run kept body source state

/-- The bodies do the same with every source: they focus on the same values, make the same calls
of any function in any capability, and have the same effect in every capability that obeys the
laws. -/
structure Equivalent (first second : Body) : Prop where
  focused : first.focused = second.focused
  calls : ∀ {F : Type → Type} {State : Type} (capability : Capability F)
    (function : Value → State → F Value × State) (source : Value) (calls : List Value)
    (state : State), (first.run capability (recorded function) source (calls, state)).2 =
      (second.run capability (recorded function) source (calls, state)).2
  run : ∀ {F : Type → Type} {State : Type} (capability : Capability F), capability.MapLaws →
    ∀ (function : Value → State → F Value × State) (source : Value) (state : State),
      first.run capability function source state = second.run capability function source state

theorem Equivalent.refl (body : Body) : body.Equivalent body :=
  ⟨rfl, fun _ _ _ _ _ => rfl, fun _ _ _ _ _ => rfl⟩

theorem Equivalent.symm {first second : Body} (equivalent : first.Equivalent second) :
    second.Equivalent first where
  focused := equivalent.focused.symm
  calls capability function source calls state :=
    (equivalent.calls capability function source calls state).symm
  run capability laws function source state :=
    (equivalent.run capability laws function source state).symm

/-- The body with another plan. -/
def withPlan (body : Body) (plan : Plan) : Body := { body with plan }

theorem focused_withPlan (body : Body) (plan : Plan) (source : Value) :
    (body.withPlan plan).focused source =
      match body.target? source with
      | some target => plan.focused target
      | none => [] := rfl

theorem run_withPlan (body : Body) (plan : Plan) (capability : Capability F)
    (function : Value → State → F Value × State) (source : Value) (state : State) :
    (body.withPlan plan).run capability function source state =
      match body.rebuild.bind source with
      | none => (capability.pure source, state)
      | some values =>
        match values.lookup body.rebuild.binding with
        | none => (capability.pure source, state)
        | some target =>
          plan.run capability function source target (body.rebuild.build values) state := rfl

/-- Around the same field, a plan that is written out does what the instance does. -/
theorem equivalent_withPlan (body : Body) {container : Container}
    (distinct : body.rebuild.aggregate.DistinctNames) (writesOut : body.plan.WritesOut container)
    (taken : List TypeExpression) :
    body.Equivalent (body.withPlan (.delegate container taken)) := by
  have focused : body.focused = (body.withPlan (.delegate container taken)).focused := by
    funext source
    rw [focused_withPlan, Body.focused]
    cases body.target? source with
    | none => rfl
    | some target => exact writesOut.focused_eq taken target
  refine ⟨focused, fun capability function source calls state => ?_, ?_⟩
  · rw [run_state, run_state, focused]
  · intro F State capability laws function source state
    rw [run_withPlan, Body.run]
    cases bound : body.rebuild.bind source with
    | none => rfl
    | some values =>
      dsimp only
      cases found : values.lookup body.rebuild.binding with
      | none => rfl
      | some target =>
        exact writesOut.run_eq laws function state
          (Reconstruction.build_lookup distinct bound found) taken

end Body

end Fieldwise
