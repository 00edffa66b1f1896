/-
This file says what a run in no effect does to a target: it replaces the focused values and
leaves everything else as it is. Loops collect the results of a function on their items, so what
is left to know is how items are taken out of containers and put into them. Where each element
has a place or a key, the replaced values are the focused values of the new target. And in every
target, replacing twice is the same as replacing once with both functions.
-/

import Fieldwise.Proofs.Identity
import Fieldwise.Proofs.Recollecting

namespace Fieldwise

variable {A B C Item State : Type}

open Traverse (mapEffect)

/-! ### Loops in no effect -/

/-- A function as one that has no effect and leaves the state as it is. -/
def plainly (function : A → B) (value : A) (state : State) : Id B × State :=
  (function value, state)

theorem collect_plainly (function : Item → B) (slot : Item → B → C) (items : List Item)
    (state : State) :
    Capability.identity.collect (plainly function) slot items [] state =
      (items.map fun item => slot item (function item), state) :=
  Capability.BuiltIn.identity.pureLaws.collect_lift function slot items [] state

theorem traverseList_plainly (function : A → B) (items : List A) (state : State) :
    Capability.identity.traverseList (plainly function) items state =
      (items.map function, state) :=
  collect_plainly function (fun _ value => value) items state

/-! ### Ready instances in no effect -/

namespace Traverse

variable {Of : Type → Type} {traverse : Traverse Of} {elements : (A : Type) → Of A → List A}

/-- A container with its elements replaced. -/
def replace (traverse : Traverse Of) (function : A → B) (content : Of A) : Of B :=
  (traverse.run .identity (plainly function) content ()).1

theorem Ready.run_plainly (ready : traverse.Ready elements) (function : A → B) (content : Of A)
    (state : State) :
    traverse.run .identity (plainly function) content state =
      (traverse.replace function content, state) := by
  have loop (items : List A) :
      Capability.identity.traverseList (plainly function) items state =
        ((Capability.identity.traverseList (plainly function) items ()).1, state) := by
    rw [traverseList_plainly, traverseList_plainly]
  cases ready with
  | vector => exact loop content
  | deque => exact congrArg (mapEffect .identity Deque.mk) (loop content.toList)
  | linkedList => exact congrArg (mapEffect .identity LinkedList.mk) (loop content.toList)
  | option => cases content <;> rfl
  | boxed => rfl
  | reversed => rfl
  | result E => cases content <;> rfl
  | either L => cases content <;> rfl
  | validated E => cases content <;> rfl

theorem Ready.elements_replace (ready : traverse.Ready elements) (function : A → B)
    (content : Of A) :
    elements B (traverse.replace function content) = (elements A content).map function := by
  have loop (items : List A) :
      (Capability.identity.traverseList (plainly function) items ()).1 = items.map function :=
    congrArg Prod.fst (traverseList_plainly function items ())
  cases ready with
  | vector => exact loop content
  | deque => exact loop content.toList
  | linkedList => exact loop content.toList
  | option => cases content <;> rfl
  | boxed => rfl
  | reversed => rfl
  | result E => cases content <;> rfl
  | either L => cases content <;> rfl
  | validated E => cases content <;> rfl

theorem Ready.replace_replace (ready : traverse.Ready elements) (function : A → B)
    (next : B → C) (content : Of A) :
    traverse.replace next (traverse.replace function content) =
      traverse.replace (next ∘ function) content := by
  have loop (items : List A) :
      (Capability.identity.traverseList (plainly next)
        (Capability.identity.traverseList (plainly function) items ()).1 ()).1 =
        (Capability.identity.traverseList (plainly (next ∘ function)) items ()).1 := by
    rw [traverseList_plainly, traverseList_plainly, traverseList_plainly, List.map_map]
  cases ready with
  | vector => exact loop content
  | deque => exact congrArg Deque.mk (loop content.toList)
  | linkedList => exact congrArg LinkedList.mk (loop content.toList)
  | option => cases content <;> rfl
  | boxed => rfl
  | reversed => rfl
  | result E => cases content <;> rfl
  | either L => cases content <;> rfl
  | validated E => cases content <;> rfl

end Traverse

/-- What stands for a container is read as that container. -/
theorem Container.read_write (container : Container) (content : container.model.Of Value) :
    container.model.read (container.model.write content) = some content := by
  cases container with
  | vector => rfl
  | deque => rfl
  | linkedList => rfl
  | option => cases content <;> rfl
  | result => cases content <;> rfl
  | boxed => rfl
  | reversed => rfl
  | either => cases content <;> rfl
  | validated => cases content <;> rfl

/-! ### Gathered elements -/

namespace Gathering

variable {gathering : Gathering} {target : Value} {items : List Value}

theorem finish_array {length : Tokens} {values : List Value} {count : Nat}
    (fits : values.length = count) :
    (array length).finish target count values = .tree .array values := by
  rw [finish, collectArray, dif_pos fits]
  rfl

/-- A list and an array have a place for each element. -/
theorem elements_finish (found : gathering.elements? target = some items)
    (keeps : (Plan.loop .elements gathering).KeepsPlaces) (function : Value → Value) :
    gathering.elements? (gathering.finish target items.length (items.map function)) =
      some (items.map function) := by
  unfold elements? at found
  split at found
  · rfl
  · cases found
    rw [finish_array (List.length_map function)]
    rfl
  · exact keeps.elim
  · cases found

/-- Also in a set, replacing twice is replacing once with both functions. -/
theorem finish_finish (found : gathering.elements? target = some items)
    (function next : Value → Value) :
    ∃ kept,
      gathering.elements? (gathering.finish target items.length (items.map function)) =
        some kept ∧
      gathering.finish (gathering.finish target items.length (items.map function)) kept.length
          (kept.map next) =
        gathering.finish target items.length (items.map (next ∘ function)) := by
  cases gathering with
  | list =>
    refine ⟨_, elements_finish found trivial function, ?_⟩
    rw [List.map_map]
    rfl
  | array length =>
    refine ⟨_, elements_finish found trivial function, ?_⟩
    rw [List.map_map, finish_array (List.length_map _), finish_array (List.length_map _),
      finish_array (by rw [List.length_map, List.length_map])]
  | declared => exact Value.exists_setElements_setLike found function next

end Gathering

theorem Branching.look_focus (branching : Branching) (content : Value) :
    branching.look (.tree branching.focusLabel [content]) = some (.right content) := by
  rw [look, if_pos rfl]

/-! ### Plans in no effect -/

namespace Plan

/-- A target with the values that a plan focuses on replaced. -/
def replace (function : Value → Value) (target : Value) : Plan → Value
  | .loop .elements gathering =>
    match gathering.elements? target with
    | some items => gathering.finish target items.length (items.map function)
    | none => target
  | .loop (.entries _) _ =>
    match target.mapEntries? with
    | some pairs => target.mapLike (Value.replaceValues function pairs)
    | none => target
  | .branches branching =>
    match branching.look target with
    | some (.right content) => .tree branching.focusLabel [function content]
    | _ => target
  | .delegate container _ =>
    match container.model.read target with
    | some content => container.model.write (container.model.traverse.replace function content)
    | none => target

/-- In no effect a plan replaces the focused values of its target and rebuilds around it. -/
theorem run_plainly {source target : Value} {build : Value → Value} (rebuilt : build target = source)
    (function : Value → Value) (plan : Plan) (state : State) :
    plan.run .identity (plainly function) source target build state =
      (build (plan.replace function target), state) := by
  cases plan with
  | loop items gathering =>
    cases items with
    | elements =>
      rw [run, runElements, replace]
      cases found : gathering.elements? target with
      | none => exact congrArg (·, state) rebuilt.symm
      | some items =>
        cases items with
        | nil =>
          have kept := Gathering.finish_elements found
          exact congrArg (fun new => (build new, state)) kept.symm
        | cons item rest =>
          dsimp only
          rw [traverseList_plainly]
          rfl
    | entries key =>
      rw [run, runEntries, replace]
      cases found : target.mapEntries? with
      | none => exact congrArg (·, state) rebuilt.symm
      | some pairs =>
        cases pairs with
        | nil =>
          have kept := Value.mapLike_mapEntries found
          exact congrArg (fun new => (build new, state)) kept.symm
        | cons pair rest =>
          have collected := collect_plainly (fun pair : Value × Value => function pair.2)
            (fun pair value => (pair.1, value)) (pair :: rest) state
          exact congrArg (mapEffect .identity fun pairs => build (target.mapLike pairs)) collected
  | branches branching =>
    rw [run, runBranches, replace]
    cases found : branching.look target with
    | none => exact congrArg (·, state) rebuilt.symm
    | some form =>
      cases form with
      | left other =>
        have kept := Branching.eq_of_look_left found
        exact congrArg (fun new => (build new, state)) kept.symm
      | right content => rfl
  | delegate container taken =>
    rw [run, runInstance, replace]
    cases container.model.read target with
    | none => exact congrArg (·, state) rebuilt.symm
    | some content =>
      dsimp only
      rw [container.ready.run_plainly]
      rfl

/-- Where each element has a place or a key, the new target focuses on the replacements. -/
theorem focused_replace {plan : Plan} (keeps : plan.KeepsPlaces) (function : Value → Value)
    (target : Value) :
    plan.focused (plan.replace function target) = (plan.focused target).map function := by
  cases plan with
  | loop items gathering =>
    cases items with
    | elements =>
      rw [replace, focused, focused]
      cases found : gathering.elements? target with
      | none =>
        dsimp only
        rw [found]
        rfl
      | some items =>
        dsimp only
        rw [Gathering.elements_finish found keeps]
        rfl
    | entries key =>
      rw [replace, focused, focused]
      cases found : target.mapEntries? with
      | none =>
        dsimp only
        rw [found]
        rfl
      | some pairs =>
        dsimp only
        rw [Value.mapEntries_mapLike function found]
        exact Value.map_snd_replaceValues function pairs
  | branches branching =>
    rw [replace]
    cases found : branching.look target with
    | none =>
      rw [focused, found]
      rfl
    | some form =>
      cases form with
      | left other =>
        rw [focused, found]
        rfl
      | right content =>
        rw [focused, focused, found, Branching.look_focus]
        rfl
  | delegate container taken =>
    rw [replace]
    cases found : container.model.read target with
    | none =>
      rw [focused, found]
      rfl
    | some content =>
      rw [focused, focused, found, Container.read_write]
      exact container.ready.elements_replace function content

theorem replace_replace (plan : Plan) (function next : Value → Value) (target : Value) :
    plan.replace next (plan.replace function target) = plan.replace (next ∘ function) target := by
  cases plan with
  | loop items gathering =>
    cases items with
    | elements =>
      cases found : gathering.elements? target with
      | none => simp only [replace, found]
      | some items =>
        obtain ⟨kept, again, same⟩ := Gathering.finish_finish found function next
        simp only [replace, found, again, same]
    | entries key =>
      cases found : target.mapEntries? with
      | none => simp only [replace, found]
      | some pairs =>
        have again := Value.mapEntries_mapLike function found
        simp only [replace, found, again, Value.replaceValues_replaceValues]
        exact Value.mapLike_mapLike found _ _
  | branches branching =>
    rcases found : branching.look target with _ | _ | content
    · simp only [replace, found]
    · simp only [replace, found]
    · simp only [replace, found, Branching.look_focus, Function.comp_apply]
  | delegate container taken =>
    cases found : container.model.read target with
    | none => simp only [replace, found]
    | some content =>
      simp only [replace, found, Container.read_write, container.ready.replace_replace]

end Plan

end Fieldwise
