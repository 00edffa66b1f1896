/-
This file proves that a loop over an array fills every slot. Nothing in a body compares the
number of values with the number of slots before the array is made of them. But the effect of
the loop carries one value for each call, there is one call for each element of the old array,
and the new one has as many slots as the old one. So a number of values that does not fit is
never met, inside any effect: not where the values are there at once, and not where an effect
failed or carries evidence alone, since there no array is made.
-/

import Fieldwise.Proofs.Coherence
import Fieldwise.Proofs.Yielding

namespace Fieldwise

/-! ### Filling -/

/-- What is built around the array that the values fill, or the answer to a number of values
that does not fit. -/
def fillOr (answer : SlotMismatch → Value) (build : Value → Value) (count : Nat)
    (values : List Value) : Value :=
  match collectArray count values with
  | .ok slots => build (.tree .array slots.toList)
  | .error mismatch => answer mismatch

/-- Where the values fit, no answer is given. -/
theorem fillOr_of_fits {values : List Value} {count : Nat} (fits : values.length = count)
    (answer : SlotMismatch → Value) (build : Value → Value) :
    fillOr answer build count values = build (.tree .array values) := by
  rw [fillOr, collectArray, dif_pos fits]
  rfl

/-! ### Written bodies -/

namespace Generator.Writes

variable {F : Type → Type} {State : Type} {capability : Capability F}
  {carried : (A : Type) → F A → Option A} {body : Body} {source : Value} {items : List Value}
  {function : Value → State → F Value × State} {state : State} {result : Value}
  (writes : Generator.array.Writes body)
  (held : body.target? source = some (.tree .array items))

include writes held

/-- No answer to a number of values that does not fit is ever given. -/
theorem exists_run_eq_fillOr (carries : capability.Carries carried) (filled : items ≠ []) :
    ∃ build : Value → Value,
      (∀ replacement, body.rebuild.Replaces replacement source (build replacement)) ∧
      ∀ answer : SlotMismatch → Value, body.run capability function source state =
        Traverse.mapEffect capability (fillOr answer build items.length)
          (capability.traverseList function items state) := by
  obtain ⟨distinct, _, _, _, written, planned⟩ := writes
  obtain ⟨length, plan⟩ := exists_plan_of_array written planned
  obtain ⟨values, bound, found⟩ := Body.target?_eq_some_iff.mp held
  refine ⟨_, Reconstruction.replaces_build distinct bound, fun answer => ?_⟩
  cases items with
  | nil => exact absurd rfl filled
  | cons item rest =>
    rw [Body.run_of_lookup capability function state bound found, plan]
    -- The two functions differ only on lists that the effect of the loop does not carry.
    refine congrArg (·, _) (carries.map_congr fun given collected => ?_)
    have fits := (carries.gave_of_traverseList collected).length_eq
    rw [Gathering.finish_array fits, fillOr_of_fits fits]

/-- Every slot of the new array holds what the call on the element in that slot gave. -/
theorem exists_slots (carries : capability.Carries carried)
    (yielded : carried Value (body.run capability function source state).1 = some result) :
    ∃ given, given.length = items.length ∧
      (∀ place, (inside : place < items.length) → given[place]? = carried Value
        (function items[place] (stateAfter function (items.take place) state)).1) ∧
      body.rebuild.Replaces (.tree .array given) source result := by
  obtain ⟨distinct, _, _, _, written, planned⟩ := writes
  obtain ⟨length, plan⟩ := exists_plan_of_array written planned
  have elements : (Gathering.array length).elements? (.tree .array items) = some items := rfl
  obtain ⟨given, gave, replaced⟩ :=
    Body.exists_gave_of_elements carries distinct held plan elements yielded
  rw [Gathering.finish_array gave.length_eq] at replaced
  exact ⟨given, gave.length_eq, fun place inside => (gave.carried_getElem inside).symm, replaced⟩

/-- An array without elements is passed on with its source, and no array is made. -/
theorem run_of_no_slots (empty : items = []) :
    body.run capability function source state = (capability.pure source, state) := by
  obtain ⟨distinct, _, _, _, written, planned⟩ := writes
  obtain ⟨length, plan⟩ := exists_plan_of_array written planned
  obtain ⟨values, bound, found⟩ := Body.target?_eq_some_iff.mp held
  have rebuilt := Reconstruction.build_lookup distinct bound found
  subst empty
  rw [Body.run_of_lookup capability function state bound found, plan]
  show (capability.pure (body.rebuild.build values (.tree .array [])), state) = _
  rw [rebuilt]

end Generator.Writes

/-- Arrays are filled slot by slot. For a body that is written for an array and a source with an
array of any length, inside all built-in effects: the lists that the effect of the loop may hand
on have one value for each slot, so whatever stood for the panic over another number of values, the
run would be the same; and if the run yields a value, every slot of the new array holds what the
function gave for the element in that slot, while all other fields keep their values. Where the
array has no elements, nothing is collected, and the source is passed on. -/
theorem arrays_are_filled_slot_by_slot :
    ∀ {body : Body}, Generator.array.Writes body →
      ∀ {source : Value} {items : List Value}, body.target? source = some (.tree .array items) →
      ∀ {F : Type → Type} {capability : Capability F} {carried : (A : Type) → F A → Option A},
        capability.Carries carried →
      ∀ {State : Type} (function : Value → State → F Value × State) (state : State),
        (∀ values, carried (List Value) (capability.traverseList function items state).1 =
          some values → values.length = items.length) ∧
        (items ≠ [] → ∃ build : Value → Value,
          (∀ replacement, body.rebuild.Replaces replacement source (build replacement)) ∧
          ∀ answer : SlotMismatch → Value, body.run capability function source state =
            Traverse.mapEffect capability (fillOr answer build items.length)
              (capability.traverseList function items state)) ∧
        (∀ result, carried Value (body.run capability function source state).1 = some result →
          ∃ given, given.length = items.length ∧
            (∀ place, (inside : place < items.length) → given[place]? = carried Value
              (function items[place] (stateAfter function (items.take place) state)).1) ∧
            body.rebuild.Replaces (.tree .array given) source result) ∧
        (items = [] →
          body.run capability function source state = (capability.pure source, state)) := by
  intro body writes source items held F capability carried carries State function state
  refine ⟨fun values collected => ?_, fun filled => ?_, fun result yielded => ?_, fun empty => ?_⟩
  · exact (carries.gave_of_traverseList collected).length_eq
  · exact writes.exists_run_eq_fillOr held carries filled
  · exact writes.exists_slots held carries yielded
  · exact writes.run_of_no_slots held empty

/-! ### A structure with an array -/

namespace Palette

/-- The field with the three shades of a palette. -/
def shades : Field :=
  .ofType (.named (.plain "shades")) (.array (Glossary.named "Shade" .none) [.literal "3"])

/-- A palette has a label and three shades. -/
def aggregate : Aggregate where
  name := .plain "Palette"
  extent := none
  visibility := []
  generics := default
  style := .named
  fields := [.ofType (.named (.plain "label")) Glossary.text, shades]
  selection := .auto
  runtime := .ofNames true ["undertow"]

/-- The body of the traversal over the shades. -/
def body : Body where
  context := ⟨aggregate.runtime, .ofWritten (Glossary.named "Shade" .none)⟩
  rebuild := ⟨aggregate, shades, by decide⟩
  plan := .loop .elements (.array [.literal "3"])

theorem writes : Generator.array.Writes body := by
  have block : body.tokens.asBlock.isOk := by decide +kernel
  exact Generator.array_writer.writes (by decide) rfl block

/-- A palette as a value. -/
def value (shades : List Value) : Value := .tree .record [.text "warm", .tree .array shades]

end Palette

/-- Three shades are numbered, each in its slot. While evidence is collected, no array is made,
so it makes no difference that the panic is replaced by a palette without shades. A palette of no
shades is passed on. -/
theorem arrays_are_filled_slot_by_slot_palette :
    (∃ given : List Value, given.length = 3 ∧ given[2]? = some (.list [.text "ochre", .integer 2]) ∧
      Palette.body.rebuild.Replaces (.tree .array given)
        (Palette.value [.text "amber", .text "coral", .text "ochre"])
        (Palette.value [.list [.text "amber", .integer 0], .list [.text "coral", .integer 1],
          .list [.text "ochre", .integer 2]])) ∧
    (∃ build : Value → Value, Palette.body.run (.constant (List Value))
        (fun value count => ([value], count + 1))
        (Palette.value [.text "amber", .text "coral"]) 0 =
      Traverse.mapEffect (.constant (List Value)) (fillOr (fun _ => Palette.value []) build 2)
        (Capability.traverseList (.constant (List Value))
          (fun value count => ([value], count + 1)) [.text "amber", .text "coral"] 0)) ∧
    Palette.body.run .option (fun _ count => (none, count + 1)) (Palette.value []) 0 =
      (some (Palette.value []), 0) := by
  have held (shades : List Value) :
      Palette.body.target? (Palette.value shades) = some (.tree .array shades) := rfl
  refine ⟨?_, ?_, ?_⟩
  · obtain ⟨-, -, slots, -⟩ := arrays_are_filled_slot_by_slot Palette.writes
      (held [.text "amber", .text "coral", .text "ochre"]) .option
      (fun value count => (some (.list [value, .integer count]), count + 1)) 0
    obtain ⟨given, length, filled, replaced⟩ := slots (Palette.value
      [.list [.text "amber", .integer 0], .list [.text "coral", .integer 1],
        .list [.text "ochre", .integer 2]]) (by decide +kernel)
    exact ⟨given, length, filled 2 (by decide), replaced⟩
  · obtain ⟨-, same, -, -⟩ := arrays_are_filled_slot_by_slot Palette.writes
      (held [.text "amber", .text "coral"]) (.constant (List Value))
      (fun value count => ([value], count + 1)) 0
    obtain ⟨build, -, answered⟩ := same (List.cons_ne_nil _ _)
    exact ⟨build, answered fun _ => Palette.value []⟩
  · obtain ⟨-, -, -, none⟩ := arrays_are_filled_slot_by_slot Palette.writes (held []) .option
      (fun _ count => (none, count + 1)) 0
    exact none rfl

end Fieldwise
