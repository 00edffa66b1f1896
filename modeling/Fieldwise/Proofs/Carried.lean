/-
This file says which value an effect carries, and what follows for loops. Joined effects carry
a value if both of them do, so the effect of a loop carries values only if the effect of every
call did, and then it carries what the slots make of these values, one for each item and in
the order of the items. A function that is applied inside an effect is called on the value
that the effect carries, and on no other.
-/

import Fieldwise.Proofs.Calls

namespace Fieldwise

variable {F : Type → Type} {A B C Item State : Type}

namespace Capability

/-! ### Carried values -/

/-- The capabilities that come with the library, each with the value that an effect carries. An
effect that has failed carries none, and evidence alone never does. -/
inductive Carries : {F : Type → Type} → Capability F → ((A : Type) → F A → Option A) → Prop
  | identity : Carries .identity fun _ value => some value
  | option : Carries .option fun _ effect => effect
  | result (E : Type) : Carries (.result E) fun _ effect => effect.toOption
  | either (L : Type) : Carries (.either L) fun _ effect => effect.right?
  | validated (E : Type) [Combine E] :
      Carries (.validated E) fun _ effect => effect.toResult.toOption
  | constant (M : Type) [CombineEmpty M] : Carries (.constant M) fun _ _ => none

/-- Two optional values are joined if both are there. -/
theorem joinOptions_eq_some_iff {first : Option A} {second : Option B} {function : A → B → C}
    {joined : C} :
    joinOptions first second function = some joined ↔
      ∃ left right, first = some left ∧ second = some right ∧ function left right = joined := by
  cases first <;> cases second <;> simp [joinOptions]

namespace Carries

variable {capability : Capability F} {carried : (A : Type) → F A → Option A}
  (carries : capability.Carries carried)

include carries

/-- A plain value as an effect carries no other value. -/
theorem eq_of_pure {value found : A} (held : carried A (capability.pure value) = some found) :
    found = value := by
  cases carries with
  | constant M => cases held
  | _ => exact (Option.some.inj held).symm

theorem carried_map (effect : F A) (function : A → B) :
    carried B (capability.map effect function) = (carried A effect).map function := by
  cases carries with
  | identity => rfl
  | option => rfl
  | result E => cases effect <;> rfl
  | either L => cases effect <;> rfl
  | validated E => cases effect <;> rfl
  | constant M => rfl

theorem carried_map2 (first : F A) (second : F B) (function : A → B → C) :
    carried C (capability.map2 first second function) =
      joinOptions (carried A first) (carried B second) function := by
  cases carries with
  | identity => rfl
  | option => rfl
  | result E => cases first <;> cases second <;> rfl
  | either L => cases first <;> cases second <;> rfl
  | validated E => cases first <;> cases second <;> rfl
  | constant M => rfl

/-- Functions that agree on the value that an effect carries do the same inside it. -/
theorem map_congr {effect : F A} {first second : A → B}
    (agree : ∀ value, carried A effect = some value → first value = second value) :
    capability.map effect first = capability.map effect second := by
  cases carries with
  | identity => exact agree effect rfl
  | option =>
    cases effect with
    | none => rfl
    | some value => exact congrArg some (agree value rfl)
  | result E =>
    cases effect with
    | error error => rfl
    | ok value => exact congrArg Except.ok (agree value rfl)
  | either L =>
    cases effect with
    | left value => rfl
    | right value => exact congrArg Either.right (agree value rfl)
  | validated E =>
    cases effect with
    | invalid evidence => rfl
    | valid value => exact congrArg Validated.valid (agree value rfl)
  | constant M => rfl

end Carries

end Capability

/-! ### Given values -/

/-- The values that calls on items, one after the other, gave. The effect of each call carries
one of them, and each call is made in the state that the calls before it leave behind. -/
inductive Gave (carried : (A : Type) → F A → Option A) (visit : Item → State → F B × State) :
    List Item → State → List B → Prop
  | nil (state : State) : Gave carried visit [] state []
  | cons {item : Item} {rest : List Item} {state : State} {value : B} {given : List B}
      (first : carried B (visit item state).1 = some value)
      (others : Gave carried visit rest (visit item state).2 given) :
      Gave carried visit (item :: rest) state (value :: given)

namespace Gave

variable {carried : (A : Type) → F A → Option A} {visit : Item → State → F B × State}
  {items : List Item} {state : State} {given : List B}

theorem length_eq (gave : Gave carried visit items state given) :
    given.length = items.length := by
  induction gave with
  | nil _ => rfl
  | cons _ _ inductionHypothesis => exact congrArg Nat.succ inductionHypothesis

/-- The value at each place is the one that the call on the item at that place gave. -/
theorem carried_getElem (gave : Gave carried visit items state given) {place : Nat}
    (inside : place < items.length) :
    carried B (visit items[place] (stateAfter visit (items.take place) state)).1 =
      given[place]? := by
  induction gave generalizing place with
  | nil _ => cases inside
  | cons first _ inductionHypothesis =>
    cases place with
    | zero => exact first
    | succ place => exact inductionHypothesis (Nat.lt_of_succ_lt_succ inside)

/-- Visits that look only at a part of the items are calls on these parts. -/
theorem map {visit : A → State → F B × State} {part : Item → A}
    (gave : Gave carried (fun item => visit (part item)) items state given) :
    Gave carried visit (items.map part) state given := by
  induction gave with
  | nil _ => exact .nil _
  | cons first _ inductionHypothesis => exact .cons first inductionHypothesis

end Gave

/-! ### Loops -/

namespace Capability.Carries

variable {capability : Capability F} {carried : (A : Type) → F A → Option A}
  (carries : capability.Carries carried)

include carries

/-- If the effect of a loop carries values, every visit gave one, and the loop has added what
the slots make of them. -/
theorem exists_gave_of_collect {visit : Item → State → F B × State} {slot : Item → B → C}
    {items : List Item} {before : F (List C)} {state : State} {values : List C}
    (held : carried (List C) (capability.collect visit slot items before state).1 =
      some values) :
    ∃ start given, carried (List C) before = some start ∧ Gave carried visit items state given ∧
      values = start ++ List.zipWith slot items given := by
  induction items generalizing before state with
  | nil => exact ⟨values, [], held, .nil state, (List.append_nil values).symm⟩
  | cons item rest inductionHypothesis =>
    obtain ⟨start, given, joined, others, rfl⟩ := inductionHypothesis held
    rw [carries.carried_map2, joinOptions_eq_some_iff] at joined
    obtain ⟨start, value, heldBefore, first, rfl⟩ := joined
    refine ⟨start, value :: given, heldBefore, .cons first others, ?_⟩
    rw [List.zipWith_cons_cons, List.append_assoc]
    rfl

/-- The same for a loop that starts with nothing. -/
theorem exists_gave_of_collect_nil {visit : Item → State → F B × State} {slot : Item → B → C}
    {items : List Item} {state : State} {values : List C}
    (held : carried (List C)
      (capability.collect visit slot items (capability.pure []) state).1 = some values) :
    ∃ given, Gave carried visit items state given ∧ values = List.zipWith slot items given := by
  obtain ⟨start, given, heldBefore, gave, rfl⟩ := carries.exists_gave_of_collect held
  rw [carries.eq_of_pure heldBefore]
  exact ⟨given, gave, rfl⟩

/-- The results of a function that an effect carries are those that the calls gave. -/
theorem gave_of_traverseList {function : A → State → F B × State} {items : List A}
    {state : State} {values : List B}
    (held : carried (List B) (capability.traverseList function items state).1 = some values) :
    Gave carried function items state values := by
  obtain ⟨given, gave, rfl⟩ := carries.exists_gave_of_collect_nil held
  have kept : List.zipWith (fun _ value => value) items given = given := by
    rw [← List.map_uncurry_zip_eq_zipWith]
    exact List.map_snd_zip (Nat.le_of_eq gave.length_eq)
  rwa [kept]

end Capability.Carries

end Fieldwise
