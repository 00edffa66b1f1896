/-
This file proves what a derived traversal gives inside the effects that stop at the first
failure: the failure of the first focused value on which the function fails, and otherwise
the source with the focused values modified.

For results this comes of following the error through the run, which is that of the first
failing call, and of comparing the run with the one that has no effect at all, which gives
what a successful run carries. Values of two kinds and optional values then go the way of
results, to which they are converted and from which they are taken back.
-/

import Fieldwise.Proofs.Conversion
import Fieldwise.Proofs.Derived

namespace Fieldwise

variable {E L S A B C State : Type}

/-! ### Errors -/

/-- The error of a result, if it is one. -/
def failure? : Except E A → Option E
  | .ok _ => none
  | .error error => some error

/-- The first error counts. -/
theorem failure?_joinResults (first : Except E A) (second : Except E B)
    (function : A → B → C) :
    failure? (Capability.joinResults first second function) =
      (failure? first).or (failure? second) := by
  cases first <;> cases second <;> rfl

theorem failure?_map (result : Except E A) (function : A → B) :
    failure? (result.map function) = failure? result := by
  cases result <;> rfl

theorem failure?_toResult (either : Either L A) : failure? either.toResult = either.left? := by
  cases either <;> rfl

/-- Optional values as results fail where one of them is missing. -/
theorem findSome?_failure?_elim (function : A → Option B) (values : List A) :
    (values.findSome? fun value => failure? ((function value).elim (.error ()) Except.ok)) =
      if values.any fun value => (function value).isNone then some () else none := by
  induction values with
  | nil => rfl
  | cons value rest inductionHypothesis =>
    rw [List.findSome?_cons, List.any_cons]
    cases function value with
    | none => rfl
    | some result => exact inductionHypothesis

/-- The tracking of the first error among those that the function gives. -/
def Tracking.firstError (function : A → Except E B) : Tracking (.result E) A State where
  Holds called _ result :=
    failure? result.1 = called.findSome? fun value => failure? (function value)
  pure _ _ := rfl
  map {_ _ called _ result} mapped held := by
    show failure? (result.1.map mapped) = _
    rw [failure?_map, held]
  map2 {_ _ _ called called' _ first second} joined held held' := by
    show failure? (Capability.joinResults first.1 second.1 joined) = _
    rw [failure?_joinResults, held, held', List.findSome?_append]

/-! ### Successes -/

/-- A value that is not missing is the one that there is without effects. -/
def Simulation.ofSuccess : Simulation .option .identity where
  Related effect value := ∀ carried, effect = some carried → value = carried
  pure value carried success := Option.some.inj success
  map {_ _ effect value} function related carried success := by
    cases effect with
    | none => cases success
    | some inside =>
      rw [related inside rfl]
      exact Option.some.inj success
  map2 {_ _ _ effect value effect' value'} function related related' carried success := by
    cases effect with
    | none => cases effect' <;> cases success
    | some inside =>
      cases effect' with
      | none => cases success
      | some inside' =>
        rw [related inside rfl, related' inside' rfl]
        exact Option.some.inj success

/-! ### Derived traversals -/

namespace Traversal

variable {traversal : Traversal S A} {focused : S → List A}

/-- A run fails with the first error among those of the focused values. -/
theorem Derived.failure?_modifyEach (derived : traversal.Derived focused)
    (function : A → Except E A) (source : S) :
    failure? (traversal.modifyEach (.result E) function source) =
      (traversal.getAll source).findSome? fun value => failure? (function value) := by
  have kept : (Tracking.firstError function).Kept fun value (state : Unit) =>
      (function value, state) := by
    intro value state
    show failure? (function value) = [value].findSome? _
    rw [List.findSome?_singleton]
  rw [derived.getAll_eq_focused]
  exact derived.holds _ kept source ()

/-- A run that succeeds gives the source with the focused values modified. -/
theorem Derived.modify_eq_of_convert {F : Type → Type} {capability : Capability F}
    (derived : traversal.Derived focused) (conversion : Conversion capability .option)
    {function : A → F A} {carried : A → A}
    (carries : ∀ value result, conversion.convert (function value) = some result →
      carried value = result) {source target : S}
    (success : conversion.convert (traversal.modifyEach capability function source) =
      some target) :
    traversal.modify source carried = target := by
  rw [conversion.convert_modifyEach derived.uniform] at success
  exact Uniform.related derived.uniform .ofSuccess carries source target success

theorem Derived.modifyEach_result (derived : traversal.Derived focused)
    {function : A → Except E A} {carried : A → A}
    (carries : ∀ value result, function value = .ok result → carried value = result)
    (source : S) :
    traversal.modifyEach (.result E) function source =
      match (traversal.getAll source).findSome? fun value => failure? (function value) with
      | some error => .error error
      | none => .ok (traversal.modify source carried) := by
  have failure := derived.failure?_modifyEach function source
  cases run : traversal.modifyEach (.result E) function source with
  | error error =>
    rw [run] at failure
    rw [← failure]
    rfl
  | ok target =>
    rw [run] at failure
    have carriesOption : ∀ value result, (function value).toOption = some result →
        carried value = result :=
      fun value result success => carries value result (eq_ok_of_toOption success)
    rw [← failure, derived.modify_eq_of_convert (.resultToOption E) carriesOption
      (congrArg Except.toOption run)]
    rfl

theorem Derived.modifyEach_either (derived : traversal.Derived focused)
    {function : A → Either L A} {carried : A → A}
    (carries : ∀ value result, function value = .right result → carried value = result)
    (source : S) :
    traversal.modifyEach (.either L) function source =
      match (traversal.getAll source).findSome? fun value => (function value).left? with
      | some left => .left left
      | none => .right (traversal.modify source carried) := by
  have carriesResult : ∀ value result, (function value).toResult = .ok result →
      carried value = result := by
    intro value result success
    refine carries value result ?_
    rw [← Conversion.ofResult_toResult (function value), success]
    rfl
  rw [(Conversion.eitherToResult L).modifyEach_eq_back derived.uniform Conversion.ofResult_toResult]
  show Either.ofResult (traversal.modifyEach (.result L) (fun value => (function value).toResult)
    source) = _
  rw [derived.modifyEach_result carriesResult]
  simp only [failure?_toResult]
  split <;> rfl

theorem Derived.modifyEach_option (derived : traversal.Derived focused)
    {function : A → Option A} {carried : A → A}
    (carries : ∀ value result, function value = some result → carried value = result)
    (source : S) :
    traversal.modifyEach .option function source =
      if (traversal.getAll source).any fun value => (function value).isNone then none
      else some (traversal.modify source carried) := by
  have carriesResult : ∀ value result,
      (function value).elim (.error ()) Except.ok = .ok result → carried value = result := by
    intro value result success
    refine carries value result ?_
    rw [← Conversion.toOption_elim () (function value), success]
    rfl
  rw [(Conversion.optionToResult ()).modifyEach_eq_back derived.uniform
    (Conversion.toOption_elim ())]
  show (traversal.modifyEach (.result Unit) (fun value => (function value).elim (.error ()) .ok)
    source).toOption = _
  rw [derived.modifyEach_result carriesResult, findSome?_failure?_elim]
  cases (traversal.getAll source).any fun value => (function value).isNone with
  | true => rfl
  | false => rfl

/-- Runs inside the effects that stop at the first failure, with a plain function that gives
what the function inside the effects carries where it succeeds. A run fails as the function
does on the first of the values that the traversal gets on which it fails, and otherwise
gives the source modified by the plain function. Effects of all three kinds may be converted
to each other before a run or after it. -/
theorem fails_at_first_failure :
    ∀ {S A : Type} {traversal : Traversal S A} {focused : S → List A},
      traversal.Derived focused → ∀ source : S,
        (∀ {E : Type} (function : A → Except E A) (carried : A → A),
          (∀ value result, function value = .ok result → carried value = result) →
            traversal.modifyEach (.result E) function source =
              match (traversal.getAll source).findSome? fun value => failure? (function value) with
              | some error => .error error
              | none => .ok (traversal.modify source carried)) ∧
        (∀ {L : Type} (function : A → Either L A) (carried : A → A),
          (∀ value result, function value = .right result → carried value = result) →
            traversal.modifyEach (.either L) function source =
              match (traversal.getAll source).findSome? fun value => (function value).left? with
              | some left => .left left
              | none => .right (traversal.modify source carried)) ∧
        (∀ (function : A → Option A) (carried : A → A),
          (∀ value result, function value = some result → carried value = result) →
            traversal.modifyEach .option function source =
              if (traversal.getAll source).any fun value => (function value).isNone then none
              else some (traversal.modify source carried)) ∧
        (∀ {E : Type} (function : A → Except E A),
          Either.ofResult (traversal.modifyEach (.result E) function source) =
              traversal.modifyEach (.either E) (fun value => .ofResult (function value)) source ∧
            (traversal.modifyEach (.result E) function source).toOption =
              traversal.modifyEach .option (fun value => (function value).toOption) source) ∧
        (∀ {L : Type} (function : A → Either L A),
          (traversal.modifyEach (.either L) function source).toResult =
              traversal.modifyEach (.result L) (fun value => (function value).toResult) source ∧
            (traversal.modifyEach (.either L) function source).right? =
              traversal.modifyEach .option (fun value => (function value).right?) source) ∧
        ∀ {E : Type} (reason : E) (function : A → Option A),
          (traversal.modifyEach .option function source).elim (.error reason) Except.ok =
            traversal.modifyEach (.result E)
              (fun value => (function value).elim (.error reason) .ok) source := by
  intro S A traversal focused derived source
  refine ⟨?_, ?_, ?_, ?_, ?_, ?_⟩
  · intro E function carried carries
    exact derived.modifyEach_result carries source
  · intro L function carried carries
    exact derived.modifyEach_either carries source
  · intro function carried carries
    exact derived.modifyEach_option carries source
  · intro E function
    exact ⟨(Conversion.resultToEither E).convert_modifyEach derived.uniform function source,
      (Conversion.resultToOption E).convert_modifyEach derived.uniform function source⟩
  · intro L function
    exact ⟨(Conversion.eitherToResult L).convert_modifyEach derived.uniform function source,
      (Conversion.eitherToOption L).convert_modifyEach derived.uniform function source⟩
  · intro E reason function
    exact (Conversion.optionToResult reason).convert_modifyEach derived.uniform function source

/-- Of the four directories two levels below, the second one is the first that is refused.
Where none is, the run carries the source. -/
theorem fails_at_first_failure_directory :
    (Directory.traversal.andThen Directory.traversal).modifyEach (.result String)
        Directory.unlessEmpty Directory.twice = .error "empty" ∧
      (Directory.traversal.andThen Directory.traversal).modifyEach (.either String) .right
        Directory.twice = .right Directory.twice ∧
      (Directory.traversal.andThen Directory.traversal).modifyEach .option some Directory.twice =
        some Directory.twice := by
  obtain ⟨result, either, option, -⟩ := fails_at_first_failure
    (.andThen Directory.derived Directory.derived) Directory.twice
  refine ⟨?_, ?_, ?_⟩
  · refine (result Directory.unlessEmpty id ?_).trans rfl
    intro value other success
    exact Directory.eq_of_unlessEmpty success
  · refine (either (Either.right : Value → Either String Value) id ?_).trans rfl
    intro value other success
    exact Either.right.inj success
  · refine (option some id ?_).trans rfl
    intro value other success
    exact Option.some.inj success

end Traversal

end Fieldwise
