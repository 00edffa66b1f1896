/-
This file proves that no evidence is lost where effects keep all of it. A loop over a list,
the effects of a list in sequence and the validated values of a list taken together come to
the same: the values in order if all are valid, and otherwise the evidence against those that
are not, each piece once, put together from left to right.

Where the grouping of evidence makes no difference the same is true of every derived
traversal. Inside a composition evidence is put together in groups, one for each value of
the outer traversal, and a group comes to the pieces in it only if they may be regrouped.
-/

import Fieldwise.Proofs.FirstFailure
import Fieldwise.Proofs.PureLaws

namespace Fieldwise

variable {E S A B C Item State : Type}

/-! ### Evidence -/

/-- The evidence against a value, if there is any. -/
def Validated.evidence? : Validated E A → Option E
  | .invalid evidence => some evidence
  | .valid _ => none

/-- The value, if it is valid. -/
def Validated.valid? (validated : Validated E A) : Option A := validated.toResult.toOption

theorem Validated.eq_valid_of_valid? {validated : Validated E A} {value : A}
    (success : validated.valid? = some value) : validated = .valid value := by
  cases validated with
  | invalid evidence => cases success
  | valid inside => exact congrArg Validated.valid (Option.some.inj success)

theorem Validated.evidence?_map (validated : Validated E A) (function : A → B) :
    (validated.map function).evidence? = validated.evidence? := by
  cases validated <;> rfl

variable [Combine E]

/-- Several pieces of evidence, put together from left to right. -/
def combined : List E → Option E
  | [] => none
  | first :: rest => some (rest.foldl combine first)

theorem combined_append_singleton (pieces : List E) (evidence : E) :
    combined (pieces ++ [evidence]) = combineOptions (combined pieces) (some evidence) := by
  cases pieces with
  | nil => rfl
  | cons first rest =>
    rw [List.cons_append, combined, List.foldl_append]
    rfl

/-- Lawful evidence may be put together in two groups. -/
theorem combined_append [LawfulCombine E] (pieces others : List E) :
    combined (pieces ++ others) = combineOptions (combined pieces) (combined others) := by
  have associative : Std.Associative (combine : E → E → E) := ⟨LawfulCombine.combine_assoc⟩
  cases pieces with
  | nil => cases others <;> rfl
  | cons first rest =>
    cases others with
    | nil => rw [List.append_nil]; rfl
    | cons other others =>
      rw [List.cons_append, combined, List.foldl_append, List.foldl_cons, List.foldl_assoc]
      rfl

/-! ### Lists -/

/-- What several validated values come to: all values if all are valid, else all the
evidence. -/
def gathered (items : List (Validated E A)) : Validated E (List A) :=
  match combined (items.filterMap Validated.evidence?) with
  | none => .valid (items.filterMap Validated.valid?)
  | some evidence => .invalid evidence

/-- One more validated value is joined to what those before it come to. -/
theorem gathered_append_singleton (before : List (Validated E A)) (item : Validated E A) :
    gathered (before ++ [item]) =
      Capability.joinValidated (gathered before) item fun values value => values ++ [value] := by
  rw [gathered, gathered, List.filterMap_append, List.filterMap_append]
  cases item with
  | invalid evidence =>
    show (match combined (before.filterMap Validated.evidence? ++ [evidence]) with
      | none => _
      | some evidence => _) = _
    rw [combined_append_singleton]
    cases combined (before.filterMap Validated.evidence?) <;> rfl
  | valid value =>
    show (match combined (before.filterMap Validated.evidence? ++ []) with
      | none => _
      | some evidence => _) = _
    rw [List.append_nil]
    cases combined (before.filterMap Validated.evidence?) <;> rfl

/-- A loop goes on from what the values before it come to. -/
theorem collect_gathered (function : Item → Validated E B) (items : List Item)
    (before : List (Validated E B)) (state : State) :
    ((Capability.validated E).collect (fun item state => (function item, state))
        (fun _ value => value) items (gathered before) state).1 =
      gathered (before ++ items.map function) := by
  induction items generalizing before with
  | nil => rw [List.map_nil, List.append_nil]; rfl
  | cons item rest inductionHypothesis =>
    rw [List.map_cons, List.append_cons, ← inductionHypothesis, gathered_append_singleton]
    rfl

theorem traverseList_gathered (function : A → Validated E B) (items : List A) (state : State) :
    ((Capability.validated E).traverseList (fun item state => (function item, state)) items
      state).1 = gathered (items.map function) :=
  collect_gathered function items [] state

theorem sequenceList_gathered (items : List (Validated E A)) :
    (Capability.validated E).sequenceList items = gathered items := by
  have collected := traverseList_gathered (fun item : Validated E A => item) items ()
  rwa [List.map_id'] at collected

/-- Two validated values with their values put into one list are joined. -/
theorem map_and_eq_joinValidated (before : Validated E (List A)) (item : Validated E A) :
    ((before.and item).map fun (values, value) => values ++ [value]) =
      Capability.joinValidated before item fun values value => values ++ [value] := by
  cases before <;> cases item <;> rfl

theorem all_gathered (items : List (Validated E A)) : Validated.all items = gathered items := by
  suffices onward : ∀ before : List (Validated E A),
      items.foldl (fun before item =>
        (before.and item).map fun (values, value) => values ++ [value]) (gathered before) =
        gathered (before ++ items) from onward []
  induction items with
  | nil =>
    intro before
    rw [List.append_nil]
    rfl
  | cons item rest inductionHypothesis =>
    intro before
    rw [List.foldl_cons, map_and_eq_joinValidated, ← gathered_append_singleton,
      inductionHypothesis, ← List.append_cons]

/-! ### Derived traversals -/

theorem Validated.evidence?_joinValidated (first : Validated E A) (second : Validated E B)
    (function : A → B → C) :
    (Capability.joinValidated first second function).evidence? =
      combineOptions first.evidence? second.evidence? := by
  cases first <;> cases second <;> rfl

/-- The tracking of all evidence that the function gives. -/
def Tracking.allEvidence [LawfulCombine E] (function : A → Validated E B) :
    Tracking (.validated E) A State where
  Holds called _ result :=
    result.1.evidence? = combined (called.filterMap fun value => (function value).evidence?)
  pure _ _ := rfl
  map {_ _ called _ result} mapped held := by
    show (result.1.map mapped).evidence? = _
    rw [Validated.evidence?_map, held]
  map2 {_ _ _ called called' _ first second} joined held held' := by
    show (Capability.joinValidated first.1 second.1 joined).evidence? = _
    rw [Validated.evidence?_joinValidated, held, held', List.filterMap_append, combined_append]

namespace Traversal

variable {traversal : Traversal S A} {focused : S → List A}

/-- A run has all evidence against the focused values, put together. -/
theorem Derived.evidence?_modifyEach [LawfulCombine E] (derived : traversal.Derived focused)
    (function : A → Validated E A) (source : S) :
    (traversal.modifyEach (.validated E) function source).evidence? =
      combined ((traversal.getAll source).filterMap fun value => (function value).evidence?) := by
  have kept : (Tracking.allEvidence function).Kept fun value (state : Unit) =>
      (function value, state) := by
    intro value state
    show (function value).evidence? =
      combined ([value].filterMap fun value => (function value).evidence?)
    cases validated : function value with
    | invalid evidence => simp [Validated.evidence?, validated, combined]
    | valid result => simp [Validated.evidence?, validated, combined]
  rw [derived.getAll_eq_focused]
  exact derived.holds _ kept source ()

theorem Derived.modifyEach_validated [LawfulCombine E] (derived : traversal.Derived focused)
    {function : A → Validated E A} {carried : A → A}
    (carries : ∀ value result, function value = .valid result → carried value = result)
    (source : S) :
    traversal.modifyEach (.validated E) function source =
      match combined
        ((traversal.getAll source).filterMap fun value => (function value).evidence?) with
      | none => .valid (traversal.modify source carried)
      | some evidence => .invalid evidence := by
  have pieces := derived.evidence?_modifyEach function source
  cases run : traversal.modifyEach (.validated E) function source with
  | invalid evidence =>
    rw [run] at pieces
    rw [← pieces]
    rfl
  | valid target =>
    rw [run] at pieces
    have carriesOption : ∀ value result, (function value).valid? = some result →
        carried value = result :=
      fun value result success => carries value result (Validated.eq_valid_of_valid? success)
    rw [← pieces, derived.modify_eq_of_convert (.validatedToOption E) carriesOption
      (congrArg Validated.valid? run)]
    rfl

/-- Effects that keep all evidence. A loop over a list, its effects in sequence and its
validated values taken together come to the same, whatever the evidence is: all values in
order, or the evidence in order, put together from left to right. Where evidence is lawful,
the run of a derived traversal has the evidence against the values that the traversal gets,
put together in the same way, and without any it gives the source modified by the plain
function that gives what the function inside the effects carries. -/
theorem accumulates_evidence :
    (∀ {E A B State : Type} [Combine E] (function : A → Validated E B) (items : List A)
      (state : State),
      ((Capability.validated E).traverseList (fun item state => (function item, state)) items
          state).1 = gathered (items.map function) ∧
        (Capability.validated E).sequenceList (items.map function) =
          gathered (items.map function) ∧
        Validated.all (items.map function) = gathered (items.map function)) ∧
    (∀ {S A : Type} {traversal : Traversal S A} {focused : S → List A},
      traversal.Derived focused → ∀ {E : Type} [Combine E] [LawfulCombine E]
        (function : A → Validated E A) (carried : A → A),
        (∀ value result, function value = .valid result → carried value = result) →
          ∀ source : S, traversal.modifyEach (.validated E) function source =
            match combined
              ((traversal.getAll source).filterMap fun value => (function value).evidence?) with
            | none => .valid (traversal.modify source carried)
            | some evidence => .invalid evidence) := by
  refine ⟨?_, ?_⟩
  · intro E A B State _ function items state
    exact ⟨traverseList_gathered function items state, sequenceList_gathered _, all_gathered _⟩
  · intro S A traversal focused derived E _ _ function carried carries source
    exact derived.modifyEach_validated carries source

/-- Two of the four directories two levels below are refused, and both refusals are kept. -/
theorem accumulates_evidence_directory :
    (Directory.traversal.andThen Directory.traversal).modifyEach (.validated (List String))
        (fun value => (Validated.ofResult (Directory.unlessEmpty value)).mapInvalid ([·]))
        Directory.twice = .invalid ["empty", "empty"] ∧
      (Directory.traversal.andThen Directory.traversal).modifyEach (.validated (List String))
        .valid Directory.twice = .valid Directory.twice ∧
      Validated.all ([1, 2].map fun number => .invalid [number]) =
        (.invalid [1, 2] : Validated (List Nat) (List Bool)) := by
  obtain ⟨lists, traversals⟩ := accumulates_evidence
  have carries : ∀ value other : Value,
      (Validated.ofResult (Directory.unlessEmpty value)).mapInvalid ([·]) = .valid other →
        id value = other := by
    intro value other success
    refine Directory.eq_of_unlessEmpty ?_
    cases refused : Directory.unlessEmpty value with
    | error label =>
      rw [refused] at success
      cases success
    | ok kept =>
      rw [refused] at success
      exact refused.trans (congrArg Except.ok (Validated.valid.inj success))
  have carriesValid : ∀ value other : Value,
      (Validated.valid value : Validated (List String) Value) = .valid other → id value = other :=
    fun value other => Validated.valid.inj
  refine ⟨?_, ?_, ?_⟩
  · exact (traversals (.andThen Directory.derived Directory.derived) _ id carries
      Directory.twice).trans rfl
  · exact (traversals (.andThen Directory.derived Directory.derived) _ id carriesValid
      Directory.twice).trans rfl
  · exact (lists (fun number => .invalid [number]) [1, 2] ()).2.2

end Traversal

end Fieldwise
