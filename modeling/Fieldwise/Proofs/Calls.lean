/-
This file proves when a derived traversal calls its function: once for each focused value,
in order, whatever the effects of the calls before are. A loop joins the effect of each item
to the effect of what it has collected, and only afterwards is that effect looked at, so even
an effect that has failed does not end the loop.

So the state that the function leaves behind is that of calling it on the focused values one
after the other; it does not depend on the capability.
-/

import Fieldwise.Proofs.Derived

namespace Fieldwise

variable {F G : Type → Type} {A B State : Type}

/-! ### Calls -/

/-- The state that calls of a function on values, one after the other, leave behind. -/
def stateAfter (function : A → State → F B × State) (values : List A) (state : State) : State :=
  values.foldl (fun state value => (function value state).2) state

/-- The function with the arguments of all its calls noted, first to last, beside its
state. -/
def recorded (function : A → State → F B × State) (value : A) (state : List A × State) :
    F B × List A × State :=
  ((function value state.2).1, state.1 ++ [value], (function value state.2).2)

theorem stateAfter_append (function : A → State → F B × State) (values others : List A)
    (state : State) :
    stateAfter function (values ++ others) state =
      stateAfter function others (stateAfter function values state) :=
  List.foldl_append

/-- Calls of a recorded function note exactly the values that it is called on. -/
theorem stateAfter_recorded (function : A → State → F B × State) (values calls : List A)
    (state : State) :
    stateAfter (recorded function) values (calls, state) =
      (calls ++ values, stateAfter function values state) := by
  induction values generalizing calls state with
  | nil => rw [List.append_nil]; rfl
  | cons value rest inductionHypothesis =>
    rw [List.append_cons]
    exact inductionHypothesis (calls ++ [value]) (function value state).2

/-- Functions that update their states alike leave the same state behind. -/
theorem stateAfter_congr {function : A → State → F B × State}
    {function' : A → State → G B × State}
    (alike : ∀ value state, (function value state).2 = (function' value state).2)
    (values : List A) (state : State) :
    stateAfter function values state = stateAfter function' values state := by
  have updates : (fun state value => (function value state).2) =
      fun state value => (function' value state).2 :=
    funext fun state => funext fun value => alike value state
  rw [stateAfter, stateAfter, updates]

/-! ### Runs -/

/-- The tracking of the state: it is that of the calls one after the other, whatever the
effects are. -/
def Tracking.ofState (capability : Capability F) (function : A → State → F B × State) :
    Tracking capability A State where
  Holds called state result := result.2 = stateAfter function called state
  pure _ _ := rfl
  map _ held := held
  map2 {_ _ _ called called' state first second} _ held held' := by
    show second.2 = _
    rw [held', held, ← stateAfter_append]

theorem Traverse.Ready.run_state {Of : Type → Type} {traverse : Traverse Of}
    {elements : (A : Type) → Of A → List A} (ready : traverse.Ready elements)
    (capability : Capability F) (function : A → State → F B × State) (content : Of A)
    (state : State) :
    (traverse.run capability function content state).2 =
      stateAfter function (elements A content) state := by
  have kept : (Tracking.ofState capability function).Kept function := fun _ _ => rfl
  exact ready.holds kept content state

/-- A body whose target holds nothing to focus on leaves the state as it is. -/
theorem Body.run_state_of_vacant {body : Body} {source target : Value}
    (held : body.target? source = some target) (vacant : target.Vacant)
    (capability : Capability F) (function : Value → State → F Value × State) (state : State) :
    (body.run capability function source state).2 = state := by
  have kept : (Tracking.ofState capability function).Kept function := fun _ _ => rfl
  have calls := body.holds_run kept source state
  rwa [focused_of_target? held, vacant.focused_eq_nil] at calls

namespace Traversal

theorem Derived.modifyWith_state {S : Type} {traversal : Traversal S A} {focused : S → List A}
    (derived : traversal.Derived focused) (capability : Capability F)
    (function : A → State → F A × State) (source : S) (state : State) :
    (traversal.modifyWith capability function source state).2 =
      stateAfter function (focused source) state := by
  have kept : (Tracking.ofState capability function).Kept function := fun _ _ => rfl
  exact derived.holds (.ofState capability function) kept source state

/-- The calls of a traversal. A derived traversal calls its function once on each focused
value, in order: that is what the function notes of its own calls, and its state goes from
one call to the next in this order. The same is true of a ready instance when the function
changes the type of the elements. In a body whose target holds nothing to focus on, the
function is not called. And functions that update their states alike end in the same state,
inside the effects of any two capabilities. -/
theorem calls_focused_in_order :
    (∀ {S A : Type} {traversal : Traversal S A} {focused : S → List A},
      traversal.Derived focused → ∀ {F : Type → Type} {State : Type} (capability : Capability F)
        (function : A → State → F A × State) (source : S) (calls : List A) (state : State),
        (traversal.modifyWith capability function source state).2 =
            stateAfter function (focused source) state ∧
          (traversal.modifyWith capability (recorded function) source (calls, state)).2 =
            (calls ++ focused source, stateAfter function (focused source) state)) ∧
    (∀ {Of : Type → Type} {traverse : Traverse Of} {elements : (A : Type) → Of A → List A},
      traverse.Ready elements → ∀ {F : Type → Type} {A B State : Type} (capability : Capability F)
        (function : A → State → F B × State) (content : Of A) (calls : List A) (state : State),
        (traverse.run capability function content state).2 =
            stateAfter function (elements A content) state ∧
          (traverse.run capability (recorded function) content (calls, state)).2 =
            (calls ++ elements A content, stateAfter function (elements A content) state)) ∧
    (∀ (body : Body) (source target : Value), body.target? source = some target →
      target.Vacant → ∀ {F : Type → Type} {State : Type} (capability : Capability F)
        (function : Value → State → F Value × State) (calls : List Value) (state : State),
        (body.run capability (recorded function) source (calls, state)).2 = (calls, state)) ∧
    (∀ {S A : Type} {traversal : Traversal S A} {focused : S → List A},
      traversal.Derived focused → ∀ {F G : Type → Type} {State : Type} (first : Capability F)
        (second : Capability G) (left : A → State → F A × State) (right : A → State → G A × State),
        (∀ value state, (left value state).2 = (right value state).2) →
          ∀ (source : S) (state : State), (traversal.modifyWith first left source state).2 =
            (traversal.modifyWith second right source state).2) := by
  refine ⟨?_, ?_, ?_, ?_⟩
  · intro S A traversal focused derived F State capability function source calls state
    refine ⟨derived.modifyWith_state capability function source state, ?_⟩
    rw [derived.modifyWith_state, stateAfter_recorded]
  · intro Of traverse elements ready F A B State capability function content calls state
    refine ⟨ready.run_state capability function content state, ?_⟩
    rw [ready.run_state, stateAfter_recorded]
  · intro body source target held vacant F State capability function calls state
    exact Body.run_state_of_vacant held vacant capability (recorded function) (calls, state)
  · intro S A traversal focused derived F G State first second left right alike source state
    rw [derived.modifyWith_state, derived.modifyWith_state, stateAfter_congr alike]

/-- Although every call fails, all four directories two levels below are called on, and so
are all items of a list. On a directory without directories there is no call. -/
theorem calls_focused_in_order_directory :
    ((Directory.traversal.andThen Directory.traversal).modifyWith (.result String)
        (recorded fun _ count => (.error "refused", count + 1))
        Directory.twice ([], 0)).2 =
      ([Directory.value "branch" [Directory.value "leaf" []], Directory.value "empty" [],
        Directory.value "branch" [Directory.value "leaf" []], Directory.value "empty" []], 4) ∧
    (Traverse.vector.run .option (recorded fun item sum => ((none : Option Bool), sum + item))
      [3, 4] ([], 0)).2 = ([3, 4], 7) ∧
    (Directory.body.run .option (recorded fun value count => (some value, count + 1))
      (Directory.value "empty" []) ([], 0)).2 = ([], 0) ∧
    (Directory.traversal.modifyWith .option (fun _ count => (none, count + 1))
      Directory.nested 0).2 =
        (Directory.traversal.modifyWith (.validated String) (fun value count =>
          (.valid value, count + 1)) Directory.nested 0).2 := by
  obtain ⟨derivedCalls, readyCalls, vacantCalls, sameCalls⟩ := calls_focused_in_order
  refine ⟨?_, ?_, ?_, ?_⟩
  · exact (derivedCalls (.andThen Directory.derived Directory.derived) _ _ _ [] 0).2
  · exact (readyCalls .vector _ _ [3, 4] [] 0).2
  · exact vacantCalls Directory.body _ (.list []) rfl (.empty .list) _ _ [] 0
  · refine sameCalls Directory.derived .option (.validated String) _ _ ?_ Directory.nested 0
    intro value count
    rfl

end Traversal

end Fieldwise
