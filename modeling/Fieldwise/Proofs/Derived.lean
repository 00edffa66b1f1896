/-
This file says which traversals are derived. A derived traversal is the one of a body that a
built-in generator writes for a field of an aggregate, or a ready instance, or two derived
traversals one inside the other; beside it stands the list of the values that it focuses on,
which for two of them goes through the outer values in order and for each through the inner
ones.

All derived traversals are uniform: they make related runs of related functions. And all of
them call their function on the focused values in order, and join the effects in that order.
-/

import Fieldwise.Proofs.Rebuilding
import Fieldwise.Proofs.Simulation
import Fieldwise.Proofs.Tracking
import Fieldwise.Proofs.Writing

namespace Fieldwise

namespace Traversal

/-- The derived traversals, each with the values that it focuses on in a source. -/
inductive Derived : {S A : Type} → Traversal S A → (S → List A) → Prop
  /-- The traversal of a body that a built-in generator writes. -/
  | written {generator : Generator} {field : Field} {aggregate : Aggregate} {context : Context}
      {fragment : Fragment} {body : Body} (name : String)
      (builtIn : generator ∈ Generator.builtin) (distinct : aggregate.DistinctNames)
      (success : generator.synthesize field aggregate context = .ok fragment)
      (planned : fragment.body = .planned body) : Derived (body.traversal name) body.focused
  /-- A ready instance on containers of any elements. -/
  | ready {Of : Type → Type} {traverse : Traverse Of} {elements : (A : Type) → Of A → List A}
      (ready : traverse.Ready elements) (A : Type) :
      Derived (traverse.traversal A) (elements A)
  /-- One derived traversal inside another. -/
  | andThen {S A B : Type} {outer : Traversal S A} {inner : Traversal A B}
      {outerFocused : S → List A} {innerFocused : A → List B}
      (outerDerived : Derived outer outerFocused) (innerDerived : Derived inner innerFocused) :
      Derived (outer.andThen inner) fun source => (outerFocused source).flatMap innerFocused

/-- The body of a fragment that a built-in generator wrote is a body of the aggregate. -/
theorem aggregate_of_written {generator : Generator} {field : Field} {aggregate : Aggregate}
    {context : Context} {fragment : Fragment} {body : Body}
    (builtIn : generator ∈ Generator.builtin)
    (success : generator.synthesize field aggregate context = .ok fragment)
    (planned : fragment.body = .planned body) : body.rebuild.aggregate = aggregate := by
  obtain ⟨other, held, -, same, -⟩ := Generator.planned_of_mem_builtin builtIn success
  rw [planned] at held
  cases held
  exact same

theorem Derived.uniform {S A : Type} {traversal : Traversal S A} {focused : S → List A}
    (derived : traversal.Derived focused) : traversal.Uniform := by
  induction derived with
  | written name _ _ _ _ => exact body_uniform _ name
  | ready ready A =>
    intro _ _ _ _ _ _ _ _ _ _ related
    exact ready.related related
  | andThen _ _ outerUniform innerUniform => exact outerUniform.andThen innerUniform

/-- What each call keeps holds of a run and the focused values. Inside a traversal, the run
of another one is a call that stands for the calls on the values inside its value. -/
theorem Derived.holds {F : Type → Type} {S A State : Type} {traversal : Traversal S A}
    {focused : S → List A} (derived : traversal.Derived focused) {capability : Capability F}
    (tracking : Tracking capability A State) {function : A → State → F A × State}
    (kept : tracking.Kept function) (source : S) (state : State) :
    tracking.Holds (focused source) state
      (traversal.modifyWith capability function source state) := by
  induction derived generalizing state with
  | written name _ _ _ _ => exact Body.holds_run kept _ source state
  | ready ready A => exact ready.holds kept source state
  | @andThen S A B outer inner _ innerFocused _ _ outerHolds innerHolds =>
    have innerKept : (tracking.through innerFocused).Kept (inner.modifyWith capability function) :=
      tracking.kept_through fun value state => innerHolds tracking kept value state
    exact outerHolds (tracking.through innerFocused) innerKept source state

/-- The values that a derived traversal gets are those that it focuses on. -/
theorem Derived.getAll_eq_focused {S A : Type} {traversal : Traversal S A} {focused : S → List A}
    (derived : traversal.Derived focused) (source : S) :
    traversal.getAll source = focused source := by
  refine derived.holds (.evidence A Unit) ?_ source ()
  intro value state
  rfl

end Traversal

/-! ### A structure inside itself -/

namespace Directory

/-- The type of lists of directories. -/
def entriesType : WrittenType :=
  .path false [.mk (.plain "Vec")
    (.angled false [.type (.path false [.mk (.plain "Directory") .none])] false)]

/-- The field with the directories inside a directory. -/
def entries : Field := .ofType (.named (.plain "entries")) entriesType

/-- A directory has a label and holds directories. -/
def aggregate : Aggregate where
  name := .plain "Directory"
  extent := none
  visibility := []
  generics := default
  style := .named
  fields := [.ofType (.named (.plain "label")) (.path false [.mk (.plain "String") .none]), entries]
  selection := .auto
  runtime := .ofNames true ["undertow"]

theorem declared : (aggregate.field? entries.name).isSome := by decide

/-- The body of the traversal over the directories inside a directory. -/
def body : Body where
  context := ⟨aggregate.runtime, .ofWritten (.path false [.mk (.plain "Directory") .none])⟩
  rebuild := ⟨aggregate, entries, declared⟩
  plan := .loop .elements .list

/-- The traversal over the directories inside a directory. -/
def traversal : Traversal Value Value := body.traversal "DirectoryEntriesTraversal"

theorem exists_written :
    ∃ fragment, Generator.sequence.synthesize entries aggregate body.context = .ok fragment ∧
      fragment.body = .planned body := by
  have block : body.tokens.asBlock.isOk := by decide +kernel
  exact Generator.sequence_writer.exists_written body rfl block

theorem derived : traversal.Derived body.focused := by
  obtain ⟨_, written, planned⟩ := exists_written
  exact .written _ (by simp [Generator.builtin, Generator.shapes]) (by decide) written planned

/-- A directory as a value. -/
def value (label : String) (entries : List Value) : Value :=
  .tree .record [.text label, .list entries]

/-- A directory with two directories in it, of which the first holds a third. -/
def nested : Value := value "root" [value "branch" [value "leaf" []], value "empty" []]

/-- A directory with two such directories in it. -/
def twice : Value := value "top" [nested, nested]

/-- Refuses a directory without directories by its label. -/
def unlessEmpty : Value → Except String Value
  | .tree .record [.text label, .list []] => .error label
  | value => .ok value

theorem eq_of_unlessEmpty {value other : Value} (success : unlessEmpty value = .ok other) :
    value = other := by
  unfold unlessEmpty at success
  split at success
  · cases success
  · exact Except.ok.inj success

end Directory

end Fieldwise
