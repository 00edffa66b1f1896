/-
This file proves what one derived traversal inside another reaches: the values inside the
values of the outer one, and no others. The outer run joins the runs of the inner one as it
joins the effects of single calls, so what is read is read group by group, one group for each
outer value and in the order of the outer values, and what is counted adds up.

It makes no difference which of three traversals are put together first. The inner run is the
function that the outer run calls, whatever its effects are and whatever state it has, so both
ways end in the same run.
-/

import Fieldwise.Proofs.Coherence
import Mathlib.Algebra.GroupWithZero.Nat

namespace Fieldwise

namespace Traversal

variable {S A B C : Type}

/-! ### Nested values -/

section

variable {outer : Traversal S A} {inner : Traversal A B} {outerFocused : S → List A}
  {innerFocused : A → List B} (outerDerived : outer.Derived outerFocused)
  (innerDerived : inner.Derived innerFocused)

include outerDerived innerDerived

/-- What is read is what the inner traversal reads in each outer value, group after group. -/
theorem Derived.getAll_andThen (source : S) :
    (outer.andThen inner).getAll source = (outer.getAll source).flatMap inner.getAll := by
  have nested := (Derived.andThen outerDerived innerDerived).getAll_eq_focused source
  have groups : inner.getAll = innerFocused := funext innerDerived.getAll_eq_focused
  rw [nested, groups, outerDerived.getAll_eq_focused]

/-- What is counted is the sum of what the inner traversal counts in each outer value. -/
theorem Derived.count_andThen (source : S) :
    (outer.andThen inner).count source = ((outer.getAll source).map inner.count).sum := by
  have sizes : inner.count = fun value => (inner.getAll value).length :=
    funext innerDerived.count_eq_length
  rw [(Derived.andThen outerDerived innerDerived).count_eq_length,
    outerDerived.getAll_andThen innerDerived, List.length_flatMap, sizes]

end

/-! ### Three traversals -/

/-- Three traversals make the same runs, whichever two of them are put together first. -/
theorem modifyWith_andThen_andThen (outer : Traversal S A) (middle : Traversal A B)
    (inner : Traversal B C) {F : Type → Type} {State : Type} (capability : Capability F)
    (function : C → State → F C × State) (source : S) (state : State) :
    ((outer.andThen middle).andThen inner).modifyWith capability function source state =
      (outer.andThen (middle.andThen inner)).modifyWith capability function source state := rfl

/-- One derived traversal inside another reaches exactly the nested values. It reads what the
inner one reads in the values of the outer one, in their order, it counts as many values as the
inner one counts in all of them together, and it modifies the outer values by modifying what is
inside each. Three traversals, derived or not, make the same runs whichever two of them are put
together first, inside every effect and for functions with a state of their own. -/
theorem andThen_reaches_nested :
    (∀ {S A B : Type} {outer : Traversal S A} {inner : Traversal A B} {outerFocused : S → List A}
      {innerFocused : A → List B}, outer.Derived outerFocused → inner.Derived innerFocused →
        ∀ source : S,
          (outer.andThen inner).getAll source = (outer.getAll source).flatMap inner.getAll ∧
          (outer.andThen inner).count source = ((outer.getAll source).map inner.count).sum ∧
          ∀ function : B → B, (outer.andThen inner).modify source function =
            outer.modify source fun value => inner.modify value function) ∧
    (∀ {S A B C : Type} (outer : Traversal S A) (middle : Traversal A B) (inner : Traversal B C)
      {F : Type → Type} {State : Type} (capability : Capability F)
      (function : C → State → F C × State) (source : S) (state : State),
        ((outer.andThen middle).andThen inner).modifyWith capability function source state =
          (outer.andThen (middle.andThen inner)).modifyWith capability function source state) := by
  refine ⟨?_, modifyWith_andThen_andThen⟩
  intro S A B outer inner outerFocused innerFocused outerDerived innerDerived source
  refine ⟨?_, ?_, ?_⟩
  · exact outerDerived.getAll_andThen innerDerived source
  · exact outerDerived.count_andThen innerDerived source
  · exact modify_andThen outer inner source

/-- A list of three lists, of which the middle one is empty, holds three numbers. The directories
two levels below the top are read group by group, and those three levels below are reached by the
same run wherever the parentheses stand. -/
theorem andThen_reaches_nested_directory :
    ((Traverse.vector.traversal (List Nat)).andThen (Traverse.vector.traversal Nat)).getAll
        [[1, 2], [], [3]] = [1, 2, 3] ∧
    ((Traverse.vector.traversal (List Nat)).andThen (Traverse.vector.traversal Nat)).count
        [[1, 2], [], [3]] = 2 + 0 + 1 ∧
    (Directory.traversal.andThen Directory.traversal).getAll Directory.twice =
      Directory.traversal.getAll Directory.nested ++
        Directory.traversal.getAll Directory.nested ∧
    ((Directory.traversal.andThen Directory.traversal).andThen Directory.traversal).modifyWith
        .option (fun value count => (some value, count + 1)) Directory.twice 0 =
      (Directory.traversal.andThen (Directory.traversal.andThen Directory.traversal)).modifyWith
        .option (fun value count => (some value, count + 1)) Directory.twice 0 := by
  obtain ⟨nested, grouped⟩ := andThen_reaches_nested
  obtain ⟨read, counted, -⟩ := nested (Derived.ready .vector (List Nat))
    (Derived.ready .vector Nat) [[1, 2], [], [3]]
  obtain ⟨directories, -, -⟩ := nested Directory.derived Directory.derived Directory.twice
  refine ⟨read, counted, directories, ?_⟩
  exact grouped Directory.traversal Directory.traversal Directory.traversal _ _ _ _

end Traversal

end Fieldwise
