/-
This file orders values: null, false, true, integers, texts by code point, then trees,
first by label and then part by part. The order is total and agrees with equality, so
values can be elements of ordered sets and keys of ordered maps.
-/

import Fieldwise.Value.Basic

namespace Fieldwise

theorem Label.eq_of_rank_eq {label label' : Label} (same : label.rank = label'.rank) :
    label = label' := by
  cases label <;> cases label' <;> first | rfl | cases same

namespace Value

/-! ### Comparing -/

/-- The place of the kind of a value in the order of kinds. -/
def rank : Value → Nat
  | .null => 0
  | .boolean _ => 1
  | .integer _ => 2
  | .text _ => 3
  | .tree _ _ => 4

mutual

/-- Compares two values. -/
def ordering : Value → Value → Ordering
  | .boolean left, .boolean right => compare left right
  | .integer left, .integer right => compare left right
  | .text left, .text right => compare left right
  | .tree label parts, .tree label' parts' =>
    (compare label.rank label'.rank).then (orderingAll parts parts')
  | left, right => compare left.rank right.rank

/-- Compares two lists of values at the first place where they differ; of two lists one
of which starts with the other, the shorter is less. -/
def orderingAll : List Value → List Value → Ordering
  | [], [] => .eq
  | [], _ :: _ => .lt
  | _ :: _, [] => .gt
  | left :: lefts, right :: rights => (left.ordering right).then (orderingAll lefts rights)

end

instance : Ord Value := ⟨Value.ordering⟩

/-! ### The order is lawful -/

mutual

theorem ordering_self : ∀ value : Value, value.ordering value = .eq
  | .null => rfl
  | .boolean flag => by simp [ordering]
  | .integer number => by simp [ordering]
  | .text content => by simp [ordering]
  | .tree label parts => by simp [ordering, orderingAll_self parts]

theorem orderingAll_self : ∀ values : List Value, orderingAll values values = .eq
  | [] => rfl
  | value :: rest => by simp [orderingAll, ordering_self value, orderingAll_self rest]

end

mutual

theorem eq_of_ordering : ∀ left right : Value, left.ordering right = .eq → left = right
  | .null, right, same => by cases right <;> simp_all [ordering, rank]
  | .boolean flag, right, same => by cases right <;> simp_all [ordering, rank]
  | .integer number, right, same => by cases right <;> simp_all [ordering, rank]
  | .text content, right, same => by cases right <;> simp_all [ordering, rank]
  | .tree label parts, right, same => by
    cases right with
    | tree label' parts' =>
      simp only [ordering, Ordering.then_eq_eq, Std.LawfulEqCmp.compare_eq_iff_eq] at same
      rw [Label.eq_of_rank_eq same.1, eq_of_orderingAll parts parts' same.2]
    | _ => simp [ordering, rank] at same

theorem eq_of_orderingAll : ∀ lefts rights : List Value,
    orderingAll lefts rights = .eq → lefts = rights
  | [], [], _ => rfl
  | [], _ :: _, same => by simp [orderingAll] at same
  | _ :: _, [], same => by simp [orderingAll] at same
  | left :: lefts, right :: rights, same => by
    simp only [orderingAll, Ordering.then_eq_eq] at same
    rw [eq_of_ordering left right same.1, eq_of_orderingAll lefts rights same.2]

end

mutual

theorem ordering_swap : ∀ left right : Value, left.ordering right = (right.ordering left).swap
  | .null, right => by cases right <;> rfl
  | .boolean flag, right => by
    cases right <;> first | rfl | (simp only [ordering]; exact Std.OrientedCmp.eq_swap)
  | .integer number, right => by
    cases right <;> first | rfl | (simp only [ordering]; exact Std.OrientedCmp.eq_swap)
  | .text content, right => by
    cases right <;> first | rfl | (simp only [ordering]; exact Std.OrientedCmp.eq_swap)
  | .tree label parts, right => by
    cases right with
    | tree label' parts' =>
      simp only [ordering, Ordering.swap_then]
      rw [← orderingAll_swap parts parts', ← @Std.OrientedCmp.eq_swap Nat compare]
    | _ => rfl

theorem orderingAll_swap : ∀ lefts rights : List Value,
    orderingAll lefts rights = (orderingAll rights lefts).swap
  | [], [] => rfl
  | [], _ :: _ => rfl
  | _ :: _, [] => rfl
  | left :: lefts, right :: rights => by
    simp only [orderingAll, Ordering.swap_then]
    rw [← ordering_swap left right, ← orderingAll_swap lefts rights]

end

/-- Whatever comes before a value comes before all that comes after it. -/
theorem then_lt_trans {first second third first' second' third' : Ordering}
    (heads : first = .lt → second = .lt → third = .lt)
    (tails : first' = .lt → second' = .lt → third' = .lt)
    (equalLeft : first = .eq → third = second) (equalRight : second = .eq → third = first)
    (before : first.then first' = .lt) (after : second.then second' = .lt) :
    third.then third' = .lt := by
  cases first <;> cases second <;> simp_all

theorem boolean_lt_trans {low middle high : Bool}
    (before : (boolean low).ordering (boolean middle) = .lt)
    (after : (boolean middle).ordering (boolean high) = .lt) :
    (boolean low).ordering (boolean high) = .lt := by
  simp only [ordering] at before after ⊢
  exact Std.TransCmp.lt_trans before after

theorem integer_lt_trans {low middle high : Int64}
    (before : (integer low).ordering (integer middle) = .lt)
    (after : (integer middle).ordering (integer high) = .lt) :
    (integer low).ordering (integer high) = .lt := by
  simp only [ordering] at before after ⊢
  exact Std.TransCmp.lt_trans before after

theorem text_lt_trans {low middle high : String}
    (before : (text low).ordering (text middle) = .lt)
    (after : (text middle).ordering (text high) = .lt) :
    (text low).ordering (text high) = .lt := by
  simp only [ordering] at before after ⊢
  exact Std.TransCmp.lt_trans before after

/-- Only trees come after a tree. -/
theorem eq_tree_of_tree_lt {label : Label} {parts : List Value} {other : Value}
    (before : (tree label parts).ordering other = .lt) :
    ∃ label' parts', other = tree label' parts' := by
  cases other with
  | tree label' parts' => exact ⟨label', parts', rfl⟩
  | _ => simp [ordering, rank, Nat.compare_eq_lt] at before

mutual

theorem ordering_lt_trans : ∀ low middle high : Value, low.ordering middle = .lt →
    middle.ordering high = .lt → low.ordering high = .lt
  | .null, middle, high, before, after => by
    cases middle <;> cases high <;> simp_all [ordering, rank, Nat.compare_eq_lt]
  | .boolean _, middle, high, before, after => by
    cases middle <;> cases high <;>
      first | exact boolean_lt_trans before after | simp_all [ordering, rank, Nat.compare_eq_lt]
  | .integer _, middle, high, before, after => by
    cases middle <;> cases high <;>
      first | exact integer_lt_trans before after | simp_all [ordering, rank, Nat.compare_eq_lt]
  | .text _, middle, high, before, after => by
    cases middle <;> cases high <;>
      first | exact text_lt_trans before after | simp_all [ordering, rank, Nat.compare_eq_lt]
  | .tree label parts, middle, high, before, after => by
    obtain ⟨label', parts', rfl⟩ := eq_tree_of_tree_lt before
    obtain ⟨label'', parts'', rfl⟩ := eq_tree_of_tree_lt after
    simp only [ordering] at before after ⊢
    refine then_lt_trans ?_ (orderingAll_lt_trans parts parts' parts'') ?_ ?_ before after
    · exact Std.TransCmp.lt_trans
    · intro same
      rw [Std.LawfulEqCmp.eq_of_compare same]
    · intro same
      rw [Std.LawfulEqCmp.eq_of_compare same]

theorem orderingAll_lt_trans : ∀ lows middles highs : List Value,
    orderingAll lows middles = .lt → orderingAll middles highs = .lt →
      orderingAll lows highs = .lt
  | [], [], _, before, _ => by cases before
  | [], _ :: _, [], _, after => by cases after
  | [], _ :: _, _ :: _, _, _ => rfl
  | _ :: _, [], _, before, _ => by cases before
  | _ :: _, _ :: _, [], _, after => by cases after
  | low :: lows, middle :: middles, high :: highs, before, after => by
    simp only [orderingAll] at before after ⊢
    refine then_lt_trans (ordering_lt_trans low middle high)
      (orderingAll_lt_trans lows middles highs) ?_ ?_ before after
    · intro same
      rw [eq_of_ordering low middle same]
    · intro same
      rw [eq_of_ordering middle high same]

end

instance : Std.LawfulEqOrd Value where
  compare_self := ordering_self _
  eq_of_compare := eq_of_ordering _ _

instance : Std.TransOrd Value where
  eq_swap := ordering_swap _ _
  isLE_trans {low middle high} before after := by
    rcases Ordering.isLE_iff_eq_lt_or_eq_eq.mp before with less | same
    · rcases Ordering.isLE_iff_eq_lt_or_eq_eq.mp after with less' | same'
      · exact Ordering.isLE_iff_eq_lt_or_eq_eq.mpr
          (.inl (ordering_lt_trans low middle high less less'))
      · rwa [← eq_of_ordering middle high same']
    · rwa [eq_of_ordering low middle same]

instance : DecidableEq Value := fun left right =>
  decidable_of_iff (compare left right = .eq) Std.LawfulEqCmp.compare_eq_iff_eq

end Value

end Fieldwise
