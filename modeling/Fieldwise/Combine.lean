/-
This file holds evidence that can be put together. What is put together keeps its order,
and for most kinds there is evidence that says nothing.
-/

import Fieldwise.Collection

namespace Fieldwise

/-- Evidence that can be put together. -/
class Combine (A : Type) where
  /-- The first evidence followed by the second. -/
  combine : A → A → A

/-- Evidence that can be put together, any number of times or not at all. -/
class CombineEmpty (A : Type) extends Combine A where
  /-- The evidence that says nothing. -/
  empty : A

export Combine (combine)

/-! ### Kinds of evidence -/

variable {A B : Type}

instance : CombineEmpty (List A) where
  combine first second := first ++ second
  empty := []

instance : CombineEmpty (Deque A) where
  combine first second := ⟨first.toList ++ second.toList⟩
  empty := ⟨[]⟩

instance : CombineEmpty String where
  combine first second := first ++ second
  empty := ""

instance [Ord A] [Std.TransOrd A] [Std.LawfulEqOrd A] : CombineEmpty (OrderedSet A) where
  combine := .union
  empty := .empty

instance [DecidableEq A] : CombineEmpty (HashedSet A) where
  combine := .union
  empty := .empty

instance : CombineEmpty Unit where
  combine _ _ := ()
  empty := ()

/-- Two optional pieces of evidence together: both if both are there, else the one that
is. -/
def combineOptions [Combine A] : Option A → Option A → Option A
  | some first, some second => some (combine first second)
  | first, none => first
  | none, second => second

instance [Combine A] : CombineEmpty (Option A) where
  combine := combineOptions
  empty := none

instance [Combine A] [Combine B] : Combine (A × B) where
  combine first second := (combine first.1 second.1, combine first.2 second.2)

instance [CombineEmpty A] [CombineEmpty B] : CombineEmpty (A × B) where
  empty := (CombineEmpty.empty, CombineEmpty.empty)

/-! ### Lists of evidence -/

/-- All pieces of evidence together, in order. -/
def foldAll [CombineEmpty A] (items : List A) : A := items.foldl combine CombineEmpty.empty

end Fieldwise
