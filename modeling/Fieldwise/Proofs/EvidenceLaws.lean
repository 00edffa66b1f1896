/-
This file proves that evidence of every kind that comes with the library is put together lawfully:
how the pieces are grouped makes no difference, and the evidence that says nothing adds nothing.
Lists, deques and texts are appended, and sets are united: an ordered set is known by its elements,
and to a hashed set a union adds those elements, in their order, that it does not have. A tuple is
put together component by component, and an optional piece needs no evidence that says nothing
inside it, as the missing one takes its place.

So all pieces of a list come to the same whether they are put together at once or part by part.
-/

import Fieldwise.Proofs.PureLaws
import Fieldwise.Proofs.Recollecting

namespace Fieldwise

variable {A B : Type}

/-! ### Sets -/

namespace OrderedSet

variable [Ord A] [Std.TransOrd A] [Std.LawfulEqOrd A]

/-- An ordered set is known by its elements. -/
theorem eq_iff_mem_iff {first second : OrderedSet A} :
    first = second ↔ ∀ item, item ∈ first.toList ↔ item ∈ second.toList := by
  refine ⟨fun same item => same ▸ Iff.rfl, fun same => ?_⟩
  have lists := first.ascending.eq_of_mem_iff second.ascending same
  cases first
  cases second
  cases lists
  rfl

theorem mem_union {first second : OrderedSet A} {item : A} :
    item ∈ (first.union second).toList ↔ item ∈ first.toList ∨ item ∈ second.toList :=
  Keyed.mem_insertAll_id

end OrderedSet

/-- What is put into a list one after the other may be put into a list of its own before. -/
theorem Keyed.putAll_putAll [DecidableEq A] (items others added : List A) :
    putAll id items (putAll id others added) = putAll id (putAll id items others) added := by
  -- The induction is on the end of the list: an item that is put last and is there already
  -- changes neither side.
  induction added using List.reverseRecOn with
  | nil => rfl
  | append_singleton added item inductionHypothesis =>
    rw [putAll_append_singleton, putAll_append_singleton, ← inductionHypothesis]
    by_cases member : item ∈ putAll id others added
    · rw [put_id_of_mem member, put_id_of_mem (mem_putAll_id.mpr (.inr member))]
    · rw [put_of_fresh id (by rwa [List.map_id]), putAll_append_singleton]

namespace HashedSet

variable [DecidableEq A]

theorem eq_of_toList_eq {first second : HashedSet A} (same : first.toList = second.toList) :
    first = second := by
  cases first
  cases second
  cases same
  rfl

/-- Two hashed sets are equal as sets if they have the same elements. -/
theorem beq_iff_mem_iff {first second : HashedSet A} :
    (first == second) = true ↔ ∀ item, item ∈ first.toList ↔ item ∈ second.toList := by
  show (first.isSubset second && second.isSubset first) = true ↔ _
  simp only [isSubset, Bool.and_eq_true, List.all_eq_true, List.contains_iff_mem]
  exact ⟨fun both item => ⟨both.1 item, both.2 item⟩,
    fun same => ⟨fun item => (same item).mp, fun item => (same item).mpr⟩⟩

theorem mem_union {first second : HashedSet A} {item : A} :
    item ∈ (first.union second).toList ↔ item ∈ first.toList ∨ item ∈ second.toList :=
  Keyed.mem_putAll_id

end HashedSet

/-! ### Kinds of evidence -/

instance : LawfulCombineEmpty (Deque A) where
  combine_assoc first second third :=
    congrArg Deque.mk (List.append_assoc first.toList second.toList third.toList)
  empty_combine _ := rfl
  combine_empty deque := congrArg Deque.mk (List.append_nil deque.toList)

instance : LawfulCombineEmpty String where
  combine_assoc _ _ _ := String.append_assoc
  empty_combine _ := String.empty_append
  combine_empty _ := String.append_empty

instance [Ord A] [Std.TransOrd A] [Std.LawfulEqOrd A] : LawfulCombineEmpty (OrderedSet A) where
  combine_assoc first second third := by
    show (first.union second).union third = first.union (second.union third)
    rw [OrderedSet.eq_iff_mem_iff]
    intro item
    rw [OrderedSet.mem_union, OrderedSet.mem_union, OrderedSet.mem_union, OrderedSet.mem_union,
      or_assoc]
  empty_combine set := by
    show OrderedSet.empty.union set = set
    rw [OrderedSet.eq_iff_mem_iff]
    intro item
    rw [OrderedSet.mem_union]
    exact or_iff_right List.not_mem_nil
  combine_empty _ := rfl

instance [DecidableEq A] : LawfulCombineEmpty (HashedSet A) where
  combine_assoc first second third :=
    HashedSet.eq_of_toList_eq
      (Keyed.putAll_putAll first.toList second.toList third.toList).symm
  empty_combine set := HashedSet.eq_of_toList_eq (Keyed.putAll_of_distinct id [] set.distinct)
  combine_empty _ := rfl

instance : LawfulCombineEmpty Unit where
  combine_assoc _ _ _ := rfl
  empty_combine _ := rfl
  combine_empty _ := rfl

/-- Only where all three pieces are there are they regrouped. -/
instance [Combine A] [LawfulCombine A] : LawfulCombineEmpty (Option A) where
  combine_assoc first second third := by
    cases first with
    | none => cases second <;> cases third <;> rfl
    | some first =>
      cases second with
      | none => cases third <;> rfl
      | some second =>
        cases third with
        | none => rfl
        | some third => exact congrArg some (LawfulCombine.combine_assoc first second third)
  empty_combine piece := by cases piece <;> rfl
  combine_empty piece := by cases piece <;> rfl

instance [Combine A] [Combine B] [LawfulCombine A] [LawfulCombine B] : LawfulCombine (A × B) where
  combine_assoc first second third :=
    Prod.ext (LawfulCombine.combine_assoc first.1 second.1 third.1)
      (LawfulCombine.combine_assoc first.2 second.2 third.2)

instance [CombineEmpty A] [CombineEmpty B] [LawfulCombineEmpty A] [LawfulCombineEmpty B] :
    LawfulCombineEmpty (A × B) where
  empty_combine pair :=
    Prod.ext (LawfulCombineEmpty.empty_combine pair.1) (LawfulCombineEmpty.empty_combine pair.2)
  combine_empty pair :=
    Prod.ext (LawfulCombineEmpty.combine_empty pair.1) (LawfulCombineEmpty.combine_empty pair.2)

/-- The kinds of evidence that come with the library. A tuple of more than two components is a pair
of the first one and the tuple of the others. -/
inductive EvidenceKind : Type 1 where
  | list (A : Type)
  | deque (A : Type)
  | text
  | orderedSet (A : Type) [Ord A] [Std.TransOrd A] [Std.LawfulEqOrd A]
  | hashedSet (A : Type) [DecidableEq A]
  | unit
  | option (content : EvidenceKind)
  | pair (first second : EvidenceKind)

namespace EvidenceKind

/-- The evidence of a kind. -/
def Carrier : EvidenceKind → Type
  | .list A => List A
  | .deque A => Deque A
  | .text => String
  | @orderedSet A _ _ _ => OrderedSet A
  | @hashedSet A _ => HashedSet A
  | .unit => Unit
  | .option content => Option content.Carrier
  | .pair first second => first.Carrier × second.Carrier

/-- The instance that the library finds for a kind. -/
instance combineEmpty : (kind : EvidenceKind) → CombineEmpty kind.Carrier
  | .list A => inferInstanceAs (CombineEmpty (List A))
  | .deque A => inferInstanceAs (CombineEmpty (Deque A))
  | .text => inferInstanceAs (CombineEmpty String)
  | @orderedSet A _ _ _ => inferInstanceAs (CombineEmpty (OrderedSet A))
  | @hashedSet A _ => inferInstanceAs (CombineEmpty (HashedSet A))
  | .unit => inferInstanceAs (CombineEmpty Unit)
  | .option content =>
    letI := content.combineEmpty
    inferInstanceAs (CombineEmpty (Option content.Carrier))
  | .pair first second =>
    letI := first.combineEmpty
    letI := second.combineEmpty
    inferInstanceAs (CombineEmpty (first.Carrier × second.Carrier))

example : (pair (.list Nat) (.pair .text .unit)).combineEmpty =
    (inferInstance : CombineEmpty (List Nat × String × Unit)) := rfl

theorem lawful : (kind : EvidenceKind) → LawfulCombineEmpty kind.Carrier
  | .list A => inferInstanceAs (LawfulCombineEmpty (List A))
  | .deque A => inferInstanceAs (LawfulCombineEmpty (Deque A))
  | .text => inferInstanceAs (LawfulCombineEmpty String)
  | @orderedSet A _ _ _ => inferInstanceAs (LawfulCombineEmpty (OrderedSet A))
  | @hashedSet A _ => inferInstanceAs (LawfulCombineEmpty (HashedSet A))
  | .unit => inferInstanceAs (LawfulCombineEmpty Unit)
  | .option content =>
    have := content.lawful
    inferInstanceAs (LawfulCombineEmpty (Option content.Carrier))
  | .pair first second =>
    have := first.lawful
    have := second.lawful
    inferInstanceAs (LawfulCombineEmpty (first.Carrier × second.Carrier))

end EvidenceKind

/-- Evidence of which the first piece counts alone. It is lawful, but none of it says nothing. -/
structure Earliest (A : Type) where
  content : A

instance : Combine (Earliest A) where
  combine first _ := first

instance : LawfulCombine (Earliest A) where
  combine_assoc _ _ _ := rfl

/-! ### Lists of evidence -/

section Folding

variable [CombineEmpty A] [LawfulCombineEmpty A]

/-- What comes before a list is put together with what the list comes to. -/
theorem foldl_combine (before : A) (pieces : List A) :
    pieces.foldl combine before = combine before (foldAll pieces) := by
  have associative : Std.Associative (combine : A → A → A) := ⟨LawfulCombine.combine_assoc⟩
  calc
    pieces.foldl combine before
    _ = pieces.foldl combine (combine before CombineEmpty.empty) := by
      rw [LawfulCombineEmpty.combine_empty]
    _ = combine before (foldAll pieces) := List.foldl_assoc

theorem foldAll_append (pieces others : List A) :
    foldAll (pieces ++ others) = combine (foldAll pieces) (foldAll others) := by
  rw [← foldl_combine, foldAll, List.foldl_append]
  rfl

theorem foldAll_cons (piece : A) (rest : List A) :
    foldAll (piece :: rest) = combine piece (foldAll rest) := by
  rw [← foldl_combine, foldAll, List.foldl_cons, LawfulCombineEmpty.empty_combine]

/-- What the parts of a list come to, put together, is what the list comes to. -/
theorem foldAll_map_foldAll (parts : List (List A)) :
    foldAll (parts.map foldAll) = foldAll parts.flatten := by
  induction parts with
  | nil => rfl
  | cons part rest inductionHypothesis =>
    rw [List.map_cons, List.flatten_cons, foldAll_cons, foldAll_append, inductionHypothesis]

end Folding

/-- Putting the pieces of a list together goes along with how the list is made: nothing comes to
the evidence that says nothing, one piece to itself, and lists one after the other to what they
come to. -/
structure FoldsPiecewise (A : Type) [CombineEmpty A] : Prop where
  nil : foldAll ([] : List A) = CombineEmpty.empty
  singleton : ∀ piece : A, foldAll [piece] = piece
  append : ∀ pieces others : List A,
    foldAll (pieces ++ others) = combine (foldAll pieces) (foldAll others)
  flatten : ∀ parts : List (List A), foldAll (parts.map foldAll) = foldAll parts.flatten

theorem foldsPiecewise [CombineEmpty A] [LawfulCombineEmpty A] : FoldsPiecewise A where
  nil := rfl
  singleton := LawfulCombineEmpty.empty_combine
  append := foldAll_append
  flatten := foldAll_map_foldAll

/-! ### All evidence -/

/-- Evidence is put together lawfully, whatever its kind: the grouping of the pieces makes no
difference, the evidence that says nothing adds nothing on either side, and so lists of evidence
may be put together part by part. An optional piece is lawful evidence as soon as the grouping
makes no difference to what is inside, even if nothing there says nothing. Sets that are put
together have the elements of both, which is all that counts when sets are compared. -/
theorem evidence_joins_lawfully :
    (∀ kind : EvidenceKind, LawfulCombineEmpty kind.Carrier ∧ FoldsPiecewise kind.Carrier) ∧
    (∀ {A : Type} [Combine A] [LawfulCombine A],
      LawfulCombineEmpty (Option A) ∧ FoldsPiecewise (Option A)) ∧
    (∀ {A : Type} [Ord A] [Std.TransOrd A] [Std.LawfulEqOrd A] (first second : OrderedSet A),
      (first = second ↔ ∀ item, item ∈ first.toList ↔ item ∈ second.toList) ∧
        ∀ item, item ∈ (combine first second).toList ↔
          item ∈ first.toList ∨ item ∈ second.toList) ∧
    ∀ {A : Type} [DecidableEq A] (first second : HashedSet A),
      ((first == second) = true ↔ ∀ item, item ∈ first.toList ↔ item ∈ second.toList) ∧
        ∀ item, item ∈ (combine first second).toList ↔
          item ∈ first.toList ∨ item ∈ second.toList := by
  refine ⟨fun kind => ?_, ⟨inferInstance, foldsPiecewise⟩, fun first second => ?_,
    fun first second => ?_⟩
  · have lawful := kind.lawful
    exact ⟨lawful, foldsPiecewise⟩
  · exact ⟨OrderedSet.eq_iff_mem_iff, fun _ => OrderedSet.mem_union⟩
  · exact ⟨HashedSet.beq_iff_mem_iff, fun _ => HashedSet.mem_union⟩

/-- Of pieces the first of which counts nothing stands for none, but optional ones are lawful. The
names and the numbers of several reports come to the same report by report. -/
theorem evidence_joins_lawfully_reports :
    LawfulCombine (Earliest Bool) ∧
      (¬ ∃ silent : Earliest Bool, ∀ piece, combine silent piece = piece) ∧
      LawfulCombineEmpty (Option (Earliest Bool)) ∧
      foldAll ([[("a", some [1]), ("b", none)], [], [("c", some [2])]].map foldAll) =
        ("abc", some [1, 2]) := by
  obtain ⟨kinds, optional, -⟩ := evidence_joins_lawfully
  refine ⟨inferInstance, ?_, optional.1, ?_⟩
  · rintro ⟨silent, adds⟩
    have same : Earliest.mk true = Earliest.mk false := (adds ⟨true⟩).symm.trans (adds ⟨false⟩)
    cases same
  · exact (kinds (.pair .text (.option (.list Nat)))).2.flatten
      [[("a", some [1]), ("b", none)], [], [("c", some [2])]]

end Fieldwise
