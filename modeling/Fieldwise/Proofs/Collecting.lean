/-
This file proves that a collection is what collecting its own elements gives. Sets and maps
keep their elements in a form that collecting reproduces: entries with ascending keys, or
with distinct ones, stand where they stood when they are put in one after the other. So a
target that a body takes apart, whatever its form, comes back when its own elements are
gathered.
-/

import Fieldwise.Body.Meaning

namespace Fieldwise

/-! ### Entries found by a key -/

namespace Keyed

section Ascending

variable {Entry Key : Type} [Ord Key] [Std.TransOrd Key] (key : Entry → Key)

/-- An entry whose key is above all others goes to the end. -/
theorem insert_of_above {entry : Entry} {entries : List Entry}
    (above : ∀ low ∈ entries, compare (key low) (key entry) = .lt) :
    insert key entry entries = entries ++ [entry] := by
  induction entries with
  | nil => rfl
  | cons head rest inductionHypothesis =>
    have greater : compare (key entry) (key head) = .gt :=
      Std.OrientedCmp.gt_of_lt (above head List.mem_cons_self)
    rw [insert, greater, List.cons_append]
    exact congrArg (head :: ·)
      (inductionHypothesis fun low member => above low (List.mem_cons_of_mem _ member))

/-- Entries that are ascending together with those before them are added as they are. -/
theorem insertAll_of_ascending (before : List Entry) {added : List Entry}
    (ascending : Ascending key (before ++ added)) :
    insertAll key before added = before ++ added := by
  induction added generalizing before with
  | nil => rw [List.append_nil]; rfl
  | cons entry rest inductionHypothesis =>
    have above : ∀ low ∈ before, compare (key low) (key entry) = .lt := fun low member =>
      (List.pairwise_append.mp ascending).2.2 low member entry List.mem_cons_self
    rw [List.append_cons] at ascending ⊢
    rw [← inductionHypothesis (before ++ [entry]) ascending, ← insert_of_above key above]
    rfl

end Ascending

section Distinct

variable {Entry Key : Type} [DecidableEq Key] (key : Entry → Key)

/-- An entry with a new key goes to the end. -/
theorem put_of_fresh {entry : Entry} {entries : List Entry}
    (fresh : key entry ∉ entries.map key) : put key entry entries = entries ++ [entry] := by
  induction entries with
  | nil => rfl
  | cons head rest inductionHypothesis =>
    rw [List.map_cons, List.mem_cons, not_or] at fresh
    rw [put, if_neg (Ne.symm fresh.1), inductionHypothesis fresh.2, List.cons_append]

/-- Entries whose keys are distinct, also from those before them, are added as they are. -/
theorem putAll_of_distinct (before : List Entry) {added : List Entry}
    (distinct : Distinct key (before ++ added)) : putAll key before added = before ++ added := by
  induction added generalizing before with
  | nil => rw [List.append_nil]; rfl
  | cons entry rest inductionHypothesis =>
    have fresh : key entry ∉ before.map key := by
      intro member
      rw [Distinct, List.map_append, List.nodup_append] at distinct
      exact distinct.2.2 (key entry) member (key entry) List.mem_cons_self rfl
    rw [List.append_cons] at distinct ⊢
    rw [← inductionHypothesis (before ++ [entry]) distinct, ← put_of_fresh key fresh]
    rfl

end Distinct

end Keyed

/-! ### Sets and maps -/

namespace Value

theorem ofOrderedSet_ofList {parts : List Value} (ascending : Keyed.Ascending id parts) :
    ofOrderedSet (.ofList parts) = .tree .orderedSet parts :=
  congrArg (tree .orderedSet) (Keyed.insertAll_of_ascending id [] ascending)

theorem ofHashedSet_ofList {parts : List Value} (distinct : Keyed.Distinct id parts) :
    ofHashedSet (.ofList parts) = .tree .hashedSet parts :=
  congrArg (tree .hashedSet) (Keyed.putAll_of_distinct id [] distinct)

/-- A set is what collecting its elements gives. -/
theorem setLike_setElements {target : Value} {parts : List Value}
    (found : target.setElements? = some parts) : target.setLike parts = target := by
  unfold setElements? at found
  split at found
  · split at found
    · rename_i ascending
      cases found
      exact ofOrderedSet_ofList ascending
    · cases found
  · split at found
    · rename_i distinct
      cases found
      exact ofHashedSet_ofList distinct
    · cases found
  · cases found

theorem ofOrderedMap_ofList {pairs : List (Value × Value)}
    (ascending : Keyed.Ascending Prod.fst pairs) :
    ofOrderedMap (.ofList pairs) = .tree .orderedMap (pairs.map entry) :=
  congrArg (fun pairs : List (Value × Value) => tree .orderedMap (pairs.map entry))
    (Keyed.insertAll_of_ascending Prod.fst [] ascending)

theorem ofHashedMap_ofList {pairs : List (Value × Value)}
    (distinct : Keyed.Distinct Prod.fst pairs) :
    ofHashedMap (.ofList pairs) = .tree .hashedMap (pairs.map entry) :=
  congrArg (fun pairs : List (Value × Value) => tree .hashedMap (pairs.map entry))
    (Keyed.putAll_of_distinct Prod.fst [] distinct)

theorem eq_entry_of_entry? {part : Value} {pair : Value × Value}
    (found : part.entry? = some pair) : entry pair = part := by
  unfold entry? at found
  split at found
  · cases found
    rfl
  · cases found

theorem map_entry_of_allEntries? {parts : List Value} {pairs : List (Value × Value)}
    (found : allEntries? parts = some pairs) : pairs.map entry = parts := by
  induction parts generalizing pairs with
  | nil =>
    cases found
    rfl
  | cons part rest inductionHypothesis =>
    rw [allEntries?] at found
    split at found
    · rename_i pair pairs head tail
      cases found
      rw [List.map_cons, eq_entry_of_entry? head, inductionHypothesis tail]
    · cases found

/-- A map is what collecting its entries gives. -/
theorem mapLike_mapEntries {target : Value} {pairs : List (Value × Value)}
    (found : target.mapEntries? = some pairs) : target.mapLike pairs = target := by
  unfold mapEntries? at found
  split at found
  · obtain ⟨entries, ascending⟩ := Option.filter_eq_some_iff.mp found
    show ofOrderedMap (.ofList pairs) = _
    rw [ofOrderedMap_ofList (of_decide_eq_true ascending), map_entry_of_allEntries? entries]
  · obtain ⟨entries, distinct⟩ := Option.filter_eq_some_iff.mp found
    show ofHashedMap (.ofList pairs) = _
    rw [ofHashedMap_ofList (of_decide_eq_true distinct), map_entry_of_allEntries? entries]
  · cases found

end Value

/-! ### Targets -/

/-- A collection is what its own elements are gathered to; an array has a slot for each. -/
theorem Gathering.finish_elements {gathering : Gathering} {target : Value} {items : List Value}
    (found : gathering.elements? target = some items) :
    gathering.finish target items.length items = target := by
  unfold elements? at found
  split at found
  · cases found
    rfl
  · cases found
    rw [finish, collectArray, dif_pos rfl]
    rfl
  · exact Value.setLike_setElements found
  · cases found

end Fieldwise
