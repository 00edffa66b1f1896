/-
This file proves what becomes of sets and maps whose values are replaced and collected again. A
map keeps its keys, so its entries are those from before with their values replaced. A set may
lose elements, as equal results become one. But two rounds of replacing and collecting give what
one round with both functions gives: in an ordered set because it is known by its elements, and
in a hashed set because an element that was dropped in the first round would have been dropped in
the second.
-/

import Fieldwise.Proofs.Collecting
import Mathlib.Data.List.Induction
import Mathlib.Data.List.Sort

namespace Fieldwise

/-! ### Elements that are their own keys -/

namespace Keyed

section Ascending

variable {A : Type} [Ord A] [Std.LawfulEqOrd A]

theorem mem_insert_id {item found : A} {items : List A} :
    found ∈ insert id item items ↔ found = item ∨ found ∈ items := by
  induction items with
  | nil => exact List.mem_singleton.trans (or_iff_left List.not_mem_nil).symm
  | cons head rest inductionHypothesis =>
    rw [insert]
    split
    · exact List.mem_cons
    · rename_i same
      obtain rfl : item = head := Std.LawfulEqCmp.eq_of_compare same
      rw [List.mem_cons]
      exact ⟨fun member => .inr member, fun member => member.elim .inl id⟩
    · rw [List.mem_cons, inductionHypothesis, List.mem_cons, or_left_comm]

theorem mem_insertAll_id {found : A} {items added : List A} :
    found ∈ insertAll id items added ↔ found ∈ items ∨ found ∈ added := by
  induction added generalizing items with
  | nil => exact (or_iff_left List.not_mem_nil).symm
  | cons item rest inductionHypothesis =>
    show found ∈ insertAll id (insert id item items) rest ↔ _
    rw [inductionHypothesis, mem_insert_id, List.mem_cons, or_assoc, or_left_comm]

/-- Ascending elements differ from one another. -/
theorem Ascending.nodup {items : List A} (ascending : Ascending id items) : items.Nodup := by
  refine List.nodup_iff_pairwise_ne.mpr (ascending.imp ?_)
  rintro low _ less rfl
  have equal : compare low low = .eq := Std.ReflCmp.compare_self
  rw [id, equal] at less
  cases less

variable [Std.TransOrd A]

/-- Ascending elements are known by which they are. -/
theorem Ascending.eq_of_mem_iff {first second : List A} (ascending : Ascending id first)
    (ascending' : Ascending id second) (same : ∀ item, item ∈ first ↔ item ∈ second) :
    first = second := by
  have permuted : first.Perm second :=
    (List.perm_ext_iff_of_nodup ascending.nodup ascending'.nodup).mpr same
  refine permuted.eq_of_pairwise (fun low high _ _ less greater => ?_) ascending ascending'
  have opposite : compare high low = .gt := Std.OrientedCmp.gt_of_lt less
  rw [id, id, opposite] at greater
  cases greater

theorem insertAll_map_insertAll (function next : A → A) (items : List A) :
    insertAll id [] ((insertAll id [] (items.map function)).map next) =
      insertAll id [] (items.map (next ∘ function)) := by
  refine (ascending_insertAll id _ .nil).eq_of_mem_iff (ascending_insertAll id _ .nil) fun item => ?_
  simp only [mem_insertAll_id, List.mem_map, List.not_mem_nil, false_or, Function.comp_apply,
    exists_exists_and_eq_and]

end Ascending

section Distinct

variable {A : Type} [DecidableEq A]

/-- An element that is there already is not put a second time. -/
theorem put_id_of_mem {item : A} {items : List A} (member : item ∈ items) :
    put id item items = items := by
  induction items with
  | nil => exact absurd member List.not_mem_nil
  | cons head rest inductionHypothesis =>
    show (if head = item then _ else _) = _
    by_cases same : head = item
    · rw [if_pos same, same]
    · rw [if_neg same, inductionHypothesis ((List.mem_cons.mp member).resolve_left (Ne.symm same))]

theorem putAll_append_singleton (items added : List A) (item : A) :
    putAll id items (added ++ [item]) = put id item (putAll id items added) :=
  List.foldl_concat ..

theorem mem_putAll_id {found : A} {items added : List A} :
    found ∈ putAll id items added ↔ found ∈ items ∨ found ∈ added := by
  induction added using List.reverseRecOn with
  | nil => exact (or_iff_left List.not_mem_nil).symm
  | append_singleton added item inductionHypothesis =>
    rw [putAll_append_singleton, List.mem_append, List.mem_singleton, ← or_assoc,
      ← inductionHypothesis]
    by_cases member : item ∈ putAll id items added
    · rw [put_id_of_mem member]
      exact ⟨.inl, fun either => either.elim id fun same => same ▸ member⟩
    · rw [put_of_fresh id (by rwa [List.map_id]), List.mem_append, List.mem_singleton]

theorem putAll_map_putAll (function next : A → A) (items : List A) :
    putAll id [] ((putAll id [] (items.map function)).map next) =
      putAll id [] (items.map (next ∘ function)) := by
  induction items using List.reverseRecOn with
  | nil => rfl
  | append_singleton items item inductionHypothesis =>
    rw [List.map_append, List.map_singleton, putAll_append_singleton, List.map_append,
      List.map_singleton, putAll_append_singleton, ← inductionHypothesis]
    by_cases member : function item ∈ putAll id [] (items.map function)
    · rw [put_id_of_mem member, put_id_of_mem]
      exact mem_putAll_id.mpr (.inr (List.mem_map_of_mem member))
    · rw [put_of_fresh id (by rwa [List.map_id]), List.map_append, List.map_singleton,
        putAll_append_singleton]
      rfl

end Distinct

end Keyed

namespace Value

/-! ### Sets -/

/-- The elements of a set with its elements replaced are such that replacing them once more gives
what both functions at once give. -/
theorem exists_setElements_setLike {target : Value} {parts : List Value}
    (found : target.setElements? = some parts) (function next : Value → Value) :
    ∃ kept, (target.setLike (parts.map function)).setElements? = some kept ∧
      (target.setLike (parts.map function)).setLike (kept.map next) =
        target.setLike (parts.map (next ∘ function)) := by
  unfold setElements? at found
  split at found
  · split at found
    · cases found
      have ascending : Keyed.Ascending id (Keyed.insertAll id [] (parts.map function)) :=
        Keyed.ascending_insertAll id _ .nil
      refine ⟨_, if_pos ascending, congrArg (tree .orderedSet) ?_⟩
      exact Keyed.insertAll_map_insertAll function next parts
    · cases found
  · split at found
    · cases found
      have distinct : Keyed.Distinct id (Keyed.putAll id [] (parts.map function)) :=
        Keyed.distinct_putAll id _ .nil
      refine ⟨_, if_pos distinct, congrArg (tree .hashedSet) ?_⟩
      exact Keyed.putAll_map_putAll function next parts
    · cases found
  · cases found

/-- A set that is collected like another one is of the same kind and has the items as its
elements, each of them once. -/
theorem exists_parts_setLike {target : Value} {parts : List Value}
    (found : target.setElements? = some parts) (items : List Value) :
    ∃ label kept, target = .tree label parts ∧ target.setLike items = .tree label kept ∧
      (target.setLike items).setElements? = some kept ∧ kept.Nodup ∧
      ∀ item, item ∈ kept ↔ item ∈ items := by
  unfold setElements? at found
  split at found
  · split at found
    · cases found
      have ascending : Keyed.Ascending id (Keyed.insertAll id [] items) :=
        Keyed.ascending_insertAll id _ .nil
      refine ⟨.orderedSet, _, rfl, rfl, if_pos ascending, ascending.nodup, fun item => ?_⟩
      exact Keyed.mem_insertAll_id.trans (or_iff_right List.not_mem_nil)
    · cases found
  · split at found
    · cases found
      have distinct : Keyed.Distinct id (Keyed.putAll id [] items) :=
        Keyed.distinct_putAll id _ .nil
      refine ⟨.hashedSet, _, rfl, rfl, if_pos distinct, ?_, fun item => ?_⟩
      · rwa [Keyed.Distinct, List.map_id] at distinct
      · exact Keyed.mem_putAll_id.trans (or_iff_right List.not_mem_nil)
    · cases found
  · cases found

/-! ### Maps -/

/-- The entries with their values replaced. -/
def replaceValues (function : Value → Value) (pairs : List (Value × Value)) :
    List (Value × Value) :=
  pairs.map fun pair => (pair.1, function pair.2)

variable (function next : Value → Value) (pairs : List (Value × Value))

theorem map_fst_replaceValues : (replaceValues function pairs).map (·.1) = pairs.map (·.1) := by
  rw [replaceValues, List.map_map]
  rfl

theorem map_snd_replaceValues :
    (replaceValues function pairs).map (·.2) = (pairs.map (·.2)).map function := by
  rw [replaceValues, List.map_map, List.map_map]
  rfl

theorem replaceValues_replaceValues :
    replaceValues next (replaceValues function pairs) = replaceValues (next ∘ function) pairs :=
  List.map_map

/-- Every key has the replacement of the value that it had. -/
theorem lookup_replaceValues (key : Value) :
    (replaceValues function pairs).lookup key = (pairs.lookup key).map function := by
  induction pairs with
  | nil => rfl
  | cons pair rest inductionHypothesis =>
    rw [replaceValues, List.map_cons, List.lookup_cons, List.lookup_cons]
    cases key == pair.1 with
    | true => rfl
    | false => exact inductionHypothesis

theorem allEntries?_map_entry : allEntries? (pairs.map entry) = some pairs := by
  induction pairs with
  | nil => rfl
  | cons pair rest inductionHypothesis =>
    rw [List.map_cons, allEntries?, inductionHypothesis]
    rfl

variable {pairs} {target : Value}

/-- Only the kind of a map matters to what is collected like it. -/
theorem mapLike_mapLike (found : target.mapEntries? = some pairs)
    (others last : List (Value × Value)) :
    (target.mapLike others).mapLike last = target.mapLike last := by
  unfold mapEntries? at found
  split at found
  · rfl
  · rfl
  · cases found

/-- Entries with the keys of a map are collected like it as they are. -/
theorem exists_label_mapLike (found : target.mapEntries? = some pairs)
    {others : List (Value × Value)} (sameKeys : others.map (·.1) = pairs.map (·.1)) :
    ∃ label, target = .tree label (pairs.map entry) ∧
      target.mapLike others = .tree label (others.map entry) ∧
      (target.mapLike others).mapEntries? = some others := by
  unfold mapEntries? at found
  split at found
  · obtain ⟨entries, ascending⟩ := Option.filter_eq_some_iff.mp found
    have keys : Keyed.Ascending id (pairs.map (·.1)) :=
      List.pairwise_map.mpr (of_decide_eq_true ascending)
    rw [← sameKeys] at keys
    have kept : Keyed.Ascending Prod.fst others := List.pairwise_map.mp keys
    have collected := ofOrderedMap_ofList kept
    refine ⟨.orderedMap, ?_, collected, ?_⟩
    · rw [map_entry_of_allEntries? entries]
    · show (ofOrderedMap (.ofList others)).mapEntries? = _
      rw [collected, mapEntries?, allEntries?_map_entry]
      exact Option.filter_eq_some_iff.mpr ⟨rfl, decide_eq_true kept⟩
  · obtain ⟨entries, distinct⟩ := Option.filter_eq_some_iff.mp found
    have keys : (pairs.map (·.1)).Nodup := of_decide_eq_true distinct
    have kept : Keyed.Distinct Prod.fst others := by
      rwa [Keyed.Distinct, sameKeys]
    have collected := ofHashedMap_ofList kept
    refine ⟨.hashedMap, ?_, collected, ?_⟩
    · rw [map_entry_of_allEntries? entries]
    · show (ofHashedMap (.ofList others)).mapEntries? = _
      rw [collected, mapEntries?, allEntries?_map_entry]
      exact Option.filter_eq_some_iff.mpr ⟨rfl, decide_eq_true kept⟩
  · cases found

/-- The entries of a map with its values replaced are its entries with their values replaced. -/
theorem mapEntries_mapLike (found : target.mapEntries? = some pairs) :
    (target.mapLike (replaceValues function pairs)).mapEntries? =
      some (replaceValues function pairs) := by
  have sameKeys := map_fst_replaceValues function pairs
  obtain ⟨_, -, -, entries⟩ := exists_label_mapLike found sameKeys
  exact entries

/-- No key of a map occurs twice. -/
theorem nodup_keys (found : target.mapEntries? = some pairs) : (pairs.map (·.1)).Nodup := by
  unfold mapEntries? at found
  split at found
  · obtain ⟨-, ascending⟩ := Option.filter_eq_some_iff.mp found
    have keys : Keyed.Ascending id (pairs.map (·.1)) :=
      List.pairwise_map.mpr (of_decide_eq_true ascending)
    exact keys.nodup
  · obtain ⟨-, distinct⟩ := Option.filter_eq_some_iff.mp found
    exact of_decide_eq_true distinct
  · cases found

end Value

end Fieldwise
