/-
This file holds collections: sequences that differ from lists only in kind, and sets and maps, of
which the ordered ones are kept ascending and the hashed ones in the order in which their entries
came. Sets and maps are lists of entries that are found by a key. No key occurs twice in them, and an
entry whose key is already there takes the place of the old one.
-/

namespace Fieldwise

/-! ### Sequences -/

/-- A queue with two ends, front first. -/
structure Deque (A : Type) where
  toList : List A
deriving DecidableEq, Repr, Inhabited

/-- A linked list, front first. -/
structure LinkedList (A : Type) where
  toList : List A
deriving DecidableEq, Repr, Inhabited

/-- The number of values does not fit the number of slots. -/
structure SlotMismatch where
  values : Nat
  slots : Nat
deriving DecidableEq, Repr, Inhabited

/-- The wording of a mismatch. No traversal gives rise to one. -/
def SlotMismatch.message (mismatch : SlotMismatch) : String :=
  "internal error: entered unreachable code: array traversal produced " ++
    toString mismatch.values ++ " values for " ++ toString mismatch.slots ++ " slots"

/-- The array that the values fill, if there is one value for each slot. -/
def collectArray {A : Type} (slots : Nat) (values : List A) :
    Except SlotMismatch (Vector A slots) :=
  if fits : values.length = slots then .ok ⟨values.toArray, by simpa using fits⟩
  else .error ⟨values.length, slots⟩

namespace Keyed

/-! ### Entries ascending by key -/

section Ascending

variable {Entry Key : Type} [Ord Key] (key : Entry → Key)

/-- Every key is less than all keys after it. -/
def Ascending (entries : List Entry) : Prop :=
  entries.Pairwise fun low high => compare (key low) (key high) = .lt

instance (entries : List Entry) : Decidable (Ascending key entries) :=
  inferInstanceAs (Decidable (entries.Pairwise _))

/-- Puts an entry where its key belongs. -/
def insert (entry : Entry) : List Entry → List Entry
  | [] => [entry]
  | head :: rest =>
    match compare (key entry) (key head) with
    | .lt => entry :: head :: rest
    | .eq => entry :: rest
    | .gt => head :: insert entry rest

theorem mem_of_mem_insert {entry found : Entry} : ∀ {entries : List Entry},
    found ∈ insert key entry entries → found = entry ∨ found ∈ entries
  | [], member => .inl (List.mem_singleton.mp member)
  | head :: rest, member => by
    rw [insert] at member
    split at member
    · exact (List.mem_cons.mp member).imp_right fun later => later
    · exact (List.mem_cons.mp member).imp_right fun later => List.mem_cons_of_mem _ later
    · rcases List.mem_cons.mp member with first | later
      · exact .inr (first ▸ List.mem_cons_self)
      · exact (mem_of_mem_insert later).imp_right fun old => List.mem_cons_of_mem _ old

/-- Inserting keeps the keys ascending. -/
theorem ascending_insert [Std.TransOrd Key] [Std.LawfulEqOrd Key] (entry : Entry) :
    ∀ {entries : List Entry}, Ascending key entries → Ascending key (insert key entry entries)
  | [], _ => List.pairwise_singleton _ _
  | head :: rest, ascending => by
    obtain ⟨above, ascendingRest⟩ := List.pairwise_cons.mp ascending
    rw [insert]
    split
    · rename_i less
      refine List.pairwise_cons.mpr ⟨fun later member => ?_, ascending⟩
      rcases List.mem_cons.mp member with first | member
      · exact first ▸ less
      · exact Std.TransCmp.lt_trans less (above later member)
    · rename_i same
      refine List.pairwise_cons.mpr ⟨fun later member => ?_, ascendingRest⟩
      rw [Std.LawfulEqCmp.eq_of_compare same]
      exact above later member
    · rename_i greater
      refine List.pairwise_cons.mpr ⟨fun later member => ?_, ascending_insert entry ascendingRest⟩
      rcases mem_of_mem_insert key member with first | member
      · exact first ▸ Std.OrientedCmp.lt_of_gt greater
      · exact above later member

/-- Puts entries where their keys belong, one after the other. -/
def insertAll (entries : List Entry) (added : List Entry) : List Entry :=
  added.foldl (fun before entry => insert key entry before) entries

theorem ascending_insertAll [Std.TransOrd Key] [Std.LawfulEqOrd Key] (added : List Entry) :
    ∀ {entries : List Entry},
      Ascending key entries → Ascending key (insertAll key entries added) := by
  induction added with
  | nil => exact id
  | cons entry rest inductionHypothesis =>
    exact fun ascending => inductionHypothesis (ascending_insert key entry ascending)

end Ascending

/-! ### Entries in the order of arrival -/

section Distinct

variable {Entry Key : Type} [DecidableEq Key] (key : Entry → Key)

/-- No key occurs twice. -/
def Distinct (entries : List Entry) : Prop := (entries.map key).Nodup

instance (entries : List Entry) : Decidable (Distinct key entries) :=
  inferInstanceAs (Decidable (List.Nodup _))

/-- Puts an entry in the place of the one with its key, or else at the end. -/
def put (entry : Entry) : List Entry → List Entry
  | [] => [entry]
  | head :: rest => if key head = key entry then entry :: rest else head :: put entry rest

theorem key_mem_of_mem_put {entry : Entry} {found : Key} : ∀ {entries : List Entry},
    found ∈ (put key entry entries).map key → found = key entry ∨ found ∈ entries.map key
  | [], member => .inl (List.mem_singleton.mp member)
  | head :: rest, member => by
    rw [put] at member
    split at member
    · exact (List.mem_cons.mp member).imp_right fun later => List.mem_cons_of_mem _ later
    · rcases List.mem_cons.mp member with first | later
      · exact .inr (first ▸ List.mem_cons_self)
      · exact (key_mem_of_mem_put later).imp_right fun old => List.mem_cons_of_mem _ old

/-- Putting keeps the keys distinct. -/
theorem distinct_put (entry : Entry) : ∀ {entries : List Entry},
    Distinct key entries → Distinct key (put key entry entries)
  | [], _ => List.pairwise_singleton _ _
  | head :: rest, distinct => by
    obtain ⟨fresh, distinctRest⟩ := List.nodup_cons.mp distinct
    rw [put]
    split
    · rename_i same
      exact List.nodup_cons.mpr ⟨same ▸ fresh, distinctRest⟩
    · rename_i different
      refine List.nodup_cons.mpr ⟨fun member => ?_, distinct_put entry distinctRest⟩
      rcases key_mem_of_mem_put key member with same | member
      · exact different same
      · exact fresh member

/-- Puts entries one after the other. -/
def putAll (entries : List Entry) (added : List Entry) : List Entry :=
  added.foldl (fun before entry => put key entry before) entries

theorem distinct_putAll (added : List Entry) : ∀ {entries : List Entry},
    Distinct key entries → Distinct key (putAll key entries added) := by
  induction added with
  | nil => exact id
  | cons entry rest inductionHypothesis =>
    exact fun distinct => inductionHypothesis (distinct_put key entry distinct)

end Distinct

end Keyed

/-! ### Sets -/

/-- A set whose elements are in ascending order, so two sets with the same elements are the same. -/
structure OrderedSet (A : Type) [Ord A] where
  toList : List A
  ascending : Keyed.Ascending id toList

namespace OrderedSet

variable {A : Type} [Ord A]

/-- The set without elements. -/
def empty : OrderedSet A := ⟨[], .nil⟩

instance : Inhabited (OrderedSet A) := ⟨empty⟩

instance [DecidableEq A] : DecidableEq (OrderedSet A) := fun first second =>
  decidable_of_iff (first.toList = second.toList) ⟨fun same => by
    cases first
    cases second
    cases same
    rfl, congrArg toList⟩

variable [Std.TransOrd A] [Std.LawfulEqOrd A]

/-- The set with more elements. -/
def insertAll (set : OrderedSet A) (items : List A) : OrderedSet A :=
  ⟨Keyed.insertAll id set.toList items, Keyed.ascending_insertAll id items set.ascending⟩

/-- The set of the items. -/
def ofList (items : List A) : OrderedSet A := empty.insertAll items

/-- The elements of both sets. -/
def union (first second : OrderedSet A) : OrderedSet A := first.insertAll second.toList

end OrderedSet

/-- A set whose elements are in the order in which it is iterated. The order is its own and says
nothing about the elements; here it is the order in which they came. Two hashed sets are equal when
they have the same elements. -/
structure HashedSet (A : Type) [DecidableEq A] where
  toList : List A
  distinct : Keyed.Distinct id toList

namespace HashedSet

variable {A : Type} [DecidableEq A]

/-- The set without elements. -/
def empty : HashedSet A := ⟨[], .nil⟩

instance : Inhabited (HashedSet A) := ⟨empty⟩

/-- Whether all elements of the first set are in the second. -/
def isSubset (first second : HashedSet A) : Bool := first.toList.all (second.toList.contains ·)

instance : BEq (HashedSet A) := ⟨fun first second => first.isSubset second && second.isSubset first⟩

/-- The set with more elements. -/
def insertAll (set : HashedSet A) (items : List A) : HashedSet A :=
  ⟨Keyed.putAll id set.toList items, Keyed.distinct_putAll id items set.distinct⟩

/-- The set of the items. -/
def ofList (items : List A) : HashedSet A := empty.insertAll items

/-- The elements of both sets. -/
def union (first second : HashedSet A) : HashedSet A := first.insertAll second.toList

end HashedSet

/-! ### Maps -/

/-- A map whose entries are in ascending order of their keys. Of two entries with one key the later
one stays. -/
structure OrderedMap (K V : Type) [Ord K] where
  toList : List (K × V)
  ascending : Keyed.Ascending Prod.fst toList

namespace OrderedMap

variable {K V : Type} [Ord K] [Std.TransOrd K] [Std.LawfulEqOrd K]

/-- The map of the entries. -/
def ofList (entries : List (K × V)) : OrderedMap K V :=
  ⟨Keyed.insertAll Prod.fst [] entries, Keyed.ascending_insertAll Prod.fst entries .nil⟩

/-- The value of a key. -/
def get? (map : OrderedMap K V) [DecidableEq K] (key : K) : Option V := map.toList.lookup key

end OrderedMap

/-- A map whose entries are in the order in which it is iterated, here the order in which the keys
came. Of two entries with one key the later one stays. -/
structure HashedMap (K V : Type) [DecidableEq K] where
  toList : List (K × V)
  distinct : Keyed.Distinct Prod.fst toList

namespace HashedMap

variable {K V : Type} [DecidableEq K]

/-- The map of the entries. -/
def ofList (entries : List (K × V)) : HashedMap K V :=
  ⟨Keyed.putAll Prod.fst [] entries, Keyed.distinct_putAll Prod.fst entries .nil⟩

/-- The value of a key. -/
def get? (map : HashedMap K V) (key : K) : Option V := map.toList.lookup key

end HashedMap

end Fieldwise
