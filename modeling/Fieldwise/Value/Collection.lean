/-
This file sees values as collections. The elements of a collection come in the order in
which it is iterated; a tree whose parts no collection of its kind could hold has no
elements. Items are collected into a value of the same kind.
-/

import Fieldwise.Collection
import Fieldwise.Value.Order

namespace Fieldwise.Value

/-! ### Sets -/

/-- An ordered set as a value. -/
def ofOrderedSet (set : OrderedSet Value) : Value := .tree .orderedSet set.toList

/-- A hashed set as a value. -/
def ofHashedSet (set : HashedSet Value) : Value := .tree .hashedSet set.toList

/-- The elements of a set. -/
def setElements? : Value → Option (List Value)
  | .tree .orderedSet parts => if Keyed.Ascending id parts then some parts else none
  | .tree .hashedSet parts => if Keyed.Distinct id parts then some parts else none
  | _ => none

/-- Items as a set of the same kind as another. -/
def setLike (model : Value) (items : List Value) : Value :=
  match model with
  | .tree .orderedSet _ => ofOrderedSet (.ofList items)
  | _ => ofHashedSet (.ofList items)

/-! ### Maps -/

/-- A key with its value. -/
def entry (pair : Value × Value) : Value := .tree .entry [pair.1, pair.2]

/-- The key and the value of an entry. -/
def entry? : Value → Option (Value × Value)
  | .tree .entry [key, value] => some (key, value)
  | _ => none

/-- An ordered map as a value. -/
def ofOrderedMap (map : OrderedMap Value Value) : Value := .tree .orderedMap (map.toList.map entry)

/-- A hashed map as a value. -/
def ofHashedMap (map : HashedMap Value Value) : Value := .tree .hashedMap (map.toList.map entry)

/-- The entries among values, if all are entries. -/
def allEntries? : List Value → Option (List (Value × Value))
  | [] => some []
  | part :: rest =>
    match entry? part, allEntries? rest with
    | some pair, some pairs => some (pair :: pairs)
    | _, _ => none

/-- The entries of a map. -/
def mapEntries? : Value → Option (List (Value × Value))
  | .tree .orderedMap parts =>
    (allEntries? parts).filter fun pairs => Keyed.Ascending Prod.fst pairs
  | .tree .hashedMap parts =>
    (allEntries? parts).filter fun pairs => Keyed.Distinct Prod.fst pairs
  | _ => none

/-- Entries as a map of the same kind as another. -/
def mapLike (model : Value) (pairs : List (Value × Value)) : Value :=
  match model with
  | .tree .orderedMap _ => ofOrderedMap (.ofList pairs)
  | _ => ofHashedMap (.ofList pairs)

end Fieldwise.Value
