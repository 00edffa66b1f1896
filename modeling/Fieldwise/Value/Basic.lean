/-
This file holds values, the data that traversals run over. A value is null, a truth
value, a machine integer, a text, or a tree: a label that says of what kind of container
or form the value is, over its parts.
-/

namespace Fieldwise

/-! ### Labels -/

/-- What a tree of values stands for. The forms of one type are in the order in which
they are compared. -/
inductive Label where
  | list
  | array
  | deque
  | linkedList
  | orderedSet
  | hashedSet
  | orderedMap
  | hashedMap
  /-- A key and its value. -/
  | entry
  | none
  | some
  | ok
  | error
  | left
  | right
  | invalid
  | valid
  | boxed
  | reversed
  /-- The fields of an aggregate. -/
  | record
deriving DecidableEq, Repr, Inhabited

/-- The place of a label in the order of labels. -/
def Label.rank : Label → Nat
  | .list => 0
  | .array => 1
  | .deque => 2
  | .linkedList => 3
  | .orderedSet => 4
  | .hashedSet => 5
  | .orderedMap => 6
  | .hashedMap => 7
  | .entry => 8
  | .none => 9
  | .some => 10
  | .ok => 11
  | .error => 12
  | .left => 13
  | .right => 14
  | .invalid => 15
  | .valid => 16
  | .boxed => 17
  | .reversed => 18
  | .record => 19

/-! ### Values -/

/-- A value. -/
inductive Value where
  | null
  | boolean (flag : Bool)
  | integer (number : Int64)
  | text (content : String)
  | tree (label : Label) (parts : List Value)
deriving Repr, Inhabited

namespace Value

/-- A list of values. -/
def list (items : List Value) : Value := .tree .list items

mutual

/-- A value as plain text: texts stand as they are, and parts are in square brackets. -/
def render : Value → String
  | .null => "null"
  | .boolean flag => if flag then "true" else "false"
  | .integer number => toString number.toInt
  | .text content => content
  | .tree _ parts => "[" ++ ",".intercalate (renderAll parts) ++ "]"

/-- Each value as plain text. -/
def renderAll : List Value → List String
  | [] => []
  | value :: rest => value.render :: renderAll rest

end

end Value

end Fieldwise
