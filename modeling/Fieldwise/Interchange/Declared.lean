/-
This file exchanges values of declared types. The type says of what kind a collection is
and which fields an aggregate has; a type that is neither of a known kind nor one of the
given aggregates holds plain values.
-/

import Fieldwise.Aggregate.Basic
import Fieldwise.Interchange.Coded
import Fieldwise.Value.Collection

namespace Fieldwise

/-! ### Types -/

namespace TypeExpression

/-- The type of the parts at a position: the element of an array, or an argument. A type
without arguments holds parts of itself. -/
def partType (type : TypeExpression) (index : Nat) : TypeExpression :=
  match type with
  | .array element _ => element
  | .parameterized _ arguments => arguments.getD index type
  | _ => type

/-- The name of the type without its path, or no name at all. -/
def shortName (type : TypeExpression) : String :=
  ((type.name?.bind (·.names.getLast?)).map (·.text)).getD ""

/-- The aggregate that the type names. -/
def aggregate? (type : TypeExpression) (aggregates : List Aggregate) : Option Aggregate :=
  aggregates.find? (·.name.text == type.shortName)

end TypeExpression

/-- The kind of sequence or set that a type name stands for. -/
def sequenceLabels : List (String × Label) := [
  ("Vec", .list), ("VecDeque", .deque), ("LinkedList", .linkedList),
  ("BTreeSet", .orderedSet), ("HashSet", .hashedSet)]

/-- The forms that carry something: their names, their labels, and which type argument is
that of what they carry. -/
def forms : List (String × Label × Nat) := [
  ("Some", .some, 0), ("Ok", .ok, 0), ("Err", .error, 1), ("Left", .left, 0),
  ("Right", .right, 1), ("Invalid", .invalid, 0), ("Valid", .valid, 1)]

/-- The types that have forms. -/
def formTypes : List String := ["Option", "Result", "Either", "Validated"]

namespace Value

/-! ### Reading -/

/-- Items as a sequence or set of a kind. -/
def ofItems (items : List Value) : Label → Value
  | .orderedSet => .ofOrderedSet (.ofList items)
  | .hashedSet => .ofHashedSet (.ofList items)
  | label => .tree label items

/-- The documents of an aggregate's fields, in declared order. -/
def fieldDocuments? (aggregate : Aggregate) (document : Document) : Option (List Document) :=
  match aggregate.style with
  | .tuple => (Coded.items document).filter (·.length = aggregate.fields.length)
  | _ => aggregate.fields.mapM fun field => document.get? field.name.display

/-- Reads a value of a type. The first argument bounds the depth of the document. -/
def decodeAs (aggregates : List Aggregate) : Nat → TypeExpression → Document → Option Value
  | 0, _, _ => none
  | depth + 1, type, document =>
    let part (index : Nat) : Document → Option Value :=
      decodeAs aggregates depth (type.partType index)
    let parts : Option (List Value) := (Coded.items document).bind (Coded.decodeEach (part 0))
    let pair : Document → Option (Value × Value)
      | .array [key, content] => (decode key).bind fun key => (part 1 content).map ((key, ·))
      | _ => none
    let pairs : Option (List (Value × Value)) :=
      (Coded.items document).bind (Coded.decodeEach pair)
    match type, type.shortName with
    | .array _ _, _ => parts.map (.tree .array)
    | _, "BTreeMap" => pairs.map fun pairs => .ofOrderedMap (.ofList pairs)
    | _, "HashMap" => pairs.map fun pairs => .ofHashedMap (.ofList pairs)
    | _, "Box" => (part 0 document).map (.tree .boxed [·])
    | _, "Reverse" => (part 0 document).map (.tree .reversed [·])
    | _, name =>
      match sequenceLabels.lookup name with
      | some label => parts.map (ofItems · label)
      | none =>
        if formTypes.contains name then
          match document, Coded.untagged document with
          | .text "None", _ => some (.tree .none [])
          | _, some (form, content) =>
            (forms.lookup form).bind fun (label, index) =>
              (part index content).map (.tree label [·])
          | _, none => none
        else
          match type.aggregate? aggregates with
          | some aggregate =>
            (fieldDocuments? aggregate document).bind fun documents =>
              ((aggregate.fields.zip documents).mapM fun (pair : Field × Document) =>
                decodeAs aggregates depth pair.1.shape pair.2).map (.tree .record)
          | none => decode document

/-! ### Writing -/

/-- Parts in ascending order. -/
def ascending (parts : List Value) : List Value :=
  parts.mergeSort fun first second => (compare first second).isLE

/-- The parts in the order in which they are written: those of hashed collections
ascend. -/
def writtenOrder (parts : List Value) : Label → List Value
  | .hashedSet => ascending parts
  | .hashedMap => ascending parts
  | _ => parts

/-- An aggregate's fields as a document. -/
def fieldsDocument (aggregate : Aggregate) (documents : List Document) : Document :=
  match aggregate.style with
  | .tuple => .array documents
  | _ => .object ((aggregate.fields.map (·.name.display)).zip documents)

/-- Writes a value of a type. The first argument bounds the depth of the value. -/
def encodeAs (aggregates : List Aggregate) : Nat → TypeExpression → Value → Document
  | 0, _, value => encode value
  | depth + 1, type, .tree label parts =>
    let part (index : Nat) : Value → Document := encodeAs aggregates depth (type.partType index)
    let ordered := writtenOrder parts label
    match label, parts with
    | .none, _ => .text "None"
    | .entry, [key, content] => .array [encode key, part 1 content]
    | .boxed, [content] => part 0 content
    | .reversed, [content] => part 0 content
    | .orderedMap, _ => .array (ordered.map (encodeAs aggregates depth type))
    | .hashedMap, _ => .array (ordered.map (encodeAs aggregates depth type))
    | .record, _ =>
      match type.aggregate? aggregates with
      | some aggregate => fieldsDocument aggregate
          ((aggregate.fields.zip parts).map fun (pair : Field × Value) =>
            encodeAs aggregates depth pair.1.shape pair.2)
      | none => encode (tree label parts)
    | _, _ =>
      match forms.find? (·.2.1 = label), parts with
      | some (form, _, index), [content] => Coded.tagged form (part index content)
      | _, _ => .array (ordered.map (part 0))
  | _, _, value => encode value

mutual

/-- How deeply parts are nested in a value. -/
def depth : Value → Nat
  | .tree _ parts => depthAll parts + 1
  | _ => 0

/-- How deeply parts are nested in any of the values. -/
def depthAll : List Value → Nat
  | [] => 0
  | value :: rest => max value.depth (depthAll rest)

end

end Value

/-- Reads a value of a type. -/
def TypeExpression.decode (type : TypeExpression) (aggregates : List Aggregate)
    (document : Document) : Option Value :=
  Value.decodeAs aggregates (2 * document.depth + 2) type document

/-- Writes a value of a type. -/
def TypeExpression.encode (type : TypeExpression) (aggregates : List Aggregate)
    (value : Value) : Document :=
  Value.encodeAs aggregates (value.depth + 1) type value

end Fieldwise
