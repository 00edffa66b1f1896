/-
This file holds routes: traversals into nested aggregates, made of the traversals over
single fields. A route is written as the name of an aggregate, a dot, and the names of
the fields on the way, with a slash before each further one. Each field belongs to the
type that the fields before it focus on; the fields are put together from the left unless
parentheses say otherwise.
-/

import Fieldwise.Body.Meaning
import Fieldwise.Interchange.Declared
import Fieldwise.Synthesis

namespace Fieldwise

/-! ### Field paths -/

/-- The names of fields, each inside the ones before it. -/
inductive FieldPath where
  | field (name : String)
  | composed (outer inner : FieldPath)
deriving DecidableEq, Repr, Inhabited

namespace FieldPath

/-- Whether a character may stand in the name of a field on a path. -/
def isNameCharacter (character : Char) : Bool := !"./()".toList.contains character

mutual

/-- The field or the path in parentheses at the front of a text, and what follows it. The
first argument bounds the number of steps. -/
def readTerm : Nat → List Char → Option (FieldPath × List Char)
  | 0, _ => none
  | bound + 1, '(' :: rest =>
    match readPath bound rest with
    | some (inner, ')' :: rest) => some (inner, rest)
    | _ => none
  | _ + 1, source =>
    let name := source.takeWhile isNameCharacter
    if name.isEmpty then none
    else some (.field (String.ofList name), source.dropWhile isNameCharacter)

/-- The path at the front of a text, and what follows it. -/
def readPath : Nat → List Char → Option (FieldPath × List Char)
  | 0, _ => none
  | bound + 1, source =>
    match readTerm bound source with
    | some (first, rest) => readMore bound first rest
    | none => none

/-- Goes on with a path after the fields that were read. -/
def readMore : Nat → FieldPath → List Char → Option (FieldPath × List Char)
  | bound + 1, outer, '/' :: rest =>
    match readTerm bound rest with
    | some (inner, rest) => readMore bound (.composed outer inner) rest
    | none => none
  | _, outer, rest => some (outer, rest)

end

/-- The name of the aggregate where a written path starts, and the path. -/
def ofText (source : String) : Option (String × FieldPath) :=
  let opened := source.toList.takeWhile (· = '(')
  let rest := source.toList.dropWhile (· = '(')
  let name := rest.takeWhile isNameCharacter
  match rest.dropWhile isNameCharacter with
  | '.' :: fields =>
    match readPath (2 * source.length + 2) (opened ++ fields) with
    | some (path, []) => some (String.ofList name, path)
    | _ => none
  | _ => none

end FieldPath

/-! ### Routes -/

/-- Traversals over fields, one inside the other. -/
inductive Route where
  | single (definition : Definition)
  | composed (outer inner : Route)

namespace Route

/-- The type of the values that a route focuses on. -/
def focus : Route → TypeExpression
  | .single definition => definition.focus
  | .composed _ inner => inner.focus

/-- The traversal that a route stands for. -/
def traversal? : Route → Option (Traversal Value Value)
  | .single definition => definition.traversal?
  | .composed outer inner =>
    match outer.traversal?, inner.traversal? with
    | some outer, some inner => some (outer.andThen inner)
    | _, _ => none

/-- The route along a path that starts at a type, given the traversals of each type. -/
def ofPath (definitionsOf : TypeExpression → List Definition) (type : TypeExpression) :
    FieldPath → Option Route
  | .field name => ((definitionsOf type).find? (·.field.display == name)).map .single
  | .composed outer inner =>
    match ofPath definitionsOf type outer with
    | some outer => (ofPath definitionsOf outer.focus inner).map (.composed outer)
    | none => none

end Route

/-- The traversals that a registry makes over the fields of a type, if it is one of the
aggregates. -/
def Registry.definitionsOf (registry : Registry) (aggregates : List Aggregate)
    (type : TypeExpression) : List Definition :=
  match type.aggregate? aggregates with
  | some aggregate => ((registry.synthesize aggregate).result .error).definitions
  | none => []

end Fieldwise
