/-
This file exchanges values as documents. A value with several forms is an object with
one field, named by the form; a form that carries nothing is only its name. Reading is
strict: every document that is read is of the form that is written, but for the spelling
of texts and the order of sets.
-/

import Fieldwise.Interchange.Reader
import Fieldwise.Traverse
import Fieldwise.Value.Order

namespace Fieldwise

/-- Values that are exchanged as documents. -/
class Coded (A : Type) where
  encode : A → Document
  decode : Document → Option A

export Coded (encode decode)

namespace Coded

variable {A B : Type}

/-! ### Helpers -/

/-- The document of a form and what it carries. -/
def tagged (form : String) (content : Document) : Document := .object [(form, content)]

/-- The form and what it carries. -/
def untagged : Document → Option (String × Document)
  | .object [field] => some field
  | _ => none

/-- All items decoded by a function, if each of them can be. -/
def decodeEach (decode : Document → Option A) : List Document → Option (List A)
  | [] => some []
  | item :: rest =>
    match decode item, decodeEach decode rest with
    | some value, some values => some (value :: values)
    | _, _ => none

/-- The items of an array, if the document is one. -/
def items : Document → Option (List Document)
  | .array items => some items
  | _ => none

/-! ### Plain values -/

instance : Coded Unit where
  encode _ := .null
  decode
    | .null => some ()
    | _ => none

instance : Coded Bool where
  encode := .boolean
  decode
    | .boolean flag => some flag
    | _ => none

instance : Coded String where
  encode := .text
  decode
    | .text content => some content
    | _ => none

/-- The integer of sixty-four bits with a value, if there is one. -/
def word? (number : Int) : Option Int64 :=
  if (Int64.ofInt number).toInt = number then some (Int64.ofInt number) else none

instance : Coded Int64 where
  encode number := .integer number.toInt
  decode
    | .integer number => word? number
    | _ => none

mutual

/-- A value as a document; every tree is an array of its parts. -/
def encodeValue : Value → Document
  | .null => .null
  | .boolean flag => .boolean flag
  | .integer number => .integer number.toInt
  | .text content => .text content
  | .tree _ parts => .array (encodeValues parts)

/-- Each value as a document. -/
def encodeValues : List Value → List Document
  | [] => []
  | value :: rest => encodeValue value :: encodeValues rest

end

mutual

/-- The value that a document stands for; every array is a list. -/
def decodeValue : Document → Option Value
  | .null => some .null
  | .boolean flag => some (.boolean flag)
  | .integer number => (word? number).map .integer
  | .text content => some (.text content)
  | .array items => (decodeValues items).map .list
  | .decimal _ => none
  | .object _ => none

/-- The value of each document. -/
def decodeValues : List Document → Option (List Value)
  | [] => some []
  | item :: rest =>
    match decodeValue item, decodeValues rest with
    | some value, some values => some (value :: values)
    | _, _ => none

end

instance : Coded Value := ⟨encodeValue, decodeValue⟩

/-! ### Collections -/

instance [Coded A] : Coded (List A) where
  encode values := .array (values.map encode)
  decode document := (items document).bind (decodeEach decode)

instance [Coded A] : Coded (Deque A) where
  encode deque := encode deque.toList
  decode document := (decode document).map .mk

instance [Coded A] : Coded (LinkedList A) where
  encode linked := encode linked.toList
  decode document := (decode document).map .mk

instance [Coded A] [Ord A] [Std.TransOrd A] [Std.LawfulEqOrd A] : Coded (OrderedSet A) where
  encode set := encode set.toList
  decode document := (decode document).map .ofList

/-- A hashed set is written in ascending order, whatever its own order is. -/
instance [Coded A] [DecidableEq A] [Ord A] [Std.TransOrd A] [Std.LawfulEqOrd A] :
    Coded (HashedSet A) where
  encode set := encode (OrderedSet.ofList set.toList)
  decode document := (decode document).map .ofList

/-! ### Forms -/

instance [Coded A] : Coded (Boxed A) where
  encode box := encode box.content
  decode document := (decode document).map .mk

instance [Coded A] : Coded (Reversed A) where
  encode value := encode value.content
  decode document := (decode document).map .mk

instance [Coded A] : Coded (Option A) where
  encode
    | none => .text "None"
    | some value => tagged "Some" (encode value)
  decode
    | .text "None" => some none
    | document =>
      match untagged document with
      | some ("Some", content) => (decode content).map some
      | _ => none

instance [Coded A] [Coded B] : Coded (Except A B) where
  encode
    | .ok value => tagged "Ok" (encode value)
    | .error error => tagged "Err" (encode error)
  decode document :=
    match untagged document with
    | some ("Ok", content) => (decode content).map .ok
    | some ("Err", content) => (decode content).map .error
    | _ => none

instance [Coded A] [Coded B] : Coded (Either A B) where
  encode
    | .left value => tagged "Left" (encode value)
    | .right value => tagged "Right" (encode value)
  decode document :=
    match untagged document with
    | some ("Left", content) => (decode content).map .left
    | some ("Right", content) => (decode content).map .right
    | _ => none

instance [Coded A] [Coded B] : Coded (Validated A B) where
  encode
    | .invalid evidence => tagged "Invalid" (encode evidence)
    | .valid value => tagged "Valid" (encode value)
  decode document :=
    match untagged document with
    | some ("Invalid", content) => (decode content).map .invalid
    | some ("Valid", content) => (decode content).map .valid
    | _ => none

/-! ### Tuples -/

/-- The items that a tuple is written as; the rest of a longer tuple follows its first
part. -/
class Parts (A : Type) where
  encodeParts : A → List Document
  decodeParts : List Document → Option A

/-- The last part of a tuple. -/
instance (priority := low) [Coded A] : Parts A where
  encodeParts value := [encode value]
  decodeParts
    | [part] => decode part
    | _ => none

instance [Coded A] [Parts B] : Parts (A × B) where
  encodeParts pair := encode pair.1 :: Parts.encodeParts pair.2
  decodeParts
    | first :: rest =>
      match decode first, Parts.decodeParts rest with
      | some value, some values => some (value, values)
      | _, _ => none
    | [] => none

instance [Coded A] [Parts B] : Coded (A × B) where
  encode pair := .array (Parts.encodeParts pair)
  decode document := (items document).bind Parts.decodeParts

end Coded

end Fieldwise
