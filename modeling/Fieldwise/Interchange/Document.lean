/-
This file holds documents, the data that is exchanged as text, and writes them: no
blanks, texts in double quotes with the shortest escapes, and control characters by
their codes.
-/

namespace Fieldwise

/-- A document. -/
inductive Document where
  | null
  | boolean (flag : Bool)
  | integer (number : Int)
  /-- A number that is not written as an integer, as it is written. -/
  | decimal (spelling : String)
  | text (content : String)
  | array (items : List Document)
  /-- Fields in the order in which they are written; names may repeat. -/
  | object (fields : List (String × Document))
deriving Repr, Inhabited

namespace Document

/-! ### Texts -/

/-- Two digits in base sixteen, in lower case. -/
def twoDigits (number : Nat) : String :=
  String.ofList [Nat.digitChar (number / 16 % 16), Nat.digitChar (number % 16)]

/-- One character as it stands between double quotes. -/
def escapedCharacter (character : Char) : String :=
  if character = '"' then "\\\""
  else if character = '\\' then "\\\\"
  else if character = '\n' then "\\n"
  else if character = '\r' then "\\r"
  else if character = '\t' then "\\t"
  else if character = '\x08' then "\\b"
  else if character = '\x0c' then "\\f"
  else if character.toNat < 32 then "\\u00" ++ twoDigits character.toNat
  else character.toString

/-- A text between double quotes. -/
def quotedText (content : String) : String :=
  "\"" ++ String.join (content.toList.map escapedCharacter) ++ "\""

/-! ### Documents -/

mutual

/-- A document as text. -/
def write : Document → String
  | .null => "null"
  | .boolean flag => if flag then "true" else "false"
  | .integer number => toString number
  | .decimal spelling => spelling
  | .text content => quotedText content
  | .array items => "[" ++ ",".intercalate (writeItems items) ++ "]"
  | .object fields => "\x7b" ++ ",".intercalate (writeFields fields) ++ "\x7d"

/-- Each item of an array as text. -/
def writeItems : List Document → List String
  | [] => []
  | item :: rest => item.write :: writeItems rest

/-- Each field of an object as text. -/
def writeFields : List (String × Document) → List String
  | [] => []
  | (name, item) :: rest => (quotedText name ++ ":" ++ item.write) :: writeFields rest

end

/-! ### Fields -/

/-- What the first field with a name holds, if the document is an object with one. -/
def get? : Document → String → Option Document
  | .object fields, name => fields.lookup name
  | _, _ => none

/-! ### Depth -/

mutual

/-- How deeply items are nested in a document. -/
def depth : Document → Nat
  | .array items => depthItems items + 1
  | .object fields => depthFields fields + 1
  | _ => 0

/-- How deeply items are nested in any of the documents. -/
def depthItems : List Document → Nat
  | [] => 0
  | item :: rest => max item.depth (depthItems rest)

/-- How deeply items are nested in any of the fields. -/
def depthFields : List (String × Document) → Nat
  | [] => 0
  | (_, item) :: rest => max item.depth (depthFields rest)

end

end Document

end Fieldwise
