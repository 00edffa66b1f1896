/-
This file writes texts between double quotes and reads them back. A quote and a backslash
get a backslash before them, the usual control characters have short escapes, and a
character that would not be shown is written by its code. The value of a string literal
is the text between its quotes with the escapes resolved; a suffix may follow them.
-/

import Fieldwise.Token.Literal
import Fieldwise.Unicode.Visible

namespace Fieldwise.Text

/-! ### Writing literals -/

/-- The digits of a number in base sixteen, in lower case. -/
def hexadecimalText (number : Nat) : String := String.ofList (Nat.toDigits 16 number)

/-- One character as it stands between double quotes. -/
def escaped (character : Char) : String :=
  if character = '\x00' then "\\0"
  else if character = '\t' then "\\t"
  else if character = '\r' then "\\r"
  else if character = '\n' then "\\n"
  else if character = '\\' then "\\\\"
  else if character = '"' then "\\\""
  else if Unicode.isVisible character then character.toString
  else "\\u\x7b" ++ hexadecimalText character.toNat ++ "\x7d"

/-- A text between double quotes. -/
def quoted (text : String) : String :=
  "\"" ++ String.join (text.toList.map escaped) ++ "\""

/-- Whether the text goes on with a digit below eight. -/
def startsOctal : List Char → Bool
  | character :: _ => '0' ≤ character && character ≤ '7'
  | [] => false

/-- The characters of a string literal's content. A zero character before an octal digit
is written in two digits, so that it is not read together with what follows. -/
def literalContent : List Char → String
  | [] => ""
  | character :: rest =>
    (if character = '\x00' && startsOctal rest then "\\x00" else escaped character) ++
      literalContent rest

/-- A string literal whose value is the text. -/
def stringLiteral (text : String) : String := "\"" ++ literalContent text.toList ++ "\""

/-! ### Reading literals -/

/-- The value of the content of a literal up to its closing quote, and what follows it. A
backslash at the end of a line drops the line end and the blanks after it. The first
argument bounds the number of characters. -/
def cookedValue : Nat → List Char → Option (List Char × List Char)
  | 0, _ => none
  | _, [] => none
  | _ + 1, '"' :: rest => some ([], rest)
  | bound + 1, '\r' :: '\n' :: rest => continueWith '\n' (cookedValue bound rest)
  | bound + 1, '\\' :: 'x' :: first :: second :: rest =>
    continueWith
      (Char.ofNat (Literal.hexadecimalValue first * 16 + Literal.hexadecimalValue second))
      (cookedValue bound rest)
  | bound + 1, '\\' :: 'u' :: rest =>
    match Literal.unicodeCode rest with
    | some (code, rest) => continueWith (Char.ofNat code) (cookedValue bound rest)
    | none => none
  | bound + 1, '\\' :: 'n' :: rest => continueWith '\n' (cookedValue bound rest)
  | bound + 1, '\\' :: 'r' :: rest => continueWith '\r' (cookedValue bound rest)
  | bound + 1, '\\' :: 't' :: rest => continueWith '\t' (cookedValue bound rest)
  | bound + 1, '\\' :: '0' :: rest => continueWith '\x00' (cookedValue bound rest)
  | bound + 1, '\\' :: character :: rest =>
    if character = '\n' || character = '\r' then
      match Literal.afterLineEnd (character :: rest) with
      | some rest => cookedValue bound rest
      | none => none
    else continueWith character (cookedValue bound rest)
  | bound + 1, character :: rest => continueWith character (cookedValue bound rest)
where
  continueWith (character : Char) :
      Option (List Char × List Char) → Option (List Char × List Char)
    | some (value, rest) => some (character :: value, rest)
    | none => none

/-- The value of the content of a raw literal with the given number signs around it, and
what follows them. -/
def rawValue (signs : List Char) : List Char → Option (List Char × List Char)
  | [] => none
  | character :: rest =>
    match if character = '"' then Literal.dropExact signs rest else none with
    | some following => some ([], following)
    | none => (rawValue signs rest).map fun (value, following) => (character :: value, following)

/-- The value of a string literal and its suffix. Literals of other kinds have none. -/
def unquoted? (literal : String) : Option (String × String) :=
  let result :=
    match literal.toList with
    | '"' :: rest => cookedValue (rest.length + 1) rest
    | 'r' :: rest =>
      match rest.dropWhile (· = '#') with
      | '"' :: content => rawValue (rest.takeWhile (· = '#')) content
      | _ => none
    | _ => none
  result.map fun (value, suffix) => (String.ofList value, String.ofList suffix)

end Fieldwise.Text
