/-
This file reads documents. The form is strict: no comma after the last item, no leading
zeros, no control characters in texts, no halves of character pairs, and nothing but
blanks after the document.
-/

import Fieldwise.Interchange.Document

namespace Fieldwise.Document

/-! ### Texts -/

/-- The value of a digit in base sixteen. -/
def digit? (character : Char) : Option Nat :=
  if character.isDigit then some (character.toNat - '0'.toNat)
  else if 'a' ≤ character ∧ character ≤ 'f' then some (character.toNat - 'a'.toNat + 10)
  else if 'A' ≤ character ∧ character ≤ 'F' then some (character.toNat - 'A'.toNat + 10)
  else none

/-- The number that four digits in base sixteen form. -/
def unit? (first second third fourth : Char) : Option Nat := do
  return (((← digit? first) * 16 + (← digit? second)) * 16 + (← digit? third)) * 16 +
    (← digit? fourth)

/-- Whether the number is the first half of a pair. -/
def isHigh (unit : Nat) : Bool := 0xD800 ≤ unit && unit < 0xDC00

/-- Whether the number is the second half of a pair. -/
def isLow (unit : Nat) : Bool := 0xDC00 ≤ unit && unit < 0xE000

/-- The character of a short escape. -/
def escape? : Char → Option Char
  | '"' => some '"'
  | '\\' => some '\\'
  | '/' => some '/'
  | 'b' => some '\x08'
  | 'f' => some '\x0c'
  | 'n' => some '\n'
  | 'r' => some '\r'
  | 't' => some '\t'
  | _ => none

/-- Puts a character before the text that was read. -/
def onto (character : Char) (read : Option (List Char × List Char)) :
    Option (List Char × List Char) :=
  read.map fun (content, rest) => (character :: content, rest)

/-- The content of a text up to its closing quote, and what follows it. A character that
is escaped by number may take two numbers. -/
def content : List Char → Option (List Char × List Char)
  | [] => none
  | '"' :: rest => some ([], rest)
  | '\\' :: 'u' :: a :: b :: c :: d :: '\\' :: 'u' :: a' :: b' :: c' :: d' :: rest =>
    match unit? a b c d, unit? a' b' c' d' with
    | some first, some second =>
      if isHigh first then
        if isLow second then
          onto (Char.ofNat (0x10000 + (first - 0xD800) * 0x400 + (second - 0xDC00))) (content rest)
        else none
      else if isLow first then none
      else onto (Char.ofNat first) (content ('\\' :: 'u' :: a' :: b' :: c' :: d' :: rest))
    | _, _ => none
  | '\\' :: 'u' :: a :: b :: c :: d :: rest =>
    match unit? a b c d with
    | some unit => if isHigh unit || isLow unit then none else onto (Char.ofNat unit) (content rest)
    | none => none
  | '\\' :: character :: rest =>
    match escape? character with
    | some character => onto character (content rest)
    | none => none
  | character :: rest =>
    if character = '\\' || character.toNat < 32 then none else onto character (content rest)

/-! ### Numbers -/

/-- The digits at the front of a text, and what follows them. -/
def digits (source : List Char) : List Char × List Char :=
  (source.takeWhile Char.isDigit, source.dropWhile Char.isDigit)

/-- What follows the fraction at the front, if there is one; nothing if it has no
digits. -/
def afterFraction : List Char → Option (Bool × List Char)
  | '.' :: rest => if (digits rest).1.isEmpty then none else some (true, (digits rest).2)
  | source => some (false, source)

/-- The text without a sign at its front. -/
def withoutSign : List Char → List Char
  | '+' :: rest => rest
  | '-' :: rest => rest
  | source => source

/-- What follows the exponent at the front, if there is one; nothing if it has no
digits. -/
def afterExponent : List Char → Option (Bool × List Char)
  | character :: rest =>
    if character = 'e' || character = 'E' then
      let (exponent, rest) := digits (withoutSign rest)
      if exponent.isEmpty then none else some (true, rest)
    else some (false, character :: rest)
  | [] => some (false, [])

/-- The number that digits form. -/
def natural (digits : List Char) : Nat :=
  digits.foldl (fun before digit => before * 10 + (digit.toNat - '0'.toNat)) 0

/-- The number at the front of a text. Zero with a sign is no integer. -/
def number (source : List Char) : Option (Document × List Char) :=
  let negative := source.head? == some '-'
  let (whole, rest) := digits (if negative then source.drop 1 else source)
  if whole.isEmpty || (whole.length > 1 && whole.head? == some '0') then none
  else
    match afterFraction rest with
    | none => none
    | some (fraction, rest) =>
      match afterExponent rest with
      | none => none
      | some (exponent, rest) =>
        let size := natural whole
        if fraction || exponent || (negative && size = 0) then
          some (.decimal (String.ofList (source.take (source.length - rest.length))), rest)
        else some (.integer (if negative then -(size : Int) else size), rest)

/-! ### Documents -/

/-- Drops blanks. -/
def skipBlanks (source : List Char) : List Char := source.dropWhile (" \t\n\r".toList.contains ·)

/-- What follows a word at the front of a text. -/
def afterWord (word : String) (source : List Char) : Option (List Char) :=
  if word.toList.isPrefixOf source then some (source.drop word.length) else none

mutual

/-- The document at the front of a text, and what follows it. The first argument bounds
the number of documents and items. -/
def document : Nat → List Char → Option (Document × List Char)
  | 0, _ => none
  | bound + 1, source =>
    match skipBlanks source with
    | '"' :: rest => (content rest).map fun (read, rest) => (.text (String.ofList read), rest)
    | '[' :: rest =>
      match skipBlanks rest with
      | ']' :: rest => some (.array [], rest)
      | rest => (items bound rest).map fun (read, rest) => (.array read, rest)
    | '{' :: rest =>
      match skipBlanks rest with
      | '}' :: rest => some (.object [], rest)
      | rest => (fields bound rest).map fun (read, rest) => (.object read, rest)
    | 'n' :: rest => (afterWord "ull" rest).map ((.null, ·))
    | 't' :: rest => (afterWord "rue" rest).map ((.boolean true, ·))
    | 'f' :: rest => (afterWord "alse" rest).map ((.boolean false, ·))
    | source => number source

/-- The items of an array up to its closing bracket, and what follows it. -/
def items : Nat → List Char → Option (List Document × List Char)
  | 0, _ => none
  | bound + 1, source =>
    match document bound source with
    | none => none
    | some (first, rest) =>
      match skipBlanks rest with
      | ',' :: rest => (items bound rest).map fun (more, rest) => (first :: more, rest)
      | ']' :: rest => some ([first], rest)
      | _ => none

/-- The fields of an object up to its closing brace, and what follows it. -/
def fields : Nat → List Char → Option (List (String × Document) × List Char)
  | 0, _ => none
  | bound + 1, source =>
    match skipBlanks source with
    | '"' :: rest =>
      match content rest with
      | none => none
      | some (name, rest) =>
        match skipBlanks rest with
        | ':' :: rest =>
          match document bound rest with
          | none => none
          | some (first, rest) =>
            match skipBlanks rest with
            | ',' :: rest =>
              (fields bound rest).map fun (more, rest) =>
                ((String.ofList name, first) :: more, rest)
            | '}' :: rest => some ([(String.ofList name, first)], rest)
            | _ => none
        | _ => none
    | _ => none

end

/-- The document that a text is, with nothing but blanks around it. -/
def read (source : String) : Option Document :=
  match document (2 * source.length + 2) source.toList with
  | some (found, rest) => if (skipBlanks rest).isEmpty then some found else none
  | none => none

end Fieldwise.Document
