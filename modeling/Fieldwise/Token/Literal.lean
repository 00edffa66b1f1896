/-
This file recognises literals at the front of a text: strings, byte strings, strings
ended by a zero byte, bytes, characters and numbers. Each recogniser gives what follows
the literal, or nothing if no literal of its kind stands there.
-/

import Fieldwise.Unicode.Identifier

namespace Fieldwise.Literal

/-! ### Pieces of texts -/

/-- The text after the characters of `expected`, if it starts with them. -/
def dropExact : List Char → List Char → Option (List Char)
  | [], text => some text
  | _ :: _, [] => none
  | character :: expected, next :: text =>
    if character = next then dropExact expected text else none

/-- The text after the characters of a word, if it starts with them. -/
def drop (expected : String) (text : List Char) : Option (List Char) :=
  dropExact expected.toList text

/-- Whether the text starts with the characters of a word. -/
def startsWith (expected : String) (text : List Char) : Bool := (drop expected text).isSome

/-- An identifier without `r#`: its text and what follows it. -/
def bareIdentifier : List Char → Option (String × List Char)
  | [] => none
  | first :: rest =>
    if Unicode.startsIdentifier first then
      some (String.ofList (first :: rest.takeWhile Unicode.continuesIdentifier),
        rest.dropWhile Unicode.continuesIdentifier)
    else none

/-- What follows an optional suffix such as `u8`. -/
def afterSuffix (text : List Char) : List Char :=
  match bareIdentifier text with
  | some (_, rest) => rest
  | none => text

/-- The text itself, unless an identifier would go on with its first character. -/
def wordBreak : List Char → Option (List Char)
  | [] => some []
  | character :: rest =>
    if Unicode.continuesIdentifier character then none else some (character :: rest)

/-- Whether the character is a hexadecimal digit. -/
def isHexadecimal (character : Char) : Bool :=
  character.isDigit || ('a' ≤ character && character ≤ 'f') ||
    ('A' ≤ character && character ≤ 'F')

/-- The value of a hexadecimal digit of either case. -/
def hexadecimalValue (character : Char) : Nat :=
  if character.isDigit then character.toNat - '0'.toNat
  else if 'a' ≤ character then character.toNat - 'a'.toNat + 10
  else character.toNat - 'A'.toNat + 10

/-! ### Escapes -/

/-- What follows the two digits of an escape such as `x41`, the first below eight. -/
def afterCharacterCode : List Char → Option (List Char)
  | first :: second :: rest =>
    if '0' ≤ first && first ≤ '7' && isHexadecimal second then some rest else none
  | _ => none

/-- What follows the two digits of an escape such as `xFF`. -/
def afterByteCode : List Char → Option (List Char)
  | first :: second :: rest =>
    if isHexadecimal first && isHexadecimal second then some rest else none
  | _ => none

/-- Goes through the digits between braces, which low lines may separate. -/
def unicodeDigits (value digits : Nat) : List Char → Option (Nat × List Char)
  | [] => none
  | character :: rest =>
    if character = '_' && digits > 0 then unicodeDigits value digits rest
    else if character = '}' then
      if digits > 0 && value.isValidChar then some (value, rest) else none
    else if isHexadecimal character && digits < 6 then
      unicodeDigits (value * 16 + hexadecimalValue character) (digits + 1) rest
    else none

/-- The code point of an escape such as `u` with digits in braces, and what follows. -/
def unicodeCode : List Char → Option (Nat × List Char)
  | '{' :: rest => unicodeDigits 0 0 rest
  | _ => none

/-- Whether the character after a backslash is an escape by itself. -/
def isShortEscape (character : Char) : Bool :=
  ['n', 'r', 't', '\\', Char.ofNat 39, '"', '0'].contains character

/-- What follows the blanks and line ends after a backslash at the end of a line. A
carriage return among them has to be followed by a line feed. -/
def afterLineEnd : List Char → Option (List Char)
  | [] => none
  | '\r' :: '\n' :: rest => afterLineEnd rest
  | '\r' :: _ => none
  | ' ' :: rest => afterLineEnd rest
  | '\t' :: rest => afterLineEnd rest
  | '\n' :: rest => afterLineEnd rest
  | other => some other

/-! ### Quoted literals -/

/-- Which characters and escapes a quoted literal admits. -/
inductive Quoting where
  | characters
  | bytes
  | zeroEnded
deriving DecidableEq, Repr

/-- Whether the character may stand in the literal as itself. -/
def Quoting.admits (quoting : Quoting) (character : Char) : Bool :=
  match quoting with
  | .characters => true
  | .bytes => character.toNat < 128
  | .zeroEnded => character ≠ '\x00'

/-- What follows an escape whose backslash has been read. An escape for the code zero is
none where the literal ends with a zero byte. -/
def Quoting.afterEscape (quoting : Quoting) : List Char → Option (List Char)
  | [] => none
  | 'x' :: rest =>
    match quoting with
    | .characters => afterCharacterCode rest
    | .bytes => afterByteCode rest
    | .zeroEnded => if startsWith "00" rest then none else afterByteCode rest
  | 'u' :: rest =>
    match quoting, unicodeCode rest with
    | .characters, some (_, following) => some following
    | .zeroEnded, some (code, following) => if code = 0 then none else some following
    | _, _ => none
  | character :: rest =>
    if character = '\n' || character = '\r' then afterLineEnd (character :: rest)
    else if isShortEscape character && (quoting ≠ .zeroEnded || character ≠ '0') then some rest
    else none

/-- What follows the closing quote. The first argument bounds the number of characters. -/
def Quoting.afterContent (quoting : Quoting) : Nat → List Char → Option (List Char)
  | 0, _ => none
  | _, [] => none
  | _ + 1, '"' :: rest => some (afterSuffix rest)
  | bound + 1, '\r' :: '\n' :: rest => quoting.afterContent bound rest
  | _ + 1, '\r' :: _ => none
  | bound + 1, '\\' :: rest =>
    match quoting.afterEscape rest with
    | some following => quoting.afterContent bound following
    | none => none
  | bound + 1, character :: rest =>
    if quoting.admits character then quoting.afterContent bound rest else none

/-- What follows the closing quote and number signs of a raw literal. -/
def Quoting.afterRawContent (quoting : Quoting) (signs : List Char) :
    List Char → Option (List Char)
  | [] => none
  | '"' :: rest =>
    match dropExact signs rest with
    | some following => some (afterSuffix following)
    | none => quoting.afterRawContent signs rest
  | '\r' :: '\n' :: rest => quoting.afterRawContent signs rest
  | '\r' :: _ => none
  | character :: rest =>
    if quoting.admits character then quoting.afterRawContent signs rest else none

/-- What follows a raw literal whose introducing letter has been read. -/
def Quoting.afterRaw (quoting : Quoting) (text : List Char) : Option (List Char) :=
  let signs := text.takeWhile (· = '#')
  match text.dropWhile (· = '#') with
  | '"' :: rest => if signs.length < 256 then quoting.afterRawContent signs rest else none
  | _ => none

/-- What follows a quoted literal, cooked or raw, introduced by the given letters. -/
def Quoting.after (quoting : Quoting) (letters : String) (text : List Char) :
    Option (List Char) :=
  match drop (letters ++ "\"") text with
  | some rest => quoting.afterContent (rest.length + 1) rest
  | none => (drop (letters ++ "r") text).bind quoting.afterRaw

/-- What follows the closing apostrophe and an optional suffix. -/
def afterApostrophe : List Char → Option (List Char)
  | [] => none
  | character :: rest => if character = Char.ofNat 39 then some (afterSuffix rest) else none

/-- What follows the one character of a character literal. -/
def afterCharacter : List Char → Option (List Char)
  | [] => none
  | '\\' :: 'x' :: rest => afterCharacterCode rest
  | '\\' :: 'u' :: rest => (unicodeCode rest).map (·.2)
  | '\\' :: character :: rest => if isShortEscape character then some rest else none
  | '\\' :: [] => none
  | _ :: rest => some rest

/-- What follows the one byte of a byte literal. -/
def afterByte : List Char → Option (List Char)
  | [] => none
  | '\\' :: 'x' :: rest => afterByteCode rest
  | '\\' :: character :: rest => if isShortEscape character then some rest else none
  | '\\' :: [] => none
  | character :: rest => if character.toNat < 128 then some rest else none

/-! ### Numbers -/

/-- What follows the digits after the exponent sign, if there is at least one. -/
def afterExponent (signed valued : Bool) : List Char → Option (List Char)
  | [] => if valued then some [] else none
  | character :: rest =>
    if character = '+' || character = '-' then
      if valued then some (character :: rest)
      else if signed then none
      else afterExponent true valued rest
    else if character.isDigit then afterExponent signed true rest
    else if character = '_' then afterExponent signed valued rest
    else if valued then some (character :: rest) else none

/-- What follows a number with a point or an exponent, once its first digit has been
read. An exponent without a digit is left out of a number that has a point. -/
def afterFraction (pointed : Bool) : List Char → Option (List Char)
  | [] => if pointed then some [] else none
  | character :: rest =>
    if character.isDigit || character = '_' then afterFraction pointed rest
    else if character = '.' && !pointed then
      match rest with
      | [] => some []
      | next :: _ =>
        if next = '.' || Unicode.startsIdentifier next then none else afterFraction true rest
    else if character = 'e' || character = 'E' then
      match afterExponent false false rest with
      | some following => some following
      | none => if pointed then some (character :: rest) else none
    else if pointed then some (character :: rest) else none

/-- What follows a number with a point or an exponent. -/
def afterFloat : List Char → Option (List Char)
  | [] => none
  | first :: rest =>
    if first.isDigit then (afterFraction false rest).bind fun following =>
      wordBreak (afterSuffix following)
    else none

/-- The digits of a number in the given base: what follows them, if there is one and
none is too large. Letters beyond the base end the number. -/
def afterDigits (base : Nat) (empty : Bool) : List Char → Option (List Char)
  | [] => if empty then none else some []
  | character :: rest =>
    if character.isDigit then
      if hexadecimalValue character < base then afterDigits base false rest else none
    else if isHexadecimal character then
      if hexadecimalValue character < base then afterDigits base false rest
      else if empty then none else some (character :: rest)
    else if character = '_' then
      if empty && base = 10 then none else afterDigits base empty rest
    else if empty then none else some (character :: rest)

/-- What follows a whole number. -/
def afterInteger (text : List Char) : Option (List Char) :=
  let digits :=
    match text with
    | '0' :: 'x' :: rest => afterDigits 16 true rest
    | '0' :: 'o' :: rest => afterDigits 8 true rest
    | '0' :: 'b' :: rest => afterDigits 2 true rest
    | _ => afterDigits 10 true text
  digits.bind fun following => wordBreak (afterSuffix following)

/-! ### Values of whole numbers -/

/-- The value of digits in the given base, which low lines may separate, given the value
of those before and whether there was one. Nothing else may follow the digits. -/
def digitsValue (base : Nat) (value : Nat) (valued : Bool) : List Char → Option Nat
  | [] => if valued then some value else none
  | character :: rest =>
    if character = '_' then digitsValue base value valued rest
    else if isHexadecimal character && hexadecimalValue character < base then
      digitsValue base (value * base + hexadecimalValue character) true rest
    else none

/-- The value of a whole number without a suffix. -/
def wholeValue : List Char → Option Nat
  | '0' :: 'x' :: rest => digitsValue 16 0 false rest
  | '0' :: 'o' :: rest => digitsValue 8 0 false rest
  | '0' :: 'b' :: rest => digitsValue 2 0 false rest
  | text => digitsValue 10 0 false text

/-- The position that a literal gives: a whole number of at most 32 bits. -/
def position (text : List Char) : Option Nat := (wholeValue text).filter (· < 0x100000000)

/-- Whether the literal is a string, cooked or raw, of characters. -/
def isString (text : String) : Bool := startsWith "\"" text.toList || startsWith "r" text.toList

/-! ### Any literal -/

/-- What follows the literal at the front of the text. -/
def after (text : List Char) : Option (List Char) :=
  (Quoting.characters.after "" text).or <|
  (Quoting.bytes.after "b" text).or <|
  (Quoting.zeroEnded.after "c" text).or <|
  ((drop "b" text).bind (drop (String.singleton (Char.ofNat 39)) ·) |>.bind
    (afterByte ·) |>.bind (afterApostrophe ·)).or <|
  ((drop (String.singleton (Char.ofNat 39)) text).bind (afterCharacter ·) |>.bind
    (afterApostrophe ·)).or <|
  (afterFloat text).or (afterInteger text)

end Fieldwise.Literal
