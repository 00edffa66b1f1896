/-
This file turns a text into tokens and says where these stand. Delimiters are matched into groups,
and each token gets its place, counted in characters from the start. An extent is given in tokens;
the positions where it starts and stops are lines, counted from one, and columns, counted from zero
in characters.
-/

import Fieldwise.Token.Lexer

namespace Fieldwise

/-! ### Whole texts -/

/-- Where a token stands: the offsets of its first character and of the one after its
last, in characters from the start of the text. -/
structure Place where
  start : Nat
  stop : Nat
deriving DecidableEq, Repr, Inhabited

namespace Lexeme

/-- The lexemes of a text with their places. The first argument bounds the number of
tokens, and the second is the offset at which the text starts. -/
def scan : Nat → Nat → List Char → Option (List (Lexeme × Place))
  | 0, _, text => if (skipBlank text.length text).isEmpty then some [] else none
  | bound + 1, offset, text =>
    let token := skipBlank text.length text
    match token with
    | [] => some []
    | _ =>
      match single token with
      | none => none
      | some (lexemes, rest) =>
        let start := offset + (text.length - token.length)
        let stop := offset + (text.length - rest.length)
        (scan bound stop rest).map fun following =>
          lexemes.map (·, ⟨start, stop⟩) ++ following

/-- A byte order mark at the start of a text is no part of it. -/
def dropOrderMark : List Char → Nat × List Char
  | character :: rest => if character.toNat = 0xFEFF then (1, rest) else (0, character :: rest)
  | [] => (0, [])

/-- The lexemes of a text with their places, if it consists of tokens. -/
def ofText (text : String) : Option (List (Lexeme × Place)) :=
  let (offset, characters) := dropOrderMark text.toList
  scan characters.length offset characters

end Lexeme

/-! ### Matching delimiters -/

namespace Token

/-- The tokens of the lexemes. The stack holds the groups that are open, innermost
first, each with the tokens read before it in reverse; the tokens read so far in the
innermost group are in reverse too. -/
def nest (stack : List (Delimiter × Tokens)) (read : Tokens) : List Lexeme → Option Tokens
  | [] =>
    match stack with
    | [] => some read.reverse
    | _ :: _ => none
  | .word name :: rest => nest stack (.word name :: read) rest
  | .mark character joint :: rest => nest stack (.mark character joint :: read) rest
  | .literal text :: rest => nest stack (.literal text :: read) rest
  | .opening delimiter :: rest => nest ((delimiter, read) :: stack) [] rest
  | .closing delimiter :: rest =>
    match stack with
    | [] => none
    | (opened, before) :: stack =>
      if opened = delimiter then nest stack (.group delimiter read.reverse :: before) rest
      else none

end Token

/-- The tokens of a text, if it consists of tokens with matching delimiters. -/
def Tokens.ofText (text : String) : Option Tokens :=
  (Lexeme.ofText text).bind fun lexemes => Token.nest [] [] (lexemes.map (·.1))

/-- The places of the tokens of a text, in order; a group has a place for each of its
two delimiters. -/
def Tokens.places (text : String) : List Place :=
  ((Lexeme.ofText text).getD []).map (·.2)

/-! ### Extents and positions -/

/-- Which tokens of the source something was read from: the numbers of its first and its
last token, counted from zero with every delimiter as a token. -/
structure Extent where
  first : Nat
  last : Nat
deriving DecidableEq, Repr, Inhabited

/-- A position between the characters of a text. -/
structure Position where
  line : Nat
  column : Nat
deriving DecidableEq, Repr, Inhabited

/-- The position after a number of characters. -/
def Position.after (source : List Char) (offset : Nat) : Position :=
  let before := source.take offset
  { line := before.count '\n' + 1
    column := (before.reverse.takeWhile (· ≠ '\n')).length }

/-- Where an extent of a text starts and stops, if the text has the tokens. -/
def Extent.positions? (extent : Extent) (source : String) : Option (Position × Position) :=
  let places := Tokens.places source
  match places[extent.first]?, places[extent.last]? with
  | some first, some last =>
    some (.after source.toList first.start, .after source.toList last.stop)
  | _, _ => none

end Fieldwise
