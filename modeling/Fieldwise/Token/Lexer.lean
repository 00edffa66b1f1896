/-
This file reads single tokens off the front of a text. White space and plain comments are
dropped, and a documentation comment becomes the attribute it stands for.
-/

import Fieldwise.Token.Basic
import Fieldwise.Token.Literal
import Fieldwise.Text.Quoted

namespace Fieldwise

/-! ### Lexemes -/

/-- A token before delimiters are matched. -/
inductive Lexeme where
  | word (name : Identifier)
  | mark (character : Char) (joint : Bool)
  | literal (text : String)
  | opening (delimiter : Delimiter)
  | closing (delimiter : Delimiter)
deriving Repr, Inhabited

namespace Lexeme

/-! ### Comments and white space -/

/-- The white space of source texts. -/
def isBlank (character : Char) : Bool :=
  character = ' ' || (9 ≤ character.toNat && character.toNat ≤ 13) ||
    [0x85, 0xA0, 0x1680, 0x200E, 0x200F, 0x2028, 0x2029, 0x202F, 0x205F, 0x3000].contains
      character.toNat ||
    (0x2000 ≤ character.toNat && character.toNat ≤ 0x200A)

/-- The text up to the end of the line, and what follows it, the line end included. -/
def line (text : List Char) : List Char × List Char :=
  let content := text.takeWhile (· ≠ '\n')
  let rest := text.drop content.length
  match content.getLast?, rest with
  | some '\r', _ :: _ => (content.dropLast, '\r' :: rest)
  | _, _ => (content, rest)

/-- What a block comment holds up to its own end, with the comments nested in it, and
what follows it. The depth counts the comments that are open around the text. -/
def block (depth : Nat) (content : List Char) : List Char → Option (List Char × List Char)
  | [] => none
  | '/' :: '*' :: rest => block (depth + 1) ('*' :: '/' :: content) rest
  | '*' :: '/' :: rest =>
    match depth with
    | 0 => some (content.reverse, rest)
    | depth + 1 => block depth ('/' :: '*' :: content) rest
  | character :: rest => block depth (character :: content) rest

/-- Whether a line comment, its two slashes read, is plain and not documentation. -/
def isPlainLine : List Char → Bool
  | '/' :: '/' :: _ => true
  | '/' :: _ => false
  | '!' :: _ => false
  | _ => true

/-- Whether a block comment, its opening read, is plain and not documentation. -/
def isPlainBlock : List Char → Bool
  | '*' :: '*' :: _ => true
  | '*' :: '/' :: _ => true
  | '*' :: _ => false
  | '!' :: _ => false
  | _ => true

/-- Drops white space and plain comments; an unfinished block comment stays. The first
argument bounds the number of steps. -/
def skipBlank : Nat → List Char → List Char
  | 0, text => text
  | _, [] => []
  | bound + 1, '/' :: '/' :: rest =>
    if isPlainLine rest then skipBlank bound (line rest).2 else '/' :: '/' :: rest
  | bound + 1, '/' :: '*' :: rest =>
    if isPlainBlock rest then
      match block 0 [] rest with
      | some (_, following) => skipBlank bound following
      | none => '/' :: '*' :: rest
    else '/' :: '*' :: rest
  | bound + 1, character :: rest =>
    if isBlank character then skipBlank bound rest else character :: rest

/-- The attribute that a documentation comment stands for. -/
def documentation (inner : Bool) (content : List Char) : List Lexeme :=
  .mark '#' false :: (if inner then [.mark '!' false] else []) ++
    [.opening .bracket, .word (.plain "doc"), .mark '=' false,
      .literal (Text.stringLiteral (String.ofList content)), .closing .bracket]

/-- Whether a carriage return stands in the text without a line feed after it. -/
def hasLoneReturn : List Char → Bool
  | [] => false
  | '\r' :: '\n' :: rest => hasLoneReturn rest
  | '\r' :: _ => true
  | _ :: rest => hasLoneReturn rest

/-- The documentation comment at the front of the text: whether it documents what it
stands in, what it says, and what follows it. -/
def documentationComment (text : List Char) : Option (Bool × List Char × List Char) :=
  match text with
  | '/' :: '/' :: '!' :: rest => some (true, line rest)
  | '/' :: '/' :: '/' :: '/' :: _ => none
  | '/' :: '/' :: '/' :: rest => some (false, line rest)
  | '/' :: '*' :: '!' :: rest => (block 0 [] rest).map fun (content, rest) => (true, content, rest)
  | '/' :: '*' :: '*' :: rest =>
    if isPlainBlock ('*' :: rest) then none
    else (block 0 [] rest).map fun (content, rest) => (false, content, rest)
  | _ => none

/-! ### Single tokens -/

/-- The characters that are marks. -/
def markCharacters : List Char := "~!@#$%^&*-=+|;:,<.>/?".toList ++ [Token.apostrophe]

/-- The mark at the front of the text, unless a comment starts there. -/
def markCharacter : List Char → Option Char
  | '/' :: '/' :: _ => none
  | '/' :: '*' :: _ => none
  | character :: _ => if markCharacters.contains character then some character else none
  | [] => none

/-- The identifier at the front of the text, raw or not. -/
def identifier (text : List Char) : Option (Identifier × List Char) :=
  match text with
  | 'r' :: '#' :: rest =>
    (Literal.bareIdentifier rest).bind fun (name, following) =>
      if Identifier.neverRaw.contains name then none else some (⟨true, name⟩, following)
  | _ => (Literal.bareIdentifier text).map fun (name, following) => (.plain name, following)

/-- The beginnings that belong to quoted literals and never to identifiers. -/
def quotedBeginnings : List String := [
  "r\"", "r#\"", "r##", "b\"", "b" ++ String.singleton (Char.ofNat 39), "br\"", "br#",
  "c\"", "cr\"", "cr#"]

/-- Whether an apostrophe before the text opens a lifetime. -/
def opensLifetime (text : List Char) : Bool :=
  match identifier text with
  | some (_, following) =>
    !(Literal.startsWith (String.singleton Token.apostrophe) following ||
      (Literal.startsWith "#" following && !Literal.startsWith "r#" text))
  | none => false

/-- The mark at the front of the text and what follows it. An apostrophe counts only if
it opens a lifetime. -/
def markAt (text : List Char) : Option (Lexeme × List Char) :=
  match markCharacter text, text with
  | some character, _ :: rest =>
    if character = Token.apostrophe then
      if opensLifetime rest then some (.mark character true, rest) else none
    else some (.mark character (markCharacter rest).isSome, rest)
  | _, _ => none

/-- The token at the front of a text that starts with no blank and no comment. -/
def single (text : List Char) : Option (List Lexeme × List Char) :=
  match text with
  | '(' :: rest => some ([.opening .parenthesis], rest)
  | '[' :: rest => some ([.opening .bracket], rest)
  | '{' :: rest => some ([.opening .brace], rest)
  | ')' :: rest => some ([.closing .parenthesis], rest)
  | ']' :: rest => some ([.closing .bracket], rest)
  | '}' :: rest => some ([.closing .brace], rest)
  | _ =>
    match documentationComment text with
    | some (inner, content, rest) =>
      if hasLoneReturn content then none else some (documentation inner content, rest)
    | none =>
      match Literal.after text with
      | some rest =>
        some ([.literal (String.ofList (text.take (text.length - rest.length)))], rest)
      | none =>
        match markAt text with
        | some (lexeme, rest) => some ([lexeme], rest)
        | none =>
          if quotedBeginnings.any (Literal.startsWith · text) then none
          else (identifier text).map fun (name, rest) => ([.word name], rest)

end Lexeme

end Fieldwise
