/-
This file holds readers of tokens. A reader takes tokens from the front of a run and
writes what it took in the spacing of generated code, where an operator is one unit and
all else stands apart. Invisible groups are looked through, except by the readers of
types and expressions, which treat such a group as a unit.
-/

import Fieldwise.Token.Literal
import Fieldwise.Token.Basic

namespace Fieldwise

/-! ### Failures -/

/-- Why a run of tokens could not be read. -/
inductive SyntaxError where
  /-- Something else should stand here. -/
  | expected (wording : String)
  /-- The run ends where something should stand. -/
  | ended (wording : String)
  /-- Tokens are left after a complete reading, in a group with the given delimiter. -/
  | leftOver (inside : Delimiter)
  /-- The text does not consist of tokens. -/
  | untokenized
deriving DecidableEq, Repr, Inhabited

/-- The wording of a failure. -/
def SyntaxError.message : SyntaxError → String
  | .expected wording => wording
  | .ended wording => "unexpected end of input, " ++ wording
  | .leftOver .parenthesis => "unexpected token, expected `)`"
  | .leftOver .bracket => "unexpected token, expected `]`"
  | .leftOver .brace => "unexpected token, expected `\x7d`"
  | .leftOver .invisible => "unexpected token"
  | .untokenized => "cannot parse string into token stream"

/-! ### Looking ahead -/

mutual

/-- What an invisible group shows of itself; other tokens show themselves. -/
def Token.reveal : Token → List Token
  | .group .invisible content => Token.front content
  | token => [token]

/-- The run with the invisible groups at its front dissolved. -/
def Token.front : List Token → List Token
  | [] => []
  | token :: rest =>
    match token.reveal with
    | [] => Token.front rest
    | first :: others => first :: (others ++ rest)

end

/-- A test of the tokens that come next. -/
abbrev Lookahead := Tokens → Bool

namespace Lookahead

/-- Whether the marks of the run are those of the operator, all but the last joint. -/
def marks : List Char → Tokens → Bool
  | [], _ => true
  | [last], .mark character _ :: _ => character == last
  | first :: rest, .mark character joint :: tokens =>
    character == first && joint && marks rest tokens
  | _, _ => false

/-- An operator comes next, perhaps as the beginning of a longer one. -/
def mark (operator : String) : Lookahead := fun tokens =>
  marks operator.toList (Token.front tokens)

/-- A word satisfying the test comes next. -/
def wordThat (test : Identifier → Bool) : Lookahead := fun tokens =>
  match Token.front tokens with
  | .word name :: _ => test name
  | _ => false

/-- Exactly this word comes next, not in raw form. -/
def word (text : String) : Lookahead := wordThat (· == .plain text)

/-- One of these words comes next, not in raw form. -/
def oneOf (texts : List String) : Lookahead :=
  wordThat fun name => !name.raw && texts.contains name.text

/-- An identifier comes next, which no keyword is. -/
def name : Lookahead := wordThat (!·.isKeyword)

/-- A word comes next, be it a keyword. -/
def anyWord : Lookahead := wordThat fun _ => true

/-- A group with this visible delimiter comes next. -/
def opens (delimiter : Delimiter) : Lookahead := fun tokens =>
  match Token.front tokens with
  | .group opened _ :: _ => opened == delimiter
  | _ => false

/-- An invisible group comes next. -/
def invisible : Lookahead
  | .group .invisible _ :: _ => true
  | _ => false

/-- A lifetime comes next. -/
def lifetime : Lookahead := fun tokens =>
  match Token.front tokens with
  | .mark character true :: .word _ :: _ => character == Token.apostrophe
  | _ => false

/-- A literal comes next; the words `true` and `false` are literals, and so is a number
with a minus sign before it. -/
def literal : Lookahead := fun tokens =>
  match Token.front tokens with
  | .literal _ :: _ => true
  | .word name :: _ => name == .plain "true" || name == .plain "false"
  | .mark '-' _ :: rest =>
    match Token.front rest with
    | .literal text :: _ => (text.toList.head?.map Char.isDigit).getD false
    | _ => false
  | _ => false

/-- A string of characters comes next. -/
def string : Lookahead := fun tokens =>
  match Token.front tokens with
  | .literal text :: _ => Literal.isString text
  | _ => false

/-- Nothing comes next. -/
def atEnd : Lookahead := List.isEmpty

/-- The tokens after the next one; a lifetime counts as one. -/
def skip (tokens : Tokens) : Tokens :=
  match Token.front tokens with
  | .mark character true :: .word name :: rest =>
    if character == Token.apostrophe then rest else .word name :: rest
  | _ :: rest => rest
  | [] => []

/-- The test holds after the next token. -/
def second (test : Lookahead) : Lookahead := fun tokens =>
  !(Token.front tokens).isEmpty && test (skip tokens)

/-- The test holds after the next two tokens. -/
def third (test : Lookahead) : Lookahead := second (second test)

/-- Both tests hold. -/
def and (left right : Lookahead) : Lookahead := fun tokens => left tokens && right tokens

/-- At least one of the tests holds. -/
def any (tests : List Lookahead) : Lookahead := fun tokens => tests.any (· tokens)

/-- The test does not hold. -/
def not (test : Lookahead) : Lookahead := fun tokens => !test tokens

/-- The first operator comes next, but not as the beginning of the second. -/
def markBut (operator longer : String) : Lookahead := and (mark operator) (not (mark longer))

end Lookahead

/-! ### Readers -/

/-- How far a reading has come. -/
structure Reading where
  /-- The tokens still to be read. -/
  remaining : Tokens
  /-- How many tokens have been read, delimiters included. -/
  position : Nat
  /-- What has been written, latest first. -/
  written : Tokens
deriving Inhabited

/-- A reader of tokens. -/
abbrev Reader := StateT Reading (Except SyntaxError)

namespace Reader

/-- Whether the test holds of what comes next. -/
def sees (test : Lookahead) : Reader Bool := return test (← get).remaining

/-- Fails because something else should stand here. -/
def expected {α : Type} (wording : String) : Reader α := do
  if (← get).remaining.isEmpty then throw (.ended wording) else throw (.expected wording)

/-- Writes tokens without reading any. -/
def write (tokens : Tokens) : Reader Unit :=
  modify fun reading => { reading with written := tokens.reverse ++ reading.written }

/-- What the reader writes, kept apart from what was written before. -/
def capture {α : Type} (reader : Reader α) : Reader (α × Tokens) := fun reading =>
  match reader { reading with written := [] } with
  | .ok (result, after) =>
    .ok ((result, after.written.reverse), { after with written := reading.written })
  | .error error => .error error

/-- What the reader writes, kept apart from what was written before. -/
def captured (reader : Reader Unit) : Reader Tokens := return (← capture reader).2

/-- Runs the reader and, where the test holds of its result, writes the tokens that it took
as they stand in the source in place of what it wrote. -/
def verbatimIf {α : Type} (test : α → Bool) (reader : Reader α) : Reader α := do
  let before ← get
  let (result, tokens) ← capture reader
  if test result then
    write (Token.takeCounted before.remaining ((← get).position - before.position))
  else write tokens
  return result

/-- Writes the tokens that the reader takes as they stand in the source. -/
def verbatim (reader : Reader Unit) : Reader Unit := verbatimIf (fun _ => true) reader

/-- Takes tokens off the front, given what remains after them. -/
def advance (taken : Nat) (remaining : Tokens) : Reader Unit :=
  modify fun reading => { reading with remaining, position := reading.position + taken }

/-- Takes the operator. -/
def mark (operator : String) : Reader Unit := do
  let tokens := Token.front (← get).remaining
  let characters := operator.toList
  if Lookahead.marks characters tokens then
    advance characters.length (tokens.drop characters.length)
    write (Token.operator characters)
  else throw (.expected ("expected `" ++ operator ++ "`"))

/-- Takes the operator if it comes next. -/
def optionalMark (operator : String) : Reader Bool := do
  if ← sees (.mark operator) then
    mark operator
    return true
  else return false

/-- Takes a word, be it a keyword. -/
def anyWord : Reader Identifier := do
  match Token.front (← get).remaining with
  | .word name :: rest =>
    advance 1 rest
    write [.word name]
    return name
  | _ => expected "expected ident"

/-- Takes exactly this word. -/
def word (text : String) : Reader Unit := do
  if ← sees (.word text) then discard anyWord
  else expected ("expected `" ++ text ++ "`")

/-- Takes this word if it comes next. -/
def optionalWord (text : String) : Reader Bool := do
  if ← sees (.word text) then
    discard anyWord
    return true
  else return false

/-- Takes an identifier, which no keyword is. -/
def name : Reader Identifier := do
  match Token.front (← get).remaining with
  | .word name :: _ =>
    if name.isKeyword then
      throw (.expected ("expected identifier, found keyword `" ++ name.spelling ++ "`"))
    else anyWord
  | _ => expected "expected identifier"

/-- Takes a lifetime. -/
def lifetime : Reader Identifier := do
  match Token.front (← get).remaining with
  | .mark character true :: .word name :: rest =>
    if character == Token.apostrophe then
      advance 2 rest
      write (Token.lifetime name)
      return name
    else expected "expected lifetime"
  | _ => expected "expected lifetime"

/-- Takes a literal and gives its text, the minus sign of a number apart. -/
def literal : Reader String := do
  match Token.front (← get).remaining with
  | .literal text :: rest =>
    advance 1 rest
    write [.literal text]
    return text
  | .mark '-' _ :: rest =>
    match Token.front rest with
    | .literal text :: rest =>
      advance 2 rest
      write [.mark '-' false, .literal text]
      return text
    | _ => expected "expected literal"
  | .word name :: _ =>
    if name == .plain "true" || name == .plain "false" then
      discard anyWord
      return name.text
    else expected "expected literal"
  | _ => expected "expected literal"

/-- Whether tokens are left that are not merely empty invisible groups. -/
def hasLeftOver : Reader Bool := return !(Token.front (← get).remaining).isEmpty

/-- Reads all that a group holds with the given reader. -/
def group {α : Type} (delimiter : Delimiter) (inner : Reader α) : Reader α := do
  let before ← get
  let tokens :=
    if delimiter == .invisible then before.remaining else Token.front before.remaining
  match tokens with
  | .group opened content :: rest =>
    if opened == delimiter then
      let margin := if delimiter == .invisible then 0 else 1
      set ({ remaining := content, position := before.position + margin, written := [] } : Reading)
      let result ← inner
      if ← hasLeftOver then throw (.leftOver delimiter)
      let after ← get
      set ({ remaining := rest
             position := before.position + (Token.group opened content).count
             written := .group opened after.written.reverse :: before.written } : Reading)
      return result
    else expected "expected delimited group"
  | _ => expected "expected delimited group"

/-- Takes a whole group with a visible delimiter as it is and gives the delimiter. -/
def rawGroup : Reader Delimiter := do
  match (← get).remaining with
  | .group .invisible _ :: _ => expected "expected delimiter"
  | .group delimiter content :: rest =>
    advance (Token.group delimiter content).count rest
    write [.group delimiter content]
    return delimiter
  | _ => expected "expected delimiter"

/-- Gives what the reader gives without taking or writing anything. -/
def peeking {α : Type} (reader : Reader α) : Reader (Option α) := fun reading =>
  match reader reading with
  | .ok (result, _) => .ok (some result, reading)
  | .error _ => .ok (none, reading)

/-- Whether the reader succeeds here; nothing is taken or written. -/
def succeeds (reader : Reader Unit) : Reader Bool := return (← peeking reader).isSome

/-- Runs the step until it says that it was the last; the bound is on the number of
runs. -/
def loopAtMost : Nat → Reader Bool → Reader Unit
  | 0, _ => throw (.expected "unexpected token")
  | bound + 1, step => do if ← step then loopAtMost bound step

/-- Runs the step as long as it asks for another run. A step that takes no token cannot
be repeated more often than there are tokens. -/
def loop (step : Reader Bool) : Reader Unit := do
  loopAtMost (Token.countAll (← get).remaining + 2) step

/-- Reads items up to the end of the group, with a separator after each but perhaps the
last. -/
def terminated (separator : String) (item : Reader Unit) : Reader Unit := loop do
  if ← sees .atEnd then return false
  item
  if ← sees .atEnd then return false
  mark separator
  return true

/-- Reads items with a separator between them, until one is not followed by the
separator or the test says that the list ends. -/
def separatedUntil (separator : String) (finished : Lookahead) (item : Reader Unit) :
    Reader Unit := loop do
  if ← sees finished then return false
  item
  optionalMark separator

/-- Runs a reader on a whole run of tokens. -/
def whole {α : Type} (reader : Reader α) (tokens : Tokens) : Except SyntaxError α :=
  let complete : Reader α := do
    let result ← reader
    if ← hasLeftOver then throw (.leftOver .invisible)
    return result
  (complete ⟨tokens, 0, []⟩).map (·.1)

end Reader

end Fieldwise
