/-
This file holds the rules for statements and blocks.
-/

import Fieldwise.Grammar.Item

namespace Fieldwise.Grammar

open Reader Lookahead

section

variable (recur : Recursion)

/-! ### Statements -/

/-- What starts an item among statements, macro calls apart. -/
def startsItem : Lookahead :=
  let qualifies := oneOf ["unsafe", "extern", "fn"]
  any [oneOf ["pub", "extern", "use", "mod", "type", "struct", "enum", "fn", "trait", "impl",
      "macro"],
    and (.word "crate") (.not (second (.mark "::"))),
    and (.word "static") (any [second (.word "mut"), second Lookahead.name]),
    and (.word "const") (.not (any [second (opens .brace), second (.word "static"),
      and (second (.word "async")) (.not (third qualifies)), second (.word "move"),
      second (.mark "|")])),
    and (.word "unsafe") (.not (second (opens .brace))),
    and (.word "union") (second Lookahead.name), startsAutoTrait,
    and (.word "default") (second (oneOf ["unsafe", "impl"])),
    and (.word "async") (second qualifies)]

/-- What kind of statement comes next. -/
inductive StatementKind where
  /-- A macro call in braces, which needs no semicolon. -/
  | bracedMacro
  /-- A declaration of local names. -/
  | binding
  | item
  | expression
deriving DecidableEq, Repr, Inhabited

/-- Takes attributes without looking into them. -/
def skipAttributes : Reader Unit := loop do
  if ← sees (and (.mark "#") (second (opens .bracket))) then
    Reader.mark "#"
    discard rawGroup
    return true
  else return false

/-- The kind of a statement whose attributes have been taken. -/
def statementKind : Reader StatementKind := do
  let called ← peeking do
    discard namePath
    let goesOn := any [markBut "." "..", .mark "?"]
    let naming := and (.mark "!") (second (any [Lookahead.name, .word "try"]))
    let braced := and (.mark "!") (and (second (opens .brace)) (.not (third goesOn)))
    return (← sees naming, ← sees braced)
  let (naming, braced) := called.getD (false, false)
  if braced then return .bracedMacro
  else if ← sees (and (.not invisible) (.word "let")) then return .binding
  else if naming || (← sees startsItem) then return .item
  else return .expression

/-- Reads a declaration of local names after its attributes. -/
def localStatement : Reader Unit := do
  Reader.word "let"
  discard (pattern recur)
  if ← optionalMark ":" then writtenType recur
  if ← sees (.mark "=") then
    Reader.mark "="
    let (_, tokens) ← capture (expression recur)
    write tokens
    let endsWithBrace :=
      match tokens.getLast? with
      | some (.group .brace _) => true
      | _ => false
    if !endsWithBrace && (← sees (.word "else")) then
      Reader.word "else"
      plainBlock recur
  Reader.mark ";"

/-- Reads a macro call in braces after its attributes. -/
def bracedMacroStatement : Reader Unit := do
  discard namePath
  discard macroCall
  discard (optionalMark ";")

/-- Reads one statement and says whether a semicolon is needed before another. -/
def statement : Reader Bool := do
  let kind ← peeking do
    skipAttributes
    statementKind
  match kind.getD .expression with
  | .bracedMacro =>
    discard (outerAttributes recur)
    bracedMacroStatement
    return false
  | .binding =>
    discard (outerAttributes recur)
    localStatement recur
    return false
  | .item =>
    recur .item
    return false
  | .expression =>
    let form : Form ← recur .leadingExpression
    if ← optionalMark ";" then return false
    else return form != .blockLike && form != .bracedMacro

/-! ### Blocks -/

/-- Reads the statements of a block. -/
def statements : Reader Unit := loop do
  if ← optionalMark ";" then return true
  else if ← sees atEnd then return false
  else
    let needsSemicolon ← statement recur
    if ← sees atEnd then return false
    else if needsSemicolon then expected "unexpected token, expected `;`"
    else return true

/-- The rule for blocks, which may start with attributes of their own where that is
allowed. -/
def blockRule (attributes : Bool) : Reader Unit := group .brace do
  if attributes then innerAttributes recur
  statements recur

end

end Fieldwise.Grammar
