/-
This file holds the rules for expressions: how operators with two operands join operands,
and where an expression ends that starts a statement.
-/

import Fieldwise.Grammar.Operand

namespace Fieldwise.Grammar

open Reader Lookahead

/-! ### Operators -/

/-- The operators with two operands, longer ones before their beginnings. -/
def binaryOperators : List (String × Precedence) := [
  ("+=", 1), ("-=", 1), ("*=", 1), ("/=", 1), ("%=", 1), ("^=", 1), ("&=", 1), ("|=", 1),
  ("<<=", 1), (">>=", 1), ("&&", 4), ("||", 3), ("<<", 10), (">>", 10), ("==", 6),
  ("<=", 6), ("!=", 6), (">=", 6), ("+", 11), ("-", 11), ("*", 12), ("/", 12), ("%", 12),
  ("^", 8), ("&", 9), ("|", 7), ("<", 6), (">", 6)]

/-- The operator with two operands that comes next. -/
def binaryOperator (tokens : Tokens) : Option (String × Precedence) :=
  binaryOperators.find? fun (operator, _) => Lookahead.mark operator tokens

/-- The precedence of what comes next, be it no operator. -/
def nextPrecedence (tokens : Tokens) : Precedence :=
  match binaryOperator tokens with
  | some (_, precedence) => precedence
  | none =>
    if Lookahead.markBut "=" "=>" tokens then .assignment
    else if Lookahead.mark ".." tokens then .range
    else if Lookahead.word "as" tokens then .cast
    else .lowest

section

variable (recur : Recursion)

/-! ### Binary operators -/

/-- Fails if what follows a cast could be taken for a part of its type. -/
def checkAfterCast : Reader Unit := do
  if ← sees (any [markBut "." "..", .mark "?", opens .bracket, opens .parenthesis]) then
    expected "casts cannot be followed by this"

/-- The rule for operators that go on with an operand that has been read. -/
def operatorsRule (structures : Bool) (base : Precedence) (form : Form) : Reader Form := do
  if form == .range then return form
  match binaryOperator (← get).remaining with
  | some (operator, precedence) =>
    if precedence < base then return form
    else if precedence == .comparison && form == .comparison then
      expected "comparison operators cannot be chained"
    else
      Reader.mark operator
      discard (recur (.operand structures precedence))
      let form := if precedence == .comparison then Form.comparison else .other
      recur (.operators structures base form)
  | none =>
    if base ≤ .assignment && (← sees (markBut "=" "=>")) then
      Reader.mark "="
      discard (recur (.operand structures .assignment))
      recur (.operators structures base .other)
    else if base ≤ .range && (← sees (.mark "..")) then
      let form ← rangeFromDots recur structures
      recur (.operators structures base form)
    else if base ≤ .cast && (← sees (.word "as")) then
      Reader.word "as"
      write (← recur (.type false false)).tokens
      checkAfterCast
      recur (.operators structures base .other)
    else return form

/-- The rule for the right operand of an operator. -/
def operandRule (structures : Bool) (precedence : Precedence) : Reader Form := do
  let form ← recur (.unary structures)
  recur (.operandRest structures precedence form)

/-- The rule for operators that bind an operand more strongly than the one before it. -/
def operandRestRule (structures : Bool) (precedence : Precedence) (form : Form) :
    Reader Form := do
  let before := (← get).position
  let next := nextPrecedence (← get).remaining
  if precedence < next || (next == precedence && precedence == .assignment) then
    let form ← recur (.operators structures next form)
    if (← get).position == before then return form
    else recur (.operandRest structures precedence form)
  else return form

/-- The rule for expressions. -/
def expressionRule (structures : Bool) : Reader Form := do
  let form ← recur (.unary structures)
  recur (.operators structures .lowest form)

/-- Reads an operand that may end with its block. -/
def leadingOperand : Reader Form := do
  if ← sees invisible then
    let form ← groupedExpression recur true
    if form == .groupedBlock then return form
    else trailers recur (Token.countAll (← get).remaining + 1) form
  else if ← sees startsControl then controlExpression recur
  else if ← sees Lookahead.lifetime then labelled recur
  else recur (.unary true)

/-- The rule for an expression that ends with its block if it starts with one, unless a
member or `?` follows. Attributes of an expression that is kept as it stands in the source
are dropped. -/
def leadingExpressionRule : Reader Form := do
  let attributes ← captured (discard (operandAttributes recur))
  let (form, tokens) ← capture (leadingOperand recur)
  if form != .verbatim then write attributes
  write tokens
  if form != .blockLike && form != .groupedBlock then recur (.operators true .lowest form)
  else if ← sees (any [markBut "." "..", .mark "?"]) then
    let form ← trailers recur (Token.countAll (← get).remaining + 1) form
    recur (.operators true .lowest form)
  else return form

end

end Fieldwise.Grammar
