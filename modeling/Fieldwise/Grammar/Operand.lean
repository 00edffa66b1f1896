/-
This file holds the rules for operands: what an expression consists of before operators
with two operands join its parts.
-/

import Fieldwise.Grammar.Pattern
import Fieldwise.Grammar.Type

namespace Fieldwise.Grammar

open Reader Lookahead

/-! ### Looking ahead -/

/-- What can start an expression. -/
def startsExpression : Lookahead :=
  any [and Lookahead.anyWord (.not (.word "as")), opens .parenthesis, opens .bracket,
    opens .brace, Lookahead.literal, markBut "!" "!=",
    and (.mark "-") (any [.mark "-=", .mark "->"]).not, markBut "*" "*=", markBut "|" "|=",
    markBut "&" "&=", .mark "..", and (.mark "<") (any [.mark "<=", .mark "<<="]).not,
    .mark "::", Lookahead.lifetime, .mark "#"]

/-- What cannot follow the dots of a range as its upper end. -/
def endsRange (structures : Bool) : Lookahead :=
  any [atEnd, .mark ",", .mark ";", markBut "." "..", .mark "?", .mark "=>",
    and (opens .brace) (fun _ => !structures), .mark "=", .mark "+", .mark "/", .mark "%",
    .mark "^", .mark ">", .mark "<=", .mark "!=", .mark "-=", .mark "*=", .mark "&=",
    .mark "|=", .mark "<<=", .word "as"]

section

variable (recur : Recursion)

/-! ### Operands -/

/-- Reads the dots of a range and its upper end. Three dots are none. -/
def rangeFromDots (structures : Bool) : Reader Form := do
  if ← sees (.mark "..=") then
    Reader.mark "..="
    discard (recur (.operand structures .range))
  else if ← sees (.mark "...") then expected "expected `..` or `..=`"
  else
    Reader.mark ".."
    if !(← sees (endsRange structures)) then discard (recur (.operand structures .range))
  return .range

/-- Reads the fields of a structure expression; dots and a base may end them. -/
def fieldValues : Reader Unit := loop do
  if ← sees atEnd then return false
  if ← sees (.mark "..") then
    Reader.mark ".."
    if !(← sees atEnd) then discard (expression recur)
    return false
  discard (outerAttributes recur)
  let named ← member
  if !named || (← sees (.mark ":")) then
    Reader.mark ":"
    discard (expression recur)
  if ← sees atEnd then return false
  Reader.mark ","
  return true

/-- Reads what makes a macro call or a structure of a path that has been read. -/
def afterPath (plain structures : Bool) : Reader Form := do
  if plain && (← sees callsMacro) then
    let delimiter ← macroCall
    return if delimiter == .brace then .bracedMacro else .other
  else if structures && (← sees (opens .brace)) then
    group .brace (fieldValues recur)
    return .other
  else return .path

/-- Reads a path, and a macro call or structure that starts with it. -/
def pathExpression (structures : Bool) : Reader Form := do
  let path ← qualifiedPath recur true
  write path.tokens
  let plain :=
    match path with
    | .plain path => path.isPlain
    | .qualified _ => false
  afterPath recur plain structures

/-- Whether the tokens of a path are bare names only. -/
def isNamesOnly (tokens : Tokens) : Bool := tokens.all fun
  | .word _ => true
  | .mark ':' _ => true
  | _ => false

/-- Reads an invisible group as an operand. A path in the group may go on after it, and may
then be that of a macro call or a structure; otherwise the group is a unit. -/
def groupedExpression (structures : Bool) : Reader Form := do
  let ((form, content), unit) ← capture <| group .invisible do
    let (form, content) ← capture (expression recur)
    write content
    return (form, content)
  match form with
  | .path =>
    let (segments, _) ← capture (restOfPath recur true [])
    let rest := ((segmentTokens segments).map (Token.pathSeparator ++ ·)).flatten
    let (form, tokens) ← capture (afterPath recur (isNamesOnly (content ++ rest)) structures)
    let extended := form != .path || !segments.isEmpty
    write (if extended then content ++ rest ++ tokens else unit)
    return if extended then form else .other
  | form =>
    write unit
    return if form == .blockLike || form == .groupedBlock then .groupedBlock else .other

/-- Reads the elements of an array, or one element and a length. -/
def arrayElements : Reader Unit := do
  if !(← sees atEnd) then
    discard (expression recur)
    if ← sees (.mark ";") then
      Reader.mark ";"
      discard (expression recur)
    else if ← sees (any [atEnd, .mark ","]) then
      if ← optionalMark "," then terminated "," (discard (expression recur))
    else expected "expected `,` or `;`"

/-- Reads one argument of a closure. The attributes of a pattern that is kept as it stands
in the source are dropped, unless its type is given. -/
def closureArgument : Reader Unit := do
  let attributes ← captured (discard (outerAttributes recur))
  let (form, tokens) ← capture (pattern recur)
  let typed ← sees (.mark ":")
  if form != .verbatim || typed then write attributes
  write tokens
  if typed then
    Reader.mark ":"
    writtenType recur

/-- Reads a closure. -/
def closure (structures : Bool) : Reader Form := do
  discard (binder recur)
  discard (optionalWord "const")
  discard (optionalWord "static")
  discard (optionalWord "async")
  discard (optionalWord "move")
  Reader.mark "|"
  separatedUntil "," (.mark "|") (closureArgument recur)
  Reader.mark "|"
  if ← sees (.mark "->") then
    Reader.mark "->"
    writtenType recur
    plainBlock recur
  else discard (recur (.expression structures))
  return .other

/-- Reads a conditional and all its alternatives. -/
def conditional : Reader Unit := loop do
  Reader.word "if"
  discard (conditionExpression recur)
  plainBlock recur
  if ← optionalWord "else" then
    if ← sees (.word "if") then return true
    else
      plainBlock recur
      return false
  else return false

/-- Reads the arms of a match. An arm that does not end with a block has a comma after
it unless it is the last. -/
def matchArms : Reader Unit := do
  innerAttributes recur
  loop do
    if ← sees atEnd then return false
    discard (outerAttributes recur)
    discard (alternatives recur)
    if ← optionalWord "if" then discard (expression recur)
    Reader.mark "=>"
    let form : Form ← recur .leadingExpression
    if form != .blockLike && !(← sees atEnd) then Reader.mark ","
    else discard (optionalMark ",")
    return true

/-- Reads a loop, a match, a conditional or a marked block. -/
def controlExpression : Reader Form := do
  if ← sees (.word "if") then conditional recur
  else if ← optionalWord "while" then
    discard (conditionExpression recur)
    block recur
  else if ← optionalWord "for" then
    discard (alternatives recur)
    Reader.word "in"
    discard (conditionExpression recur)
    block recur
  else if ← optionalWord "loop" then block recur
  else if ← optionalWord "match" then
    discard (conditionExpression recur)
    group .brace (matchArms recur)
  else if ← optionalWord "unsafe" then block recur
  else if ← optionalWord "const" then block recur
  else if ← optionalWord "try" then plainBlock recur
  else block recur
  return .blockLike

/-- Reads a loop or block after its label. -/
def labelled : Reader Form := do
  discard Reader.lifetime
  Reader.mark ":"
  if ← sees (any [oneOf ["while", "for", "loop"], opens .brace]) then controlExpression recur
  else expected "expected loop or block expression"

/-- What starts a loop, a match, a conditional or a marked block. -/
def startsControl : Lookahead :=
  any [oneOf ["if", "while", "loop", "match"],
    and (.word "for") (.not (second opensParameters)),
    and (oneOf ["unsafe", "const", "try"]) (second (opens .brace)), opens .brace]

/-- What starts a closure. -/
def startsClosure : Lookahead :=
  any [.mark "|", .word "move", and (.word "for") (second opensParameters),
    and (.word "const") (.not (second (opens .brace))), .word "static",
    and (.word "async") (any [second (.mark "|"), second (.word "move")])]

/-- What starts a path, or a macro call or structure that starts with one. -/
def startsPathExpression : Lookahead :=
  any [startsPath, and (.word "try") (any [second (.mark "!"), second (.mark "::")])]

/-- What starts a block of the kind that is run later. -/
def startsAsynchronous : Lookahead :=
  and (.word "async") <|
    any [second (opens .brace), and (second (.word "move")) (third (opens .brace))]

/-- Reads an optional value, in which a path followed by braces is a structure. -/
def optionalValue : Reader Unit := do
  if ← sees startsExpression then discard (expression recur)

/-- Reads `break` with its label and its value. -/
def breakExpression (structures : Bool) : Reader Unit := do
  Reader.word "break"
  if ← sees Lookahead.lifetime then
    if ← sees (second (.mark ":")) then expected "parentheses required"
    discard Reader.lifetime
  if structures || !(← sees (opens .brace)) then optionalValue recur

/-- Reads `let` in a condition. -/
def letExpression (structures : Bool) : Reader Unit := do
  Reader.word "let"
  discard (alternatives recur)
  Reader.mark "="
  let form ← recur (.unary structures)
  discard (recur (.operators structures .comparison form))

/-- Reads a jump, which may carry a value. -/
def jump (structures : Bool) : Reader Form := do
  if ← sees (.word "break") then
    breakExpression recur structures
    return .other
  else if ← optionalWord "continue" then
    if ← sees Lookahead.lifetime then discard Reader.lifetime
    return .other
  else if ← sees (.word "become") then
    verbatim do
      Reader.word "become"
      discard (expression recur)
    return .verbatim
  else
    discard Reader.anyWord
    optionalValue recur
    return .other

/-- Reads an expression that is built into the language and has no form of its own. -/
def builtinExpression : Reader Form := do
  verbatim do
    Reader.word "builtin"
    Reader.mark "#"
    discard Reader.name
    if ← sees (opens .parenthesis) then discard rawGroup else expected "expected parentheses"
  return .verbatim

/-- Reads an operand without what may follow it. -/
def atom (structures : Bool) : Reader Form := do
  if ← sees invisible then groupedExpression recur structures
  else if ← sees Lookahead.literal then
    discard Reader.literal
    return .other
  else if ← sees startsAsynchronous then
    Reader.word "async"
    discard (optionalWord "move")
    plainBlock recur
    return .other
  else if ← sees (and (.word "try") (second (opens .brace))) then controlExpression recur
  else if ← sees startsClosure then closure recur structures
  else if ← sees (and (.word "builtin") (second (.mark "#"))) then builtinExpression
  else if ← sees startsPathExpression then pathExpression recur structures
  else if ← sees (opens .parenthesis) then
    group .parenthesis (terminated "," (discard (expression recur)))
    return .other
  else if ← sees (oneOf ["break", "continue", "return", "yield", "become"]) then
    jump recur structures
  else if ← sees (opens .bracket) then
    group .bracket (arrayElements recur)
    return .other
  else if ← sees (.word "let") then
    letExpression recur structures
    return .other
  else if ← sees startsControl then controlExpression recur
  else if ← sees (.mark "..") then rangeFromDots recur structures
  else if ← sees (.word "_") then
    discard Reader.anyWord
    return .other
  else if ← sees Lookahead.lifetime then labelled recur
  else expected "expected an expression"

/-! ### What follows operands -/

/-- Writes the position that the digits give. -/
def writePosition (digits : List Char) : Reader Unit := do
  match Literal.position digits with
  | some position => write [.literal (toString position)]
  | none => expected "expected unsuffixed integer"

/-- Reads the members that a literal such as `0.1` after a dot stands for; says whether
the access is complete, which it is not after `0.`. -/
def memberPair : Reader Bool := do
  match Token.front (← get).remaining with
  | .literal text :: rest =>
    let whole := text.toList.takeWhile (· != '.')
    let dotted := text.toList.dropWhile (· != '.')
    if (text.toList.head?.map Char.isDigit).getD false && !dotted.isEmpty then
      advance 1 rest
      writePosition whole
      write [.mark '.' false]
      if 1 < dotted.length then
        writePosition (dotted.drop 1)
        return true
      else return false
    else return false
  | _ => return false

/-- Reads the arguments of a call. -/
def callArguments : Reader Unit :=
  group .parenthesis (terminated "," (discard (expression recur)))

/-- Reads one call, member, index or `?` after an operand. -/
def trailer (form : Form) : Reader (Option Form) := do
  if ← sees (opens .parenthesis) then
    callArguments recur
    return some .other
  else if form != .range && (← sees (markBut "." "..")) then
    Reader.mark "."
    if ← memberPair then return some .other
    if ← optionalWord "await" then return some .other
    let named ← member
    if named && (← sees (.mark "::")) then
      write (← angled recur).tokens
      callArguments recur
    else if named && (← sees (opens .parenthesis)) then callArguments recur
    return some .other
  else if ← sees (opens .bracket) then
    group .bracket (discard (expression recur))
    return some .other
  else if form != .range && (← sees (.mark "?")) then
    Reader.mark "?"
    return some .other
  else return none

/-- Reads all that follows an operand; the first argument bounds how much that is. -/
def trailers : Nat → Form → Reader Form
  | 0, form => return form
  | limit + 1, form => do
    match ← trailer recur form with
    | some next => trailers limit next
    | none => return form

/-- Reads an operand with all that follows it. -/
def operandWithTrailers (structures : Bool) : Reader Form := do
  let form ← atom recur structures
  trailers recur (Token.countAll (← get).remaining + 1) form

/-- Reads an operator before an operand. -/
def unaryOperator : Reader Unit := do
  if ← sees (.mark "&") then
    Reader.mark "&"
    if ← sees (and (.word "raw") (any [second (.word "mut"), second (.word "const")])) then
      Reader.word "raw"
      discard Reader.anyWord
    else discard (optionalWord "mut")
  else if ← sees (.mark "*") then Reader.mark "*"
  else if ← sees (.mark "!") then Reader.mark "!"
  else Reader.mark "-"

/-- The rule for an operand with the attributes and operators before it. A range has no
attributes. -/
def unaryRule (structures : Bool) : Reader Form := verbatimIf (· == .verbatim) do
  let attributes ← operandAttributes recur
  let hasOperator := any [.mark "&", .mark "*", .mark "!", .mark "-"]
  if ← sees (and (.not invisible) hasOperator) then
    unaryOperator
    discard (recur (.unary structures))
    return .other
  else
    let form ← operandWithTrailers recur structures
    if attributes.isEmpty then return form
    else
      match form with
      | .range => expected "unexpected token"
      | .path => return .other
      | form => return form

end

end Fieldwise.Grammar
