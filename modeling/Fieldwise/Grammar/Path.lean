/-
This file holds the rules for paths, the arguments of their segments, attributes and
macro calls.
-/

import Fieldwise.Grammar.Nonterminal

namespace Fieldwise.Grammar

open Reader Lookahead

section

variable (recur : Recursion)

/-! ### Macro calls and attributes -/

/-- Takes the `!` and the delimited tokens of a macro call. -/
def macroCall : Reader Delimiter := do
  Reader.mark "!"
  rawGroup

/-- Whether a macro call goes on after a path without arguments. -/
def callsMacro : Lookahead := markBut "!" "!="

/-- Reads a path of bare names, keywords that start paths included. -/
def namePath : Reader Path := do
  let rooted ← optionalMark "::"
  let starts := any [Lookahead.name, oneOf ["super", "self", "Self", "crate"]]
  let rec segments : Nat → List Segment → Reader (List Segment)
    | 0, _ => expected "expected path segment after `::`"
    | bound + 1, before => do
      if ← sees starts then
        let name ← Reader.anyWord
        let read := before ++ [.mk name .none]
        if ← optionalMark "::" then segments bound read else return read
      else if before.isEmpty then
        discard Reader.name
        return before
      else expected "expected path segment after `::`"
  let names ← segments ((← get).remaining.length + 1) []
  return ⟨rooted, names⟩

/-- Reads what stands between the brackets of an attribute. -/
def attributeBody : Reader Attribute := do
  let path ←
    if ← sees (.word "unsafe") then
      let name ← Reader.anyWord
      pure ⟨false, [.mk name .none]⟩
    else namePath
  if ← sees (any [opens .parenthesis, opens .bracket, opens .brace]) then
    let (_, tokens) ← capture rawGroup
    write tokens
    match tokens with
    | [.group _ content] => return ⟨path, .list content⟩
    | _ => return ⟨path, .list []⟩
  else if ← sees (.mark "=") then
    Reader.mark "="
    if ← sees (and Lookahead.literal (second atEnd)) then discard Reader.literal
    else if ← sees (and (.mark "#") (second (opens .bracket))) then
      expected "unexpected attribute inside of attribute"
    else discard (expression recur)
    return ⟨path, .value⟩
  else return ⟨path, .none⟩

/-- Reads one attribute of what follows it. -/
def oneAttribute : Reader Attribute := do
  Reader.mark "#"
  group .bracket (attributeBody recur)

/-- Reads attributes where the test holds, given those before; the first argument bounds
their number. -/
def attributesUpTo (starts : Lookahead) : Nat → List Attribute → Reader (List Attribute)
  | 0, before => return before
  | limit + 1, before => do
    if ← sees starts then
      let next ← oneAttribute recur
      attributesUpTo starts limit (before ++ [next])
    else return before

/-- Reads the attributes of what follows them. -/
def outerAttributes : Reader (List Attribute) := do
  attributesUpTo recur (.mark "#") (Token.countAll (← get).remaining + 1) []

/-- Reads the attributes of an operand. Those in an invisible group belong to the operand in
the group. -/
def operandAttributes : Reader (List Attribute) := do
  let starts := and (.not invisible) (.mark "#")
  attributesUpTo recur starts ((← get).remaining.length + 1) []

/-- Reads the attributes, marked by `!`, of what they stand in. -/
def innerAttributes : Reader Unit := loop do
  if ← sees (and (.mark "#") (second (.mark "!"))) then
    Reader.mark "#"
    Reader.mark "!"
    discard (group .bracket (attributeBody recur))
    return true
  else return false

/-! ### Arguments in angle brackets -/

/-- Reads a literal, a name or a block as a constant argument. -/
def constantArgument : Reader Unit := do
  if ← sees Lookahead.literal then discard Reader.literal
  else if ← sees Lookahead.name then discard Reader.name
  else if ← sees (opens .brace) then block recur
  else expected "expected literal, identifier, or curly braces"

/-- What follows a type argument that is one bare segment: `= ...` or `: bounds`. -/
def aboutAssociated : Reader Bool := do
  if ← sees (.mark "=") then
    Reader.mark "="
    if ← sees (any [Lookahead.literal, opens .brace]) then constantArgument recur
    else writtenType recur
    return true
  else if ← sees (.mark ":") then
    Reader.mark ":"
    separatedUntil "+" (any [.mark ",", .mark ">"]) (bound recur)
    return true
  else return false

/-- Whether a type is one segment with at most arguments in angle brackets. -/
def isOneSegment : WrittenType → Bool
  | .path false [.mk _ (.parenthesized _)] => false
  | .path false [_] => true
  | _ => false

/-- Reads one argument in angle brackets. -/
def genericArgument : Reader Argument := do
  if ← sees (and Lookahead.lifetime (second (.mark "+")).not) then
    return .lifetime (← Reader.lifetime)
  else if ← sees (any [Lookahead.literal, opens .brace]) then
    return .other (← captured (constantArgument recur))
  else
    let argument ← type recur
    if isOneSegment argument then
      let (associated, tokens) ← capture (aboutAssociated recur)
      if associated then return .other (argument.tokens ++ tokens) else return .type argument
    else return .type argument

/-- Reads the arguments up to the closing `>`, given those before, and whether a comma
follows the last. The first argument bounds their number. -/
def genericArgumentsUpTo : Nat → List Argument → Reader (List Argument × Bool)
  | 0, _ => expected "expected `>`"
  | limit + 1, before => do
    if ← sees (.mark ">") then return (before, !before.isEmpty)
    let argument ← genericArgument recur
    if ← sees (.mark ">") then return (before ++ [argument], false)
    Reader.mark ","
    genericArgumentsUpTo limit (before ++ [argument])

/-- Reads arguments in angle brackets, perhaps after `::`, and writes nothing. -/
def angled : Reader Arguments := do
  let (arguments, _) ← capture do
    let turbofish ← optionalMark "::"
    Reader.mark "<"
    let limit := Token.countAll (← get).remaining + 1
    let (arguments, trailingComma) ← genericArgumentsUpTo recur limit []
    Reader.mark ">"
    return Arguments.angled turbofish arguments trailingComma
  return arguments

/-! ### Paths -/

/-- Reads one segment of a path. In an expression, arguments need `::` before them. -/
def segment (inExpression : Bool) : Reader Segment := do
  if ← sees (oneOf ["super", "self", "crate", "try"]) then
    return .mk (← Reader.anyWord) .none
  let name ← if ← sees (.word "Self") then Reader.anyWord else Reader.name
  let bare := and (and (markBut "<" "<=") (.not (.mark "<<="))) fun _ => !inExpression
  if ← sees (any [bare, and (.mark "::") (third (.mark "<"))]) then
    return .mk name (← angled recur)
  else return .mk name .none

/-- Reads the segments that follow, each after `::`. -/
def moreSegments (inExpression : Bool) : Nat → List Segment → Reader (List Segment)
  | 0, _ => expected "expected identifier"
  | limit + 1, before => do
    if ← sees (and (.mark "::") (third (opens .parenthesis)).not) then
      Reader.mark "::"
      let next ← segment recur inExpression
      moreSegments inExpression limit (before ++ [next])
    else return before

/-- Reads the rest of a path after its first segments. -/
def restOfPath (inExpression : Bool) (before : List Segment) :
    Reader (List Segment) := do
  moreSegments recur inExpression ((← get).remaining.length + 1) before

/-- Reads a path and writes nothing. -/
def path (inExpression : Bool) : Reader Path := do
  let (result, _) ← capture do
    let rooted ← optionalMark "::"
    let first ← segment recur inExpression
    let segments ← restOfPath recur inExpression [first]
    return (⟨rooted, segments⟩ : Path)
  return result

/-- A path, or one that starts from a type in angle brackets and keeps its tokens. -/
inductive QualifiedPath where
  | plain (path : Path)
  | qualified (tokens : Tokens)

/-- The tokens of either kind of path. -/
def QualifiedPath.tokens : QualifiedPath → Tokens
  | .plain path => path.tokens
  | .qualified tokens => tokens

/-- Reads a path that may start from a type in angle brackets, and writes nothing. -/
def qualifiedPath (inExpression : Bool) : Reader QualifiedPath := do
  if ← sees (.mark "<") then
    let tokens ← captured do
      Reader.mark "<"
      writtenType recur
      if ← optionalWord "as" then write (← path recur false).tokens
      Reader.mark ">"
      Reader.mark "::"
      let (segments, _) ← capture do
        let first ← segment recur inExpression
        loopSegments ((← get).remaining.length + 1) [first]
      write (Token.separated Token.pathSeparator (segmentTokens segments))
    return .qualified tokens
  else return .plain (← path recur inExpression)
where
  loopSegments : Nat → List Segment → Reader (List Segment)
    | 0, _ => expected "expected identifier"
    | limit + 1, before => do
      if ← optionalMark "::" then
        let next ← segment recur inExpression
        loopSegments limit (before ++ [next])
      else return before

end

end Fieldwise.Grammar
