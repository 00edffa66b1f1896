/-
This file holds the rules for patterns.
-/

import Fieldwise.Grammar.Path

namespace Fieldwise.Grammar

open Reader Lookahead

section

variable (recur : Recursion)

/-- Reads alternatives with `|` between them, perhaps with one before the first. -/
def alternatives : Reader PatternForm := do
  let bar := and (.mark "|") (any [.mark "||", .mark "|="]).not
  let barBefore ← sees (markBut "|" "||")
  if barBefore then Reader.mark "|"
  let form ← pattern recur
  let several ← sees bar
  loop do
    if ← sees bar then
      Reader.mark "|"
      discard (pattern recur)
      return true
    else return false
  return if barBefore || several then .other else form

/-- What ends a range pattern that has no upper bound. -/
def endsRangePattern : Lookahead :=
  any [atEnd, .mark "|", .mark "=", markBut ":" "::", .mark ",", .mark ";", .word "if"]

/-- The words and marks that start a path in an expression. -/
def startsPath : Lookahead :=
  any [Lookahead.name, .mark "::", .mark "<", oneOf ["self", "Self", "super", "crate"]]

/-- Reads one end of a range pattern, if there is one. -/
def rangeBound : Reader Bool := do
  if ← sees endsRangePattern then return false
  else if ← sees Lookahead.literal then
    discard Reader.literal
    return true
  else if ← sees startsPath then
    write (← qualifiedPath recur true).tokens
    return true
  else if ← sees (.word "const") then
    Reader.word "const"
    block recur
    return true
  else expected "expected literal, identifier, or const block"

/-- Reads the dots of a closed range. Three dots are written as the two and the equals sign
that they stand for. -/
def closedDots : Reader Unit := do
  if ← sees (.mark "...") then
    discard <| capture (Reader.mark "...")
    write (Token.operator ['.', '.', '='])
  else Reader.mark "..="

/-- Reads a range pattern from its dots on. -/
def rangeRest : Reader PatternForm := do
  if ← sees (any [.mark "..=", .mark "..."]) then
    closedDots
    if ← rangeBound recur then return .other else expected "expected range upper bound"
  else
    Reader.mark ".."
    return if ← rangeBound recur then .other else .halfOpen

/-- Reads a name or a whole number that tells fields apart, and writes the number in plain
decimal digits; says whether it was a name. -/
def member : Reader Bool := do
  if ← sees Lookahead.name then
    discard Reader.name
    return true
  else
    match Token.front (← get).remaining with
    | .literal text :: _ =>
      match Literal.position text.toList with
      | some position =>
        discard <| capture Reader.literal
        write [.literal (toString position)]
        return false
      | none => expected "expected unsuffixed integer"
    | _ => expected "expected identifier or integer"

/-- Reads the pattern of one field of a structure. -/
def fieldPattern : Reader Unit := do
  let boxed ← optionalWord "box"
  let byReference ← optionalWord "ref"
  let mutable ← optionalWord "mut"
  if boxed || byReference || mutable then discard Reader.name
  else
    let named ← member
    if !named || (← sees (.mark ":")) then
      Reader.mark ":"
      discard (alternatives recur)

/-- Reads the fields of a structure pattern; dots end them. -/
def fieldPatterns : Reader Unit := loop do
  if ← sees atEnd then return false
  discard (outerAttributes recur)
  if ← sees (.mark "..") then
    Reader.mark ".."
    return false
  fieldPattern recur
  if ← sees atEnd then return false
  Reader.mark ","
  return true

/-- Reads patterns with commas in parentheses. -/
def parenthesizedPatterns : Reader Unit :=
  group .parenthesis (terminated "," (discard (alternatives recur)))

/-- Reads a pattern that starts with a path. -/
def pathPattern : Reader PatternForm := do
  let path ← qualifiedPath recur true
  write path.tokens
  let callable :=
    match path with
    | .plain path => path.isPlain
    | .qualified _ => false
  if callable && (← sees callsMacro) then
    discard macroCall
    return .other
  else if ← sees (opens .brace) then
    group .brace (fieldPatterns recur)
    return .other
  else if ← sees (opens .parenthesis) then
    parenthesizedPatterns recur
    return .other
  else if ← sees (.mark "..") then rangeRest recur
  else return .other

/-- Reads a pattern that binds a name. -/
def bindingPattern : Reader Unit := do
  discard (optionalWord "ref")
  discard (optionalWord "mut")
  if ← sees (.word "self") then discard Reader.anyWord else discard Reader.name
  if ← optionalMark "@" then discard (pattern recur)

/-- Reads a pattern of elements in square brackets. A range that lacks an end is none of
them, unless it stands in parentheses. -/
def elementPatterns : Reader Unit := group .bracket <| terminated "," do
  if (← alternatives recur) == .halfOpen then
    expected "range pattern is not allowed unparenthesized inside slice pattern"

/-- Reads dots, and the upper end of the range that starts with them, if there is one. -/
def dotsPattern : Reader PatternForm := do
  if ← sees (.mark "..=") then
    discard (rangeRest recur)
    return .halfOpen
  else
    Reader.mark ".."
    return if ← rangeBound recur then .halfOpen else .other

/-- The rule for patterns. -/
def patternRule : Reader PatternForm := do
  let goesOn :=
    any [.mark "::", .mark "!", opens .brace, opens .parenthesis, .mark ".."]
  if ← sees (any [and Lookahead.name (second goesOn),
      and (.word "self") (second (.mark "::")), .mark "::", .mark "<",
      oneOf ["Self", "super", "crate"]]) then pathPattern recur
  else if ← sees (.word "_") then
    discard Reader.anyWord
    return .other
  else if ← sees (.word "box") then
    verbatim do
      Reader.word "box"
      discard (pattern recur)
    return .verbatim
  else if ← sees (any [.mark "-", Lookahead.literal, .word "const"]) then
    discard (rangeBound recur)
    if ← sees (.mark "..") then rangeRest recur else return .other
  else if ← sees (any [oneOf ["ref", "mut", "self"], Lookahead.name]) then
    bindingPattern recur
    return .other
  else if ← sees (.mark "&") then
    Reader.mark "&"
    discard (optionalWord "mut")
    discard (pattern recur)
    return .other
  else if ← sees (opens .parenthesis) then
    parenthesizedPatterns recur
    return .other
  else if ← sees (opens .bracket) then
    elementPatterns recur
    return .other
  else if ← sees (markBut ".." "...") then dotsPattern recur
  else expected <|
    "expected one of: identifier, `::`, `<`, `_`, literal, `const`, `ref`, `mut`, `&`, " ++
      "parentheses, square brackets, `..`"

end

end Fieldwise.Grammar
