/-
This file holds the rules for types. Arrays, parentheses, invisible groups, slices, plain
paths and lone bounds are given back in parts; the other types give back their tokens.
-/

import Fieldwise.Grammar.Generics

namespace Fieldwise.Grammar

open Reader Lookahead

section

variable (recur : Recursion)

/-! ### Function types -/

/-- Reads `extern` and the name of a calling convention, if it comes next. -/
def externalConvention : Reader Unit := do
  if ← optionalWord "extern" then
    if ← sees Lookahead.string then discard Reader.literal

/-- Reads an argument of a function type that starts with `mut self`, perhaps with its
type. -/
def mutableReceiver : Reader Unit := do
  Reader.word "mut"
  Reader.word "self"
  if ← sees (markBut ":" "::") then
    Reader.mark ":"
    writtenType recur

/-- Reads one argument of a function type, perhaps with its name, which may be `self` for
the first; says whether another may follow. -/
def functionArgument (first : Bool) : Reader Bool := do
  discard (outerAttributes recur)
  let named := any [Lookahead.name, .word "_"]
  let variadic := and named (and (second (.mark ":")) (third (.mark "...")))
  if ← sees (any [.mark "...", variadic]) then
    if ← sees named then
      discard Reader.anyWord
      Reader.mark ":"
    Reader.mark "..."
    discard (optionalMark ",")
    return false
  else if first && (← sees (and (.word "mut") (second (.word "self")))) then
    verbatim (mutableReceiver recur)
    return true
  else
    let label := any [named, and (.word "self") fun _ => first]
    if ← sees (and label (second (markBut ":" "::"))) then
      discard Reader.anyWord
      Reader.mark ":"
    writtenType recur
    return true

/-- Reads the arguments of a function type; the first argument bounds their number, and the
flag tells whether the next one is the first. -/
def functionArguments : Nat → Bool → Reader Unit
  | 0, _ => expected "expected `,`"
  | limit + 1, first => do
    if ← sees atEnd then return ()
    if ← functionArgument recur first then
      if ← sees atEnd then return ()
      Reader.mark ","
      functionArguments limit false

/-- Reads a function type after the parameters introduced for it. -/
def functionType : Reader Unit := do
  discard (optionalWord "unsafe")
  externalConvention
  Reader.word "fn"
  group .parenthesis do functionArguments recur ((← get).remaining.length + 1) true
  returnType recur false

/-! ### Types -/

/-- What stands in parentheses at the start of a type. -/
inductive Enclosed where
  /-- Any number of types with commas. -/
  | tuple
  /-- A bound with `?`. -/
  | relaxedBound (tokens : Tokens)
  | single (inner : WrittenType)

/-- Reads and writes what stands in parentheses at the start of a type. -/
def enclosed : Reader Enclosed := group .parenthesis do
  if ← sees atEnd then return .tuple
  else if ← sees Lookahead.lifetime then
    let tokens ← captured (bounds recur false false true)
    write tokens
    return .single (.traitObject tokens)
  else if ← sees (.mark "?") then
    let tokens ← captured (discard (traitBound recur false))
    write tokens
    return .relaxedBound tokens
  else
    let first ← type recur
    write first.tokens
    if ← sees (.mark ",") then
      Reader.mark ","
      terminated "," (writtenType recur)
      return .tuple
    else return .single first

/-- Reads the bounds that follow a first one in parentheses, one after each `+`. -/
def boundsAfterEnclosed : Reader Unit := loop do
  if ← optionalMark "+" then
    objectBound recur
    return true
  else return false

/-- Reads the bounds that follow a first one; the last may be followed by `+`. -/
def moreBounds : Reader Unit := loop do
  if ← optionalMark "+" then
    if ← sees (startsBound false) then
      objectBound recur
      return true
    else return false
  else return false

/-- Reads what follows a first bound in parentheses and gives the bounds; without a `+`
the type is the other one. -/
def enclosedBound (inner : Tokens) (plus : Bool) (alone : WrittenType) :
    Reader WrittenType := do
  if plus && (← sees (.mark "+")) then
    return .traitObject (.parenthesized inner :: (← captured (boundsAfterEnclosed recur)))
  else return alone

/-- Reads a type that starts with parentheses. A path or a lone bound in parentheses may
be the first of several bounds. -/
def parenthesizedType (plus : Bool) : Reader WrittenType := do
  let (content, tokens) ← capture (enclosed recur)
  match content with
  | .tuple => return .other tokens
  | .relaxedBound inner => enclosedBound recur inner true (.loneBound true inner)
  | .single (.path rooted segments) =>
    let inner := WrittenType.path rooted segments
    enclosedBound recur inner.tokens plus (.parenthesized inner)
  | .single (.loneBound inParentheses inner) =>
    enclosedBound recur inner plus (.parenthesized (.loneBound inParentheses inner))
  | .single inner => return .parenthesized inner

/-- Reads a type that starts with a path, given the tokens of `for` and the parameters
introduced before it. A path that parameters are introduced for is a bound; before a macro
call they are dropped. -/
def pathType (plus : Bool) (introduced : Option Tokens) : Reader WrittenType := do
  match ← qualifiedPath recur false with
  | .qualified tokens => return .other tokens
  | .plain path =>
    if path.isPlain && (← sees callsMacro) then
      return .other (path.tokens ++ (← captured (discard macroCall)))
    else if plus && (← sees (.mark "+")) then
      return .traitObject (introduced.getD [] ++ path.tokens ++ (← captured (moreBounds recur)))
    else
      match introduced with
      | some parameters => return .loneBound false (parameters ++ path.tokens)
      | none => return .path path.rooted path.segments

/-- Reads the segments that follow a path, each after `::`, and gives their tokens. -/
def followingSegments : Reader Tokens := do
  let (segments, _) ← capture (restOfPath recur false [])
  return ((segmentTokens segments).map (Token.pathSeparator ++ ·)).flatten

/-- Whether the tokens of a type are those of a path from a type in angle brackets; no
other type starts with one. -/
def isQualified : Tokens → Bool
  | .mark '<' _ :: _ => true
  | _ => false

/-- Whether the tokens of a path end with a name. -/
def endsBare (tokens : Tokens) : Bool :=
  match tokens.getLast? with
  | some (.word _) => true
  | _ => false

/-- Reads a type kept together by an invisible group, with what may follow it: a path in
the group goes on after it, and its last segment takes arguments if it has none. -/
def groupedType (groupArguments : Bool) : Reader WrittenType := do
  let (inner, _) ← capture (group .invisible (type recur))
  let continues := and (.mark "::") (third Lookahead.anyWord)
  let takesArguments :=
    any [and (.mark "<") fun _ => groupArguments, and (.mark "::") (third (.mark "<"))]
  match inner with
  | .path rooted segments =>
    if ← sees continues then
      let (segments, _) ← capture (restOfPath recur false segments)
      return .path rooted segments
    else if ← sees takesArguments then
      match segments.reverse with
      | .mk last .none :: before =>
        let arguments ← angled recur
        let (segments, _) ← capture <|
          restOfPath recur false (before.reverse ++ [.mk last arguments])
        return .path rooted segments
      | _ => return .grouped inner
    else return .grouped inner
  | .other tokens =>
    if isQualified tokens then
      if ← sees continues then return .other (tokens ++ (← followingSegments recur))
      else if ← sees (and takesArguments fun _ => endsBare tokens) then
        let arguments ← angled recur
        return .other (tokens ++ arguments.tokens ++ (← followingSegments recur))
      else return .grouped inner
    else grouped inner continues
  | _ => grouped inner continues
where
  /-- A type in an invisible group, from which a path may start. -/
  grouped (inner : WrittenType) (continues : Lookahead) : Reader WrittenType := do
    if ← sees continues then
      let rest ← path recur false
      return .other ([.less] ++ inner.tokens ++ [.greater] ++ rest.tokens)
    else return .grouped inner

/-- The words that may start the path of a type. -/
def startsTypePath : Lookahead :=
  any [Lookahead.name, oneOf ["super", "self", "Self", "crate"], .mark "::", .mark "<"]

/-- The words that start a type after `for` and the parameters it introduces. -/
def startsIntroduced : Lookahead :=
  any [Lookahead.name, oneOf ["fn", "unsafe", "extern", "super", "self", "Self", "crate"]]

/-- Reads a type in square brackets. -/
def bracketedType : Reader WrittenType := group .bracket do
  let element ← type recur
  if ← sees (.mark ";") then
    Reader.mark ";"
    let length ← captured (discard (expression recur))
    return .array element length
  else return .slice element

/-- Reads a type that starts with `dyn`. With a star after it, it is kept as it stands in the
source. -/
def dynamicType (plus : Bool) : Reader WrittenType := do
  let (starred, tokens) ← capture <| verbatimIf id do
    Reader.word "dyn"
    let starred ← optionalMark "*"
    bounds recur false false plus
    return starred
  return if starred then .other tokens else .traitObject tokens

/-- The rule for types. -/
def typeRule (plus groupArguments : Bool) : Reader WrittenType := do
  if ← sees invisible then return ← groupedType recur groupArguments
  let (isIntroduced, parameters) ← capture (binder recur)
  if isIntroduced && !(← sees startsIntroduced) then expected "expected identifier"
  if ← sees (opens .parenthesis) then parenthesizedType recur plus
  else if ← sees (oneOf ["fn", "unsafe", "extern"]) then
    return .other (parameters ++ (← captured (functionType recur)))
  else if ← sees startsTypePath then
    pathType recur plus (if isIntroduced then some parameters else none)
  else if ← sees (.word "dyn") then dynamicType recur plus
  else if ← sees (opens .bracket) then return (← capture (bracketedType recur)).1
  else if ← sees (.mark "*") then
    return .other (← captured do
      Reader.mark "*"
      if ← sees (.word "mut") then Reader.word "mut" else Reader.word "const"
      writtenTypeWithoutPlus recur)
  else if ← sees (.mark "&") then
    return .other (← captured do
      Reader.mark "&"
      if ← sees Lookahead.lifetime then discard Reader.lifetime
      discard (optionalWord "mut")
      writtenTypeWithoutPlus recur)
  else if ← sees (.mark "!") then return .other (← captured (Reader.mark "!"))
  else if ← sees (.word "impl") then
    return .implTrait (← captured do
      Reader.word "impl"
      bounds recur true true plus)
  else if ← sees (.word "_") then return .other (← captured (discard Reader.anyWord))
  else if ← sees Lookahead.lifetime then
    return .traitObject (← captured (bounds recur false false true))
  else expected <|
    "expected one of: `for`, parentheses, `fn`, `unsafe`, `extern`, identifier, `::`, `<`, " ++
      "`dyn`, square brackets, `*`, `&`, `!`, `impl`, `_`, lifetime"

end

end Fieldwise.Grammar
