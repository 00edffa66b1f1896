/-
This file holds the rules for generic parameters, for the bounds of types and for where
clauses.
-/

import Fieldwise.Grammar.Path

namespace Fieldwise.Grammar

open Reader Lookahead

section

variable (recur : Recursion)

/-! ### Generic parameters -/

/-- Whether `<` opens generic parameters rather than a path that starts from a type. -/
def opensParameters : Lookahead :=
  let goesOn := any [.mark ">", .mark ",", markBut ":" "::", .mark "="]
  and (.mark "<") <| any [second (.mark ">"), second (.mark "#"), second (.word "const"),
    and (any [second Lookahead.lifetime, second Lookahead.name]) (third goesOn)]

/-- Reads what follows the sign, if the sign comes next, and gives it without the sign. -/
def after (sign : String) (inner : Reader Unit) : Reader Tokens := do
  if ← sees (.mark sign) then
    discard <| capture (Reader.mark sign)
    captured inner
  else return []

/-- Reads a generic parameter after its attributes. -/
def parameterAfter (attributes : Tokens) : Reader GenericParameter := do
  if ← sees Lookahead.lifetime then
    let lifetime ← Reader.lifetime
    let bounds ← after ":" <|
      separatedUntil "+" (any [.mark ",", .mark ">"]) (discard Reader.lifetime)
    return .lifetime attributes lifetime bounds
  else if ← sees Lookahead.name then
    let parameter ← Reader.name
    let bounds ← after ":" <|
      separatedUntil "+" (any [.mark ",", .mark ">", .mark "="]) (bound recur)
    return .type attributes parameter bounds (← after "=" (writtenType recur))
  else if ← sees (.word "const") then
    Reader.word "const"
    let parameter ← Reader.name
    Reader.mark ":"
    let type ← captured (writtenType recur)
    return .constant attributes parameter type (← after "=" (constantArgument recur))
  else expected "expected one of: lifetime, identifier, `const`"

/-- Reads one of the parameters of a declaration; a low line may stand for a type that is
not named. -/
def genericParameter : Reader GenericParameter := do
  let attributes ← captured (discard (outerAttributes recur))
  if ← sees (.word "_") then return .type attributes (← Reader.anyWord) [] []
  else parameterAfter recur attributes

/-- Reads the parameters up to the closing `>`, given those before, and whether a comma
follows the last. The first argument bounds their number. -/
def genericParametersUpTo :
    Nat → List GenericParameter → Reader (List GenericParameter × Bool)
  | 0, _ => expected "expected `>`"
  | limit + 1, before => do
    if ← sees (.mark ">") then return (before, !before.isEmpty)
    let parameter ← genericParameter recur
    if ← sees (.mark ">") then return (before ++ [parameter], false)
    Reader.mark ","
    genericParametersUpTo limit (before ++ [parameter])

/-- Reads generic parameters in angle brackets, if there are any. -/
def genericParameters : Reader (List GenericParameter × Bool) := do
  if ← sees (.mark "<") then
    Reader.mark "<"
    let result ← genericParametersUpTo recur (Token.countAll (← get).remaining + 1) []
    Reader.mark ">"
    return result
  else return ([], false)

/-- Reads and writes generic parameters; says whether there were angle brackets. -/
def writtenParameters : Reader Bool := do
  let present ← sees (.mark "<")
  let ((parameters, trailingComma), _) ← capture (genericParameters recur)
  write (Generics.mk parameters trailingComma ⟨[], false⟩).declared
  return present

/-- Reads `for` and the parameters it introduces, if it comes next. They keep their
order. -/
def binder : Reader Bool := do
  if ← optionalWord "for" then
    Reader.mark "<"
    separatedUntil "," (.mark ">") do
      let (parameter, _) ← capture do
        parameterAfter recur (← captured (discard (outerAttributes recur)))
      write parameter.declared
    Reader.mark ">"
    return true
  else return false

/-! ### Bounds -/

/-- Reads `->` and a type, if an arrow comes next. -/
def returnType (plus : Bool) : Reader Unit := do
  if ← optionalMark "->" then
    if plus then writtenType recur else writtenTypeWithoutPlus recur

/-- Reads argument types in parentheses and an optional result type. -/
def parenthesizedArguments : Reader Unit := do
  group .parenthesis (terminated "," (writtenType recur))
  returnType recur false

/-- The path with nothing applied to its last segment, if what is applied there has no
arguments. -/
def bareEnd (path : Path) : Option Path :=
  match path.segments.reverse with
  | .mk last .none :: before => some ⟨path.rooted, (.mk last .none :: before).reverse⟩
  | .mk last (.angled _ [] _) :: before => some ⟨path.rooted, (.mk last .none :: before).reverse⟩
  | _ => none

/-- Reads the path of a trait and its arguments. Empty angle brackets before parentheses
are left out. -/
def traitPath : Reader Unit := do
  let path ← path recur false
  match bareEnd path with
  | some bare =>
    if ← sees (any [opens .parenthesis, and (.mark "::") (third (opens .parenthesis))]) then
      write bare.tokens
      discard <| capture (optionalMark "::")
      parenthesizedArguments recur
    else write path.tokens
  | none => write path.tokens

/-- Reads the `const` of a bound, perhaps in brackets, if it comes next and is allowed. -/
def constantBound (constant : Bool) : Reader Bool := do
  let bracketed ← sees (opens .bracket)
  if bracketed then group .bracket (Reader.word "const")
  let found := bracketed || (← optionalWord "const")
  if found && !constant then expected "`const` is not allowed here" else return found

/-- Reads a trait as a bound, with the parameters introduced for it, its `const` or its
`?`, and its arguments; says whether it is constant. A bound with `?` introduces no
parameters. -/
def traitBound (constant : Bool) : Reader Bool := do
  let introduced ← binder recur
  let isConstant ← constantBound constant
  let relaxed ← optionalMark "?"
  if relaxed && (introduced || (← sees (.word "for"))) then
    expected "`for<...>` binder not allowed with `?` trait polarity modifier"
  traitPath recur
  return isConstant

/-- Reads the list of the parameters that a type captures. -/
def capturedParameters : Reader Unit := do
  Reader.word "use"
  let rec parameters : Nat → List (Bool × Tokens) → Reader (List (Bool × Tokens) × Bool)
    | 0, _ => expected "expected `>`"
    | limit + 1, before => do
      if ← sees (.mark ">") then return (before, !before.isEmpty)
      let isLifetime ← sees Lookahead.lifetime
      let parameter ← captured do
        if isLifetime then discard Reader.lifetime
        else if ← sees (.word "Self") then discard Reader.anyWord
        else discard Reader.name
      if ← sees (.mark ">") then return (before ++ [(isLifetime, parameter)], false)
      Reader.mark ","
      parameters limit (before ++ [(isLifetime, parameter)])
  Reader.mark "<"
  let ((listed, trailingComma), _) ← capture (parameters ((← get).remaining.length + 1) [])
  write (lifetimesFirst listed trailingComma)
  Reader.mark ">"

/-- The rule for a bound: a lifetime, captured parameters, or a trait that may stand in
parentheses. A constant bound is kept as it stands in the source. -/
def boundRule (capturing constant : Bool) : Reader Bool := do
  if ← sees Lookahead.lifetime then
    discard Reader.lifetime
    return false
  else if ← sees (.word "use") then
    capturedParameters
    if !capturing then expected "`use<...>` precise capturing syntax is not allowed here"
    return false
  else
    discard <| verbatimIf id do
      if ← sees (opens .parenthesis) then group .parenthesis (traitBound recur constant)
      else traitBound recur constant
    return true

/-- What may come after a `+` between bounds. -/
def startsBound (constant : Bool) : Lookahead :=
  any [Lookahead.anyWord, .mark "::", .mark "?", Lookahead.lifetime, opens .parenthesis,
    and (opens .bracket) fun _ => constant]

/-- Reads bounds, several of them only where `+` is allowed, and fails unless one of
them is a trait. -/
def bounds (capturing constant plus : Bool) : Reader Unit := do
  let rec go : Nat → Bool → Reader Bool
    | 0, traits => return traits
    | limit + 1, traits => do
      let isTrait : Bool ← recur (.bound capturing constant)
      let traits := traits || isTrait
      if plus && (← sees (.mark "+")) then
        Reader.mark "+"
        if ← sees (startsBound constant) then go limit traits else return traits
      else return traits
  let traits ← go ((← get).remaining.length + 1) false
  if !traits then throw (.expected "at least one trait is required for an object type")

/-- Reads a bound of a trait object. -/
def objectBound : Reader Unit := discard (recur (.bound false false))

/-! ### Where clauses -/

/-- What a list of predicates, or of the bounds of one, stands before. -/
def endsPredicates : Lookahead :=
  any [atEnd, opens .brace, .mark ",", .mark ";", markBut ":" "::", .mark "="]

/-- Reads one predicate of a where clause. -/
def predicate : Reader Unit := do
  if ← sees (and Lookahead.lifetime (second (.mark ":"))) then
    discard Reader.lifetime
    Reader.mark ":"
    separatedUntil "+" endsPredicates (discard Reader.lifetime)
  else
    discard (binder recur)
    writtenType recur
    Reader.mark ":"
    separatedUntil "+" endsPredicates (bound recur)

/-- Reads the predicates up to the end of the clause, given those before, and whether a
comma follows the last. The first argument bounds their number. -/
def predicatesUpTo : Nat → List Tokens → Reader (List Tokens × Bool)
  | 0, before => return (before, false)
  | limit + 1, before => do
    if ← sees endsPredicates then return (before, !before.isEmpty)
    let next ← captured (predicate recur)
    if ← sees (.mark ",") then
      Reader.mark ","
      predicatesUpTo limit (before ++ [next])
    else return (before ++ [next], false)

/-- Reads a where clause, if there is one. It has no generic parameters of its own. -/
def whereClause : Reader (Option WhereClause) := do
  if ← optionalWord "where" then
    if ← sees opensParameters then
      expected "generic parameters on `where` clauses are reserved for future use"
    let (predicates, trailingComma) ←
      predicatesUpTo recur (Token.countAll (← get).remaining + 1) []
    return some ⟨predicates, trailingComma⟩
  else return none

/-- Reads and writes a where clause; says whether there is one. -/
def writtenWhereClause : Reader Bool := do
  let (clause, _) ← capture (whereClause recur)
  write ((clause.map (·.tokens)).getD [])
  return clause.isSome

end

end Fieldwise.Grammar
