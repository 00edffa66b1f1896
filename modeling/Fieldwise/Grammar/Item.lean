/-
This file holds the rules for items: functions, constants, types, traits, implementations
and what else a block may declare. An item in a form that the language reads but gives no
meaning to is kept as it stands in the source; the readers say when that is so.
-/

import Fieldwise.Grammar.Field
import Fieldwise.Grammar.Expression

namespace Fieldwise.Grammar

open Reader Lookahead

section

variable (recur : Recursion)

/-! ### Functions -/

/-- Reads the qualifiers of a function; says whether it is called safe, which only an item
of another language may be. -/
def functionQualifiers (foreign : Bool) : Reader Bool := do
  discard (optionalWord "const")
  discard (optionalWord "async")
  let dangerous ← optionalWord "unsafe"
  let safe ← if foreign && !dangerous then optionalWord "safe" else pure false
  externalConvention
  return safe

/-- Whether a function comes next. -/
def seesFunction (foreign : Bool) : Reader Bool := succeeds do
  discard (functionQualifiers foreign)
  Reader.word "fn"

/-- Reads the receiver of a method without its type; says whether it is a reference, which
has no type. -/
def receiverName : Reader Bool := do
  let byReference ← optionalMark "&"
  if byReference && (← sees Lookahead.lifetime) then discard Reader.lifetime
  discard (optionalWord "mut")
  Reader.word "self"
  return byReference

/-- Whether the receiver of a method comes next, rather than a path that starts with `self`
or any number of parameters of that name. -/
def seesReceiver : Reader Bool := succeeds do
  let byReference ← receiverName
  let goesOn := any [.mark "::", and (.mark ":") (second (.mark "..."))]
  if !byReference && (← sees goesOn) then expected "expected `:`"

/-- Reads the receiver of a method. -/
def receiver : Reader Unit := do
  let byReference ← receiverName
  if !byReference && (← optionalMark ":") then writtenType recur

/-- Reads the dots that stand for any number of parameters; they are the last. -/
def variadicDots : Reader Unit := do
  Reader.mark "..."
  if !(← sees atEnd) then Reader.mark ","

/-- Reads one parameter of a function, of which only the first can be a receiver; says
whether another may follow. A type with arguments may stand without a pattern. -/
def functionParameter (first : Bool) : Reader Bool := do
  discard (outerAttributes recur)
  if ← sees (.mark "...") then
    variadicDots
    return false
  else if ← seesReceiver then
    if !first then expected "unexpected method receiver"
    receiver recur
    return true
  else if ← sees (and Lookahead.name (second (.mark "<"))) then
    write [.plain "_", Token.colon]
    writtenType recur
    return true
  else
    discard (pattern recur)
    Reader.mark ":"
    if ← sees (.mark "...") then
      variadicDots
      return false
    else
      writtenType recur
      return true

/-- Reads the parameters of a function; the first argument bounds their number, and the
flag tells whether the next one is the first. -/
def functionParameters : Nat → Bool → Reader Unit
  | 0, _ => expected "expected `,`"
  | limit + 1, first => do
    if ← sees atEnd then return ()
    if ← functionParameter recur first then
      if ← sees atEnd then return ()
      Reader.mark ","
      functionParameters limit false

/-- Reads a function up to its body; says whether it is called safe. -/
def signature (foreign : Bool) : Reader Bool := do
  let safe ← functionQualifiers foreign
  Reader.word "fn"
  discard Reader.name
  discard (writtenParameters recur)
  group .parenthesis do functionParameters recur ((← get).remaining.length + 1) true
  returnType recur true
  discard (writtenWhereClause recur)
  return safe

/-- Reads a function; says whether it has no body. -/
def function : Reader Bool := do
  discard (signature recur false)
  if ← optionalMark ";" then return true
  block recur
  return false

/-! ### Constants and types -/

/-- Reads a name that may be a low line. -/
def nameOrLowLine : Reader Unit := do
  if ← sees (.word "_") then discard Reader.anyWord else discard Reader.name

/-- What is unusual about a constant. -/
structure ConstantForm where
  /-- Whether it has generic parameters or a where clause. -/
  generic : Bool
  /-- Whether it has a value. -/
  valued : Bool

/-- Reads a constant. -/
def constant : Reader ConstantForm := do
  Reader.word "const"
  nameOrLowLine
  let parameters ← writtenParameters recur
  Reader.mark ":"
  writtenType recur
  let valued ← optionalMark "="
  if valued then discard (expression recur)
  let clause ← writtenWhereClause recur
  Reader.mark ";"
  return ⟨parameters || clause, valued⟩

/-- Reads a variable of the program; says whether its type or its value is missing. -/
def staticVariable : Reader Bool := do
  Reader.word "static"
  discard (optionalWord "mut")
  discard Reader.name
  let typed ← sees (.mark ":")
  if typed then
    Reader.mark ":"
    writtenType recur
  let valued ← if typed then optionalMark "=" else Reader.mark "="; pure true
  if valued then discard (expression recur)
  Reader.mark ";"
  return !(typed && valued)

/-- Where the where clause of a type may stand. -/
inductive ClausePlace where
  | beforeDefinition
  | afterDefinition
  | either
deriving DecidableEq

/-- What is said of a type. -/
structure TypeForm where
  /-- Whether a colon follows its name. -/
  bounded : Bool
  /-- Whether it is defined. -/
  defined : Bool

/-- Reads a type with its bounds and its definition. A colon without bounds is dropped. -/
def typeAlias (place : ClausePlace) : Reader TypeForm := do
  let ends := any [.word "where", .mark "=", .mark ";"]
  Reader.word "type"
  discard Reader.name
  discard (writtenParameters recur)
  let bounded ← sees (.mark ":")
  let bounds ← after ":" (separatedUntil "+" ends (bound recur))
  write (GenericParameter.boundTokens bounds)
  let clause ← if place == .afterDefinition then pure false else writtenWhereClause recur
  let defined ← optionalMark "="
  if defined then writtenType recur
  if place != .beforeDefinition && !clause then discard (writtenWhereClause recur)
  Reader.mark ";"
  return ⟨bounded, defined⟩

/-- Reads the body of a structure, its where clause included. -/
def structureBody : Reader Unit := do
  let clause ← writtenWhereClause recur
  if !clause && (← sees (opens .parenthesis)) then
    positionalFields recur
    discard (writtenWhereClause recur)
    Reader.mark ";"
  else if ← sees (opens .brace) then recur .fields
  else Reader.mark ";"

/-! ### Macros -/

/-- What starts the path of a macro that is called as an item. -/
def startsMacroPath : Lookahead :=
  any [Lookahead.name, oneOf ["self", "super", "crate"], .mark "::"]

/-- Reads a macro call as an item; it may name what it declares. Only braces end it without a
semicolon. -/
def macroItem (naming : Bool) : Reader Unit := do
  discard namePath
  Reader.mark "!"
  if naming then
    if ← sees (.word "try") then discard Reader.anyWord
    else if ← sees Lookahead.name then discard Reader.name
  if (← rawGroup) != .brace then Reader.mark ";"

/-- Reads a macro that is declared with its parameters and its body. -/
def declaredMacro : Reader Unit := do
  Reader.word "macro"
  discard Reader.name
  if ← sees (opens .parenthesis) then discard rawGroup
  if ← sees (opens .brace) then discard rawGroup else expected "expected curly braces"

/-! ### Use declarations -/

/-- Reads one tree of a use declaration. The flag tells whether a path in it may start at
the root; it is answered whether one does. -/
def useTree : Nat → Bool → Reader Bool
  | 0, _ => expected "expected identifier"
  | depth + 1, rootAllowed => do
    let starts := any [Lookahead.name, oneOf ["self", "super", "crate", "try"]]
    if ← sees (.mark "*") then
      Reader.mark "*"
      return false
    else if ← sees (opens .brace) then
      let rooted ← group .brace (useTrees (useTree depth) rootAllowed (depth + 1) false)
      return rooted
    else if ← sees starts then
      discard Reader.anyWord
      if ← optionalMark "::" then useTree depth false
      else
        if ← optionalWord "as" then nameOrLowLine
        return false
    else expected "expected one of: identifier, `self`, `super`, `crate`, `try`, `*`, braces"
where
  /-- The trees in braces, given a reader of one; the second number bounds how many they
  are. -/
  useTrees (tree : Bool → Reader Bool) (rootAllowed : Bool) : Nat → Bool → Reader Bool
    | 0, rooted => return rooted
    | limit + 1, rooted => do
      if ← sees atEnd then return rooted
      let fromRoot ← if rootAllowed then optionalMark "::" else pure false
      let inner ← tree (rootAllowed && !fromRoot)
      let rooted := rooted || fromRoot || inner
      if ← sees atEnd then return rooted
      Reader.mark ","
      useTrees tree rootAllowed limit rooted

/-- Reads a use declaration; says whether a path inside braces starts at the root. -/
def useDeclaration : Reader Bool := do
  Reader.word "use"
  let rooted ← optionalMark "::"
  let inner ← useTree (Token.countAll (← get).remaining + 1) (!rooted)
  Reader.mark ";"
  return inner

/-! ### Members of traits, implementations and external blocks -/

/-- Reads members in braces, which may start with attributes of the whole. Each member is
read with its attributes, and kept as it stands in the source if its reader says so. -/
def members (member : Reader Bool) : Reader Unit := group .brace do
  innerAttributes recur
  loop do
    if ← sees atEnd then return false
    discard <| verbatimIf id do
      discard (outerAttributes recur)
      member
    return true

/-- Reads a member of a trait after its attributes. -/
def traitMember : Reader Bool := do
  let modifiers ← captured do
    visibility
    discard (optionalWord "default")
  write modifiers
  if ← seesFunction false then discard (function recur)
  else if ← sees (.word "const") then
    if (← constant recur).generic then return true
  else if ← sees (.word "type") then discard (typeAlias recur .afterDefinition)
  else if modifiers.isEmpty && (← sees startsMacroPath) then macroItem false
  else expected "expected one of: `fn`, `const`, `type`, identifier"
  return !modifiers.isEmpty

/-- Reads a member of an implementation after its attributes. -/
def implementationMember : Reader Bool := do
  let modifiers ← captured do
    visibility
    if ← sees (and (.word "default") (.not (second (.mark "!")))) then discard Reader.anyWord
  write modifiers
  if ← seesFunction false then function recur
  else if ← sees (.word "const") then
    let form ← constant recur
    return form.generic || !form.valued
  else if ← sees (.word "type") then
    let form ← typeAlias recur .afterDefinition
    return form.bounded || !form.defined
  else if modifiers.isEmpty && (← sees startsMacroPath) then
    macroItem false
    return false
  else expected "expected one of: `fn`, `const`, `type`, identifier"

/-- Reads a function of another language; says whether it is called safe or has a body. -/
def foreignFunction : Reader Bool := do
  let safe ← signature recur true
  let embodied ← sees (opens .brace)
  if embodied then block recur else Reader.mark ";"
  return safe || embodied

/-- Reads a variable of another language; says whether it is called safe or unsafe, or has
a value. -/
def foreignVariable : Reader Bool := do
  let qualified ← sees (oneOf ["unsafe", "safe"])
  if qualified then discard Reader.anyWord
  Reader.word "static"
  discard (optionalWord "mut")
  discard Reader.name
  Reader.mark ":"
  writtenType recur
  let valued ← optionalMark "="
  if valued then discard (expression recur)
  Reader.mark ";"
  return qualified || valued

/-- Reads a member of a block of another language after its attributes. -/
def foreignMember : Reader Bool := do
  let shown ← captured visibility
  write shown
  let startsVariable := any [.word "static",
    and (oneOf ["unsafe", "safe"]) (second (.word "static"))]
  if ← seesFunction true then foreignFunction recur
  else if ← sees startsVariable then foreignVariable recur
  else if ← sees (.word "type") then
    let form ← typeAlias recur .either
    return form.bounded || form.defined
  else if shown.isEmpty && (← sees startsMacroPath) then
    macroItem false
    return false
  else expected "expected one of: `fn`, `static`, `type`, identifier"

/-! ### Traits, implementations and external blocks -/

/-- Reads bounds after a sign, up to the test; without bounds the sign is dropped. -/
def supertraits : Reader Unit := do
  let bounds ← after ":" <|
    separatedUntil "+" (any [.word "where", opens .brace]) (bound recur)
  write (GenericParameter.boundTokens bounds)

/-- Reads a trait from its keyword on, or the name of a list of bounds where that is
allowed. -/
def traitItem (aliasAllowed : Bool) : Reader Unit := do
  Reader.word "trait"
  discard Reader.name
  discard (writtenParameters recur)
  if aliasAllowed && (← sees (.mark "=")) then
    Reader.mark "="
    separatedUntil "+" (any [.word "where", .mark ";"]) (objectBound recur)
    discard (writtenWhereClause recur)
    Reader.mark ";"
  else
    supertraits recur
    discard (writtenWhereClause recur)
    members recur (traitMember recur)

/-- Whether a type is a path, perhaps in an invisible group. -/
def isPath : WrittenType → Bool
  | .path _ _ => true
  | .grouped inner => isPath inner
  | _ => false

/-- Reads an implementation; says whether it is constant, or of something that is no
trait. -/
def implementation : Reader Bool := do
  discard (optionalWord "default")
  discard (optionalWord "unsafe")
  Reader.word "impl"
  if ← sees opensParameters then discard (writtenParameters recur)
  let constant ← sees (any [.word "const", and (.mark "?") (second (.word "const"))])
  if constant then
    discard (optionalMark "?")
    Reader.word "const"
  let negative ← sees (and (.mark "!") (.not (second (opens .brace))))
  if negative then Reader.mark "!"
  let implemented ← type recur
  write implemented.tokens
  let ofTrait ← optionalWord "for"
  if ofTrait then writtenType recur
  else if negative then expected "inherent impls cannot be negative"
  discard (writtenWhereClause recur)
  members recur (implementationMember recur)
  return constant || (ofTrait && !isPath implemented)

/-- Reads a block of items of another language. -/
def foreignBlock : Reader Unit := do
  discard (optionalWord "unsafe")
  externalConvention
  members recur (foreignMember recur)

/-- Reads the declaration of another crate from `extern` on. -/
def externalCrate : Reader Unit := do
  Reader.word "extern"
  Reader.word "crate"
  if ← sees (.word "self") then discard Reader.anyWord else discard Reader.name
  if ← optionalWord "as" then nameOrLowLine
  Reader.mark ";"

/-- Reads a module. -/
def moduleItem : Reader Unit := do
  discard (optionalWord "unsafe")
  Reader.word "mod"
  if ← sees (.word "try") then discard Reader.anyWord else discard Reader.name
  if ← sees (.mark ";") then Reader.mark ";"
  else group .brace do
    innerAttributes recur
    loop do
      if ← sees atEnd then return false
      recur .item
      return true

/-! ### Any item -/

/-- What starts a trait whose members are promised by its name alone. -/
def startsAutoTrait : Lookahead := and (.word "auto") (second (.word "trait"))

/-- Reads a structure, an enumeration or a union. -/
def dataItem : Reader Unit := do
  let keyword ← Reader.anyWord
  discard Reader.name
  discard (writtenParameters recur)
  if keyword == .plain "struct" then structureBody recur
  else
    discard (writtenWhereClause recur)
    if keyword == .plain "enum" then variants recur else recur .fields

/-- Reads an item that starts with `unsafe` and is no function. -/
def unsafeItem (shown : Bool) : Reader Bool := do
  if ← sees (second (any [.word "trait", startsAutoTrait])) then
    Reader.word "unsafe"
    discard (optionalWord "auto")
    traitItem recur false
    return false
  else if ← sees (second (.word "impl")) then return (← implementation recur) || shown
  else if !shown && (← sees (second (.word "extern"))) then
    foreignBlock recur
    return false
  else if ← sees (second (.word "mod")) then
    moduleItem recur
    return false
  else expected "expected one of: `trait`, `auto`, `impl`, `extern`, `mod`"

/-- Reads an item after its attributes; says whether it is kept as it stands in the
source. -/
def itemAfterAttributes : Reader Bool := do
  let shown ← captured visibility
  write shown
  let isShown := !shown.isEmpty
  if ← seesFunction false then function recur
  else if ← sees (and (.word "extern") (second (.word "crate"))) then
    externalCrate
    return false
  else if !isShown && (← sees (.word "extern")) then
    foreignBlock recur
    return false
  else if ← sees (.word "use") then useDeclaration
  else if ← sees (.word "static") then staticVariable recur
  else if ← sees (.word "const") then
    let form ← constant recur
    return form.generic || !form.valued
  else if ← sees (.word "unsafe") then unsafeItem recur isShown
  else if ← sees (.word "mod") then
    moduleItem recur
    return false
  else if ← sees (.word "type") then
    let form ← typeAlias recur .beforeDefinition
    return form.bounded || !form.defined
  else if ← sees (any [oneOf ["struct", "enum"],
      and (.word "union") (second Lookahead.name)]) then
    dataItem recur
    return false
  else if ← sees (.word "trait") then
    traitItem recur true
    return false
  else if ← sees startsAutoTrait then
    Reader.word "auto"
    traitItem recur false
    return false
  else if ← sees (any [.word "impl", and (.word "default") (.not (second (.mark "!")))]) then
    return (← implementation recur) || isShown
  else if ← sees (.word "macro") then
    declaredMacro
    return true
  else if !isShown && (← sees startsMacroPath) then
    macroItem true
    return false
  else expected "expected item"

/-- The rule for items with their attributes. -/
def itemRule : Reader Unit := discard <| verbatimIf id do
  discard (outerAttributes recur)
  itemAfterAttributes recur

end

end Fieldwise.Grammar
