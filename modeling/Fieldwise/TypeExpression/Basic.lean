/-
This file holds type expressions, the view of a declared type that decides its shape.
Arrays and plain paths are taken apart; all other types are kept as they are written.
-/

import Fieldwise.Written.Type
import Fieldwise.Token.Printer

namespace Fieldwise

/-! ### Qualified names -/

/-- A path of names, such as `std::vec::Vec`, without arguments. -/
structure QualifiedName where
  /-- Whether the path starts with `::`. -/
  rooted : Bool
  /-- The names, first to last. -/
  names : List Identifier
deriving DecidableEq, Repr, Inhabited

namespace QualifiedName

/-- The name as text, without a `::` before it and without `r#`. -/
def relative (name : QualifiedName) : String :=
  "::".intercalate (name.names.map (·.text))

/-- The name as text. -/
def display (name : QualifiedName) : String :=
  if name.rooted then "::" ++ name.relative else name.relative

/-- Whether the name is one of the spellings, a `::` before it apart. -/
def isOneOf (name : QualifiedName) (spellings : List String) : Bool :=
  spellings.contains name.relative

/-- The tokens of the name, `r#` included. -/
def tokens (name : QualifiedName) : Tokens :=
  pathTokens name.rooted (name.names.map fun part => [.word part])

end QualifiedName

/-! ### Type expressions -/

/-- The shape of a declared type. -/
inductive TypeExpression where
  /-- `[element; length]`. -/
  | array (element : TypeExpression) (length : Tokens)
  /-- A path whose last segment has type arguments and nothing else applied to it. -/
  | parameterized (name : QualifiedName) (arguments : List TypeExpression)
  /-- A path without arguments. -/
  | simple (name : QualifiedName)
  /-- Any other type. -/
  | unanalysed (written : WrittenType)
deriving Inhabited

namespace TypeExpression

/-! ### Classification -/

mutual

/-- The shape of a written type. Parentheses and invisible groups around a type, an
array's element or an argument are dropped. A path is taken apart only if nothing is
applied to any segment but the last, and there only types. -/
def ofWritten : WrittenType → TypeExpression
  | .array element length => .array (ofWritten element) length
  | .parenthesized inner => ofWritten inner
  | .grouped inner => ofWritten inner
  | .path rooted segments =>
    match ofSegments rooted [] segments with
    | some shape => shape
    | none => .unanalysed (.path rooted segments)
  | written => .unanalysed written

/-- The shape of a path, given the names of the segments before, if it can be taken
apart. -/
def ofSegments (rooted : Bool) (before : List Identifier) :
    List Segment → Option TypeExpression
  | [] => none
  | [last] => ofLast rooted before last
  | segment :: rest =>
    if segment.arguments.isNone then ofSegments rooted (before ++ [segment.name]) rest
    else none

/-- The shape of a path that ends with the segment. -/
def ofLast (rooted : Bool) (before : List Identifier) : Segment → Option TypeExpression
  | .mk name arguments => ofApplied ⟨rooted, before ++ [name]⟩ arguments

/-- The shape of a name that something is applied to. -/
def ofApplied (name : QualifiedName) : Arguments → Option TypeExpression
  | .none => some (.simple name)
  | .angled _ arguments _ => (ofArguments arguments).map (.parameterized name)
  | .parenthesized _ => none

/-- The shapes of arguments, if all of them are types. -/
def ofArguments : List Argument → Option (List TypeExpression)
  | [] => some []
  | argument :: rest =>
    match ofArgument argument, ofArguments rest with
    | some shape, some shapes => some (shape :: shapes)
    | _, _ => none

/-- The shape of an argument, if it is a type. -/
def ofArgument : Argument → Option TypeExpression
  | .type type => some (ofWritten type)
  | _ => none

end

/-! ### Parts -/

/-- The name of the container, if the type has one. -/
def name? : TypeExpression → Option QualifiedName
  | .parameterized name _ => some name
  | .simple name => some name
  | _ => none

/-- The type arguments; a type that is not parameterized has none. -/
def arguments : TypeExpression → List TypeExpression
  | .parameterized _ arguments => arguments
  | _ => []

/-- Whether the type is parameterized, and named by one of the spellings. -/
def isParameterizedAs (type : TypeExpression) (spellings : List String) : Bool :=
  match type with
  | .parameterized name _ => name.isOneOf spellings
  | _ => false

/-- Whether values of the type have no fixed size, as far as its form shows. -/
def isUnsized : TypeExpression → Bool
  | .simple name => name.isOneOf ["str", "core::primitive::str", "std::primitive::str"]
  | .unanalysed (.slice _) => true
  | .unanalysed (.traitObject _) => true
  | .unanalysed (.loneBound _ _) => true
  | .unanalysed (.implTrait _) => true
  | _ => false

/-! ### Printing -/

mutual

/-- The tokens of a type expression. -/
def tokens : TypeExpression → Tokens
  | .array element length => [.bracketed (element.tokens ++ [.semicolon] ++ length)]
  | .parameterized name arguments =>
    name.tokens ++ [.less] ++ Token.commaSeparated (listTokens arguments) ++ [.greater]
  | .simple name => name.tokens
  | .unanalysed written => written.tokens

/-- The tokens of each type expression. -/
def listTokens : List TypeExpression → List Tokens
  | [] => []
  | type :: rest => type.tokens :: listTokens rest

end

mutual

/-- A type expression as text. Paths are written without blanks; an array length and a
type that is not taken apart are written as tokens. -/
def display : TypeExpression → String
  | .array element length => "[" ++ element.display ++ "; " ++ length.print ++ "]"
  | .parameterized name arguments =>
    name.display ++ "<" ++ ", ".intercalate (displayEach arguments) ++ ">"
  | .simple name => name.display
  | .unanalysed written => written.tokens.print

/-- Each type expression as text. -/
def displayEach : List TypeExpression → List String
  | [] => []
  | type :: rest => type.display :: displayEach rest

end

end TypeExpression

end Fieldwise
