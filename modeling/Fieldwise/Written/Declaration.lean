/-
This file holds declarations as they are written: attributes, generic parameters, fields
and the declaration itself. Generic parameters print in two ways, with their bounds
where they are introduced and by name where they are applied.
-/

import Fieldwise.Written.Position
import Fieldwise.Written.Type

namespace Fieldwise

/-! ### Attributes -/

/-- What follows the path of an attribute. -/
inductive AttributeContent where
  /-- Nothing. -/
  | none
  /-- Tokens in delimiters. -/
  | list (tokens : Tokens)
  /-- `=` and a value. -/
  | value
deriving Repr, Inhabited

/-- An attribute of a declaration or of a field. -/
structure Attribute where
  path : Path
  content : AttributeContent
deriving Inhabited

/-! ### Generic parameters -/

/-- A generic parameter, with the tokens of each of its parts. -/
inductive GenericParameter where
  | lifetime (attributes : Tokens) (name : Identifier) (bounds : Tokens)
  | type (attributes : Tokens) (name : Identifier) (bounds default : Tokens)
  | constant (attributes : Tokens) (name : Identifier) (type default : Tokens)
deriving Repr, Inhabited

namespace GenericParameter

/-- The name of a parameter. -/
def name : GenericParameter → Identifier
  | .lifetime _ name _ => name
  | .type _ name _ _ => name
  | .constant _ name _ _ => name

/-- Whether the parameter is a lifetime. -/
def isLifetime : GenericParameter → Bool
  | .lifetime _ _ _ => true
  | _ => false

/-- Bounds after their colon, or nothing where there are none. -/
def boundTokens (bounds : Tokens) : Tokens :=
  if bounds.isEmpty then [] else Token.colon :: bounds

/-- A default after its equals sign, or nothing where there is none. -/
def defaultTokens (default : Tokens) : Tokens :=
  if default.isEmpty then [] else Token.equals :: default

/-- The default of a parameter, of which a lifetime has none. -/
def defaultPart : GenericParameter → Tokens
  | .lifetime _ _ _ => []
  | .type _ _ _ default => default
  | .constant _ _ _ default => default

/-- The tokens that introduce the parameter; defaults are left out. -/
def introduced : GenericParameter → Tokens
  | .lifetime attributes name bounds =>
    attributes ++ Token.lifetime name ++ boundTokens bounds
  | .type attributes name bounds _ => attributes ++ [.word name] ++ boundTokens bounds
  | .constant attributes name valueType _ =>
    attributes ++ [.plain "const", .word name, Token.colon] ++ valueType

/-- The tokens that declare the parameter, its default included. -/
def declared (parameter : GenericParameter) : Tokens :=
  parameter.introduced ++ defaultTokens parameter.defaultPart

/-- The tokens that apply something to the parameter. -/
def applied : GenericParameter → Tokens
  | .lifetime _ name _ => Token.lifetime name
  | .type _ name _ _ => [.word name]
  | .constant _ name _ _ => [.word name]

end GenericParameter

/-- A where clause. -/
structure WhereClause where
  /-- The tokens of each predicate. -/
  predicates : List Tokens
  /-- Whether a comma follows the last predicate. -/
  trailingComma : Bool
deriving Repr, Inhabited

namespace WhereClause

/-- The tokens of a where clause; without predicates it is nothing. -/
def tokens (clause : WhereClause) : Tokens :=
  if clause.predicates.isEmpty then []
  else
    [.plain "where"] ++ Token.commaSeparated clause.predicates ++
      if clause.trailingComma then [Token.comma] else []

/-- The clause with more predicates at its end. -/
def extend (clause : WhereClause) (predicates : List Tokens) : WhereClause :=
  if predicates.isEmpty then clause
  else ⟨clause.predicates ++ predicates, false⟩

end WhereClause

/-- The generic parameters of a declaration. -/
structure Generics where
  parameters : List GenericParameter
  /-- Whether a comma follows the last parameter. -/
  trailingComma : Bool
  whereClause : WhereClause
deriving Repr, Inhabited

namespace Generics

/-- The parameters in angle brackets, each as the function says; nothing without
parameters. -/
def listed (generics : Generics) (tokens : GenericParameter → Tokens) : Tokens :=
  if generics.parameters.isEmpty then []
  else
    let items := generics.parameters.map fun parameter => (parameter.isLifetime, tokens parameter)
    [Token.less] ++ lifetimesFirst items generics.trailingComma ++ [Token.greater]

/-- The parameters where they are introduced. -/
def introduced (generics : Generics) : Tokens := generics.listed (·.introduced)

/-- The parameters where they are declared. -/
def declared (generics : Generics) : Tokens := generics.listed (·.declared)

/-- The parameters where they are applied. -/
def applied (generics : Generics) : Tokens := generics.listed (·.applied)

end Generics

/-! ### Fields and declarations -/

/-- How the fields of a structure are written. -/
inductive FieldStyle where
  /-- Names and types in braces. -/
  | named
  /-- Types in parentheses. -/
  | tuple
  /-- No fields and no delimiters. -/
  | unit
deriving DecidableEq, Repr, Inhabited

/-- A field as written. -/
structure WrittenField where
  attributes : List Attribute
  /-- The name, if the field is not told from others by its position. -/
  name : Option Identifier
  type : WrittenType
  /-- The tokens of the type. -/
  extent : Extent
deriving Inhabited

/-- What is declared; of enumerations and unions only the keyword's place is kept. -/
inductive DeclarationBody where
  | structure (style : FieldStyle) (fields : List WrittenField)
  | enumeration (keyword : Extent)
  | union (keyword : Extent)
deriving Inhabited

/-- A declaration as written. -/
structure WrittenDeclaration where
  attributes : List Attribute
  visibility : Tokens
  name : Identifier
  /-- The token of the name. -/
  extent : Extent
  generics : Generics
  body : DeclarationBody
deriving Inhabited

end Fieldwise
