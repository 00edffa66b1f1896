/-
This file holds what the body of a traversal is written against: the path of the
runtime, the type of the focused values and the names that the surrounding function
gives to its parameters. It writes the phrases that generated code is made of, above all
the calls of the capability.
-/

import Fieldwise.TypeExpression.Basic

namespace Fieldwise

/-! ### Phrases of generated code -/

namespace Code

/-- Tokens in angle brackets. -/
def angled (content : Tokens) : Tokens := [.less] ++ content ++ [.greater]

/-- A path through plain names, from the root. -/
def rooted (names : List String) : Tokens := (Path.ofNames true names).tokens

/-- A local name. -/
def localName (name : String) : Tokens := [.plain name]

/-- A call of a method without type arguments. -/
def method (receiver : Tokens) (name : String) (arguments : Tokens) : Tokens :=
  receiver ++ [.mark '.' false, .plain name, .parenthesized arguments]

/-- A function that takes its surroundings by value. -/
def anonymousFunction (parameters body : Tokens) : Tokens :=
  [.plain "move", .mark '|' false] ++ parameters ++ [.mark '|' false] ++ body

/-- A name with its type. -/
def typed (name : String) (type : Tokens) : Tokens := [.plain name, .colon] ++ type

/-- A statement that names a value. -/
def letTokens (name : Tokens) (value : Tokens) : Tokens :=
  [.plain "let"] ++ name ++ [.equals] ++ value ++ [.semicolon]

/-- One arm of a match. -/
def arm (pattern result : Tokens) : Tokens :=
  pattern ++ Token.operator ['=', '>'] ++ result ++ [.comma]

end Code

/-! ### Contexts -/

open Code

/-- What the body of a traversal is written against. -/
structure Context where
  /-- The path of the runtime. -/
  runtime : Path
  /-- The type of the focused values. -/
  focus : TypeExpression
deriving Inhabited

namespace Context

/-! ### Names -/

/-- The function that is applied to the focused values. -/
def function : Identifier := .plain "__f"

/-- The value of the capability. -/
def applicative : Identifier := .plain "__applicative"

/-- The aggregate that is traversed. -/
def source : Identifier := .plain "__source"

/-- The type of the capability. -/
def effect : Identifier := .plain "__F"

/-- The type of the function. -/
def functionType : Identifier := .plain "__G"

/-- All names, in the order in which they are listed. -/
def names : List Identifier := [function, applicative, source, effect, functionType]

/-! ### Calls -/

/-- A name of the runtime. -/
def runtimeName (context : Context) (names : List String) : Tokens :=
  context.runtime.tokens ++ (names.map fun name => Token.pathSeparator ++ [.plain name]).flatten

/-- The type of the capability, seen as a capability. -/
def capability (context : Context) : Tokens :=
  angled ([.word effect, .plain "as"] ++ context.runtimeName ["Applicative"])

/-- A call of a method of the capability, with type arguments and further arguments. -/
def call (context : Context) (method : String) (types arguments : List Tokens) : Tokens :=
  context.capability ++ Token.pathSeparator ++ [.plain method] ++ Token.pathSeparator ++
    angled (Token.commaSeparated types) ++
    [.parenthesized (Token.commaSeparated ([.word applicative] :: arguments))]

/-- The type that is left to be inferred. -/
def inferred : Tokens := [.plain "_"]

/-- A value as an effect that does nothing. -/
def pureTokens (context : Context) (type value : Tokens) : Tokens :=
  context.call "pure" [type] [value]

/-- An effect with a function applied to its value. -/
def mapTokens (context : Context) (source target effect function : Tokens) : Tokens :=
  context.call "map" [source, target, inferred] [effect, function]

/-- Two effects with a function applied to both values. -/
def map2Tokens (context : Context) (left right target first second function : Tokens) : Tokens :=
  context.call "map2" [left, right, target, inferred] [first, second, function]

/-- The type of effects that carry values of a type. -/
def effectOf (context : Context) (type : Tokens) : Tokens :=
  context.capability ++ Token.pathSeparator ++ [.plain "Of"] ++ angled type

end Context

end Fieldwise
