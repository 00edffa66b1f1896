/-
This file holds types as they are written in a declaration. Arrays, enclosing
parentheses and plain paths are taken apart, because the shape of a field is decided by
them; every other type keeps its tokens. A written type prints back to its tokens.
-/

import Fieldwise.Token.Basic

namespace Fieldwise

mutual

/-- A type as written. -/
inductive WrittenType where
  /-- `[element; length]`, the length being any expression. -/
  | array (element : WrittenType) (length : Tokens)
  /-- `(inner)`. -/
  | parenthesized (inner : WrittenType)
  /-- A type kept together by an invisible group. -/
  | grouped (inner : WrittenType)
  /-- A path that does not start from a type in angle brackets; the flag tells whether it
  starts with `::`. -/
  | path (rooted : Bool) (segments : List Segment)
  /-- `[element]`. -/
  | slice (element : WrittenType)
  /-- Bounds, perhaps after `dyn`. -/
  | traitObject (tokens : Tokens)
  /-- One bound without `dyn`; the flag tells whether it stands in parentheses. -/
  | loneBound (enclosed : Bool) (tokens : Tokens)
  /-- Bounds after `impl`. -/
  | implTrait (tokens : Tokens)
  /-- Any other type. -/
  | other (tokens : Tokens)

/-- One segment of a path: a name and what is applied to it. -/
inductive Segment where
  | mk (name : Identifier) (arguments : Arguments)

/-- What is applied to a segment of a path. -/
inductive Arguments where
  | none
  /-- Arguments in angle brackets; the flags tell whether `::` stands before them and a
  comma after the last. -/
  | angled (turbofish : Bool) (arguments : List Argument) (trailingComma : Bool)
  /-- Argument types in parentheses and an optional result type, as in `Fn(A) -> B`. -/
  | parenthesized (tokens : Tokens)

/-- One argument in angle brackets. -/
inductive Argument where
  | type (type : WrittenType)
  | lifetime (name : Identifier)
  /-- A constant, or something said about an associated item. -/
  | other (tokens : Tokens)

end

instance : Inhabited WrittenType := ⟨.other []⟩
instance : Inhabited Arguments := ⟨.none⟩
instance : Inhabited Argument := ⟨.other []⟩
instance : Inhabited Segment := ⟨.mk default .none⟩

/-! ### Order of lists in angle brackets -/

/-- A list in angle brackets is printed with its lifetimes first. A comma follows every
item but the last; it follows the last too if the list was written with one, or if the
last item was a lifetime and so moved away from the end. -/
def lifetimesFirst (items : List (Bool × Tokens)) (trailingComma : Bool) : Tokens :=
  let lifetimes := items.filter (·.1)
  let others := items.filter (!·.1)
  let moved := !others.isEmpty && (items.getLast?.map (·.1)).getD false
  Token.commaSeparated ((lifetimes ++ others).map (·.2)) ++
    if (trailingComma || moved) && !items.isEmpty then [Token.comma] else []

/-! ### Printing -/

namespace Segment

/-- The name of a segment. -/
def name : Segment → Identifier
  | .mk name _ => name

/-- What is applied to a segment. -/
def arguments : Segment → Arguments
  | .mk _ arguments => arguments

end Segment

/-- Whether nothing is applied. -/
def Arguments.isNone : Arguments → Bool
  | .none => true
  | _ => false

/-- Whether the argument is a lifetime. -/
def Argument.isLifetime : Argument → Bool
  | .lifetime _ => true
  | _ => false

/-- A path's tokens, from those of its segments. -/
def pathTokens (rooted : Bool) (segments : List Tokens) : Tokens :=
  (if rooted then Token.pathSeparator else []) ++ Token.separated Token.pathSeparator segments

mutual

/-- The tokens of a written type. -/
def WrittenType.tokens : WrittenType → Tokens
  | .array element length => [.bracketed (element.tokens ++ [.semicolon] ++ length)]
  | .parenthesized inner => [.parenthesized inner.tokens]
  | .grouped inner => [.group .invisible inner.tokens]
  | .path rooted segments => pathTokens rooted (segmentTokens segments)
  | .slice element => [.bracketed element.tokens]
  | .traitObject tokens => tokens
  | .loneBound enclosed tokens => if enclosed then [.parenthesized tokens] else tokens
  | .implTrait tokens => tokens
  | .other tokens => tokens

/-- The tokens of each segment. -/
def segmentTokens : List Segment → List Tokens
  | [] => []
  | segment :: rest => segment.tokens :: segmentTokens rest

/-- The tokens of a segment. -/
def Segment.tokens : Segment → Tokens
  | .mk name arguments => .word name :: arguments.tokens

/-- The tokens of what is applied to a segment. -/
def Arguments.tokens : Arguments → Tokens
  | .none => []
  | .angled turbofish arguments trailingComma =>
    (if turbofish then Token.pathSeparator else []) ++
      [.less] ++ lifetimesFirst (argumentTokens arguments) trailingComma ++ [.greater]
  | .parenthesized tokens => tokens

/-- The tokens of each argument, with whether it is a lifetime. -/
def argumentTokens : List Argument → List (Bool × Tokens)
  | [] => []
  | argument :: rest => (argument.isLifetime, argument.tokens) :: argumentTokens rest

/-- The tokens of an argument. -/
def Argument.tokens : Argument → Tokens
  | .type type => type.tokens
  | .lifetime name => Token.lifetime name
  | .other tokens => tokens

end

/-! ### Paths -/

/-- A path such as `::std::vec`, perhaps with arguments on its segments. -/
structure Path where
  /-- Whether the path starts with `::`. -/
  rooted : Bool
  /-- The segments, first to last. -/
  segments : List Segment
deriving Inhabited

namespace Path

/-- The path through the given names. -/
def ofNames (rooted : Bool) (names : List String) : Path :=
  ⟨rooted, names.map fun name => .mk (.plain name) .none⟩

/-- The tokens of a path. -/
def tokens (path : Path) : Tokens := pathTokens path.rooted (segmentTokens path.segments)

/-- The name that is all of the path, if it is a single name. -/
def single? (path : Path) : Option Identifier :=
  match path.rooted, path.segments with
  | false, [.mk name .none] => some name
  | _, _ => none

/-- Whether the path has no arguments. -/
def isPlain (path : Path) : Bool := path.segments.all (·.arguments.isNone)

end Path

end Fieldwise
