/-
This file takes a declaration all the way to its items. For each traversal these are a
type without content and the implementation that holds the body, and for all of them
together the functions that give them. A declaration either gives the items for all
traversals or all the errors that stand in the way, never some of each.
-/

import Fieldwise.Definition
import Fieldwise.Synthesis

namespace Fieldwise

open Code

/-! ### Attributes -/

/-- An attribute with the given content. -/
def attributeTokens (content : Tokens) : Tokens := [.mark '#' false, .bracketed content]

/-- The attribute that documents an item. -/
def documented (text : String) : Tokens :=
  attributeTokens [.plain "doc", .equals, .literal (Text.stringLiteral text)]

/-- The attribute of items that were generated. -/
def generated : Tokens := attributeTokens [.plain "automatically_derived"]

namespace Definition

variable (aggregate : Aggregate) (definition : Definition)

/-- The documentation of the type that carries a traversal. -/
def documentation : String :=
  "Traversal over the `" ++ definition.field.display ++ "` field of [`" ++
    definition.target.spelling ++ "`]: " ++ definition.multiplicity.display ++ " `" ++
    definition.focus.display ++ "` (" ++ definition.generator ++ ")."

/-- The type of effects that carry values of a type. -/
def effectOf (effect : Identifier) (type : Tokens) : Tokens :=
  angled ([.word effect, .plain "as"] ++ aggregate.runtime.tokens ++ Token.pathSeparator ++
    [.plain "Applicative"]) ++ Token.pathSeparator ++ [.plain "Of"] ++ angled type

/-- The type that carries a traversal. -/
def structureTokens : Tokens :=
  documented definition.documentation ++
    attributeTokens [.plain "derive", .parenthesized (Token.commaSeparated
      [[.plain "Debug"], [.plain "Clone"], [.plain "Copy"], [.plain "Default"]])] ++
    aggregate.visibility ++ [.plain "struct", .word definition.structureName, .semicolon]

/-- The method that holds the body of a traversal. -/
def methodTokens : Tokens :=
  let effect := definition.typeParameters.getD 0 Context.effect
  let function := definition.typeParameters.getD 1 Context.functionType
  let runtime := aggregate.runtime.tokens
  let self := aggregate.selfType
  let focus := definition.focus.tokens
  [.plain "fn", .plain "modify_f"] ++
    angled (Token.commaSeparated [[.word effect], [.word function]]) ++
    [.parenthesized (Token.commaSeparated [
      [.mark '&' false, .plain "self"],
      [.plain "mut", .plain "__f", .colon, .word function],
      typed "__source" self,
      typed "__applicative" [.mark '&' false, .word effect]] ++ [.comma])] ++
    Token.operator ['-', '>'] ++ effectOf aggregate effect self ++
    [.plain "where"] ++
      [.word effect, .colon] ++ runtime ++ Token.pathSeparator ++ [.plain "Applicative", .comma] ++
      [.word function, .colon] ++ rooted ["core", "ops", "FnMut"] ++ [.parenthesized focus] ++
        Token.operator ['-', '>'] ++ effectOf aggregate effect focus ++ [.comma] ++
    [.braced definition.body.tokens]

/-- The implementation that makes the type a traversal; the predicates that the body
needs are added to those of the aggregate. -/
def implementationTokens : Tokens :=
  generated ++
    [.plain "impl"] ++ aggregate.generics.introduced ++ aggregate.runtime.tokens ++
      Token.pathSeparator ++ [.plain "Traversal"] ++
      angled (Token.commaSeparated [aggregate.selfType, definition.focus.tokens]) ++
    [.plain "for", .word definition.structureName] ++
      (aggregate.generics.whereClause.extend definition.body.bounds).tokens ++
    [.braced (methodTokens aggregate definition)]

/-- The function that gives a traversal. -/
def accessorTokens : Tokens :=
  documented ("The traversal over `" ++ definition.field.display ++ "`.") ++
    attributeTokens [.plain "inline"] ++ aggregate.visibility ++
    [.plain "fn", .word definition.accessor, .parenthesized []] ++ Token.operator ['-', '>'] ++
    [.word definition.structureName, .braced [.word definition.structureName]]

end Definition

/-! ### Items -/

/-- The items for traversals of an aggregate; nothing for no traversals. -/
def emit (aggregate : Aggregate) (definitions : List Definition) : Tokens :=
  if definitions.isEmpty then []
  else
    (definitions.map fun definition =>
      definition.structureTokens aggregate ++ definition.implementationTokens aggregate).flatten ++
    generated ++
      [.plain "impl"] ++ aggregate.generics.introduced ++ aggregate.selfType ++
        aggregate.generics.whereClause.tokens ++
      [.braced (definitions.map (·.accessorTokens aggregate)).flatten]

/-! ### Expanding declarations -/

/-- What comes of a declaration. -/
inductive Expansion where
  /-- The items for its traversals. -/
  | items (tokens : Tokens)
  /-- The errors, in the order in which they arose. -/
  | errors (diagnostics : List Diagnostic)

/-- The errors among diagnostics, if there are any. -/
def fatalAmong (diagnostics : List Diagnostic) : Option (List Diagnostic) :=
  match diagnostics.filter (·.isFatal) with
  | [] => none
  | fatal => some fatal

/-- Reports each field that was taken as a leaf. -/
def reportLeaves : List Diagnostic → Logged Unit
  | [] => return ()
  | note :: rest => do
    Logged.report (.leaf note.display)
    reportLeaves rest

namespace Registry

/-- Expands a declaration with the generators of a registry. -/
def expand (registry : Registry) (written : WrittenDeclaration) : Logged Expansion :=
  match Aggregate.ofWritten written with
  | .error diagnostic => return .errors [diagnostic]
  | .ok aggregate => do
    let outcome ← registry.synthesize aggregate
    reportLeaves (outcome.withSeverity .note)
    match fatalAmong outcome.diagnostics with
    | some errors => return .errors errors
    | none => return .items (emit aggregate outcome.definitions)

end Registry

end Fieldwise
