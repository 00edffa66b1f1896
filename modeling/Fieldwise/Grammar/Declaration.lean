/-
This file reads whole declarations: attributes, visibility, keyword, name, generic
parameters and body. Fields keep the place of their type.
-/

import Fieldwise.Grammar.Phrase

namespace Fieldwise.Grammar

open Reader Lookahead

section

variable (recur : Recursion)

/-- The extent of what a reader takes. -/
def located {α : Type} (reader : Reader α) : Reader (α × Extent) := do
  let first := (← get).position
  let result ← reader
  return (result, ⟨first, (← get).position - 1⟩)

/-- Where the type of a field starts. Parameters introduced before a macro call are no part
of the type. -/
def typeStart : Reader Nat := do
  let afterParameters ← peeking do
    discard (binder recur)
    let start := (← get).position
    let path ← path recur false
    if path.isPlain && (← sees callsMacro) then return start else expected "expected `!`"
  return afterParameters.getD (← get).position

/-- The extent of a type. -/
def locatedType (reader : Reader WrittenType) : Reader (WrittenType × Extent) := do
  let first ← typeStart recur
  let (type, extent) ← located reader
  return (type, { extent with first })

/-- Reads a field with a name. -/
def namedWrittenField : Reader WrittenField := do
  let attributes ← outerAttributes recur
  visibility
  let (label, named) ← fieldName
  Reader.mark ":"
  let (type, extent) ← locatedType recur (fieldType recur named)
  return ⟨attributes, some label, type, extent⟩

/-- Reads a field without a name. -/
def tupleWrittenField : Reader WrittenField := do
  let attributes ← outerAttributes recur
  visibility
  let (type, extent) ← locatedType recur (type recur)
  return ⟨attributes, none, type, extent⟩

/-- Reads fields up to the end of the group, with a comma after each but perhaps the
last. The first argument bounds their number. -/
def fieldsUpTo (field : Reader WrittenField) :
    Nat → List WrittenField → Reader (List WrittenField)
  | 0, before => return before
  | limit + 1, before => do
    if ← sees atEnd then return before
    let next ← field
    if ← sees atEnd then return before ++ [next]
    Reader.mark ","
    fieldsUpTo field limit (before ++ [next])

/-- Reads all the fields in a group. -/
def fields (delimiter : Delimiter) (field : Reader WrittenField) : Reader (List WrittenField) :=
  group delimiter do fieldsUpTo field ((← get).remaining.length + 1) []

/-- Reads the body of a structure and its where clause. -/
def structureParts : Reader (DeclarationBody × Option WhereClause) := do
  let clause ← whereClause recur
  if clause.isNone && (← sees (opens .parenthesis)) then
    let fields ← fields .parenthesis (tupleWrittenField recur)
    let clause ← whereClause recur
    Reader.mark ";"
    return (.structure .tuple fields, clause)
  else if ← sees (opens .brace) then
    return (.structure .named (← fields .brace (namedWrittenField recur)), clause)
  else
    Reader.mark ";"
    return (.structure .unit [], clause)

/-- Reads a declaration from its keyword on, given what stands before. -/
def declarationFrom (attributes : List Attribute) (visibility : Tokens) :
    Reader WrittenDeclaration := do
  let isStructure ← sees (.word "struct")
  let isEnumeration ← sees (.word "enum")
  let isUnion ← sees (.word "union")
  if !(isStructure || isEnumeration || isUnion) then
    expected "expected one of: `struct`, `enum`, `union`"
  let (_, keyword) ← located Reader.anyWord
  let (declared, extent) ← located Reader.name
  let (parameters, trailingComma) ← genericParameters recur
  let (body, clause) ←
    if isStructure then structureParts recur
    else
      let clause ← whereClause recur
      if isEnumeration then
        variants recur
        pure (.enumeration keyword, clause)
      else
        recur .fields
        pure (.union keyword, clause)
  let generics : Generics := ⟨parameters, trailingComma, clause.getD ⟨[], false⟩⟩
  return { attributes, visibility, name := declared, extent, generics, body }

/-- Reads a declaration. -/
def declaration : Reader WrittenDeclaration := do
  let attributes ← outerAttributes recur
  let visibility ← captured visibility
  declarationFrom recur attributes visibility

end

end Fieldwise.Grammar

namespace Fieldwise

/-- The declaration that the tokens form. -/
def WrittenDeclaration.ofTokens (tokens : Tokens) : Except SyntaxError WrittenDeclaration :=
  (Grammar.declaration (Grammar.phrases tokens)).whole tokens

end Fieldwise
