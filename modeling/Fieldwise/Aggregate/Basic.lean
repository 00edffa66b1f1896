/-
This file holds aggregates: structures whose fields may be traversed, as scanned from
their declarations. From the name of a field other names are derived: the binding that
holds its value, and the forms that go into the names of generated items. Scanning keeps
the fields in order, notes which of them are skipped or targeted, and refuses
enumerations, unions and attributes that do not fit.
-/

import Fieldwise.Aggregate.Attributes
import Fieldwise.Diagnostic
import Fieldwise.TypeExpression.Basic
import Fieldwise.Unicode.Uppercase

namespace Fieldwise

/-! ### Names of fields -/

/-- The name of a field: an identifier, or a position counted from zero. -/
inductive FieldName where
  | named (name : Identifier)
  | position (index : Nat)
deriving DecidableEq, Repr, Inhabited

namespace FieldName

/-- The name as text, without `r#`. -/
def display : FieldName → String
  | .named name => name.text
  | .position index => toString index

/-- The local name that holds the field's value. -/
def binding (name : FieldName) : Identifier := .plain ("__field_" ++ name.display)

/-- The name as part of a function's name: positions get the word `field` before them. -/
def snake : FieldName → String
  | .named name => name.text
  | .position index => "field" ++ toString index

/-- Drops low lines and puts what follows one, or starts the name, in upper case. The
flag tells whether the next character is put in upper case. -/
def pascalFrom (start : Bool) : List Char → List Char
  | [] => []
  | character :: rest =>
    if character = '_' then pascalFrom true rest
    else (if start then Unicode.uppercase character else [character]) ++ pascalFrom false rest

/-- The name as part of a type's name. -/
def pascal (name : FieldName) : String := String.ofList (pascalFrom true name.snake.toList)

end FieldName

/-! ### Fields -/

/-- A field of an aggregate. -/
structure Field where
  name : FieldName
  /-- The shape of the declared type. -/
  shape : TypeExpression
  /-- The declared type as written. -/
  written : WrittenType
  /-- Whether the field is never traversed. -/
  skip : Bool
  /-- Whether the field is asked for by an attribute. -/
  targeted : Bool
  /-- The tokens of the declared type, where they are known. -/
  extent : Option Extent
deriving Inhabited

namespace Field

/-- A field without flags. -/
def ofType (name : FieldName) (written : WrittenType) : Field :=
  { name, shape := .ofWritten written, written, skip := false, targeted := false, extent := none }

end Field

/-! ### Aggregates -/

/-- How the fields to be traversed are picked. -/
inductive Selection where
  /-- All that are not skipped. -/
  | auto
  /-- Those asked for by an attribute. -/
  | explicit
deriving DecidableEq, Repr, Inhabited

/-- A structure that traversals are made for. -/
structure Aggregate where
  name : Identifier
  /-- The token of the name. -/
  extent : Option Extent
  visibility : Tokens
  generics : Generics
  style : FieldStyle
  /-- The fields in declared order. -/
  fields : List Field
  selection : Selection
  /-- The path of the runtime in generated code. -/
  runtime : Path
deriving Inhabited

namespace Aggregate

/-- The aggregate as a type, with its generic parameters applied. -/
def selfType (aggregate : Aggregate) : Tokens :=
  .word aggregate.name :: aggregate.generics.applied

/-- The first field with the name. -/
def field? (aggregate : Aggregate) (name : FieldName) : Option Field :=
  aggregate.fields.find? (·.name == name)

/-- Whether the field is to be traversed, given how fields are picked. -/
def isCandidate (selection : Selection) (field : Field) : Bool :=
  match selection with
  | .auto => !field.skip
  | .explicit => field.targeted

/-- The fields to be traversed, in declared order. -/
def candidates (aggregate : Aggregate) : List Field :=
  aggregate.fields.filter (isCandidate aggregate.selection)

/-! ### Scanning -/

/-- The error that a declaration cannot carry traversals. -/
def malformed (name : Identifier) (reason : String) (extent : Option Extent) : Diagnostic :=
  .error (.malformedDeclaration reason) name.spelling extent

/-- Scans a field at a position. -/
def scanField (index : Nat) (field : WrittenField) : Except AttributeError Field :=
  (fieldFlagsOf field.attributes).map fun flags =>
    { name := (field.name.map FieldName.named).getD (.position index)
      shape := .ofWritten field.type
      written := field.type
      skip := flags.skip
      targeted := flags.traverse
      extent := some field.extent }

/-- Scans fields from a position on. -/
def scanFields (index : Nat) : List WrittenField → Except AttributeError (List Field)
  | [] => .ok []
  | field :: rest =>
    match scanField index field with
    | .error error => .error error
    | .ok field => (scanFields (index + 1) rest).map (field :: ·)

/-- How fields are picked: by attribute as soon as one field is asked for. -/
def selectionOf (fields : List Field) : Selection :=
  if fields.any (·.targeted) then .explicit else .auto

/-- The aggregate that a declaration declares. -/
def ofWritten (written : WrittenDeclaration) : Except Diagnostic Aggregate :=
  match written.body with
  | .enumeration keyword =>
    .error (malformed written.name "traversals can only be derived for structs, not enums"
      (some keyword))
  | .union keyword =>
    .error (malformed written.name "traversals can only be derived for structs, not unions"
      (some keyword))
  | .structure style fields =>
    match runtimeOf written.attributes with
    | .error error => .error (malformed written.name error.message none)
    | .ok runtime =>
      match scanFields 0 fields with
      | .error error => .error (malformed written.name error.message none)
      | .ok fields =>
        .ok {
          name := written.name
          extent := some written.extent
          visibility := written.visibility
          generics := written.generics
          style
          fields
          selection := selectionOf fields
          runtime }

end Aggregate

end Fieldwise
