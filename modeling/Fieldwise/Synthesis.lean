/-
This file makes the traversals of an aggregate. Each candidate field is looked at on its
own: a generator is found for its type, the focus is taken from the type, and the
generator writes the body. A field without a traversal gets a diagnostic and does not
affect the others, except that two fields may not share the name of a generated type.
-/

import Fieldwise.Container.Basic
import Fieldwise.Definition
import Fieldwise.Registry

namespace Fieldwise

/-! ### Diagnostics -/

/-- The diagnostic for a field whose type no generator supports: an error if the field
was asked for, else a note. -/
def unsupported (aggregate : Aggregate) (field : Field) : Diagnostic :=
  let typeName := field.shape.display
  let origin : ShapeOrigin :=
    if isRuntimeName (Text.baseName typeName) then .runtime else .foreign
  let severity : Severity :=
    match aggregate.selection with
    | .explicit => .error
    | .auto => .note
  (Problem.located (.unsupportedShape typeName origin) aggregate field).withSeverity severity

/-- The diagnostic for a field whose type lacks the argument that the generator
traverses. -/
def missingFocus (generator : Generator) (aggregate : Aggregate) (field : Field) : Diagnostic :=
  Problem.located
    (.missingFocusArgument generator.name field.shape.display generator.focusIndex)
    aggregate field

/-- Why two fields clash. -/
def clashReason (earlier later : FieldName) (name : Identifier) : String :=
  "fields `" ++ earlier.display ++ "` and `" ++ later.display ++ "` both generate `" ++
    name.spelling ++ "`; rename one or mark it `#[undertow(skip)]`"

/-- The diagnostic for a definition whose type has the name of an earlier one's. -/
def nameClash (aggregate : Aggregate) (field : Field) (taken : List Definition)
    (definition : Definition) : Option Diagnostic :=
  (taken.find? (·.structureName == definition.structureName)).map fun earlier =>
    Problem.located
      (.malformedDeclaration (clashReason earlier.field definition.field definition.structureName))
      aggregate field

/-- The diagnostic for an aggregate without any traversal. -/
def nothingGenerated (aggregate : Aggregate) : Diagnostic :=
  (Diagnostic.error (.noTraversalGenerated aggregate.name.spelling) aggregate.name.spelling
    aggregate.extent).withSeverity .warning

/-! ### Fields -/

namespace Registry

/-- The traversal over a field, with the generator that supports its type already
found. -/
def synthesizeWith (generator : Generator) (aggregate : Aggregate) (field : Field) :
    Logged (Except Diagnostic Definition) :=
  match generator.focusOf? field.shape with
  | none => return .error (missingFocus generator aggregate field)
  | some focus =>
    match generator.synthesize field aggregate ⟨aggregate.runtime, focus⟩ with
    | .error diagnostic => return .error diagnostic
    | .ok body => do
      Logged.report (.written generator.name body.tokens.print)
      return .ok {
        target := aggregate.name
        field := field.name
        generator := generator.name
        multiplicity := generator.multiplicity
        focus
        typeParameters := [Context.effect, Context.functionType]
        structureName := Definition.structureNameFor aggregate.name field.name
        accessor := Definition.accessorFor field.name
        body }

/-- The traversal over a field. -/
def synthesizeField (registry : Registry) (aggregate : Aggregate) (field : Field) :
    Logged (Except Diagnostic Definition) := do
  match ← registry.resolve field.shape with
  | none => return .error (unsupported aggregate field)
  | some generator =>
    Logged.report (.resolved aggregate.name.spelling field.name.display generator.name)
    synthesizeWith generator aggregate field

/-! ### Aggregates -/

/-- Adds what comes of one field to the definitions and diagnostics before it. -/
def account (aggregate : Aggregate) (field : Field)
    (before : List Definition × List Diagnostic) :
    Except Diagnostic Definition → List Definition × List Diagnostic
  | .error diagnostic => (before.1, before.2 ++ [diagnostic])
  | .ok definition =>
    match nameClash aggregate field before.1 definition with
    | some clash => (before.1, before.2 ++ [clash])
    | none => (before.1 ++ [definition], before.2)

/-- What comes of fields, one after the other, after what came before them. -/
def synthesizeFields (registry : Registry) (aggregate : Aggregate) :
    List Field → List Definition × List Diagnostic →
      Logged (List Definition × List Diagnostic)
  | [], before => return before
  | field :: rest, before => do
    let found ← registry.synthesizeField aggregate field
    registry.synthesizeFields aggregate rest (account aggregate field before found)

/-- All traversals of an aggregate. -/
def synthesize (registry : Registry) (aggregate : Aggregate) : Logged Outcome := do
  let (definitions, found) ← registry.synthesizeFields aggregate aggregate.candidates ([], [])
  let diagnostics :=
    if definitions.isEmpty then found ++ [nothingGenerated aggregate] else found
  Logged.report
    (.synthesized aggregate.name.spelling definitions.length diagnostics.length)
  return { aggregate := aggregate.name, definitions, diagnostics }

/-- The traversals of each of several aggregates. -/
def synthesizeAll (registry : Registry) : List Aggregate → Logged (List Outcome)
  | [] => return []
  | aggregate :: rest => do
    let outcome ← registry.synthesize aggregate
    return outcome :: (← registry.synthesizeAll rest)

end Registry

end Fieldwise
