/-
This file holds definitions, what is known of one traversal once its body is written,
and outcomes, all definitions and diagnostics of one aggregate.
-/

import Fieldwise.Generator.Basic

namespace Fieldwise

/-- A traversal over one field of an aggregate. -/
structure Definition where
  /-- The aggregate. -/
  target : Identifier
  field : FieldName
  /-- The name of the generator that wrote the body. -/
  generator : String
  multiplicity : Multiplicity
  /-- The type of the focused values. -/
  focus : TypeExpression
  /-- The names of the type parameters that the body uses. -/
  typeParameters : List Identifier
  /-- The name of the type that carries the traversal. -/
  structureName : Identifier
  /-- The name of the function that gives the traversal. -/
  accessor : Identifier
  body : Fragment

namespace Definition

/-- The name of the type that carries the traversal over a field. -/
def structureNameFor (aggregate : Identifier) (field : FieldName) : Identifier :=
  .plain (aggregate.text ++ field.pascal ++ "Traversal")

/-- The name of the function that gives the traversal over a field. -/
def accessorFor (field : FieldName) : Identifier := .plain (field.snake ++ "_traversal")

end Definition

/-- What comes of one aggregate. -/
structure Outcome where
  aggregate : Identifier
  /-- The traversals, in the order of their fields. -/
  definitions : List Definition
  /-- The diagnostics, in the order in which they arose. -/
  diagnostics : List Diagnostic

namespace Outcome

/-- Whether the expansion has to fail. -/
def isFatal (outcome : Outcome) : Bool := outcome.diagnostics.any (·.isFatal)

/-- The diagnostics of one severity. -/
def withSeverity (outcome : Outcome) (severity : Severity) : List Diagnostic :=
  outcome.diagnostics.filter (·.severity == severity)

end Outcome

end Fieldwise
