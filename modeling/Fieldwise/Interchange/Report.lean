/-
This file writes what is known of types, containers, traversals and problems as
documents. Whatever has a written form of its own, such as a type or generated code,
goes into a document as that text.
-/

import Fieldwise.Container.Basic
import Fieldwise.Expansion
import Fieldwise.Interchange.Document

namespace Fieldwise

/-! ### Parts of documents -/

namespace Document

/-- The texts as a document. -/
def texts (contents : List String) : Document := .array (contents.map .text)

/-- A count as a document. -/
def count (number : Nat) : Document := .integer number

/-- What may be missing as a document. -/
def optional {A : Type} (encode : A → Document) (value : Option A) : Document :=
  (value.map encode).getD .null

/-- Tokens as a document. -/
def printed (tokens : Tokens) : Document := .text tokens.print

end Document

open Document (texts count optional printed)

/-! ### Types and containers -/

/-- A known container as a document. -/
def KnownContainer.document (known : KnownContainer) : Document := .object [
  ("identifier", .text known.spelling),
  ("traversal", .text known.instancePathText),
  ("multiplicity", .text known.multiplicity.display),
  ("is_parameterised", .boolean known.takesOthers),
  ("focus_index", count known.focusIndex)]

mutual

/-- A type as a document. -/
def TypeExpression.document : TypeExpression → Document
  | .array element length =>
    .object [("kind", .text "Array"), ("element", element.document), ("len", printed length)]
  | .parameterized name arguments =>
    .object [("kind", .text "Parameterized"), ("name", .text name.display),
      ("args", .array (TypeExpression.documents arguments))]
  | .simple name => .object [("kind", .text "Simple"), ("name", .text name.display)]
  | .unanalysed written => .object [("kind", .text "Opaque"), ("tokens", printed written.tokens)]

/-- Each type as a document. -/
def TypeExpression.documents : List TypeExpression → List Document
  | [] => []
  | type :: rest => type.document :: TypeExpression.documents rest

end

/-- The style of fields in words. -/
def FieldStyle.title : FieldStyle → String
  | .named => "Named"
  | .tuple => "Tuple"
  | .unit => "Unit"

/-- The way of picking fields in words. -/
def Selection.title : Selection → String
  | .auto => "Auto"
  | .explicit => "Explicit"

/-- A field of an aggregate as a document. -/
def Aggregate.fieldDocument (aggregate : Aggregate) (field : Field) : Document := .object [
  ("name", .text field.name.display),
  ("binding", .text field.name.binding.spelling),
  ("snake", .text field.name.snake),
  ("pascal", .text field.name.pascal),
  ("type", .text field.shape.display),
  ("written", printed field.written.tokens),
  ("skip", .boolean field.skip),
  ("targeted", .boolean field.targeted),
  ("first", optional (fun first => .text first.shape.display) (aggregate.field? field.name))]

/-- An aggregate as a document. -/
def Aggregate.document (aggregate : Aggregate) : Document := .object [
  ("ident", .text aggregate.name.spelling),
  ("vis", printed aggregate.visibility),
  ("style", .text aggregate.style.title),
  ("selection", .text aggregate.selection.title),
  ("runtime", printed aggregate.runtime.tokens),
  ("self_type", printed aggregate.selfType),
  ("fields", .array (aggregate.fields.map aggregate.fieldDocument)),
  ("candidates", texts (aggregate.candidates.map (·.name.display)))]

/-! ### Problems -/

/-- The kind of a problem. -/
def Problem.title : Problem → String
  | .unsupportedShape _ _ => "UnsupportedShape"
  | .malformedDeclaration _ => "MalformedDeclaration"
  | .missingFocusArgument _ _ _ => "MissingFocusArgument"
  | .reconstructionMismatch _ _ => "ReconstructionMismatch"
  | .invalidFragment _ _ => "InvalidFragment"
  | .noTraversalGenerated _ => "NoTraversalGenerated"

/-- The particulars of a problem, by name. -/
def Problem.details : Problem → List (String × Document)
  | .unsupportedShape typeName origin =>
    [("type_name", .text typeName), ("origin", .text origin.display)]
  | .malformedDeclaration reason => [("reason", .text reason)]
  | .missingFocusArgument generator typeName index =>
    [("generator", .text generator), ("type_name", .text typeName), ("index", count index)]
  | .reconstructionMismatch aggregate field =>
    [("aggregate", .text aggregate), ("field", .text field)]
  | .invalidFragment generator reason =>
    [("generator", .text generator), ("reason", .text reason)]
  | .noTraversalGenerated aggregate => [("aggregate", .text aggregate)]

/-- A problem as a document. -/
def Problem.document (problem : Problem) : Document :=
  .object (("kind", .text problem.title) :: problem.details)

/-- A diagnostic as a document. -/
def Diagnostic.document (diagnostic : Diagnostic) : Document := .object [
  ("severity", .text diagnostic.severity.display),
  ("kind", diagnostic.problem.document),
  ("aggregate", .text diagnostic.aggregate),
  ("field", optional .text diagnostic.field),
  ("fatal", .boolean diagnostic.isFatal),
  ("display", .text diagnostic.display),
  ("source", .text diagnostic.problem.message)]

/-! ### Traversals -/

/-- A fragment as a document. -/
def Fragment.document (fragment : Fragment) : Document := .object [
  ("generator", .text fragment.generator),
  ("body", printed fragment.tokens),
  ("bounds", .array (fragment.bounds.map printed))]

/-- A definition as a document. -/
def Definition.document (definition : Definition) : Document := .object [
  ("target", .text definition.target.spelling),
  ("field", .text definition.field.display),
  ("generator", .text definition.generator),
  ("multiplicity", .text definition.multiplicity.display),
  ("focus", .text definition.focus.display),
  ("focus_tokens", printed definition.focus.tokens),
  ("type_params", texts (definition.typeParameters.map (·.spelling))),
  ("struct_ident", .text definition.structureName.spelling),
  ("accessor", .text definition.accessor.spelling),
  ("body", printed definition.body.tokens),
  ("bounds", .array (definition.body.bounds.map printed))]

/-- An outcome as a document. -/
def Outcome.document (outcome : Outcome) : Document := .object [
  ("aggregate", .text outcome.aggregate.spelling),
  ("fatal", .boolean outcome.isFatal),
  ("definitions", .array (outcome.definitions.map (·.document))),
  ("diagnostics", .array (outcome.diagnostics.map (·.document))),
  ("severities", .array (Severity.all.map fun severity =>
    count (outcome.withSeverity severity).length))]

/-- An expansion as a document. -/
def Expansion.document : Expansion → Document
  | .items written => .object [("tokens", printed written)]
  | .errors diagnostics =>
    .object [("errors", texts (diagnostics.map (·.problem.message)))]

/-- An event as a document. -/
def Event.document (event : Event) : Document := .object [
  ("level", .text event.level.display),
  ("fields", .object (("message", .text event.message) ::
    event.details.map fun detail => (detail.1, .text detail.2)))]

end Fieldwise
