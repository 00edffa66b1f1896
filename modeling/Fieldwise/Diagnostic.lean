/-
This file holds diagnostics: what went wrong, how serious it is, and which aggregate and
field it concerns. The wording of every problem is here.
-/

import Fieldwise.Written.Declaration

namespace Fieldwise

/-! ### Severities -/

/-- How a diagnostic affects the expansion. -/
inductive Severity where
  /-- A field was taken as a plain leaf. -/
  | note
  /-- Something is probably wrong. -/
  | warning
  /-- The field or the declaration has no traversal. -/
  | error
deriving DecidableEq, Repr, Inhabited

namespace Severity

/-- The severity in words. -/
def display : Severity → String
  | .note => "note"
  | .warning => "warning"
  | .error => "error"

/-- The place of the severity from the least serious up. -/
def rank : Severity → Nat
  | .note => 0
  | .warning => 1
  | .error => 2

/-- All severities, from the least serious up. -/
def all : List Severity := [.note, .warning, .error]

/-- The more serious of two severities. -/
def max (left right : Severity) : Severity := if left.rank ≤ right.rank then right else left

/-- The most serious of the severities, if there are any. -/
def highest? : List Severity → Option Severity
  | [] => none
  | severity :: rest => some (rest.foldl max severity)

end Severity

/-! ### Problems -/

/-- Where an unsupported type comes from. -/
inductive ShapeOrigin where
  /-- The runtime itself. -/
  | runtime
  /-- Anywhere else. -/
  | foreign
deriving DecidableEq, Repr, Inhabited

/-- The origin in words. -/
def ShapeOrigin.display : ShapeOrigin → String
  | .runtime => "an undertow container without a traversal"
  | .foreign => "not a traversable container"

/-- What went wrong. -/
inductive Problem where
  /-- No generator supports the type of a field. -/
  | unsupportedShape (typeName : String) (origin : ShapeOrigin)
  /-- The declaration cannot carry traversals. -/
  | malformedDeclaration (reason : String)
  /-- The generator traverses an argument that the type does not have. -/
  | missingFocusArgument (generator typeName : String) (index : Nat)
  /-- A rebuilding names a field that the aggregate does not have. -/
  | reconstructionMismatch (aggregate field : String)
  /-- A generator wrote tokens that are not the inside of a block. -/
  | invalidFragment (generator reason : String)
  /-- No field of the declaration could be traversed. -/
  | noTraversalGenerated (aggregate : String)
deriving DecidableEq, Repr, Inhabited

/-- The wording of a problem. -/
def Problem.message : Problem → String
  | .unsupportedShape typeName origin =>
    "no shape generator supports `" ++ typeName ++ "` (" ++ origin.display ++ ")"
  | .malformedDeclaration reason => "malformed declaration: " ++ reason
  | .missingFocusArgument generator typeName index =>
    "`" ++ generator ++ "` traverses type argument " ++ toString index ++ " of `" ++ typeName ++
      "`, which has none at that position"
  | .reconstructionMismatch aggregate field =>
    "reconstruction of `" ++ aggregate ++ "` does not include field `" ++ field ++ "`"
  | .invalidFragment generator reason =>
    "`" ++ generator ++ "` produced an invalid traversal body: " ++ reason
  | .noTraversalGenerated aggregate =>
    "no traversal generated for `" ++ aggregate ++ "`: no field has a traversable shape"

/-! ### Diagnostics -/

/-- A problem with its severity and its place. -/
structure Diagnostic where
  severity : Severity
  problem : Problem
  /-- The aggregate it concerns. -/
  aggregate : String
  /-- The field it concerns, if it concerns a single one. -/
  field : Option String
  /-- The tokens it points at, where they are known. -/
  extent : Option Extent
deriving DecidableEq, Repr, Inhabited

namespace Diagnostic

/-- An error that concerns a whole aggregate. -/
def error (problem : Problem) (aggregate : String) (extent : Option Extent) : Diagnostic :=
  ⟨.error, problem, aggregate, none, extent⟩

/-- The diagnostic, said to concern a field. -/
def withField (diagnostic : Diagnostic) (field : String) : Diagnostic :=
  { diagnostic with field := some field }

/-- The diagnostic with another severity. -/
def withSeverity (diagnostic : Diagnostic) (severity : Severity) : Diagnostic :=
  { diagnostic with severity }

/-- Whether the expansion has to fail: errors are fatal, and so is a declaration without
any traversal, whatever its severity. -/
def isFatal (diagnostic : Diagnostic) : Bool :=
  diagnostic.severity == .error ||
    match diagnostic.problem with
    | .noTraversalGenerated _ => true
    | _ => false

/-- The diagnostic as one line of text. -/
def display (diagnostic : Diagnostic) : String :=
  let place :=
    match diagnostic.field with
    | some field => diagnostic.aggregate ++ "." ++ field
    | none => diagnostic.aggregate
  diagnostic.severity.display ++ ": " ++ place ++ ": " ++ diagnostic.problem.message

end Diagnostic

end Fieldwise
