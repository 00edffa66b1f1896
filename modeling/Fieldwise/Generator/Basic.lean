/-
This file holds shape generators. A generator recognises one category of types and
writes the body of a traversal over a field of such a type. It gives the body as a
fragment, which has been checked to be the inside of a block, with the predicates that
the body needs of the aggregate's types.
-/

import Fieldwise.Body.Basic
import Fieldwise.Container.Basic
import Fieldwise.Grammar.Phrase
import Fieldwise.Text.Quoted

namespace Fieldwise

/-! ### Fragments -/

/-- What a generator writes: one of the plans, or tokens of its own. -/
inductive Draft where
  | planned (body : Body)
  | verbatim (tokens : Tokens)

/-- The tokens of a draft. -/
def Draft.tokens : Draft → Tokens
  | .planned body => body.tokens
  | .verbatim tokens => tokens

/-- A body that forms the inside of a block. -/
structure Fragment where
  /-- The name of the generator that wrote it. -/
  generator : String
  body : Draft
  /-- The predicates that the body needs. -/
  bounds : List Tokens

namespace Fragment

/-- The fragment with the given body, if that is the inside of a block. -/
def ofDraft (generator : String) (body : Draft) : Except Problem Fragment :=
  match body.tokens.asBlock with
  | .ok _ => .ok ⟨generator, body, []⟩
  | .error error => .error (.invalidFragment generator error.message)

/-- The fragment with one more predicate. -/
def withBound (fragment : Fragment) (bound : Tokens) : Fragment :=
  { fragment with bounds := fragment.bounds ++ [bound] }

/-- The tokens of the body. -/
def tokens (fragment : Fragment) : Tokens := fragment.body.tokens

end Fragment

/-! ### Generators -/

/-- A generator of traversals over one category of types. -/
structure Generator where
  /-- The name used in events and diagnostics. -/
  name : String
  /-- Whether the generator takes fields of the type. -/
  supports : TypeExpression → Bool
  /-- Which type argument is the focus. -/
  focusIndex : Nat
  /-- How many focused values one field holds. -/
  multiplicity : Multiplicity
  /-- Writes the body of the traversal over a field of an aggregate. -/
  synthesize : Field → Aggregate → Context → Except Diagnostic Fragment

/-- The error that a problem is on a field of an aggregate. -/
def Problem.located (problem : Problem) (aggregate : Aggregate) (field : Field) : Diagnostic :=
  (Diagnostic.error problem aggregate.name.spelling field.extent).withField field.name.display

/-- A result whose problem, if it has one, is located on a field of an aggregate. -/
def Problem.locate {α : Type} (aggregate : Aggregate) (field : Field) :
    Except Problem α → Except Diagnostic α
  | .ok result => .ok result
  | .error problem => .error (problem.located aggregate field)

namespace Generator

/-- The generator as it is shown to developers. -/
def debug (generator : Generator) : String :=
  "ShapeGenerator \x7b name: " ++ Text.quoted generator.name ++ ", multiplicity: " ++
    generator.multiplicity.title ++ " \x7d"

/-- The focus of a field's type as the generator sees it: the element of an array, else
the argument at the generator's index. -/
def focusOf? (generator : Generator) : TypeExpression → Option TypeExpression
  | .array element _ => some element
  | shape => shape.arguments[generator.focusIndex]?

end Generator

end Fieldwise
