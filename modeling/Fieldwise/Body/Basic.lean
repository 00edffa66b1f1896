/-
This file holds the bodies of traversals. A body is a plan: it visits the elements of a
collection, looks at the branches of a value, or leaves the work to a container's ready
instance, and in the end rebuilds the aggregate. Each plan has its tokens, in which it
appears in generated code.
-/

import Fieldwise.Container.Basic
import Fieldwise.Context
import Fieldwise.Reconstruction

namespace Fieldwise

/-! ### Plans -/

/-- What a loop runs over. -/
inductive LoopItems where
  /-- Plain elements, each of them focused. -/
  | elements
  /-- Pairs of a key, whose type is given, and a focused value. -/
  | entries (key : TypeExpression)
deriving Inhabited

/-- How the collected new values become the new value of the field. -/
inductive Gathering where
  /-- They are the new value. -/
  | list
  /-- They fill an array of the given length. -/
  | array (length : Tokens)
  /-- They are collected into the declared type. -/
  | declared
deriving Repr, Inhabited

/-- A type with two forms, one of which carries the focus. -/
inductive Branching where
  | option
  | result
  /-- The name of the type is the one that the field was declared with. -/
  | either (name : Option QualifiedName)
  | validated (name : Option QualifiedName)
deriving Repr, Inhabited

/-- What a body does with the field that it traverses. -/
inductive Plan where
  | loop (items : LoopItems) (gathering : Gathering)
  | branches (branching : Branching)
  /-- The instance of the container does the work; it takes the given types. -/
  | delegate (container : Container) (taken : List TypeExpression)
deriving Inhabited

open Code

namespace LoopItems

/-- What one round of the loop binds. -/
def pattern : LoopItems → Tokens
  | .elements => localName "__element"
  | .entries _ =>
    [.parenthesized (Token.commaSeparated [localName "__key", localName "__element"])]

/-- What one round of the loop adds to the collected values. -/
def slot : LoopItems → Tokens
  | .elements => localName "__value"
  | .entries _ =>
    [.parenthesized (Token.commaSeparated [localName "__key", localName "__value"])]

/-- The type of what one round adds. -/
def slotType (focus : Tokens) : LoopItems → Tokens
  | .elements => focus
  | .entries key => [.parenthesized (Token.commaSeparated [key.tokens, focus])]

end LoopItems

namespace Branching

/-- A form of a type that the field was declared with. -/
def formOf (name : Option QualifiedName) (form : String) : Tokens :=
  ((name.map QualifiedName.tokens).getD []) ++ Token.pathSeparator ++ [.plain form]

/-- The form that carries the focus. -/
def focusForm : Branching → Tokens
  | .option => rooted ["core", "option", "Option", "Some"]
  | .result => rooted ["core", "result", "Result", "Ok"]
  | .either name => formOf name "Right"
  | .validated name => formOf name "Valid"

/-- The other form with what it carries; it is the same as a pattern and as a value. -/
def otherForm : Branching → Tokens
  | .option => rooted ["core", "option", "Option", "None"]
  | .result => rooted ["core", "result", "Result", "Err"] ++ carried
  | .either name => formOf name "Left" ++ carried
  | .validated name => formOf name "Invalid" ++ carried
where
  carried : Tokens := [.parenthesized (localName "__other")]

end Branching

/-! ### Bodies -/

/-- The body of a traversal over one field. -/
structure Body where
  context : Context
  rebuild : Reconstruction
  plan : Plan

namespace Body

/-- The function that is applied to the focused values, called with an argument. -/
def applied (argument : Tokens) : Tokens :=
  [.word Context.function, .parenthesized argument]

variable (body : Body)

/-- The type of the aggregate. -/
def selfType : Tokens := body.rebuild.aggregate.selfType

/-- The type of the focused values. -/
def focusType : Tokens := body.context.focus.tokens

/-- The type of the field as it was declared. -/
def fieldType : Tokens := body.rebuild.target.written.tokens

/-- The local name that holds the field's value. -/
def targetTokens : Tokens := [.word body.rebuild.binding]

/-- The statement that takes the aggregate apart. -/
def destructureTokens : Tokens := body.rebuild.destructureTokens Context.source

/-! ### Loops -/

/-- The expression that makes the field's new value out of the collected values. -/
def collectTokens (gathering : Gathering) (values : Tokens) : Tokens :=
  match gathering with
  | .list => values
  | .array length =>
    body.context.runtimeName ["__private", "collect_array"] ++ Token.pathSeparator ++
      angled (Token.commaSeparated [body.focusType, [.braced length]]) ++
      [.parenthesized values]
  | .declared =>
    method values "into_iter" [] ++ [.mark '.' false, .plain "collect"] ++ Token.pathSeparator ++
      angled body.fieldType ++ [.parenthesized []]

/-- The tokens of a loop: an empty field is passed on unchanged; else the new values are
collected one after the other inside the effect. -/
def loopTokens (items : LoopItems) (gathering : Gathering) : Tokens :=
  let context := body.context
  let focus := body.focusType
  let self := body.selfType
  let target := body.targetTokens
  let values := localName "__values"
  let vector := rooted ["std", "vec", "Vec"]
  let collected := vector ++ angled (items.slotType focus)
  let unchanged := context.pureTokens self body.rebuild.unchangedTokens
  let start := context.pureTokens collected
    (vector ++ Token.pathSeparator ++
      [.plain "with_capacity", .parenthesized (method target "len" [])])
  let push := anonymousFunction
    ([.plain "mut"] ++ typed "__values" collected ++ [.comma] ++ typed "__value" focus)
    [.braced (method values "push" (items.slot) ++ [.semicolon] ++ values)]
  let step := context.map2Tokens collected focus collected (localName "__acc")
    (applied (localName "__element")) push
  let rebuilt := body.rebuild.tokens (body.collectTokens gathering values)
  body.destructureTokens ++
    [.plain "if"] ++ method target "is_empty" [] ++
      [.braced ([.plain "return"] ++ unchanged ++ [.semicolon])] ++
    letTokens [.plain "mut", .plain "__acc"] start ++
    [.plain "for"] ++ items.pattern ++ [.plain "in"] ++ target ++
      [.braced (localName "__acc" ++ [.equals] ++ step ++ [.semicolon])] ++
    context.mapTokens collected self (localName "__acc")
      (anonymousFunction (typed "__values" collected) rebuilt)

/-! ### Branches -/

/-- The tokens of a look at the branches: the focus is replaced, and the other form is
passed on unchanged. -/
def branchTokens (branching : Branching) : Tokens :=
  let context := body.context
  let focus := branching.focusForm
  let other := branching.otherForm
  let rebuilt := body.rebuild.tokens (focus ++ [.parenthesized (localName "__value")])
  let present := context.mapTokens body.focusType body.selfType (applied (localName "__element"))
    (anonymousFunction (typed "__value" body.focusType) rebuilt)
  let absent := context.pureTokens body.selfType (body.rebuild.tokens other)
  body.destructureTokens ++
    [.plain "match"] ++ body.targetTokens ++
      [.braced (arm (focus ++ [.parenthesized (localName "__element")]) present ++
        arm other absent)]

/-! ### Instances -/

/-- The type of a container's instance. -/
def instanceTokens (container : Container) (taken : List TypeExpression) : Tokens :=
  body.context.runtimeName container.instancePath ++
    if taken.isEmpty then []
    else angled (Token.commaSeparated (taken.map (·.tokens)))

/-- The tokens that leave the work to a container's instance. -/
def delegateTokens (container : Container) (taken : List TypeExpression) : Tokens :=
  let context := body.context
  let instanceType := body.instanceTokens container taken
  let asDefault := angled
    (instanceType ++ [.plain "as"] ++ rooted ["core", "default", "Default"])
  let asTraverse := angled
    (instanceType ++ [.plain "as"] ++ context.runtimeName ["Traverse"])
  let call := asTraverse ++ Token.pathSeparator ++ [.plain "traverse"] ++ Token.pathSeparator ++
    angled (Token.commaSeparated
      [[.word Context.effect], body.focusType, body.focusType, Context.inferred]) ++
    [.parenthesized (Token.commaSeparated
      [[.mark '&' false, .plain "__instance"], [.word Context.applicative], body.targetTokens,
        [.mark '&' false, .plain "mut", .word Context.function]] ++ [.comma])]
  body.destructureTokens ++
    letTokens (localName "__instance")
      (asDefault ++ Token.pathSeparator ++ [.plain "default", .parenthesized []]) ++
    letTokens (localName "__traversed") call ++
    context.mapTokens body.fieldType body.selfType (localName "__traversed")
      (anonymousFunction (typed "__value" body.fieldType)
        (body.rebuild.tokens (localName "__value")))

/-! ### All plans -/

/-- The tokens of a body. -/
def tokens : Tokens :=
  match body.plan with
  | .loop items gathering => body.loopTokens items gathering
  | .branches branching => body.branchTokens branching
  | .delegate container taken => body.delegateTokens container taken

end Body

end Fieldwise
