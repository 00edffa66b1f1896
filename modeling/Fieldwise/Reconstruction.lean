/-
This file holds the pattern that takes an aggregate apart and the expression that puts
it together again. The pattern gives every field a local name of its own. The expression
lists the fields in declared order and fills every slot with its own local name, except
that of one target field, which gets a replacement.
-/

import Fieldwise.Aggregate.Basic

namespace Fieldwise

/-- The taking apart and putting together of an aggregate around one of its fields. -/
structure Reconstruction where
  aggregate : Aggregate
  target : Field
  /-- The aggregate has a field with the target's name. -/
  declared : (aggregate.field? target.name).isSome

/-- What fills one slot of the rebuilt aggregate. -/
inductive Slot where
  /-- The replacement. -/
  | replaced
  /-- The value that was bound to the local name. -/
  | kept (binding : Identifier)
deriving DecidableEq, Repr, Inhabited

namespace Reconstruction

/-- The reconstruction of an aggregate around a field, if the aggregate has the field. -/
def around (aggregate : Aggregate) (target : Field) : Except Problem Reconstruction :=
  if declared : (aggregate.field? target.name).isSome then .ok ⟨aggregate, target, declared⟩
  else .error (.reconstructionMismatch aggregate.name.spelling target.name.display)

/-- The local name that holds the target's value. -/
def binding (rebuild : Reconstruction) : Identifier := rebuild.target.name.binding

/-! ### Slots -/

/-- The local name of every field, in declared order. -/
def bindings (rebuild : Reconstruction) : List (FieldName × Identifier) :=
  rebuild.aggregate.fields.map fun field => (field.name, field.name.binding)

/-- What fills the slot of a field. -/
def slotOf (rebuild : Reconstruction) (field : Field) : Slot :=
  if field.name = rebuild.target.name then .replaced else .kept field.name.binding

/-- What fills every slot, in declared order. -/
def slots (rebuild : Reconstruction) : List (FieldName × Slot) :=
  rebuild.aggregate.fields.map fun field => (field.name, rebuild.slotOf field)

/-- The tokens that fill a slot. -/
def slotTokens (replacement : Tokens) : Slot → Tokens
  | .replaced => replacement
  | .kept binding => [.word binding]

/-! ### Printing -/

/-- The name of a field before its colon; a position is written as a number. -/
def labelTokens : FieldName → Tokens
  | .named name => [.word name]
  | .position index => [.literal (toString index)]

/-- The aggregate's name with what stands for each field, in the style in which its
fields are written. -/
def shaped (rebuild : Reconstruction) (items : List (FieldName × Tokens)) : Tokens :=
  let name : Token := .word rebuild.aggregate.name
  match rebuild.aggregate.style with
  | .named =>
    [name, .braced (Token.commaSeparated (items.map fun (label, tokens) =>
      labelTokens label ++ [.colon] ++ tokens))]
  | .tuple => [name, .parenthesized (Token.commaSeparated (items.map (·.2)))]
  | .unit => [name]

/-- The statement that binds the fields of the source to their local names. -/
def destructureTokens (rebuild : Reconstruction) (source : Identifier) : Tokens :=
  [.plain "let"] ++
    rebuild.shaped (rebuild.bindings.map fun (label, binding) => (label, [.word binding])) ++
    [.equals, .word source, .semicolon]

/-- The expression for the aggregate with the replacement in the target's slot. -/
def tokens (rebuild : Reconstruction) (replacement : Tokens) : Tokens :=
  rebuild.shaped (rebuild.slots.map fun (label, slot) => (label, slotTokens replacement slot))

/-- The expression for the aggregate with the target's own value in its slot. -/
def unchangedTokens (rebuild : Reconstruction) : Tokens :=
  rebuild.tokens [.word rebuild.binding]

end Reconstruction

end Fieldwise
