/-
This file proves what the flags of fields have no part in. The flags say which fields are to be
traversed, and with the selection that follows from them they decide what is a candidate and how
serious it is that no generator supports one. A body does not show them, though it takes apart
and rebuilds all fields of the aggregate, and none of the library's own generators looks at them.

So two aggregates that only differ in flags have the same entries for the same candidates, and
only of a candidate whose type no generator supports they may say it with another severity.
-/

import Fieldwise.Proofs.Entries

namespace Fieldwise

/-! ### Aggregates without flags -/

/-- The field without its flags. -/
def Field.unflagged (field : Field) : Field := { field with skip := false, targeted := false }

theorem Field.shape_eq_of_unflagged {field field' : Field}
    (same : field.unflagged = field'.unflagged) : field.shape = field'.shape := by
  have shapes := congrArg Field.shape same
  exact shapes

/-- The aggregate without the flags of its fields, and without the selection that follows from
them. -/
def Aggregate.unflagged (aggregate : Aggregate) : Aggregate :=
  { aggregate with fields := aggregate.fields.map .unflagged, selection := .auto }

theorem Aggregate.isSome_field?_unflagged (aggregate : Aggregate) (name : FieldName) :
    (aggregate.unflagged.field? name).isSome = (aggregate.field? name).isSome := by
  show ((aggregate.fields.map Field.unflagged).find? (·.name == name)).isSome = _
  rw [List.find?_map, Option.isSome_map]
  rfl

/-! ### Printed definitions -/

/-- The fragment with its body as tokens. -/
def Fragment.printed (fragment : Fragment) : Fragment :=
  { fragment with body := .verbatim fragment.tokens }

/-- The definition with its body as tokens. -/
def Definition.printed (definition : Definition) : Definition :=
  { definition with body := definition.body.printed }

/-! ### Bodies -/

namespace Reconstruction

/-- The reconstruction of the aggregate without flags. -/
def unflagged (rebuild : Reconstruction) : Reconstruction where
  aggregate := rebuild.aggregate.unflagged
  target := rebuild.target.unflagged
  declared := (rebuild.aggregate.isSome_field?_unflagged _).trans rebuild.declared

variable (rebuild : Reconstruction)

theorem bindings_unflagged : rebuild.unflagged.bindings = rebuild.bindings :=
  List.map_map

theorem slots_unflagged : rebuild.unflagged.slots = rebuild.slots :=
  List.map_map

theorem destructureTokens_unflagged (source : Identifier) :
    rebuild.unflagged.destructureTokens source = rebuild.destructureTokens source := by
  rw [destructureTokens, bindings_unflagged]
  rfl

theorem tokens_unflagged (replacement : Tokens) :
    rebuild.unflagged.tokens replacement = rebuild.tokens replacement := by
  rw [tokens, slots_unflagged]
  rfl

theorem around_unflagged (aggregate : Aggregate) (field : Field) :
    around aggregate.unflagged field.unflagged = (around aggregate field).map unflagged := by
  unfold around
  split
  · rename_i declared
    rw [Aggregate.isSome_field?_unflagged] at declared
    rw [dif_pos (show (aggregate.field? field.name).isSome from declared)]
    rfl
  · rename_i undeclared
    rw [Aggregate.isSome_field?_unflagged] at undeclared
    rw [dif_neg (show ¬(aggregate.field? field.name).isSome from undeclared)]
    rfl

end Reconstruction

namespace Body

/-- The body around the field without flags. -/
def unflagged (body : Body) : Body := { body with rebuild := body.rebuild.unflagged }

variable (body : Body)

theorem destructureTokens_unflagged :
    body.unflagged.destructureTokens = body.destructureTokens :=
  body.rebuild.destructureTokens_unflagged Context.source

/-- Flags cannot be read off a body. -/
theorem tokens_unflagged : body.unflagged.tokens = body.tokens := by
  have rebuilt := body.rebuild.tokens_unflagged
  have unchanged : body.rebuild.unflagged.unchangedTokens = body.rebuild.unchangedTokens :=
    rebuilt _
  obtain ⟨context, rebuild, plan⟩ := body
  cases plan with
  | loop items gathering =>
    show loopTokens (unflagged _) items gathering = loopTokens _ items gathering
    unfold loopTokens
    rw [destructureTokens_unflagged]
    dsimp only [unflagged]
    rw [rebuilt, unchanged]
    rfl
  | branches branching =>
    show branchTokens (unflagged _) branching = branchTokens _ branching
    unfold branchTokens
    rw [destructureTokens_unflagged]
    dsimp only [unflagged]
    rw [rebuilt, rebuilt]
    rfl
  | delegate container taken =>
    show delegateTokens (unflagged _) container taken = delegateTokens _ container taken
    unfold delegateTokens
    rw [destructureTokens_unflagged]
    dsimp only [unflagged]
    rw [rebuilt]
    rfl

end Body

/-! ### Generators -/

theorem Problem.map_locate_unflagged {A B : Type} (function : A → B) (aggregate : Aggregate)
    (field : Field) (attempt : Except Problem A) :
    (Problem.locate aggregate.unflagged field.unflagged attempt).map function =
      Problem.locate aggregate field (attempt.map function) := by
  cases attempt <;> rfl

theorem Problem.map_locate {A B : Type} (function : A → B) (aggregate : Aggregate)
    (field : Field) (attempt : Except Problem A) :
    (Problem.locate aggregate field attempt).map function =
      Problem.locate aggregate field (attempt.map function) := by
  cases attempt <;> rfl

/-- A predicate more does not change what is printed of the body. -/
theorem Fragment.map_printed_withBound {attempt attempt' : Except Diagnostic Fragment}
    (same : attempt.map printed = attempt'.map printed) (bound : Tokens) :
    (attempt.map (·.withBound bound)).map printed =
      (attempt'.map (·.withBound bound)).map printed := by
  have swap (attempt : Except Diagnostic Fragment) :
      (attempt.map (·.withBound bound)).map printed =
        (attempt.map printed).map (·.withBound bound) := by
    cases attempt <;> rfl
  rw [swap, swap, same]

theorem Fragment.map_printed_ofDraft (generator : String) (body : Body) :
    (ofDraft generator (.planned body.unflagged)).map printed =
      (ofDraft generator (.planned body)).map printed := by
  unfold ofDraft
  rw [Draft.tokens, Draft.tokens, body.tokens_unflagged]
  split
  · show Except.ok (printed _) = Except.ok (printed _)
    unfold printed tokens
    rw [Draft.tokens, Draft.tokens, body.tokens_unflagged]
  · rfl

namespace Generator

variable {generator : Generator}

/-- What the generator writes does not depend on flags, nor on the selection that follows from
them; bodies are compared as tokens. -/
def IgnoresFlags (generator : Generator) : Prop :=
  ∀ field aggregate context,
    (generator.synthesize field.unflagged aggregate.unflagged context).map Fragment.printed =
      (generator.synthesize field aggregate context).map Fragment.printed

theorem map_printed_write (name : String) (field : Field) (aggregate : Aggregate)
    (context : Context) (plan : Except Problem Plan) :
    (write name field.unflagged aggregate.unflagged context plan).map Fragment.printed =
      (write name field aggregate context plan).map Fragment.printed := by
  unfold write
  rw [Problem.map_locate_unflagged, Problem.map_locate, Reconstruction.around_unflagged]
  refine congrArg (Problem.locate aggregate field) ?_
  cases Reconstruction.around aggregate field with
  | error problem => rfl
  | ok rebuild =>
    cases plan with
    | error problem => exact Eq.refl (Except.error problem)
    | ok plan => exact Fragment.map_printed_ofDraft name ⟨context, rebuild, plan⟩

theorem ignoresFlags_of_mem_builtin (builtIn : generator ∈ builtin) : generator.IgnoresFlags := by
  intro field aggregate context
  obtain ⟨name, plan, writer, -⟩ := exists_writer builtIn
  have same := map_printed_write name field aggregate context (plan field.shape)
  cases writer with
  | plain synthesize_eq =>
    rw [synthesize_eq, synthesize_eq]
    exact same
  | collecting items synthesize_eq =>
    rw [synthesize_eq, synthesize_eq]
    exact Fragment.map_printed_withBound same (collectable field (items field.shape context))

end Generator

/-! ### Fields -/

namespace Registry

variable {registry : Registry} {first second : Aggregate} {field field' : Field}
  {kept kept' : List Definition}

/-- None of the generators looks at flags. -/
def IgnoresFlags (registry : Registry) : Prop :=
  ∀ generator ∈ registry.generators, generator.IgnoresFlags

theorem builtin_ignoresFlags : builtin.IgnoresFlags :=
  fun _ builtIn => Generator.ignoresFlags_of_mem_builtin builtIn

theorem map_printed_definitionOf (generator : Generator) (aggregate : Aggregate) (field : Field)
    (focus : TypeExpression) (attempt : Except Diagnostic Fragment) :
    (attempt.map (definitionOf generator aggregate field focus)).map Definition.printed =
      (attempt.map Fragment.printed).map (definitionOf generator aggregate field focus) := by
  cases attempt <;> rfl

theorem definitionOf_unflagged (generator : Generator) (aggregate : Aggregate) (field : Field)
    (focus : TypeExpression) :
    definitionOf generator aggregate.unflagged field.unflagged focus =
      definitionOf generator aggregate field focus := rfl

/-- Where a generator supports the type of a field, flags have no part in the result. -/
theorem map_printed_fieldResult_unflagged (ignoring : registry.IgnoresFlags)
    (aggregate : Aggregate) (supported : (registry.choice field.shape).isSome) :
    (registry.fieldResult aggregate.unflagged field.unflagged).map Definition.printed =
      (registry.fieldResult aggregate field).map Definition.printed := by
  have shape : field.unflagged.shape = field.shape := rfl
  unfold fieldResult
  rw [shape]
  cases chosen : registry.generators.find? (·.supports field.shape) with
  | none =>
    rw [choice, chosen] at supported
    cases supported
  | some generator =>
    dsimp only
    cases generator.focusOf? field.shape with
    | none => rfl
    | some focus =>
      have same := ignoring generator (List.mem_of_find?_eq_some chosen) field aggregate
        ⟨aggregate.runtime, focus⟩
      dsimp only
      rw [definitionOf_unflagged, map_printed_definitionOf, map_printed_definitionOf]
      exact congrArg _ same

theorem map_printed_fieldResult (ignoring : registry.IgnoresFlags)
    (sameAggregate : first.unflagged = second.unflagged)
    (sameField : field.unflagged = field'.unflagged)
    (supported : (registry.choice field.shape).isSome) :
    (registry.fieldResult first field).map Definition.printed =
      (registry.fieldResult second field').map Definition.printed := by
  have shape := Field.shape_eq_of_unflagged sameField
  rw [← map_printed_fieldResult_unflagged ignoring first supported, sameAggregate, sameField,
    map_printed_fieldResult_unflagged ignoring second (shape ▸ supported)]

theorem fieldResult_of_choice_eq_none (none : registry.choice field.shape = none) :
    registry.fieldResult first field = .error (unsupported first field) := by
  rw [choice, Option.map_eq_none_iff] at none
  rw [fieldResult, none]

/-- Two fields clash or not, whatever their flags and those of the aggregate are. -/
theorem nameClash_eq_unflagged (aggregate : Aggregate) (field : Field) (kept : List Definition)
    (definition : Definition) :
    nameClash aggregate field kept definition =
      nameClash aggregate.unflagged field.unflagged (kept.map .printed) definition.printed := by
  unfold nameClash
  rw [List.find?_map, Option.map_map]
  rfl

/-- Two fields have one name for their types, whatever the flags are. -/
theorem nameClash_congr (sameAggregate : first.unflagged = second.unflagged)
    (sameField : field.unflagged = field'.unflagged)
    (sameKept : kept.map Definition.printed = kept'.map .printed)
    {definition definition' : Definition} (same : definition.printed = definition'.printed) :
    nameClash first field kept definition = nameClash second field' kept' definition' := by
  rw [nameClash_eq_unflagged first, nameClash_eq_unflagged second, sameAggregate, sameField,
    sameKept, same]

/-! ### Entries -/

/-- Two entries match where flags have no part: the same definition, up to how its body is
held, or the same diagnostic, but that no generator supports the type of a candidate is said of
each aggregate in its own way. -/
inductive Matches (registry : Registry) (first second : Aggregate) : Entry → Entry → Prop
  | defined {definition definition' : Definition}
      (same : definition.printed = definition'.printed) :
      Matches registry first second (.ok definition) (.ok definition')
  | failed (diagnostic : Diagnostic) :
      Matches registry first second (.error diagnostic) (.error diagnostic)
  | unresolved {field field' : Field} (same : field.unflagged = field'.unflagged)
      (none : registry.choice field.shape = none) :
      Matches registry first second (.error (unsupported first field))
        (.error (unsupported second field'))

theorem matches_entryAfter (ignoring : registry.IgnoresFlags)
    (sameAggregate : first.unflagged = second.unflagged)
    (sameField : field.unflagged = field'.unflagged)
    (sameKept : kept.map Definition.printed = kept'.map .printed) :
    registry.Matches first second (registry.entryAfter first kept field)
      (registry.entryAfter second kept' field') := by
  have shape := Field.shape_eq_of_unflagged sameField
  cases chosen : registry.choice field.shape with
  | none =>
    rw [entryAfter, entryAfter, fieldResult_of_choice_eq_none chosen,
      fieldResult_of_choice_eq_none (shape ▸ chosen)]
    exact .unresolved sameField chosen
  | some choice =>
    have same := map_printed_fieldResult ignoring sameAggregate sameField
      (Option.isSome_of_eq_some chosen)
    unfold entryAfter
    cases result : registry.fieldResult first field <;>
      cases result' : registry.fieldResult second field' <;> rw [result, result'] at same
    · cases same
      exact .failed _
    · cases same
    · cases same
    · rename_i definition definition'
      have printed : definition.printed = definition'.printed := Except.ok.inj same
      dsimp only
      rw [nameClash_congr sameAggregate sameField sameKept printed]
      cases nameClash second field' kept' definition' with
      | none => exact .defined printed
      | some clash => exact .failed clash

theorem Matches.map_definition? {entry entry' : Entry}
    (paired : registry.Matches first second entry entry') :
    entry.definition?.map Definition.printed = entry'.definition?.map .printed := by
  cases paired with
  | defined same => exact congrArg some same
  | failed _ => rfl
  | unresolved _ _ => rfl

/-- The same candidates have entries that match, one after the other. -/
theorem matches_entriesAfter (ignoring : registry.IgnoresFlags)
    (sameAggregate : first.unflagged = second.unflagged) {fields fields' : List Field}
    (sameFields : fields.map Field.unflagged = fields'.map .unflagged)
    (sameKept : kept.map Definition.printed = kept'.map .printed) :
    List.Forall₂ (registry.Matches first second) (registry.entriesAfter first kept fields)
      (registry.entriesAfter second kept' fields') := by
  induction fields generalizing fields' kept kept' with
  | nil =>
    cases fields' with
    | nil => exact .nil
    | cons _ _ => cases sameFields
  | cons field rest inductionHypothesis =>
    cases fields' with
    | nil => cases sameFields
    | cons field' rest' =>
      obtain ⟨sameField, sameRest⟩ := List.cons.inj sameFields
      have paired := matches_entryAfter ignoring sameAggregate sameField sameKept
      refine .cons paired (inductionHypothesis sameRest ?_)
      rw [List.map_append, List.map_append, sameKept, ← Option.toList_map, ← Option.toList_map,
        paired.map_definition?]

end Registry

end Fieldwise
