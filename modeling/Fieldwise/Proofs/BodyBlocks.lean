/-
This file says that what the library's own generators write is the inside of a block. A body goes
deep enough for every type that is spliced into it, since it has more tokens than the type. So a
body is a block if the grammar reads the types and the length that the declaration gives to it,
unless the length does not stay in one piece or the type of the keys opens with a lifetime.
-/

import Fieldwise.Proofs.BodySizes
import Fieldwise.Proofs.BranchBodies
import Fieldwise.Proofs.DeclaredTypes
import Fieldwise.Proofs.Writing

namespace Fieldwise

open Grammar Reader Lookahead
open Code (localName)

/-! ### Bodies -/

namespace Body

variable {body : Body} {depth : Nat}

/-- From the depth on, the grammar accepts what a declaration gives to the plan of a body. -/
def PlanReadable (depth : Nat) (body : Body) : Prop :=
  match body.plan with
  | .loop items gathering => items.Readable depth ∧ body.Gathers depth gathering
  | .branches branching => branching.Readable
  | .delegate _ taken =>
    (∀ type ∈ taken, ReadsType depth type.tokens) ∧ ReadsType depth body.fieldType

/-- The statements of a body are the inside of a block. -/
theorem readsStatements_tokens (readable : body.Readable depth) (plan : body.PlanReadable depth) :
    ReadsStatements (depth + 15) body.tokens := by
  cases made : body.plan with
  | loop items gathering =>
    rw [PlanReadable, made] at plan
    rw [tokens, made]
    exact readsStatements_loopTokens readable plan.1 plan.2
  | branches branching =>
    rw [PlanReadable, made] at plan
    rw [tokens, made]
    exact readsStatements_branchTokens readable plan
  | delegate container taken =>
    rw [PlanReadable, made] at plan
    rw [tokens, made]
    exact readsStatements_delegateTokens readable container plan.1 plan.2

/-- Statements of which none has an attribute start with none. -/
theorem unattributed_tokens (body : Body) : Lookahead.mark "#" body.tokens = false := by
  unfold tokens
  split <;> rfl

/-- A body is the inside of a block if the grammar accepts its parts from a depth on that is
enough for the body. -/
theorem exists_asBlock (body : Body) (readable : body.Readable (depthFor body.tokens))
    (plan : body.PlanReadable (depthFor body.tokens)) :
    ∃ block, body.tokens.asBlock = .ok block := by
  have block := (readsStatements_tokens readable plan).readsBlock body.unattributed_tokens
  have enough : depthFor body.tokens + 15 + 1 ≤ depthFor [.braced body.tokens] := by
    rw [depthFor, depthFor, Token.countAll_braced]
    omega
  have accepted := block false (depthFor [.braced body.tokens]) enough [] trivial
  obtain ⟨result, found, -⟩ := (Accepts.captured accepted).exists_whole
  exact ⟨result, found⟩

end Body

/-! ### Built-in generators -/

namespace Generator

variable {generator : Generator} {field : Field} {aggregate : Aggregate} {context : Context}

/-- The focus of a type is one of the types that it is made of. -/
theorem readAsType_of_focusOf? {focus : TypeExpression} (parts : field.shape.PartsRead)
    (focused : generator.focusOf? field.shape = some focus) : Tokens.ReadAsType focus.tokens := by
  cases shape : field.shape with
  | array element length =>
    rw [shape] at parts focused
    cases focused
    exact parts.1
  | parameterized name arguments =>
    rw [shape] at parts focused
    exact parts focus (List.mem_of_getElem? focused)
  | simple name =>
    rw [shape] at focused
    cases focused
  | unanalysed written =>
    rw [shape] at focused
    cases focused

/-- The generator writes a body around the field that is the inside of a block. -/
def WritesBlock (generator : Generator) (field : Field) (aggregate : Aggregate)
    (context : Context) : Prop :=
  ∃ body : Body, body.context = context ∧ body.rebuild.aggregate = aggregate ∧
    body.rebuild.target = field ∧ (∃ block, body.tokens.asBlock = .ok block) ∧
      ∃ fragment, generator.synthesize field aggregate context = .ok fragment ∧
        fragment.body = .planned body

/-- What a declaration gives to every body around a field can be read. -/
structure Surroundings (field : Field) (aggregate : Aggregate) (context : Context) : Prop where
  declared : (aggregate.field? field.name).isSome
  default : context.runtime = defaultRuntime
  ordinary : aggregate.Ordinary
  focus : Tokens.ReadAsType context.focus.tokens
  types : field.TypesRead

/-- The body of a plan around the field. -/
def Surroundings.body (surroundings : Surroundings field aggregate context) (plan : Plan) : Body :=
  ⟨context, ⟨aggregate, field, surroundings.declared⟩, plan⟩

/-- A generator writes a block if the grammar accepts what its plan is made of. -/
theorem writesBlock_of_plan (surroundings : Surroundings field aggregate context) {name : String}
    {planOf : TypeExpression → Except Problem Plan} {plan : Plan}
    (writer : generator.Writer name planOf) (made : planOf field.shape = .ok plan)
    (readable : (surroundings.body plan).PlanReadable
      (depthFor (surroundings.body plan).tokens)) :
    generator.WritesBlock field aggregate context := by
  have size : Token.countAll context.focus.tokens ≤
      Token.countAll (surroundings.body plan).tokens :=
    (surroundings.body plan).countAll_focusType_le surroundings.ordinary
  have enough : 4 ≤ depthFor (surroundings.body plan).tokens := by
    rw [depthFor]
    omega
  obtain ⟨block, formed⟩ := (surroundings.body plan).exists_asBlock ⟨enough, surroundings.default,
    surroundings.ordinary, surroundings.focus.mono (depthFor_le size)⟩ readable
  have isOk : (surroundings.body plan).tokens.asBlock.isOk := by
    rw [formed]
    rfl
  exact ⟨surroundings.body plan, rfl, rfl, rfl, ⟨block, formed⟩,
    writer.exists_written (surroundings.body plan) made isOk⟩

/-- The values of a loop are gathered into a part of its body. -/
theorem countAll_collectTokens_le (surroundings : Surroundings field aggregate context)
    (items : LoopItems) (gathering : Gathering) :
    Token.countAll ((surroundings.body (.loop items gathering)).collectTokens gathering
        (localName "__values")) ≤
      Token.countAll (surroundings.body (.loop items gathering)).tokens := by
  have whole := (surroundings.body (.loop items gathering)).countAll_le_loopTokens
    surroundings.ordinary items gathering
  exact Nat.le_trans (Nat.le_add_left _ _) whole

/-- The type that values are collected into is a part of the body. -/
theorem gathers_declared (surroundings : Surroundings field aggregate context)
    (items : LoopItems) :
    (surroundings.body (.loop items .declared)).Gathers
      (depthFor (surroundings.body (.loop items .declared)).tokens) .declared := by
  have size := Nat.le_trans (Body.countAll_fieldType_le _ _)
    (countAll_collectTokens_le surroundings items .declared)
  exact surroundings.types.declared.mono (depthFor_le size)

theorem writesBlock_sequence (surroundings : Surroundings field aggregate context) :
    sequence.WritesBlock field aggregate context :=
  writesBlock_of_plan surroundings sequence_writer rfl ⟨trivial, trivial⟩

theorem writesBlock_set (surroundings : Surroundings field aggregate context) :
    set.WritesBlock field aggregate context :=
  writesBlock_of_plan surroundings set_writer rfl
    ⟨trivial, gathers_declared surroundings .elements⟩

/-- The body for an array is a block if the length stays in one piece. -/
theorem writesBlock_array (surroundings : Surroundings field aggregate context)
    (supported : array.supports field.shape = true) (fits : field.shape.fitsBodies = true) :
    array.WritesBlock field aggregate context := by
  have parts := surroundings.types.parts
  cases shape : field.shape with
  | array element length =>
    rw [shape] at parts fits
    have made : arrayPlan field.shape = .ok (.loop .elements (.array length)) := by
      rw [shape]
      rfl
    have size := Nat.le_trans (Body.countAll_length_le _ length _)
      (countAll_collectTokens_le surroundings .elements (.array length))
    exact writesBlock_of_plan surroundings array_writer made
      ⟨trivial, fits, parts.2.mono (depthFor_le size)⟩
  | _ =>
    rw [shape] at supported
    cases supported

/-- The body for a map is a block if the type of the keys opens with no lifetime. -/
theorem writesBlock_map (surroundings : Surroundings field aggregate context)
    (supported : map.supports field.shape = true) (fits : field.shape.fitsBodies = true)
    {focus : TypeExpression} (focused : map.focusOf? field.shape = some focus) :
    map.WritesBlock field aggregate context := by
  have parts := surroundings.types.parts
  cases shape : field.shape with
  | parameterized name arguments =>
    rw [shape] at parts fits focused supported
    cases arguments with
    | nil => cases focused
    | cons key others =>
      have made : mapPlan field.shape = .ok (.loop (.entries key) .declared) := by
        rw [shape]
        rfl
      have unopened : Lookahead.lifetime key.tokens = false := by
        have isMap : name.isOneOf mapSpellings = true := supported
        rwa [TypeExpression.fitsBodies, isMap, Bool.true_and, Bool.not_eq_true'] at fits
      have whole := (surroundings.body (.loop (.entries key) .declared)).countAll_le_loopTokens
        surroundings.ordinary (.entries key) .declared
      have size := Nat.le_trans (Body.countAll_key_le key context.focus.tokens)
        (Nat.le_trans (Nat.le_add_right _ _) whole)
      exact writesBlock_of_plan surroundings map_writer made
        ⟨⟨(parts key List.mem_cons_self).mono (depthFor_le size), unopened⟩,
          gathers_declared surroundings (.entries key)⟩
  | _ =>
    rw [shape] at supported
    cases supported

/-- The body for a value with two forms is a block, since the names of the forms are. -/
theorem writesBlock_branching (surroundings : Surroundings field aggregate context)
    {name : String} {spellings : List String} {focusIndex : Nat}
    {forms : TypeExpression → Branching} (readable : (forms field.shape).Readable) :
    (branching name spellings focusIndex forms).WritesBlock field aggregate context := by
  have writer : (branching name spellings focusIndex forms).Writer name
      fun shape => .ok (.branches (forms shape)) := .plain fun _ _ _ => rfl
  exact writesBlock_of_plan surroundings writer rfl readable

/-- An instance takes some of the types that the declared type is made of. -/
theorem readAsType_of_takenBy {shape type : TypeExpression} (parts : shape.PartsRead)
    {known : KnownContainer} (taken : type ∈ takenBy known shape) :
    Tokens.ReadAsType type.tokens := by
  unfold takenBy at taken
  split at taken
  · have among := List.mem_of_mem_eraseIdx taken
    cases shape with
    | parameterized name arguments => exact parts type among
    | _ => cases among
  · cases taken

/-- The body for a known container is a block. -/
theorem writesBlock_ofKnown (surroundings : Surroundings field aggregate context)
    (known : KnownContainer) : (ofKnown known).WritesBlock field aggregate context := by
  have whole := (surroundings.body
    (.delegate known.container (takenBy known field.shape))).countAll_le_delegateTokens
      known.container (takenBy known field.shape)
  have writer : (ofKnown known).Writer known.spelling
      fun shape => .ok (.delegate known.container (takenBy known shape)) := .plain fun _ _ _ => rfl
  refine writesBlock_of_plan surroundings writer rfl ⟨fun type taken => ?_, ?_⟩
  · have size := Nat.le_trans (Body.countAll_taken_le taken)
      (Nat.le_trans (Nat.le_add_right _ _) whole)
    exact (readAsType_of_takenBy surroundings.types.parts taken).mono (depthFor_le size)
  · exact surroundings.types.declared.mono (depthFor_le (Nat.le_trans (Nat.le_add_left _ _) whole))

/-- A built-in generator that supports the type of a field writes a block for it, if the type fits
into bodies. -/
theorem writesBlock_of_mem_builtin (surroundings : Surroundings field aggregate context)
    {generator : Generator} (builtIn : generator ∈ builtin)
    (supported : generator.supports field.shape = true) {focus : TypeExpression}
    (focused : generator.focusOf? field.shape = some focus)
    (fits : field.shape.fitsBodies = true) : generator.WritesBlock field aggregate context := by
  rw [builtin, List.mem_append, List.mem_map] at builtIn
  rcases builtIn with shape | ⟨known, -, rfl⟩
  · simp only [shapes, List.mem_cons, List.not_mem_nil, or_false] at shape
    rcases shape with rfl | rfl | rfl | rfl | rfl | rfl | rfl | rfl
    · exact writesBlock_sequence surroundings
    · exact writesBlock_array surroundings supported fits
    · exact writesBlock_set surroundings
    · exact writesBlock_branching surroundings trivial
    · exact writesBlock_branching surroundings
        (TypeExpression.exists_ordinary_name? (by decide) (by decide +kernel) supported)
    · exact writesBlock_branching surroundings
        (TypeExpression.exists_ordinary_name? (by decide) (by decide +kernel) supported)
    · exact writesBlock_branching surroundings trivial
    · exact writesBlock_map surroundings supported fits focused
  · exact writesBlock_ofKnown surroundings known

end Generator

end Fieldwise
