/-
This file gives the syntax tree of a shape: arrays, paths with types applied to their last names,
and the types that are kept. The tree of the shape of a type is the type itself without the
parentheses and invisible groups around types, the `::` before arguments and the comma after them,
and it prints the tokens that the shape prints.
-/

import Fieldwise.Proofs.Spellings

namespace Fieldwise

/-! ### Trees -/

/-- The segments of a path, with something applied to the last of its names. -/
def namedSegments : List Identifier → Arguments → List Segment
  | [], _ => []
  | [last], arguments => [.mk last arguments]
  | name :: next :: rest, arguments => .mk name .none :: namedSegments (next :: rest) arguments

theorem namedSegments_append (before : List Identifier) (last : Identifier)
    (arguments : Arguments) :
    namedSegments (before ++ [last]) arguments =
      before.map (Segment.mk · .none) ++ [.mk last arguments] := by
  induction before with
  | nil => rfl
  | cons name rest inductionHypothesis =>
    cases rest with
    | nil => rfl
    | cons next others =>
      rw [List.cons_append, List.cons_append, namedSegments, ← List.cons_append,
        inductionHypothesis]
      rfl

theorem exists_namedSegments_cons (name : Identifier) (others : List Identifier)
    (arguments : Arguments) :
    ∃ own later, namedSegments (name :: others) arguments = .mk name own :: later := by
  cases others <;> exact ⟨_, _, rfl⟩

namespace TypeExpression

mutual

/-- The syntax tree of a shape. -/
def tree : TypeExpression → WrittenType
  | .array element length => .array element.tree length
  | .parameterized name arguments =>
    .path name.rooted (namedSegments name.names (.angled false (argumentTrees arguments) false))
  | .simple name => .path name.rooted (namedSegments name.names .none)
  | .unanalysed written => written

/-- The syntax trees of arguments. -/
def argumentTrees : List TypeExpression → List Argument
  | [] => []
  | type :: rest => .type type.tree :: argumentTrees rest

end

/-- The syntax tree of the shape is the type, and both print the same tokens. -/
def Mirrors (shape : TypeExpression) (written : WrittenType) : Prop :=
  shape.tree = written ∧ written.tokens = shape.tokens

/-! ### Tokens -/

theorem separated_append (separator : Tokens) (before : List Tokens) (last more : Tokens) :
    Token.separated separator (before ++ [last ++ more]) =
      Token.separated separator (before ++ [last]) ++ more := by
  induction before with
  | nil => rfl
  | cons item rest inductionHypothesis =>
    cases rest with
    | nil => simp [Token.separated]
    | cons next others =>
      simp only [List.cons_append, Token.separated, List.append_assoc] at inductionHypothesis ⊢
      rw [inductionHypothesis]

theorem segmentTokens_eq_map (segments : List Segment) :
    segmentTokens segments = segments.map Segment.tokens := by
  induction segments with
  | nil => rfl
  | cons segment rest inductionHypothesis =>
    rw [segmentTokens, inductionHypothesis, List.map_cons]

/-- A path with something applied to its last name prints the name and then that. -/
theorem tokens_path_named (rooted : Bool) (before : List Identifier) (last : Identifier)
    (arguments : Arguments) :
    (WrittenType.path rooted (before.map (Segment.mk · .none) ++ [.mk last arguments])).tokens =
      (QualifiedName.mk rooted (before ++ [last])).tokens ++ arguments.tokens := by
  have applied : (Segment.mk last arguments).tokens = [.word last] ++ arguments.tokens := rfl
  rw [WrittenType.tokens, QualifiedName.tokens, segmentTokens_eq_map, pathTokens, pathTokens,
    List.map_append, List.map_append, List.map_singleton, List.map_singleton, applied,
    separated_append, List.append_assoc, List.map_map]
  rfl

theorem tokens_path_namedSegments (rooted : Bool) {names : List Identifier} (nonempty : names ≠ [])
    (arguments : Arguments) :
    (WrittenType.path rooted (namedSegments names arguments)).tokens =
      (QualifiedName.mk rooted names).tokens ++ arguments.tokens := by
  rw [← List.dropLast_append_getLast nonempty, namedSegments_append, tokens_path_named]

/-- A list of types in angle brackets keeps its order. -/
theorem lifetimesFirst_types (items : List Tokens) :
    lifetimesFirst (items.map (false, ·)) false = Token.commaSeparated items := by
  have lifetimes : (items.map ((false, ·) : Tokens → Bool × Tokens)).filter (·.1) = [] := by
    simp
  have others : (items.map ((false, ·) : Tokens → Bool × Tokens)).filter (!·.1) =
      items.map (false, ·) := by
    simp
  have moved : ((items.map ((false, ·) : Tokens → Bool × Tokens)).getLast?.map (·.1)).getD false =
      false := by
    rw [List.getLast?_map]
    cases items.getLast? <;> rfl
  rw [lifetimesFirst, lifetimes, others, moved]
  simp [Function.comp_def]

theorem argumentTokens_argumentTrees (types : List TypeExpression) :
    argumentTokens (argumentTrees types) = types.map fun type => (false, type.tree.tokens) := by
  induction types with
  | nil => rfl
  | cons type rest inductionHypothesis =>
    rw [argumentTrees, argumentTokens, inductionHypothesis, List.map_cons]
    rfl

/-- Arguments that are types print in their order. -/
theorem tokens_argumentTrees (types : List TypeExpression) :
    (Arguments.angled false (argumentTrees types) false).tokens =
      .less :: (Token.commaSeparated (types.map (·.tree.tokens)) ++ [.greater]) := by
  have items : types.map (fun type => (false, type.tree.tokens)) =
      (types.map (·.tree.tokens)).map (false, ·) := by
    rw [List.map_map]
    rfl
  rw [Arguments.tokens, argumentTokens_argumentTrees, items, lifetimesFirst_types]
  rfl

/-! ### Trees of shapes -/

mutual

theorem mirrors (written : WrittenType) : (ofWritten written).Mirrors (written.spelled .same) := by
  match written with
  | .array element length =>
    obtain ⟨tree, tokens⟩ := mirrors element
    rw [ofWritten, WrittenType.spelled]
    refine ⟨?_, ?_⟩
    · rw [TypeExpression.tree, tree]
    · rw [WrittenType.tokens, tokens, TypeExpression.tokens]
  | .parenthesized inner =>
    rw [ofWritten, WrittenType.spelled]
    exact mirrors inner
  | .grouped inner =>
    rw [ofWritten, WrittenType.spelled]
    exact mirrors inner
  | .path rooted segments =>
    rw [ofWritten, WrittenType.spelled, isTakenApart_path]
    cases found : ofSegments rooted [] segments with
    | none => exact ⟨rfl, rfl⟩
    | some shape => exact mirrors_of_segments found
  | .slice _ => exact ⟨rfl, rfl⟩
  | .traitObject _ => exact ⟨rfl, rfl⟩
  | .loneBound _ _ => exact ⟨rfl, rfl⟩
  | .implTrait _ => exact ⟨rfl, rfl⟩
  | .other _ => exact ⟨rfl, rfl⟩

theorem mirrors_of_segments {rooted : Bool} {before : List Identifier} {segments : List Segment}
    {shape : TypeExpression} (found : ofSegments rooted before segments = some shape) :
    shape.Mirrors (.path rooted
      (before.map (Segment.mk · .none) ++ spelledSegments .same segments)) := by
  match segments with
  | [] => cases found
  | [.mk name arguments] => exact mirrors_of_applied found
  | .mk name .none :: next :: others =>
    have more : ofSegments rooted (before ++ [name]) (next :: others) = some shape := found
    have rest := mirrors_of_segments more
    rw [List.map_append, List.append_assoc] at rest
    exact rest
  | .mk name (.angled _ _ _) :: next :: others => cases found
  | .mk name (.parenthesized _) :: next :: others => cases found

theorem mirrors_of_applied {rooted : Bool} {before : List Identifier} {last : Identifier}
    {arguments : Arguments} {shape : TypeExpression}
    (found : ofApplied ⟨rooted, before ++ [last]⟩ arguments = some shape) :
    shape.Mirrors (.path rooted
      (before.map (Segment.mk · .none) ++ [.mk last (arguments.spelled .same)])) := by
  match arguments with
  | .none =>
    cases found
    refine ⟨?_, ?_⟩
    · rw [TypeExpression.tree, namedSegments_append]
      rfl
    · rw [tokens_path_named, TypeExpression.tokens]
      exact List.append_nil _
  | .angled turbofish arguments trailingComma =>
    obtain ⟨shapes, each, rfl⟩ := Option.map_eq_some_iff.mp found
    obtain ⟨trees, tokens⟩ := mirrors_of_arguments each
    refine ⟨?_, ?_⟩
    · rw [TypeExpression.tree, namedSegments_append, trees]
      rfl
    · rw [tokens_path_named, TypeExpression.tokens, Arguments.spelled, Arguments.tokens, tokens,
        lifetimesFirst_types]
      simp
  | .parenthesized _ => cases found

theorem mirrors_of_arguments {arguments : List Argument} {shapes : List TypeExpression}
    (found : ofArguments arguments = some shapes) :
    argumentTrees shapes = spelledArguments .same arguments ∧
      argumentTokens (spelledArguments .same arguments) =
        (listTokens shapes).map (false, ·) := by
  match arguments with
  | [] =>
    cases found
    exact ⟨rfl, rfl⟩
  | .type type :: rest =>
    rw [ofArguments, ofArgument] at found
    cases others : ofArguments rest with
    | none =>
      rw [others] at found
      cases found
    | some later =>
      rw [others] at found
      cases found
      obtain ⟨tree, tokens⟩ := mirrors type
      obtain ⟨trees, tokensEach⟩ := mirrors_of_arguments others
      refine ⟨?_, ?_⟩
      · rw [argumentTrees, tree, trees]
        rfl
      · rw [spelledArguments, argumentTokens, tokensEach, listTokens, List.map_cons]
        exact congrArg (· :: _) (congrArg (Prod.mk false) tokens)
  | .lifetime _ :: _ => cases found
  | .other _ :: _ => cases found

end

end TypeExpression

end Fieldwise
