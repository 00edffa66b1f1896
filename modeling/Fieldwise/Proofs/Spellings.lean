/-
This file spells types anew. A type is broken down into the elements of arrays and the arguments
of the paths that are taken apart; all else in it is kept as it is written. In the part that is
broken down a type can be written in many ways that mean the same: with parentheses and invisible
groups around types, with `::` before the arguments of a path and a comma after them, with `::`
before the path and with `r#` before a name. The shape of a type has the roots and names of the
type, and nothing else of its spelling.
-/

import Fieldwise.Proofs.Origins

namespace Fieldwise

/-! ### Spelling a type -/

/-- How paths are spelled: whether they start with `::`, and their names. -/
structure Spelling where
  root : Bool → Bool
  name : Identifier → Identifier

namespace Spelling

/-- Paths are spelled as they are. -/
def same : Spelling := ⟨id, id⟩

/-- Paths are spelled without `::` before them and without `r#`. -/
def plain : Spelling := ⟨fun _ => false, fun name => .plain name.text⟩

end Spelling

mutual

/-- The type in another spelling, its broken-down part written without parentheses, without
invisible groups, without `::` before arguments and without a comma after the last of them. -/
def WrittenType.spelled (spelling : Spelling) : WrittenType → WrittenType
  | .array element length => .array (element.spelled spelling) length
  | .parenthesized inner => inner.spelled spelling
  | .grouped inner => inner.spelled spelling
  | .path rooted segments =>
    if (WrittenType.path rooted segments).isTakenApart then
      .path (spelling.root rooted) (spelledSegments spelling segments)
    else .path rooted segments
  | written => written

/-- The segments of a path in another spelling. -/
def spelledSegments (spelling : Spelling) : List Segment → List Segment
  | [] => []
  | segment :: rest => segment.spelled spelling :: spelledSegments spelling rest

/-- A segment in another spelling. -/
def Segment.spelled (spelling : Spelling) : Segment → Segment
  | .mk name arguments => .mk (spelling.name name) (arguments.spelled spelling)

/-- What is applied to a segment in another spelling. -/
def Arguments.spelled (spelling : Spelling) : Arguments → Arguments
  | .angled _ arguments _ => .angled false (spelledArguments spelling arguments) false
  | arguments => arguments

/-- Arguments in another spelling. -/
def spelledArguments (spelling : Spelling) : List Argument → List Argument
  | [] => []
  | argument :: rest => argument.spelled spelling :: spelledArguments spelling rest

/-- An argument in another spelling. -/
def Argument.spelled (spelling : Spelling) : Argument → Argument
  | .type type => .type (type.spelled spelling)
  | argument => argument

end

/-- The name in another spelling. -/
def QualifiedName.spelled (spelling : Spelling) (name : QualifiedName) : QualifiedName :=
  ⟨spelling.root name.rooted, name.names.map spelling.name⟩

mutual

/-- The shape in another spelling; what is not taken apart is kept. -/
def TypeExpression.spelled (spelling : Spelling) : TypeExpression → TypeExpression
  | .array element length => .array (element.spelled spelling) length
  | .parameterized name arguments =>
    .parameterized (name.spelled spelling) (spelledEach spelling arguments)
  | .simple name => .simple (name.spelled spelling)
  | .unanalysed written => .unanalysed written

/-- Each shape in another spelling. -/
def TypeExpression.spelledEach (spelling : Spelling) : List TypeExpression → List TypeExpression
  | [] => []
  | type :: rest => type.spelled spelling :: spelledEach spelling rest

end

/-! ### The same spelling -/

theorem QualifiedName.spelled_same (name : QualifiedName) : name.spelled .same = name :=
  congrArg (QualifiedName.mk name.rooted) (List.map_id name.names)

namespace TypeExpression

mutual

/-- In its own spelling a shape is itself. -/
theorem spelled_same (shape : TypeExpression) : shape.spelled .same = shape := by
  match shape with
  | .array element length => rw [spelled, spelled_same element]
  | .parameterized name arguments =>
    rw [spelled, name.spelled_same, spelledEach_same arguments]
  | .simple name => rw [spelled, name.spelled_same]
  | .unanalysed written => rfl

theorem spelledEach_same (types : List TypeExpression) : spelledEach .same types = types := by
  match types with
  | [] => rfl
  | type :: rest => rw [spelledEach, spelled_same type, spelledEach_same rest]

end

end TypeExpression

/-! ### Shapes of spelled types -/

variable {spelling : Spelling} {rooted : Bool} {segments : List Segment}

theorem Arguments.isNone_spelled (arguments : Arguments) :
    (arguments.spelled spelling).isNone = arguments.isNone := by
  cases arguments <;> rfl

namespace TypeExpression

theorem spelledEach_eq_map (types : List TypeExpression) :
    spelledEach spelling types = types.map (·.spelled spelling) := by
  induction types with
  | nil => rfl
  | cons type rest inductionHypothesis => rw [spelledEach, inductionHypothesis, List.map_cons]

/-- A path is taken apart exactly if it has a shape of its own. -/
theorem isTakenApart_path (rooted : Bool) (segments : List Segment) :
    (WrittenType.path rooted segments).isTakenApart = (ofSegments rooted [] segments).isSome :=
  (isSome_ofSegments []).symm

theorem ofSegments_cons_cons (rooted : Bool) (before : List Identifier)
    (segment next : Segment) (others : List Segment) :
    ofSegments rooted before (segment :: next :: others) =
      if segment.arguments.isNone then
        ofSegments rooted (before ++ [segment.name]) (next :: others)
      else none := by
  rw [ofSegments]
  exact List.cons_ne_nil next others

mutual

/-- The shape of a spelled type is the shape of the type, spelled so. -/
theorem ofWritten_spelled (written : WrittenType) :
    ofWritten (written.spelled spelling) = (ofWritten written).spelled spelling := by
  match written with
  | .array element length =>
    rw [WrittenType.spelled, ofWritten, ofWritten_spelled element, ofWritten, TypeExpression.spelled]
  | .parenthesized inner => rw [WrittenType.spelled, ofWritten_spelled inner, ofWritten]
  | .grouped inner => rw [WrittenType.spelled, ofWritten_spelled inner, ofWritten]
  | .path rooted segments =>
    have shapes := ofSegments_spelled rooted [] segments
    rw [WrittenType.spelled, isTakenApart_path, ofWritten]
    cases found : ofSegments rooted [] segments with
    | none =>
      rw [if_neg (by simp), ofWritten, found]
      rfl
    | some shape =>
      rw [found, List.map_nil] at shapes
      rw [Option.isSome_some, if_pos rfl, ofWritten, shapes]
      rfl
  | .slice _ => rfl
  | .traitObject _ => rfl
  | .loneBound _ _ => rfl
  | .implTrait _ => rfl
  | .other _ => rfl

theorem ofSegments_spelled (rooted : Bool) (before : List Identifier) (segments : List Segment) :
    ofSegments (spelling.root rooted) (before.map spelling.name)
        (spelledSegments spelling segments) =
      (ofSegments rooted before segments).map (·.spelled spelling) := by
  match segments with
  | [] => rfl
  | [.mk name arguments] =>
    have shapes := ofApplied_spelled ⟨rooted, before ++ [name]⟩ arguments
    rw [QualifiedName.spelled, List.map_append] at shapes
    exact shapes
  | .mk name arguments :: next :: others =>
    have rest := ofSegments_spelled rooted (before ++ [name]) (next :: others)
    rw [List.map_append] at rest
    rw [spelledSegments, spelledSegments, ofSegments_cons_cons, ofSegments_cons_cons]
    rw [spelledSegments] at rest
    show (if (arguments.spelled spelling).isNone then ofSegments _ _ _ else none) =
      (if arguments.isNone then _ else none).map _
    rw [arguments.isNone_spelled, apply_ite (Option.map _)]
    exact if_congr Iff.rfl rest rfl

theorem ofApplied_spelled (name : QualifiedName) (arguments : Arguments) :
    ofApplied (name.spelled spelling) (arguments.spelled spelling) =
      (ofApplied name arguments).map (·.spelled spelling) := by
  match arguments with
  | .none => rfl
  | .parenthesized _ => rfl
  | .angled _ arguments _ =>
    rw [Arguments.spelled, ofApplied, ofApplied, ofArguments_spelled arguments, Option.map_map,
      Option.map_map]
    rfl

theorem ofArguments_spelled (arguments : List Argument) :
    ofArguments (spelledArguments spelling arguments) =
      (ofArguments arguments).map (spelledEach spelling) := by
  match arguments with
  | [] => rfl
  | .type type :: rest =>
    rw [spelledArguments, Argument.spelled, ofArguments, ofArgument, ofWritten_spelled type,
      ofArguments_spelled rest, ofArguments, ofArgument]
    cases ofArguments rest <;> rfl
  | .lifetime _ :: _ => rfl
  | .other _ :: _ => rfl

end

end TypeExpression

/-! ### Names of broken-down types -/

theorem mem_argumentTokens {arguments : List Argument} {argument : Argument}
    (member : argument ∈ arguments) :
    (argument.isLifetime, argument.tokens) ∈ argumentTokens arguments := by
  induction arguments with
  | nil => exact absurd member List.not_mem_nil
  | cons first rest inductionHypothesis =>
    rw [argumentTokens]
    rcases List.mem_cons.mp member with rfl | later
    · exact List.mem_cons_self
    · exact List.mem_cons_of_mem _ (inductionHypothesis later)

/-- A list in angle brackets has the words of its items. -/
theorem mem_words_lifetimesFirst {items : List (Bool × Tokens)} {item : Bool × Tokens}
    (member : item ∈ items) (trailingComma : Bool) {word : Identifier}
    (within : word ∈ Tokens.words item.2) :
    word ∈ Tokens.words (lifetimesFirst items trailingComma) := by
  rw [lifetimesFirst, Tokens.words_append, Token.words_commaSeparated]
  refine List.mem_append_left _ (List.mem_flatMap.mpr ⟨item.2, List.mem_map.mpr ⟨item, ?_, rfl⟩,
    within⟩)
  rw [List.mem_append, List.mem_filter, List.mem_filter]
  cases lifetime : item.1 with
  | true => exact .inl ⟨member, rfl⟩
  | false => exact .inr ⟨member, rfl⟩

namespace TypeExpression

/-- The names in the broken-down part of a type are lexical. -/
inductive Named : TypeExpression → Prop
  | array {element : TypeExpression} {length : Tokens} (inner : element.Named) :
    Named (.array element length)
  | parameterized {name : QualifiedName} {arguments : List TypeExpression}
    (lexical : name.Lexical) (each : ∀ argument ∈ arguments, argument.Named) :
    Named (.parameterized name arguments)
  | simple {name : QualifiedName} (lexical : name.Lexical) : Named (.simple name)
  | unanalysed {written : WrittenType} : Named (.unanalysed written)

mutual

theorem named_of_words (written : WrittenType)
    (lexical : ∀ word ∈ Tokens.words written.tokens, word.Lexical) : (ofWritten written).Named := by
  match written with
  | .array element length =>
    rw [ofWritten]
    refine .array (named_of_words element fun word member => lexical word ?_)
    simp [WrittenType.tokens, member]
  | .parenthesized inner =>
    rw [ofWritten]
    refine named_of_words inner fun word member => lexical word ?_
    simpa [WrittenType.tokens] using member
  | .grouped inner =>
    rw [ofWritten]
    refine named_of_words inner fun word member => lexical word ?_
    simpa [WrittenType.tokens] using member
  | .path rooted segments =>
    rw [ofWritten]
    split
    · rename_i shape found
      refine named_of_segments found (List.forall_mem_nil _) fun word member => lexical word ?_
      rwa [WrittenType.tokens, words_pathTokens]
    · exact .unanalysed
  | .slice _ => exact .unanalysed
  | .traitObject _ => exact .unanalysed
  | .loneBound _ _ => exact .unanalysed
  | .implTrait _ => exact .unanalysed
  | .other _ => exact .unanalysed

theorem named_of_segments {rooted : Bool} {before : List Identifier} {segments : List Segment}
    {shape : TypeExpression} (found : ofSegments rooted before segments = some shape)
    (lexical : ∀ name ∈ before, name.Lexical)
    (words : ∀ word ∈ (segmentTokens segments).flatMap Tokens.words, word.Lexical) :
    shape.Named := by
  match segments with
  | [] => cases found
  | [.mk name arguments] =>
    rw [segmentTokens, segmentTokens, List.flatMap_singleton, Segment.tokens,
      Tokens.words_cons, Token.words_word, List.singleton_append, List.forall_mem_cons] at words
    refine named_of_applied found ⟨by simp, fun part member => ?_⟩ words.2
    rcases List.mem_append.mp member with earlier | last
    · exact lexical part earlier
    · exact List.mem_singleton.mp last ▸ words.1
  | .mk name arguments :: next :: others =>
    rw [ofSegments_cons_cons] at found
    rw [segmentTokens, List.flatMap_cons, List.forall_mem_append, Segment.tokens,
      Tokens.words_cons, Token.words_word, List.singleton_append, List.forall_mem_cons] at words
    split at found
    · refine named_of_segments found (fun part member => ?_) words.2
      rcases List.mem_append.mp member with earlier | last
      · exact lexical part earlier
      · exact List.mem_singleton.mp last ▸ words.1.1
    · cases found

theorem named_of_applied {name : QualifiedName} {arguments : Arguments} {shape : TypeExpression}
    (found : ofApplied name arguments = some shape) (lexical : name.Lexical)
    (words : ∀ word ∈ Tokens.words arguments.tokens, word.Lexical) : shape.Named := by
  match arguments with
  | .none =>
    cases found
    exact .simple lexical
  | .angled turbofish arguments trailingComma =>
    obtain ⟨shapes, each, rfl⟩ := Option.map_eq_some_iff.mp found
    refine .parameterized lexical (named_of_arguments each fun argument member word within =>
      words word ?_)
    rw [Arguments.tokens]
    have among := mem_words_lifetimesFirst (mem_argumentTokens member) trailingComma within
    simp only [Tokens.words_append, List.mem_append]
    exact .inl (.inr among)
  | .parenthesized _ => cases found

theorem named_of_arguments {arguments : List Argument} {shapes : List TypeExpression}
    (found : ofArguments arguments = some shapes)
    (words : ∀ argument ∈ arguments, ∀ word ∈ Tokens.words argument.tokens, word.Lexical) :
    ∀ shape ∈ shapes, shape.Named := by
  match arguments with
  | [] =>
    cases found
    exact List.forall_mem_nil _
  | .type type :: rest =>
    rw [List.forall_mem_cons] at words
    rw [ofArguments, ofArgument] at found
    cases others : ofArguments rest with
    | none =>
      rw [others] at found
      cases found
    | some later =>
      rw [others] at found
      cases found
      exact List.forall_mem_cons.mpr
        ⟨named_of_words type words.1, named_of_arguments others words.2⟩
  | .lifetime _ :: _ => cases found
  | .other _ :: _ => cases found

end

/-- So are those of a type whose tokens are lexical. -/
theorem named_ofWritten {written : WrittenType}
    (lexical : Token.areLexical written.tokens = true) : (ofWritten written).Named :=
  named_of_words written fun _ member => Token.lexical_of_mem_words_all _ lexical member

end TypeExpression

end Fieldwise
