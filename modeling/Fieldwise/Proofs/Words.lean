/-
This file lists the words in tokens, those inside groups included, in the order in which
they stand. Marks and literals hold no words, so the words of generated code are those that
the code is written with and those of the parts that it is made of.
-/

import Fieldwise.Context

namespace Fieldwise

mutual

/-- The words in a token. -/
def Token.words : Token → List Identifier
  | .word name => [name]
  | .mark _ _ => []
  | .literal _ => []
  | .group _ content => Tokens.words content

/-- The words in a run of tokens. -/
def Tokens.words : List Token → List Identifier
  | [] => []
  | token :: rest => token.words ++ Tokens.words rest

end

namespace Tokens

/-! ### Tokens -/

@[simp] theorem words_nil : words [] = [] := rfl

@[simp] theorem words_cons (token : Token) (rest : Tokens) :
    words (token :: rest) = token.words ++ words rest := rfl

@[simp] theorem words_append (first second : Tokens) :
    words (first ++ second) = words first ++ words second := by
  induction first with
  | nil => rfl
  | cons token rest inductionHypothesis =>
    rw [List.cons_append, words_cons, inductionHypothesis, words_cons, List.append_assoc]

@[simp] theorem words_flatten (runs : List Tokens) :
    words runs.flatten = runs.flatMap words := by
  induction runs with
  | nil => rfl
  | cons run rest inductionHypothesis =>
    rw [List.flatten_cons, words_append, inductionHypothesis, List.flatMap_cons]

end Tokens

namespace Token

@[simp] theorem words_word (name : Identifier) : (Token.word name).words = [name] := rfl

@[simp] theorem words_mark (character : Char) (joint : Bool) :
    (Token.mark character joint).words = [] := rfl

@[simp] theorem words_literal (text : String) : (Token.literal text).words = [] := rfl

@[simp] theorem words_group (delimiter : Delimiter) (content : Tokens) :
    (Token.group delimiter content).words = Tokens.words content := rfl

@[simp] theorem words_plain (text : String) : (plain text).words = [.plain text] := rfl

@[simp] theorem words_parenthesized (content : Tokens) :
    (parenthesized content).words = Tokens.words content := rfl

@[simp] theorem words_bracketed (content : Tokens) :
    (bracketed content).words = Tokens.words content := rfl

@[simp] theorem words_braced (content : Tokens) :
    (braced content).words = Tokens.words content := rfl

@[simp] theorem words_comma : comma.words = [] := rfl

@[simp] theorem words_semicolon : semicolon.words = [] := rfl

@[simp] theorem words_colon : colon.words = [] := rfl

@[simp] theorem words_equals : equals.words = [] := rfl

@[simp] theorem words_less : less.words = [] := rfl

@[simp] theorem words_greater : greater.words = [] := rfl

@[simp] theorem words_operator (characters : List Char) :
    Tokens.words (operator characters) = [] := by
  fun_induction operator characters with
  | case1 => rfl
  | case2 => rfl
  | case3 first second rest inductionHypothesis => exact inductionHypothesis

@[simp] theorem words_pathSeparator : Tokens.words pathSeparator = [] := rfl

@[simp] theorem words_lifetime (name : Identifier) : Tokens.words (lifetime name) = [name] := rfl

/-- Between separators without words, the words are those of the items. -/
theorem words_separated {separator : Tokens} (wordless : Tokens.words separator = [])
    (items : List Tokens) :
    Tokens.words (separated separator items) = items.flatMap Tokens.words := by
  fun_induction separated separator items with
  | case1 => rfl
  | case2 item => simp
  | case3 item next rest inductionHypothesis =>
    rw [Tokens.words_append, Tokens.words_append, wordless, inductionHypothesis, List.append_nil]
    rfl

@[simp] theorem words_commaSeparated (items : List Tokens) :
    Tokens.words (commaSeparated items) = items.flatMap Tokens.words := words_separated rfl items

end Token

/-! ### Paths -/

@[simp] theorem words_pathTokens (rooted : Bool) (segments : List Tokens) :
    Tokens.words (pathTokens rooted segments) = segments.flatMap Tokens.words := by
  rw [pathTokens, Tokens.words_append, Token.words_separated rfl]
  cases rooted <;> rfl

theorem segmentTokens_ofNames (names : List String) :
    segmentTokens (names.map fun name => Segment.mk (.plain name) .none) =
      names.map fun name => [.plain name] := by
  induction names with
  | nil => rfl
  | cons name rest inductionHypothesis =>
    rw [List.map_cons, segmentTokens, inductionHypothesis]
    rfl

/-! ### Phrases of generated code -/

namespace Code

@[simp] theorem words_angled (content : Tokens) :
    Tokens.words (angled content) = Tokens.words content := by simp [angled]

@[simp] theorem words_rooted (names : List String) :
    Tokens.words (rooted names) = names.map .plain := by
  rw [rooted, Path.tokens, Path.ofNames, words_pathTokens, segmentTokens_ofNames,
    List.flatMap_map, List.map_eq_flatMap]
  rfl

@[simp] theorem words_localName (name : String) : Tokens.words (localName name) = [.plain name] :=
  rfl

@[simp] theorem words_method (receiver : Tokens) (name : String) (arguments : Tokens) :
    Tokens.words (method receiver name arguments) =
      Tokens.words receiver ++ .plain name :: Tokens.words arguments := by simp [method]

@[simp] theorem words_anonymousFunction (parameters body : Tokens) :
    Tokens.words (anonymousFunction parameters body) =
      .plain "move" :: (Tokens.words parameters ++ Tokens.words body) := by
  simp [anonymousFunction]

@[simp] theorem words_typed (name : String) (type : Tokens) :
    Tokens.words (typed name type) = .plain name :: Tokens.words type := by simp [typed]

@[simp] theorem words_letTokens (name value : Tokens) :
    Tokens.words (letTokens name value) =
      .plain "let" :: (Tokens.words name ++ Tokens.words value) := by simp [letTokens]

@[simp] theorem words_arm (pattern result : Tokens) :
    Tokens.words (arm pattern result) = Tokens.words pattern ++ Tokens.words result := by
  simp [arm]

end Code

/-! ### Calls of the capability -/

namespace Context

variable (context : Context)

@[simp] theorem words_runtimeName (names : List String) :
    Tokens.words (context.runtimeName names) =
      Tokens.words context.runtime.tokens ++ names.map .plain := by
  rw [runtimeName, Tokens.words_append, Tokens.words_flatten, List.flatMap_map,
    List.map_eq_flatMap]
  rfl

@[simp] theorem words_capability :
    Tokens.words context.capability =
      effect :: .plain "as" :: (Tokens.words context.runtime.tokens ++ [.plain "Applicative"]) := by
  simp [capability]

theorem words_call (method : String) (types arguments : List Tokens) :
    Tokens.words (context.call method types arguments) =
      Tokens.words context.capability ++ .plain method :: (types.flatMap Tokens.words ++
        applicative :: arguments.flatMap Tokens.words) := by
  simp [call]

@[simp] theorem words_inferred : Tokens.words inferred = [.plain "_"] := rfl

end Context

/-! ### The words of generated code -/

/-- The words that generated code is written with, those of the parts apart that it is made
of. -/
def Code.vocabulary : List String := [
  "as", "for", "fn", "if", "impl", "in", "let", "match", "move", "mut", "return", "self",
  "struct", "where", "_",
  "automatically_derived", "derive", "doc", "Clone", "Copy", "Debug", "Default",
  "__F", "__G", "__acc", "__applicative", "__element", "__f", "__instance", "__key", "__other",
  "__source", "__traversed", "__value", "__values",
  "core", "default", "iter", "ops", "option", "result", "std", "vec",
  "Err", "FnMut", "FromIterator", "Invalid", "Left", "None", "Ok", "Option", "Result", "Right",
  "Some", "Valid", "Vec",
  "__private", "traverse", "Applicative", "Of", "Traversal", "Traverse", "BoxTraverse",
  "EitherTraverse", "LinkedListTraverse", "OptionTraverse", "ResultTraverse", "ReverseTraverse",
  "ValidatedTraverse", "VecDequeTraverse", "VecTraverse",
  "collect", "collect_array", "into_iter", "is_empty", "len", "map", "map2", "modify_f", "pure",
  "push", "with_capacity"]

/-- No word that generated code is written with. -/
def Identifier.Foreign (word : Identifier) : Prop :=
  ∀ text ∈ Code.vocabulary, Identifier.plain text ≠ word

instance (word : Identifier) : Decidable word.Foreign := inferInstanceAs (Decidable (∀ _ ∈ _, _))

namespace Identifier.Foreign

variable {word : Identifier}

theorem count_plain_cons (foreign : word.Foreign) {text : String} (rest : List Identifier)
    (fixed : text ∈ Code.vocabulary) :
    (Identifier.plain text :: rest).count word = rest.count word :=
  List.count_cons_of_ne (foreign text fixed)

/-- A call of the capability holds a foreign word as often as the path of the runtime, the types
and the arguments do. -/
theorem count_call (foreign : word.Foreign) (context : Context) {method : String}
    (types arguments : List Tokens) (fixed : method ∈ Code.vocabulary) :
    (Tokens.words (context.call method types arguments)).count word =
      (Tokens.words context.runtime.tokens).count word +
        (types.flatMap Tokens.words).count word + (arguments.flatMap Tokens.words).count word := by
  simp (disch := first | decide | exact fixed)
    [Context.words_call, Context.effect, Context.applicative, foreign.count_plain_cons]
  omega

end Identifier.Foreign

/-! ### Copied parts -/

/-- Tokens, with those parts of them that are copied from a declaration. -/
structure Piece where
  tokens : Tokens
  copied : List Tokens

namespace Piece

/-- Pieces in a row as one piece. -/
def joined (pieces : List Piece) : Piece where
  tokens := pieces.flatMap fun piece => piece.tokens
  copied := pieces.flatMap fun piece => piece.copied

/-- The piece holds the word so many times besides those in its copied parts. -/
def Uses (word : Identifier) (times : Nat) (piece : Piece) : Prop :=
  (Tokens.words piece.tokens).count word = (piece.copied.flatMap Tokens.words).count word + times

variable {word : Identifier} {piece : Piece} {pieces : List Piece}

theorem uses_joined_nil : (joined []).Uses word 0 := rfl

theorem Uses.cons {times others : Nat} (uses : piece.Uses word times)
    (usesRest : (joined pieces).Uses word others) :
    (joined (piece :: pieces)).Uses word (times + others) := by
  unfold Uses at uses usesRest ⊢
  simp only [joined, List.flatMap_cons, List.flatMap_append, Tokens.words_append,
    List.count_append] at usesRest ⊢
  omega

theorem uses_joined_append {unused : List Piece} (none : ∀ piece ∈ unused, piece.Uses word 0)
    {times : Nat} (uses : (joined pieces).Uses word times) :
    (joined (unused ++ pieces)).Uses word times := by
  induction unused with
  | nil => exact uses
  | cons piece others inductionHypothesis =>
    rw [List.forall_mem_cons] at none
    exact Nat.zero_add times ▸ none.1.cons (inductionHypothesis none.2)

theorem uses_joined_of_forall (unused : ∀ piece ∈ pieces, piece.Uses word 0) :
    (joined pieces).Uses word 0 :=
  List.append_nil pieces ▸ uses_joined_append unused uses_joined_nil

/-- Where each of several items uses a word as often as the item's name is the word, the items
in a row use it as often as it is among the names. -/
theorem uses_joined_map {Item : Type} {piece : Item → Piece} {name : Item → Identifier}
    (each : ∀ item, (piece item).Uses word ([name item].count word)) (items : List Item) :
    (joined (items.map piece)).Uses word ((items.map name).count word) := by
  induction items with
  | nil => exact uses_joined_nil
  | cons item rest inductionHypothesis =>
    rw [List.map_cons, List.map_cons, ← List.singleton_append, List.count_append]
    exact (each item).cons inductionHypothesis

/-- A name before pieces in a group, with commas between them, adds no use. -/
theorem Uses.listed {times : Nat} (uses : (joined pieces).Uses word times) (name : Identifier)
    (delimiter : Delimiter) :
    Uses word times ⟨[.word name, .group delimiter (Token.commaSeparated
      (pieces.map fun piece => piece.tokens))], [.word name] :: (joined pieces).copied⟩ := by
  have words : Tokens.words (joined pieces).tokens =
      pieces.flatMap fun piece => Tokens.words piece.tokens := by
    rw [joined, List.flatMap_def, Tokens.words_flatten, List.flatMap_map]
  unfold Uses at uses ⊢
  rw [words] at uses
  simp only [Tokens.words_cons, Token.words_word, Token.words_group, Token.words_commaSeparated,
    Tokens.words_nil, List.append_nil, List.flatMap_cons, List.flatMap_map, List.count_append,
    uses]
  omega

/-- A word that the piece does not use is held exactly if it is copied. -/
theorem Uses.mem_words_iff (uses : piece.Uses word 0) :
    word ∈ Tokens.words piece.tokens ↔ ∃ part ∈ piece.copied, word ∈ Tokens.words part := by
  rw [← List.mem_flatMap, ← List.count_pos_iff, ← List.count_pos_iff, uses, Nat.add_zero]

end Piece

end Fieldwise
