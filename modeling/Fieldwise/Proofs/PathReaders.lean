/-
This file says how the grammar reads paths. Of the names of a path each but the last stands alone,
and to the last types may be applied. A path is read back as it is printed if its names may stand
in a path, the name that types are applied to takes arguments, and the types are read back. That
the names are such names already follows where the path is read back with empty angle brackets.
-/

import Fieldwise.Proofs.Accepting
import Fieldwise.Proofs.ShapeTrees

namespace Fieldwise

/-! ### What may follow -/

namespace Token

/-- What may stand after a type: nothing, a comma, `>` or `;`. -/
inductive Borders : Tokens → Prop
  | ended : Borders []
  | comma (rest : Tokens) : Borders (comma :: rest)
  | closing (rest : Tokens) : Borders (greater :: rest)
  | semicolon (rest : Tokens) : Borders (semicolon :: rest)

/-- What stands here does not go on with a path or with what a path may be the start of. -/
def endsPath : Lookahead
  | .mark character _ :: _ => !(['<', ':', '!', '+', '#'].contains character)
  | .group .invisible _ :: _ => false
  | _ => true

theorem Borders.endsPath {rest : Tokens} (borders : Borders rest) : endsPath rest = true := by
  cases borders <;> rfl

/-- No operator that a path could go on with comes next. -/
theorem mark_eq_false_of_endsPath {rest : Tokens} (ends : endsPath rest = true) {operator : String}
    {first : Char} {others : List Char} (characters : operator.toList = first :: others)
    (goesOn : ['<', ':', '!', '+', '#'].contains first = true) :
    Lookahead.mark operator rest = false := by
  rw [Lookahead.mark, characters]
  cases rest with
  | nil => cases others <;> rfl
  | cons token rest =>
    cases token with
    | word _ => cases others <;> rfl
    | literal _ => cases others <;> rfl
    | group delimiter _ =>
      cases delimiter with
      | invisible => cases ends
      | _ => cases others <;> rfl
    | mark character joint =>
      have different : (character == first) = false := by
        rw [beq_eq_false_iff_ne]
        rintro rfl
        rw [endsPath, goesOn] at ends
        cases ends
      cases others with
      | nil => exact different
      | cons next others =>
        show (character == first && joint && _) = false
        rw [different, Bool.false_and, Bool.false_and]

/-- What may stand after a segment of a path: a name after `::`, or what follows the path. -/
inductive EndsSegment : Tokens → Prop
  | next (name : Identifier) (rest : Tokens) : EndsSegment (pathSeparator ++ .word name :: rest)
  | last {rest : Tokens} (ends : endsPath rest = true) : EndsSegment rest

theorem separated_cons (separator first : Tokens) (later : List Tokens) :
    separated separator (first :: later) = first ++ (later.map (separator ++ ·)).flatten := by
  induction later generalizing first with
  | nil => simp [separated]
  | cons next others inductionHypothesis =>
    rw [separated, inductionHypothesis, List.map_cons, List.flatten_cons, List.append_assoc,
      List.append_assoc]

end Token

open Token (Borders EndsSegment endsPath mark_eq_false_of_endsPath)

namespace Grammar

open Reader Lookahead

variable {recur : Recursion} {name : Identifier} {tokens rest : Tokens} {inExpression : Bool}

/-! ### Segments -/

/-- The name is a keyword that stands in a path without arguments. -/
def argumentless (name : Identifier) : Bool :=
  !name.raw && ["super", "self", "crate", "try"].contains name.text

/-- The name may stand in a path. -/
def NamesSegment (name : Identifier) : Prop :=
  argumentless name = true ∨ name = .plain "Self" ∨ name.isKeyword = false

/-- Whether arguments follow a name in a path. In an expression there must be `::` before them. -/
def argumentsFollow (inExpression : Bool) : Lookahead :=
  any [and (and (markBut "<" "<=") (.not (.mark "<<="))) fun _ => !inExpression,
    and (.mark "::") (third (.mark "<"))]

theorem argumentsFollow_eq_false (ends : EndsSegment rest) :
    argumentsFollow inExpression rest = false := by
  cases ends with
  | next name rest => rfl
  | last ends =>
    have noArguments : Lookahead.mark "<" rest = false := mark_eq_false_of_endsPath ends rfl rfl
    have noSeparator : Lookahead.mark "::" rest = false := mark_eq_false_of_endsPath ends rfl rfl
    simp [argumentsFollow, any, Lookahead.and, markBut, noArguments, noSeparator]

theorem isKeyword_Self : (Identifier.plain "Self").isKeyword = true := by decide

/-- What is left to read of a segment after a name that takes arguments. -/
def segmentAfter (recur : Recursion) (inExpression : Bool) (name : Identifier) :
    Reader Segment := do
  if ← sees (argumentsFollow inExpression) then return .mk name (← angled recur)
  else return .mk name .none

theorem accepts_segment_of_after {given : Segment → Prop} (names : NamesSegment name)
    (taking : argumentless name = false)
    (after : (segmentAfter recur inExpression name).Accepts tokens given rest) :
    (Grammar.segment recur inExpression).Accepts (.word name :: tokens) given rest := by
  refine .of_not_sees taking ?_
  rcases names with special | rfl | ordinary
  · cases special.symm.trans taking
  · exact .of_sees rfl ((takes_anyWord _ tokens).accepts_bind after)
  · refine .of_not_sees ?_ ((takes_name ordinary tokens).accepts_bind after)
    show (name == .plain "Self") = false
    rw [beq_eq_false_iff_ne]
    rintro rfl
    cases isKeyword_Self.symm.trans ordinary

theorem takes_segment_of_argumentless (special : argumentless name = true) (rest : Tokens) :
    Takes (segment recur inExpression) (.word name :: rest) (.mk name .none) rest :=
  .of_sees special ((takes_anyWord name rest).bind (takes_pure _ _))

theorem takes_segment (names : NamesSegment name) (ends : EndsSegment rest) :
    Takes (segment recur inExpression) (.word name :: rest) (.mk name .none) rest := by
  cases special : argumentless name with
  | true => exact takes_segment_of_argumentless special rest
  | false =>
    have after : Takes (segmentAfter recur inExpression name) rest (.mk name .none) rest :=
      .of_not_sees (argumentsFollow_eq_false ends) (takes_pure _ _)
    exact takes_iff_accepts.mpr (accepts_segment_of_after names special (takes_iff_accepts.mp after))

section

variable {given : Arguments → Prop} (names : NamesSegment name) (taking : argumentless name = false)

include names taking

theorem accepts_segment_of_angled
    (applied : (angled recur).Accepts (.less :: tokens) given rest) :
    (segment recur false).Accepts (.word name :: .less :: tokens)
      (fun segment => ∃ arguments, given arguments ∧ segment = .mk name arguments) rest := by
  refine accepts_segment_of_after names taking (.of_sees rfl (applied.bind fun arguments holds => ?_))
  exact accepts_pure ⟨arguments, holds, rfl⟩

/-- In an expression arguments are read after `::`. -/
theorem accepts_segment_of_turbofish
    (applied : (angled recur).Accepts (Token.pathSeparator ++ .less :: tokens) given rest) :
    (segment recur true).Accepts (.word name :: (Token.pathSeparator ++ .less :: tokens))
      (fun segment => ∃ arguments, given arguments ∧ segment = .mk name arguments) rest := by
  refine accepts_segment_of_after names taking (.of_sees rfl (applied.bind fun arguments holds => ?_))
  exact accepts_pure ⟨arguments, holds, rfl⟩

end

/-! ### Paths -/

/-- The tokens of segments that follow another one. -/
def laterTokens (segments : List Tokens) : Tokens :=
  (segments.map (Token.pathSeparator ++ ·)).flatten

theorem laterTokens_cons (segment : Tokens) (later : List Tokens) :
    laterTokens (segment :: later) = Token.pathSeparator ++ (segment ++ laterTokens later) := by
  rw [laterTokens, List.map_cons, List.flatten_cons, List.append_assoc]
  rfl

theorem pathTokens_cons (rooted : Bool) (first : Tokens) (later : List Tokens) :
    pathTokens rooted (first :: later) =
      (if rooted then Token.pathSeparator else []) ++ (first ++ laterTokens later) := by
  rw [pathTokens, Token.separated_cons]
  rfl

theorem length_le_laterTokens (segments : List Tokens) (rest : Tokens) :
    segments.length ≤ (laterTokens segments ++ rest).length := by
  induction segments with
  | nil => exact Nat.zero_le _
  | cons segment later inductionHypothesis =>
    have marks : Token.pathSeparator.length = 2 := rfl
    rw [List.length_append] at inductionHypothesis
    rw [laterTokens_cons, List.length_cons, List.length_append, List.length_append,
      List.length_append]
    omega

/-- Wherever a segment may end, the grammar accepts the tokens, which start with a name, as one
with the property. -/
structure ReadsSegment (recur : Recursion) (inExpression : Bool) (tokens : Tokens)
    (given : Segment → Prop) : Prop where
  named : ∃ name more, tokens = .word name :: more
  reads : ∀ rest, EndsSegment rest →
    (Grammar.segment recur inExpression).Accepts (tokens ++ rest) given rest

/-- A name alone is a segment. -/
theorem readsSegment_name (names : NamesSegment name) :
    ReadsSegment recur inExpression [.word name] fun segment => segment = .mk name .none where
  named := ⟨name, [], rfl⟩
  reads _ ends := takes_iff_accepts.mp (takes_segment names ends)

section

variable {I : Type} {items : List I} {run : I → Tokens} {given : I → Segment → Prop}

theorem endsSegment_laterTokens
    (each : ∀ item ∈ items, ReadsSegment recur inExpression (run item) (given item))
    (ends : endsPath rest = true) : EndsSegment (laterTokens (items.map run) ++ rest) := by
  cases items with
  | nil => exact .last ends
  | cons next others =>
    obtain ⟨name, more, starts⟩ := (each next List.mem_cons_self).named
    rw [List.map_cons, laterTokens_cons, starts, List.append_assoc]
    exact .next name _

theorem accepts_moreSegments {limit : Nat} (enough : items.length < limit)
    (ends : endsPath rest = true)
    (each : ∀ item ∈ items, ReadsSegment recur inExpression (run item) (given item))
    (before : List Segment) :
    (moreSegments recur inExpression limit before).Accepts (laterTokens (items.map run) ++ rest)
      (fun result => ∃ segments, List.Forall₂ given items segments ∧ result = before ++ segments)
      rest := by
  induction items generalizing limit before with
  | nil =>
    obtain ⟨limit, rfl⟩ := Nat.exists_eq_add_one_of_ne_zero (Nat.ne_of_gt enough)
    refine .of_not_sees ?_ (accepts_pure ⟨[], .nil, (List.append_nil before).symm⟩)
    show (Lookahead.mark "::" rest && _) = false
    rw [mark_eq_false_of_endsPath ends rfl rfl, Bool.false_and]
  | cons item later inductionHypothesis =>
    obtain ⟨limit, rfl⟩ := Nat.exists_eq_add_one_of_ne_zero (Nat.ne_of_gt (Nat.zero_lt_of_lt enough))
    rw [List.forall_mem_cons] at each
    have segment := each.1.reads _ (endsSegment_laterTokens each.2 ends)
    obtain ⟨name, more, starts⟩ := each.1.named
    rw [List.map_cons, laterTokens_cons, List.append_assoc, List.append_assoc]
    refine .of_sees (by rw [starts]; rfl) ((takes_separator _).accepts_bind
      (segment.bind fun next holds => ?_))
    refine (inductionHypothesis (Nat.lt_of_succ_lt_succ enough) each.2 (before ++ [next])).imp ?_
    rintro _ ⟨segments, all, rfl⟩
    exact ⟨next :: segments, .cons holds all, by rw [List.append_assoc]; rfl⟩

variable {item : I} {later : List I}

theorem accepts_segments (ends : endsPath rest = true)
    (each : ∀ part ∈ item :: later, ReadsSegment recur inExpression (run part) (given part))
    (rooted : Bool) :
    (do
        let first ← Grammar.segment recur inExpression
        let segments ← restOfPath recur inExpression [first]
        return (⟨rooted, segments⟩ : Path) : Reader Path).Accepts
      (run item ++ (laterTokens (later.map run) ++ rest))
      (fun path => ∃ segments, List.Forall₂ given (item :: later) segments ∧
        path = ⟨rooted, segments⟩) rest := by
  rw [List.forall_mem_cons] at each
  refine (each.1.reads _ (endsSegment_laterTokens each.2 ends)).bind fun first holds => ?_
  have more : (restOfPath recur inExpression [first]).Accepts (laterTokens (later.map run) ++ rest)
      (fun result => ∃ segments, List.Forall₂ given later segments ∧
        result = [first] ++ segments) rest := by
    refine accepts_get fun reading remains => ?_
    rw [remains]
    have enough := length_le_laterTokens (later.map run) rest
    rw [List.length_map] at enough
    exact accepts_moreSegments (Nat.lt_succ_of_le enough) ends each.2 [first]
  refine more.bind ?_
  rintro _ ⟨segments, all, rfl⟩
  exact accepts_pure ⟨first :: segments, .cons holds all, rfl⟩

/-- A path is accepted if its segments are. -/
theorem accepts_path {rooted : Bool} (ends : endsPath rest = true)
    (each : ∀ part ∈ item :: later, ReadsSegment recur inExpression (run part) (given part)) :
    (path recur inExpression).Accepts (pathTokens rooted ((item :: later).map run) ++ rest)
      (fun path => ∃ segments, List.Forall₂ given (item :: later) segments ∧
        path = ⟨rooted, segments⟩) rest := by
  refine Accepts.capture_result ?_
  rw [List.map_cons, pathTokens_cons, List.append_assoc, List.append_assoc]
  cases rooted with
  | true => exact (takes_optionalSeparator _).accepts_bind (accepts_segments ends each true)
  | false =>
    refine Takes.accepts_bind (takes_optionalMark_of_absent ?_) (accepts_segments ends each false)
    obtain ⟨name, more, starts⟩ := (each item List.mem_cons_self).named
    rw [starts]
    rfl

end

/-! ### Arguments -/

/-- What may start a type argument. -/
structure StartsArgument (tokens : Tokens) : Prop where
  typed : and Lookahead.lifetime (second (.mark "+")).not tokens = false
  inconstant : any [Lookahead.literal, opens .brace] tokens = false
  unclosed : Lookahead.mark ">" tokens = false

/-- Wherever an argument may end, the grammar accepts the tokens as one with the property. -/
structure ReadsArgument (recur : Recursion) (tokens : Tokens) (given : Argument → Prop) : Prop where
  unclosed : ∀ rest, Borders rest → Lookahead.mark ">" (tokens ++ rest) = false
  reads : ∀ rest, Borders rest → (genericArgument recur).Accepts (tokens ++ rest) given rest

/-- What the grammar reads as a type it reads as an argument that is one. -/
theorem readsArgument_of_type {written : WrittenType → Prop}
    (starts : ∀ rest, Borders rest → StartsArgument (tokens ++ rest))
    (reads : ∀ rest, Borders rest → (type recur).Accepts (tokens ++ rest) written rest) :
    ReadsArgument recur tokens fun argument => ∃ type, written type ∧ argument = .type type where
  unclosed rest borders := (starts rest borders).unclosed
  reads rest borders := by
    obtain ⟨typed, inconstant, -⟩ := starts rest borders
    refine .of_not_sees typed (.of_not_sees inconstant ((reads rest borders).bind ?_))
    intro type holds
    split
    · have unassociated : Takes (aboutAssociated recur) rest false rest := by
        refine .of_not_sees ?_ (.of_not_sees ?_ (takes_pure _ _)) <;> cases borders <;> rfl
      have accepted : (aboutAssociated recur).Accepts rest (· = false) rest :=
        takes_iff_accepts.mp unassociated
      refine accepted.capture.bind ?_
      rintro ⟨_, _⟩ rfl
      exact accepts_pure ⟨type, holds, rfl⟩
    · exact accepts_pure ⟨type, holds, rfl⟩

section

variable {I : Type} {items : List I} {run : I → Tokens} {given : I → Argument → Prop}
  {trailing : Bool}

/-- Arguments up to the closing `>`: each is accepted, and a comma may follow the last. -/
theorem accepts_genericArgumentsUpTo {limit : Nat} (filled : items ≠ [])
    (enough : items.length < limit)
    (each : ∀ item ∈ items, ReadsArgument recur (run item) (given item))
    (before : List Argument) :
    (genericArgumentsUpTo recur limit before).Accepts
      (Token.commaSeparated (items.map run) ++
        ((if trailing then [Token.comma] else []) ++ .greater :: rest))
      (fun result => ∃ arguments, List.Forall₂ given items arguments ∧
        result = (before ++ arguments, trailing))
      (.greater :: rest) := by
  induction items generalizing limit before with
  | nil => exact absurd rfl filled
  | cons item later inductionHypothesis =>
    obtain ⟨limit, rfl⟩ := Nat.exists_eq_add_one_of_ne_zero (Nat.ne_of_gt (Nat.zero_lt_of_lt enough))
    rw [List.forall_mem_cons] at each
    obtain ⟨own, others⟩ := each
    cases later with
    | nil =>
      cases trailing with
      | false =>
        refine .of_not_sees (own.unclosed _ (.closing rest))
          ((own.reads _ (.closing rest)).bind fun argument holds => .of_sees rfl ?_)
        exact accepts_pure ⟨[argument], .cons holds .nil, rfl⟩
      | true =>
        refine .of_not_sees (own.unclosed _ (.comma _))
          ((own.reads _ (.comma _)).bind fun argument holds => .of_not_sees rfl ?_)
        obtain ⟨limit, rfl⟩ :=
          Nat.exists_eq_add_one_of_ne_zero (Nat.ne_of_gt (Nat.lt_of_succ_lt_succ enough))
        refine (takes_mark rfl false _).accepts_bind (.of_sees rfl (accepts_pure ?_))
        refine ⟨[argument], .cons holds .nil, ?_⟩
        rw [List.isEmpty_eq_false_iff.mpr (by simp)]
        rfl
    | cons next more =>
      rw [List.map_cons, List.map_cons, Token.commaSeparated, Token.separated, List.append_assoc,
        List.append_assoc]
      refine .of_not_sees (own.unclosed _ (.comma _))
        ((own.reads _ (.comma _)).bind fun argument holds => .of_not_sees rfl ?_)
      refine (takes_mark rfl false _).accepts_bind ?_
      refine (inductionHypothesis (List.cons_ne_nil _ _) (Nat.lt_of_succ_lt_succ enough) others
        (before ++ [argument])).imp ?_
      rintro _ ⟨arguments, all, rfl⟩
      exact ⟨argument :: arguments, .cons holds all, by rw [List.append_assoc]; rfl⟩

/-- The whole list of arguments, which may be empty, up to the closing `>`. -/
theorem accepts_genericArguments {limit : Nat} (filled : trailing = true → items ≠ [])
    (enough : items.length < limit)
    (each : ∀ item ∈ items, ReadsArgument recur (run item) (given item)) :
    (genericArgumentsUpTo recur limit []).Accepts
      (Token.commaSeparated (items.map run) ++
        ((if trailing then [Token.comma] else []) ++ .greater :: rest))
      (fun result => ∃ arguments, List.Forall₂ given items arguments ∧
        result = (arguments, trailing))
      (.greater :: rest) := by
  cases items with
  | nil =>
    obtain ⟨limit, rfl⟩ := Nat.exists_eq_add_one_of_ne_zero (Nat.ne_of_gt enough)
    cases trailing with
    | true => exact absurd rfl (filled rfl)
    | false => exact .of_sees rfl (accepts_pure ⟨[], .nil, rfl⟩)
  | cons item later => exact accepts_genericArgumentsUpTo (List.cons_ne_nil _ _) enough each []

/-- Arguments in angle brackets are accepted, perhaps after `::`. -/
theorem accepts_angled (turbofish trailing : Bool) (filled : trailing = true → items ≠ [])
    (each : ∀ item ∈ items, ReadsArgument recur (run item) (given item)) :
    (angled recur).Accepts
      ((if turbofish then Token.pathSeparator else []) ++
        .less :: (Token.commaSeparated (items.map run) ++
          ((if trailing then [Token.comma] else []) ++ .greater :: rest)))
      (fun result => ∃ arguments, List.Forall₂ given items arguments ∧
        result = .angled turbofish arguments trailing)
      rest := by
  have inner : (do
      Reader.mark "<"
      let limit := Token.countAll (← get).remaining + 1
      let found ← genericArgumentsUpTo recur limit []
      Reader.mark ">"
      return Arguments.angled turbofish found.1 found.2 : Reader Arguments).Accepts
        (.less :: (Token.commaSeparated (items.map run) ++
          ((if trailing then [Token.comma] else []) ++ .greater :: rest)))
        (fun result => ∃ arguments, List.Forall₂ given items arguments ∧
          result = .angled turbofish arguments trailing) rest := by
    refine (takes_mark rfl false _).accepts_bind (accepts_get fun reading remains => ?_)
    rw [remains]
    have enough := Token.length_le_countAll_commaSeparated (items.map run)
    have closing : 0 < Token.countAll
        ((if trailing then [Token.comma] else []) ++ .greater :: rest) := by
      rw [Token.countAll_append, Token.countAll]
      exact Nat.lt_add_left _ (Nat.lt_add_right _ Nat.one_pos)
    rw [List.length_map] at enough
    refine (accepts_genericArguments filled ?_ each).bind ?_
    · rw [Token.countAll_append]
      omega
    · rintro _ ⟨arguments, all, rfl⟩
      exact (takes_mark rfl false _).accepts_bind (accepts_pure ⟨arguments, all, rfl⟩)
  refine Accepts.capture_result ?_
  cases turbofish with
  | true => exact (takes_optionalSeparator _).accepts_bind inner
  | false => exact (takes_optionalMark_of_absent rfl).accepts_bind inner

end

theorem takes_angled {types : List TypeExpression}
    (each : ∀ type ∈ types,
      ReadsArgument recur type.tree.tokens fun argument => argument = .type type.tree) :
    Takes (angled recur)
      (.less :: (Token.commaSeparated (types.map (·.tree.tokens)) ++ .greater :: rest))
      (.angled false (TypeExpression.argumentTrees types) false) rest := by
  have accepted : (angled recur).Accepts _ _ rest :=
    accepts_angled false false nofun each
  refine takes_iff_accepts.mpr (accepted.imp ?_)
  rintro _ ⟨arguments, all, rfl⟩
  have trees : TypeExpression.argumentTrees types = arguments := by
    clear each accepted
    induction all with
    | nil => rfl
    | cons own _ inductionHypothesis => rw [TypeExpression.argumentTrees, own, inductionHypothesis]
  rw [trees]

end Grammar

end Fieldwise
