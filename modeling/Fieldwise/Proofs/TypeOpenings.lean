/-
This file says with what a type opens. The grammar takes no other run of tokens for a type than one
that shows a word, a group not in braces, or a mark first, and of the marks neither `-` nor `>` nor
`?`; a lifetime opens a type only as the first of several bounds. So what opens a type opens neither a
constant nor a lifetime as an argument, and does not close the arguments.
-/

import Fieldwise.Proofs.PathReaders

namespace Fieldwise.Grammar

open Reader Lookahead
open Token (front)

variable {recur : Recursion} {name : Identifier} {tokens rest : Tokens}

/-! ### Openings -/

/-- What a run shows that a type opens. -/
inductive OpensType : Tokens → Prop
  | word {name : Identifier} {others : Tokens} (untrue : name ≠ .plain "true")
    (unfalse : name ≠ .plain "false") : OpensType (.word name :: others)
  | group {delimiter : Delimiter} {content others : Tokens} (unbraced : delimiter ≠ .brace) :
    OpensType (.group delimiter content :: others)
  | lifetime {name : Identifier} {others : Tokens} (joint : Bool)
    (more : Lookahead.mark "+" others = true) :
    OpensType (.mark Token.apostrophe joint :: .word name :: others)
  | mark {character : Char} {joint : Bool} {others : Tokens} (noMinus : character ≠ '-')
    (noClosing : character ≠ '>') (noQuestion : character ≠ '?')
    (noApostrophe : character ≠ Token.apostrophe) : OpensType (.mark character joint :: others)

theorem front_append {first : Token} {others : Tokens} (shown : front tokens = first :: others)
    (rest : Tokens) : front (tokens ++ rest) = first :: (others ++ rest) := by
  induction tokens generalizing first others with
  | nil => cases shown
  | cons token more inductionHypothesis =>
    rw [List.cons_append, front]
    rw [front] at shown
    cases revealed : token.reveal with
    | nil =>
      rw [revealed] at shown
      exact inductionHypothesis shown
    | cons own within =>
      rw [revealed] at shown
      cases shown
      rw [List.append_assoc]

theorem front_append_of_nil (empty : front tokens = []) (rest : Tokens) :
    front (tokens ++ rest) = front rest := by
  induction tokens with
  | nil => rfl
  | cons token more inductionHypothesis =>
    rw [front] at empty
    cases revealed : token.reveal with
    | nil =>
      rw [revealed] at empty
      rw [List.cons_append, front, revealed]
      exact inductionHypothesis empty
    | cons own within =>
      rw [revealed] at empty
      cases empty

theorem front_of_visible (visible : invisible tokens = false) : front tokens = tokens := by
  match tokens with
  | [] => rfl
  | .word _ :: _ => rfl
  | .mark _ _ :: _ => rfl
  | .literal _ :: _ => rfl
  | .group .parenthesis _ :: _ => rfl
  | .group .bracket _ :: _ => rfl
  | .group .brace _ :: _ => rfl
  | .group .invisible _ :: _ => cases visible

theorem mark_append {operator : String} {character : Char}
    (single : operator.toList = [character]) (seen : Lookahead.mark operator tokens = true)
    (rest : Tokens) : Lookahead.mark operator (tokens ++ rest) = true := by
  rw [Lookahead.mark, single] at seen ⊢
  obtain ⟨joint, later, first⟩ := marks_singleton_iff.mp seen
  rw [front_append first rest]
  exact marks_singleton_iff.mpr ⟨joint, _, rfl⟩

theorem OpensType.append (opens : OpensType tokens) (rest : Tokens) :
    OpensType (tokens ++ rest) := by
  cases opens with
  | word untrue unfalse => exact .word untrue unfalse
  | group unbraced => exact .group unbraced
  | lifetime joint more => exact .lifetime joint (mark_append rfl more rest)
  | mark noMinus noClosing noQuestion noApostrophe =>
    exact .mark noMinus noClosing noQuestion noApostrophe

/-- What opens a type in an invisible group is shown first. -/
theorem OpensType.of_group {content : Tokens} (opens : OpensType (front content)) :
    OpensType (front (.group .invisible content :: rest)) := by
  cases shown : front content with
  | nil =>
    rw [shown] at opens
    cases opens
  | cons first others =>
    rw [shown] at opens
    rw [front, Token.reveal, shown]
    exact opens.append rest

theorem literal_eq_false_of_front_mark {character : Char} {joint : Bool} {others : Tokens}
    (shown : front tokens = .mark character joint :: others) (noMinus : character ≠ '-') :
    Lookahead.literal tokens = false := by
  rw [Lookahead.literal, shown]
  split
  · rename_i same
    cases same
  · rename_i same
    cases same
  · rename_i same
    cases same
    exact absurd rfl noMinus
  · rfl

theorem lifetime_eq_false_of_front_mark {character : Char} {joint : Bool} {others : Tokens}
    (shown : front tokens = .mark character joint :: others)
    (noApostrophe : character ≠ Token.apostrophe) : Lookahead.lifetime tokens = false := by
  rw [Lookahead.lifetime, shown]
  split
  · rename_i same
    cases same
    exact beq_eq_false_iff_ne.mpr noApostrophe
  · rfl

/-- What opens a type starts a type argument. -/
theorem OpensType.startsArgument (opens : OpensType (front tokens)) : StartsArgument tokens := by
  generalize shown : front tokens = first at opens
  cases opens with
  | word untrue unfalse =>
    refine ⟨?_, ?_, ?_⟩
    · simp [Lookahead.and, Lookahead.lifetime, shown]
    · simp [any, Lookahead.literal, Lookahead.opens, shown, untrue, unfalse]
    · rw [Lookahead.mark, shown]
      rfl
  | group unbraced =>
    refine ⟨?_, ?_, ?_⟩
    · simp [Lookahead.and, Lookahead.lifetime, shown]
    · simp [any, Lookahead.literal, Lookahead.opens, shown, unbraced]
    · rw [Lookahead.mark, shown]
      rfl
  | lifetime joint more =>
    refine ⟨?_, ?_, ?_⟩
    · cases joint with
      | true => simp [Lookahead.and, Lookahead.not, second, skip, shown, more]
      | false => simp [Lookahead.and, Lookahead.lifetime, shown]
    · simp [any, literal_eq_false_of_front_mark shown (by decide), Lookahead.opens, shown]
    · rw [Lookahead.mark, shown]
      rfl
  | mark noMinus noClosing _ noApostrophe =>
    refine ⟨?_, ?_, ?_⟩
    · rw [Lookahead.and, lifetime_eq_false_of_front_mark shown noApostrophe, Bool.false_and]
    · simp [any, literal_eq_false_of_front_mark shown noMinus, Lookahead.opens, shown]
    · rw [Lookahead.mark, shown]
      exact beq_eq_false_iff_ne.mpr noClosing

/-- What opens a type is no bound with `?`. -/
theorem OpensType.unrelaxed (opens : OpensType (front tokens)) :
    Lookahead.mark "?" tokens = false := by
  rw [Lookahead.mark]
  generalize front tokens = shown at opens ⊢
  cases opens with
  | mark _ _ noQuestion _ => exact beq_eq_false_iff_ne.mpr noQuestion
  | _ => rfl

/-! ### Types -/

/-- The tests of the rule for types. -/
def typeStarts : List Lookahead := [
  .word "for", opens .parenthesis, oneOf ["fn", "unsafe", "extern"], startsTypePath,
  .word "dyn", opens .bracket, .mark "*", .mark "&", .mark "!", .word "impl", .word "_",
  Lookahead.lifetime]

/-- Where nothing is introduced, nothing is written either. -/
theorem takes_binder_of_absent (absent : Lookahead.word "for" tokens = false) :
    Takes (capture (binder recur)) tokens (false, []) tokens := by
  rintro reading remains
  have none : binder recur { reading with written := [] } =
      .ok (false, { reading with written := [] }) := by
    refine bind_eq_ok_iff.mpr ⟨false, _, ?_, rfl⟩
    refine bind_eq_ok_iff.mpr ⟨false, _, ?_, rfl⟩
    rw [← absent, ← remains]
    rfl
  refine ⟨reading, ?_, remains⟩
  rw [capture, none]
  rfl

variable {depth : Nat} {plus groupArguments : Bool} {property : WrittenType → Tokens → Prop}

theorem onlyGives_typeRule_of_unstarted (visible : invisible tokens = false)
    (unstarted : any typeStarts tokens = false) :
    OnlyGives (typeRule recur plus groupArguments) tokens property := by
  simp only [any, typeStarts, List.any_cons, List.any_nil, Bool.or_eq_false_iff] at unstarted
  obtain ⟨noBinder, noParenthesis, noFunction, noPath, noDynamic, noBracket, noPointer,
    noReference, noNever, noOpaque, noHole, noLifetime, -⟩ := unstarted
  refine .of_not_sees visible (.bind_of_takes ?_ (takes_binder_of_absent noBinder))
  refine .bind_of_takes ?_ (takes_sees _ _)
  exact .of_not_sees noParenthesis <| .of_not_sees noFunction <| .of_not_sees noPath <|
    .of_not_sees noDynamic <| .of_not_sees noBracket <| .of_not_sees noPointer <|
    .of_not_sees noReference <| .of_not_sees noNever <| .of_not_sees noOpaque <|
    .of_not_sees noHole <| .of_not_sees noLifetime <| onlyGives_expected _ _

/-- A lifetime alone bounds nothing. -/
theorem onlyGives_bounds_of_lifetime (noPlus : Lookahead.mark "+" rest = false) :
    OnlyGives (bounds (phraseWithin depth) false false true)
      (.mark Token.apostrophe true :: .word name :: rest) fun _ _ => False := by
  refine onlyGives_get fun reading _ => ?_
  cases depth with
  | zero => exact (onlyGives_throw _ _).bind_of_none.bind_of_none
  | succ depth =>
    have untrait : Takes (phraseWithin (depth + 1) (.bound false false))
        (.mark Token.apostrophe true :: .word name :: rest) false rest :=
      .of_sees rfl ((takes_lifetime name rest).discard.bind (takes_pure _ _))
    exact .bind_of_takes (onlyGives_throw _ rest)
      (untrait.bind (.of_not_sees noPlus (takes_pure false rest)))

theorem onlyGives_typeRule_of_lifetime (noPlus : Lookahead.mark "+" rest = false) :
    OnlyGives (typeRule (phraseWithin depth) plus groupArguments)
      (.mark Token.apostrophe true :: .word name :: rest) property := by
  refine .of_not_sees rfl (.bind_of_takes ?_ (takes_binder_of_absent rfl))
  refine .bind_of_takes ?_ (takes_sees _ _)
  refine .of_not_sees rfl <| .of_not_sees rfl <| .of_not_sees rfl <| .of_not_sees rfl <|
    .of_not_sees rfl <| .of_not_sees rfl <| .of_not_sees rfl <| .of_not_sees rfl <|
    .of_not_sees rfl <| .of_not_sees rfl <| .of_sees rfl ?_
  exact (onlyGives_bounds_of_lifetime noPlus).capture.bind_of_none.bind_of_none

/-- Of the marks, an apostrophe opens a type where a lifetime is the first of several bounds. -/
theorem onlyGives_typeRule_of_apostrophe (joint : Bool) (others : Tokens) :
    OnlyGives (typeRule (phraseWithin depth) plus groupArguments)
      (.mark Token.apostrophe joint :: others)
      fun _ _ => OpensType (.mark Token.apostrophe joint :: others) := by
  match joint, others with
  | false, _ => exact onlyGives_typeRule_of_unstarted rfl rfl
  | true, [] => exact onlyGives_typeRule_of_unstarted rfl rfl
  | true, .literal _ :: _ => exact onlyGives_typeRule_of_unstarted rfl rfl
  | true, .group _ _ :: _ => exact onlyGives_typeRule_of_unstarted rfl rfl
  | true, .mark _ _ :: _ => exact onlyGives_typeRule_of_unstarted rfl rfl
  | true, .word _ :: later =>
    cases more : Lookahead.mark "+" later with
    | true => exact onlyGives_of_forall fun _ _ => .lifetime true more
    | false => exact onlyGives_typeRule_of_lifetime more

theorem onlyGives_typeRule_of_mark (character : Char) (joint : Bool) (others : Tokens) :
    OnlyGives (typeRule (phraseWithin depth) plus groupArguments)
      (.mark character joint :: others) fun _ _ => OpensType (.mark character joint :: others) := by
  have noLifetime (noApostrophe : character ≠ Token.apostrophe) :
      (Lookahead.lifetime (.mark character joint :: others) || false) = false := by
    rw [Bool.or_false]
    exact lifetime_eq_false_of_front_mark rfl noApostrophe
  by_cases noMinus : character = '-'
  · subst noMinus
    exact onlyGives_typeRule_of_unstarted rfl (noLifetime (by decide))
  by_cases noClosing : character = '>'
  · subst noClosing
    exact onlyGives_typeRule_of_unstarted rfl (noLifetime (by decide))
  by_cases noQuestion : character = '?'
  · subst noQuestion
    exact onlyGives_typeRule_of_unstarted rfl (noLifetime (by decide))
  by_cases noApostrophe : character = Token.apostrophe
  · subst noApostrophe
    exact onlyGives_typeRule_of_apostrophe joint others
  · exact onlyGives_of_forall fun _ _ => .mark noMinus noClosing noQuestion noApostrophe

/-- What stands visibly where the rule for types reads a type opens the type. -/
theorem onlyGives_typeRule_of_visible (visible : invisible tokens = false) :
    OnlyGives (typeRule (phraseWithin depth) plus groupArguments) tokens
      fun _ _ => OpensType tokens := by
  match tokens with
  | [] => exact onlyGives_typeRule_of_unstarted rfl rfl
  | .literal _ :: _ => exact onlyGives_typeRule_of_unstarted rfl rfl
  | .group .parenthesis _ :: _ => exact onlyGives_of_forall fun _ _ => .group (by decide)
  | .group .bracket _ :: _ => exact onlyGives_of_forall fun _ _ => .group (by decide)
  | .group .brace _ :: _ => exact onlyGives_typeRule_of_unstarted rfl rfl
  | .group .invisible _ :: _ => cases visible
  | .mark character joint :: others => exact onlyGives_typeRule_of_mark character joint others
  | .word first :: _ =>
    by_cases untrue : first = .plain "true"
    · subst untrue
      exact onlyGives_typeRule_of_unstarted rfl rfl
    by_cases unfalse : first = .plain "false"
    · subst unfalse
      exact onlyGives_typeRule_of_unstarted rfl rfl
    exact onlyGives_of_forall fun _ _ => .word untrue unfalse

/-- Where the grammar reads a type, the run shows what opens a type. -/
theorem onlyGives_type (depth : Nat) (plus groupArguments : Bool) (tokens : Tokens) :
    OnlyGives (phraseWithin depth (.type plus groupArguments)) tokens
      fun _ _ => OpensType (front tokens) := by
  induction depth generalizing plus groupArguments tokens with
  | zero => exact onlyGives_throw _ _
  | succ depth inductionHypothesis =>
    cases visible : invisible tokens with
    | false =>
      rw [front_of_visible visible]
      exact onlyGives_typeRule_of_visible visible
    | true =>
      match tokens with
      | .group .invisible content :: rest =>
        -- A group shows what its content shows, and its content is read one level below.
        refine OnlyGives.of_sees rfl ?_
        have within : OnlyGives (group .invisible (type (phraseWithin depth)))
            (.group .invisible content :: rest) fun _ _ => OpensType (front content) := by
          refine onlyGives_group fun _ _ shown => ?_
          cases shown
          exact inductionHypothesis true true content
        exact within.capture.bind fun _ _ opens => onlyGives_of_forall fun _ _ => opens.of_group

end Fieldwise.Grammar
