/-
This file says when the length of an array may stand in braces, where it is an argument of a
function. There the grammar reads it as a statement, which ends with the first block that can end
it; so a length stays in one piece if it does not start with such a block, or is nothing but one.
-/

import Fieldwise.Proofs.StatementKinds

namespace Fieldwise.Grammar

open Reader Lookahead

variable {recur : Recursion} {depth deeper : Nat} {tokens rest : Tokens} {structures : Bool}

/-! ### Forms of operands -/

/-- Which way the grammar does not go where an operand does not end with its block. -/
structure OpensOperand (tokens : Tokens) : Prop where
  visible : invisible tokens = false
  uncontrolled : startsControl tokens = false
  unlabelled : Lookahead.lifetime tokens = false

theorem goesOn_other : GoesOn .other := ⟨by decide, by decide⟩

theorem onlyGives_afterPath (plain structures : Bool) :
    (afterPath recur plain structures).OnlyGives tokens fun form _ => GoesOn form := by
  refine onlyGives_bind fun _ _ => onlyGives_ite (fun _ => ?_) fun _ => ?_
  · refine onlyGives_bind fun _ _ => onlyGives_pure ?_
    split <;> exact ⟨by decide, by decide⟩
  · refine onlyGives_bind fun _ _ => onlyGives_ite (fun _ => ?_) fun _ => ?_
    · exact onlyGives_bind fun _ _ => onlyGives_pure goesOn_other
    · exact onlyGives_pure ⟨by decide, by decide⟩

theorem onlyGives_closure :
    (closure recur structures).OnlyGives tokens fun form _ => GoesOn form := by
  have flag {next : Unit → Reader Form} {tokens : Tokens} (reader : Reader Unit)
      (more : ∀ later, (next ()).OnlyGives later fun form _ => GoesOn form) :
      (reader >>= next).OnlyGives tokens fun form _ => GoesOn form :=
    onlyGives_bind fun _ later => more later
  -- The binder, four words, the arguments between their bars.
  refine flag _ fun _ => flag _ fun _ => flag _ fun _ => flag _ fun _ => flag _ fun _ => ?_
  refine flag _ fun _ => flag _ fun _ => flag _ fun _ => onlyGives_sees (fun _ => ?_) fun _ => ?_
  · exact flag _ fun _ => flag _ fun _ => flag _ fun _ => onlyGives_pure goesOn_other
  · exact flag _ fun _ => onlyGives_pure goesOn_other

theorem onlyGives_jump : (jump recur structures).OnlyGives tokens fun form _ => GoesOn form := by
  refine onlyGives_sees (fun _ => onlyGives_bind fun _ _ => onlyGives_pure goesOn_other) fun _ => ?_
  refine onlyGives_bind fun continued _ => onlyGives_ite (fun _ => ?_) fun _ => ?_
  · refine onlyGives_sees (fun _ => ?_) fun _ => onlyGives_pure goesOn_other
    exact onlyGives_bind fun _ _ => onlyGives_pure goesOn_other
  refine onlyGives_sees (fun _ => ?_) fun _ => ?_
  · exact onlyGives_bind fun _ _ => onlyGives_pure ⟨by decide, by decide⟩
  · exact onlyGives_bind fun _ _ => onlyGives_bind fun _ _ => onlyGives_pure goesOn_other

theorem onlyGives_rangeFromDots :
    (rangeFromDots recur structures).OnlyGives tokens fun form _ => GoesOn form := by
  have range {tokens : Tokens} :
      (pure Form.range : Reader Form).OnlyGives tokens fun form _ => GoesOn form :=
    onlyGives_pure ⟨by decide, by decide⟩
  refine onlyGives_sees (fun _ => ?_) fun _ => onlyGives_sees (fun _ => ?_) fun _ => ?_
  · exact onlyGives_bind fun _ _ => onlyGives_bind fun _ _ => range
  · exact (onlyGives_expected _ _).bind_of_none
  · refine onlyGives_bind fun _ _ => onlyGives_bind fun _ _ => ?_
    exact onlyGives_ite (fun _ => onlyGives_bind fun _ _ => range) fun _ => range

/-- A word is one of several. -/
theorem oneOf_of_word {text : String} {texts : List String}
    (seen : Lookahead.word text tokens = true) (among : texts.contains text = true) :
    oneOf texts tokens = true := by
  unfold Lookahead.word wordThat at seen
  unfold oneOf wordThat
  split at seen
  · rw [beq_iff_eq.mp seen]
    exact among
  · cases seen

theorem OpensOperand.noTry (opens : OpensOperand tokens) :
    and (.word "try") (second (Lookahead.opens .brace)) tokens = false := by
  refine Bool.eq_false_iff.mpr fun seen => Bool.eq_false_iff.mp opens.uncontrolled ?_
  obtain ⟨word, braced⟩ := Bool.and_eq_true_iff.mp seen
  refine List.any_eq_true.mpr ⟨and (oneOf ["unsafe", "const", "try"]) (second (.opens .brace)), ?_,
    Bool.and_eq_true_iff.mpr ⟨oneOf_of_word word (by decide), braced⟩⟩
  exact List.mem_cons_of_mem _ (List.mem_cons_of_mem _ List.mem_cons_self)

/-- An atom that is no block, loop or the like does not end with its block. -/
theorem onlyGives_atom (opens : OpensOperand tokens) :
    (atom recur structures).OnlyGives tokens fun form _ => GoesOn form := by
  have other {A : Type} (reader : Reader A) {tokens : Tokens} :
      (reader >>= fun _ => pure Form.other).OnlyGives tokens fun form _ => GoesOn form :=
    onlyGives_bind fun _ _ => onlyGives_pure goesOn_other
  refine .of_not_sees opens.visible ?_
  refine onlyGives_sees (fun _ => other _) fun _ => ?_
  refine onlyGives_sees (fun _ => ?_) fun _ => ?_
  · exact onlyGives_bind fun _ _ => onlyGives_bind fun _ _ => other _
  refine .of_not_sees opens.noTry (onlyGives_sees (fun _ => onlyGives_closure) fun _ => ?_)
  refine onlyGives_sees (fun _ => ?_) fun _ => ?_
  · exact onlyGives_bind fun _ _ => onlyGives_pure ⟨by decide, by decide⟩
  refine onlyGives_sees (fun _ => ?_) fun _ => ?_
  · exact onlyGives_bind fun _ _ => onlyGives_bind fun _ _ => onlyGives_afterPath _ _
  refine onlyGives_sees (fun _ => other _) fun _ => ?_
  refine onlyGives_sees (fun _ => onlyGives_jump) fun _ => ?_
  refine onlyGives_sees (fun _ => other _) fun _ => ?_
  refine onlyGives_sees (fun _ => other _) fun _ => ?_
  refine .of_not_sees opens.uncontrolled ?_
  refine onlyGives_sees (fun _ => onlyGives_rangeFromDots) fun _ => ?_
  refine onlyGives_sees (fun _ => other _) fun _ => ?_
  exact .of_not_sees opens.unlabelled (onlyGives_expected _ _)

theorem onlyGives_trailer {form : Form} :
    (trailer recur form).OnlyGives tokens fun next _ => ∀ form ∈ next, GoesOn form := by
  have other {tokens : Tokens} : (pure (some Form.other) : Reader (Option Form)).OnlyGives tokens
      fun next _ => ∀ form ∈ next, GoesOn form :=
    onlyGives_pure (by rintro _ ⟨⟩; exact goesOn_other)
  refine onlyGives_sees (fun _ => onlyGives_bind fun _ _ => other) fun _ => ?_
  refine onlyGives_bind fun _ _ => onlyGives_ite (fun _ => ?_) fun _ => ?_
  · refine onlyGives_bind fun _ _ => onlyGives_bind fun _ _ => ?_
    refine onlyGives_ite (fun _ => other) fun _ => ?_
    refine onlyGives_bind fun _ _ => onlyGives_ite (fun _ => other) fun _ => ?_
    refine onlyGives_bind fun _ _ => onlyGives_bind fun _ _ =>
      onlyGives_ite (fun _ => ?_) fun _ => ?_
    · exact onlyGives_bind fun _ _ => onlyGives_bind fun _ _ => onlyGives_bind fun _ _ => other
    · refine onlyGives_bind fun _ _ => onlyGives_ite (fun _ => ?_) fun _ => other
      exact onlyGives_bind fun _ _ => other
  · refine onlyGives_sees (fun _ => onlyGives_bind fun _ _ => other) fun _ => ?_
    refine onlyGives_bind fun _ _ => onlyGives_ite (fun _ => ?_) fun _ => onlyGives_pure nofun
    exact onlyGives_bind fun _ _ => other

/-- What follows an operand makes no form of it that ends with a block. -/
theorem onlyGives_trailers {limit : Nat} {form : Form} (goesOn : GoesOn form) :
    (trailers recur limit form).OnlyGives tokens fun form _ => GoesOn form := by
  induction limit generalizing form tokens with
  | zero => exact onlyGives_pure goesOn
  | succ limit inductionHypothesis =>
    have next : (trailer recur form).OnlyGives tokens
        fun next _ => ∀ form ∈ next, GoesOn form := onlyGives_trailer
    refine next.bind fun next _ holds => ?_
    cases next with
    | none => exact onlyGives_pure goesOn
    | some form => exact inductionHypothesis (holds form rfl)

/-- So an operand that does not start with an attribute does not end with its block. -/
theorem onlyGives_unaryRule (opens : OpensOperand tokens)
    (unattributed : and (.not invisible) (.mark "#") tokens = false) :
    (unaryRule recur structures).OnlyGives tokens fun form _ => GoesOn form := by
  refine OnlyGives.verbatimIf (OnlyGives.bind_of_takes ?_ (takes_operandAttributes unattributed))
  refine onlyGives_sees (fun _ => ?_) fun _ => ?_
  · exact onlyGives_bind fun _ _ => onlyGives_bind fun _ _ => onlyGives_pure goesOn_other
  · have operand : (operandWithTrailers recur structures).OnlyGives tokens
        fun form _ => GoesOn form :=
      (onlyGives_atom opens).bind fun _ _ goesOn => onlyGives_get fun _ _ =>
        onlyGives_trailers goesOn
    exact operand.bind fun _ _ goesOn => onlyGives_pure goesOn

/-! ### Lengths in braces -/

/-- A loop ends with its first run if that was the last. -/
theorem loop_of_last {step : Reader Bool} {reading after : Reading}
    (last : step reading = .ok (false, after)) : loop step reading = .ok ((), after) :=
  bind_eq_ok_iff.mpr ⟨reading, reading, rfl, bind_eq_ok_iff.mpr ⟨false, after, last, rfl⟩⟩

theorem sees_eq_ok {test : Lookahead} {seen : Bool} {reading : Reading}
    (same : test reading.remaining = seen) : sees test reading = .ok (seen, reading) := by
  subst same
  rfl

theorem sees_bind {A : Type} (test : Lookahead) (next : Bool → Reader A) (reading : Reading) :
    (sees test >>= next) reading = next (test reading.remaining) reading :=
  rfl

theorem operandAttributes_of_absent (absent : and (.not invisible) (.mark "#") tokens = false)
    (position : Nat) (written : Tokens) :
    operandAttributes recur ⟨tokens, position, written⟩ =
      .ok ([], ⟨tokens, position, written⟩) := by
  refine bind_eq_ok_iff.mpr ⟨_, _, rfl, bind_eq_ok_iff.mpr ⟨false, _, sees_eq_ok absent, ?_⟩⟩
  rfl

theorem leadingOperand_of_opensOperand (opens : OpensOperand tokens) (position : Nat)
    (written : Tokens) :
    leadingOperand recur ⟨tokens, position, written⟩ =
      recur (.unary true) ⟨tokens, position, written⟩ := by
  rw [leadingOperand, sees_bind, opens.visible, if_neg Bool.false_ne_true, sees_bind,
    opens.uncontrolled, if_neg Bool.false_ne_true, sees_bind, opens.unlabelled]
  rfl

/-- What is read as an expression to its end is read so where it is a statement. -/
theorem readsAlone_leadingExpressionRule (opens : OpensOperand tokens)
    (unattributed : and (.not invisible) (.mark "#") tokens = false)
    (read : (expressionRule recur true).ReadsAlone tokens fun _ => True)
    (only : (recur (.unary true)).OnlyGives tokens fun form _ => GoesOn form) :
    (leadingExpressionRule recur).ReadsAlone tokens fun _ => True := by
  intro position
  obtain ⟨result, after, found, -, ended⟩ := read position
  obtain ⟨(form : Form), ⟨remaining, later, written⟩, operand, operators⟩ :=
    bind_eq_ok_iff.mp found
  obtain ⟨unblocked, ungrouped⟩ := only _ rfl _ _ operand
  have further : (form != .blockLike && form != .groupedBlock) = true := by
    rw [bne_iff_ne.mpr unblocked, bne_iff_ne.mpr ungrouped]
    rfl
  have discarded : discard (operandAttributes recur) ⟨tokens, position, []⟩ =
      .ok ((), ⟨tokens, position, []⟩) := by
    show (operandAttributes recur >>= fun _ => pure ()) _ = _
    exact bind_eq_ok_iff.mpr ⟨_, _, operandAttributes_of_absent unattributed position [], rfl⟩
  have attributes : captured (discard (operandAttributes recur)) ⟨tokens, position, []⟩ =
      .ok ([], ⟨tokens, position, []⟩) := by
    refine bind_eq_ok_iff.mpr ⟨((), []), _, ?_, rfl⟩
    rw [capture, discarded]
    rfl
  refine ⟨result, after, ?_, trivial, ended⟩
  refine bind_eq_ok_iff.mpr ⟨[], _, attributes, ?_⟩
  refine bind_eq_ok_iff.mpr ⟨(form, written.reverse), ⟨remaining, later, []⟩, ?_, ?_⟩
  · rw [capture, leadingOperand_of_opensOperand opens, operand]
  · have rewritten (other : Reader Form) :
        (if (form != .blockLike && form != .groupedBlock) = true then
          recur (.operators true .lowest form) else other)
          ⟨remaining, later, written.reverse.reverse ++ []⟩ = .ok (result, after) := by
      rw [List.reverse_reverse, List.append_nil]
      exact (congrFun (if_pos further) _).trans operators
    dsimp only
    split <;> exact rewritten _

theorem eq_of_peeking {A : Type} {reader : Reader A} {reading after : Reading} {result : Option A}
    (found : peeking reader reading = .ok (result, after)) : after = reading := by
  unfold peeking at found
  split at found <;> cases found <;> rfl

theorem readsAlone_statement (kind : Takes upcomingKind tokens (some .expression) tokens)
    (read : (recur .leadingExpression).ReadsAlone tokens fun _ => True) :
    (statement recur).ReadsAlone tokens fun _ => True := by
  intro position
  obtain ⟨between, peeked, -⟩ := kind ⟨tokens, position, []⟩ rfl
  obtain rfl := eq_of_peeking peeked
  obtain ⟨(form : Form), after, found, -, ended⟩ := read position
  have last : Accepts (do
      if ← optionalMark ";" then return false
      else return form != Form.blockLike && form != Form.bracedMacro) [] (fun _ => True) [] :=
    (takes_optionalMark_of_absent rfl).accepts_bind (accepts_pure trivial)
  obtain ⟨result, final, more, holds, left⟩ := last after ended
  refine ⟨result, final, bind_eq_ok_iff.mpr ⟨_, _, peeked, ?_⟩, holds, left⟩
  exact bind_eq_ok_iff.mpr ⟨_, _, found, more⟩

/-- One statement that is read to its end is all of a block. -/
theorem readsAlone_statements (unattributed : Lookahead.mark "#" tokens = false)
    (separate : Lookahead.mark ";" tokens = false) (filled : tokens ≠ [])
    (read : (statement recur).ReadsAlone tokens fun _ => True) :
    (do innerAttributes recur; statements recur).ReadsAlone tokens fun _ => True := by
  intro position
  obtain ⟨needed, after, found, -, ended⟩ := read position
  have attributes : innerAttributes recur ⟨tokens, position, []⟩ =
      .ok ((), ⟨tokens, position, []⟩) := by
    refine loop_of_last (bind_eq_ok_iff.mpr ⟨false, _, sees_eq_ok ?_, rfl⟩)
    rw [Lookahead.and, unattributed, Bool.false_and]
  have all : statements recur ⟨tokens, position, []⟩ = .ok ((), after) := by
    refine loop_of_last (bind_eq_ok_iff.mpr ⟨false, ⟨tokens, position, []⟩, ?_, ?_⟩)
    · exact bind_eq_ok_iff.mpr ⟨false, _, sees_eq_ok separate, rfl⟩
    refine bind_eq_ok_iff.mpr ⟨false, _, sees_eq_ok (atEnd_of_ne_nil filled), ?_⟩
    refine bind_eq_ok_iff.mpr ⟨needed, after, found, ?_⟩
    exact bind_eq_ok_iff.mpr ⟨true, after, sees_eq_ok (by rw [ended]; rfl), rfl⟩
  exact ⟨(), after, bind_eq_ok_iff.mpr ⟨_, _, attributes, all⟩, trivial, ended⟩

theorem onlyGives_unary (opens : OpensOperand tokens)
    (unattributed : and (.not invisible) (.mark "#") tokens = false) :
    (phraseWithin depth (.unary structures)).OnlyGives tokens fun form _ => GoesOn form := by
  cases depth with
  | zero => exact onlyGives_throw _ _
  | succ below => exact onlyGives_unaryRule opens unattributed

/-- Whether the tokens start a statement that is an expression and does not end with its block. -/
def opensExpression (tokens : Tokens) : Bool :=
  !any [atEnd, invisible, .mark "#", .mark ";", Lookahead.lifetime, startsControl] tokens &&
    kindOf tokens == some .expression

/-- A name is such a statement. -/
theorem opensExpression_word {name : Identifier} (ordinary : name.isKeyword = false) :
    opensExpression [.word name] = true := by
  have uncontrolled : startsControl [.word name] = false :=
    (showsLeading_word ordinary []).uncontrolled
  have plain : any [atEnd, invisible, .mark "#", .mark ";", Lookahead.lifetime, startsControl]
      [.word name] = false := by
    simp only [any, List.any_cons, List.any_nil, uncontrolled]
    rfl
  rw [opensExpression, plain, kindOf_word ordinary]
  rfl

/-- What is read as an expression is all of a block if it opens one. -/
theorem reads_block_of_opensExpression (opens : opensExpression tokens = true)
    (read : Reads expression (depth + 1) tokens (fun _ => True) (· = [])) :
    Reads block (depth + 2) [.braced tokens] (fun _ => True) fun _ => True := by
  obtain ⟨plain, kind⟩ := Bool.and_eq_true_iff.mp opens
  simp only [any, List.any_cons, List.any_nil, Bool.or_false, Bool.not_eq_true',
    Bool.or_eq_false_iff] at plain
  obtain ⟨filled, visible, unattributed, separate, unlabelled, uncontrolled⟩ := plain
  have opens : OpensOperand tokens := ⟨visible, uncontrolled, unlabelled⟩
  have noAttribute : and (.not invisible) (.mark "#") tokens = false := by
    rw [Lookahead.and, unattributed, Bool.and_false]
  intro deeper enough rest _
  obtain ⟨below, rfl⟩ := Nat.exists_eq_add_of_le' (Nat.le_trans (Nat.le_add_left 2 depth) enough)
  have alone : (expressionRule (phraseWithin below) true).ReadsAlone tokens fun _ => True := by
    have whole := read (below + 1) (Nat.le_of_succ_le_succ enough) [] rfl
    rw [List.append_nil] at whole
    exact Accepts.readsAlone whole
  have leading : (leadingExpressionRule (phraseWithin below)).ReadsAlone tokens fun _ => True :=
    readsAlone_leadingExpressionRule opens noAttribute alone (onlyGives_unary opens noAttribute)
  have statement : (statement (phraseWithin (below + 1))).ReadsAlone tokens fun _ => True :=
    readsAlone_statement (takes_upcomingKind_of_kindOf unattributed (beq_iff_eq.mp kind)) leading
  exact (readsAlone_statements unattributed separate (List.isEmpty_eq_false_iff.mp filled)
    statement).enclosed (by decide) rest

/-! ### Blocks in braces -/

theorem group_braced {A : Type} (inner : Reader A) (content rest written : Tokens)
    (position : Nat) :
    group .brace inner ⟨.braced content :: rest, position, written⟩ =
      match inner ⟨content, position + 1, []⟩ with
      | .ok (result, after) =>
        if (Token.front after.remaining).isEmpty = true then
          .ok (result, ⟨rest, position + (Token.braced content).count,
            .braced after.written.reverse :: written⟩)
        else .error (.leftOver .brace)
      | .error error => .error error := by
  show (inner ⟨content, position + 1, []⟩ >>= fun (result, after) =>
    (do if ← hasLeftOver then throw (.leftOver .brace)
        let after ← get
        set ({ remaining := rest
               position := position + (Token.braced content).count
               written := .braced after.written.reverse :: written } : Reading)
        return result : Reader A) after) = _
  generalize inner ⟨content, position + 1, []⟩ = outcome
  cases outcome with
  | error error => rfl
  | ok pair =>
    obtain ⟨result, after⟩ := pair
    show (if (!(Token.front after.remaining).isEmpty) = true then _ else _ : Reader A) _ =
      if (Token.front after.remaining).isEmpty = true then _ else _
    cases (Token.front after.remaining).isEmpty <;> rfl

/-- Whether a visible group is read does not depend on what was written before it. -/
theorem passes_group_of_fresh {A : Type} {inner : Reader A} {content : Tokens}
    (fresh : ∀ position, ∃ outcome,
      group .brace inner ⟨[.braced content], position, []⟩ = .ok outcome) :
    (group .brace inner).Passes [.braced content] [] := by
  rintro ⟨_, position, written⟩ rfl
  obtain ⟨outcome, found⟩ := fresh position
  rw [group_braced] at found ⊢
  split at found
  · split at found
    · rename_i ended
      rw [if_pos ended]
      exact ⟨_, _, rfl, trivial, rfl⟩
    · cases found
  · cases found

/-- An operand that is a block is read by reading the block. -/
theorem exists_block_of_unaryRule {content : Tokens} {position : Nat} {outcome : Form × Reading}
    (found : unaryRule recur structures ⟨[.braced content], position, []⟩ = .ok outcome) :
    ∃ after, block recur ⟨[.braced content], position, []⟩ = .ok ((), after) := by
  obtain ⟨_, _, got, found⟩ := bind_eq_ok_iff.mp found
  cases got
  obtain ⟨_, _, found, -⟩ := bind_eq_ok_iff.mp found
  unfold capture at found
  split at found
  · rename_i within
    obtain ⟨_, _, none, within⟩ := bind_eq_ok_iff.mp within
    cases (operandAttributes_of_absent rfl position []).symm.trans none
    obtain ⟨_, _, unseen, within⟩ := bind_eq_ok_iff.mp within
    cases unseen
    obtain ⟨_, _, operand, -⟩ := bind_eq_ok_iff.mp within
    obtain ⟨_, _, found, -⟩ := bind_eq_ok_iff.mp operand
    rw [atom_braced] at found
    obtain ⟨_, after, found, -⟩ := bind_eq_ok_iff.mp found
    exact ⟨after, found⟩
  · cases found

/-- A block that is read as an expression is read as a block. -/
theorem reads_block_of_expression {content : Tokens}
    (read : Reads expression depth [.braced content] (fun _ => True) (· = [])) :
    Reads block depth [.braced content] (fun _ => True) (· = []) := by
  rintro deeper enough _ rfl
  have fresh (position : Nat) :
      ∃ after, block (phraseWithin deeper) ⟨[.braced content], position, []⟩ = .ok ((), after) := by
    obtain ⟨_, _, found, -⟩ := read (deeper + 2) (Nat.le_add_right_of_le enough) [] rfl
      ⟨[.braced content], position, []⟩ rfl
    obtain ⟨_, _, operand, -⟩ := bind_eq_ok_iff.mp found
    exact exists_block_of_unaryRule operand
  cases deeper with
  | zero =>
    obtain ⟨_, failed⟩ := fresh 0
    cases failed
  | succ below =>
    refine passes_group_of_fresh fun position => ?_
    obtain ⟨after, found⟩ := fresh position
    exact ⟨((), after), found⟩

/-- What is read as a block is all of a block around it. -/
theorem readsBlock_braced {content : Tokens}
    (read : Reads block depth [.braced content] (fun _ => True) (· = [])) :
    ReadsBlock (depth + 2) [.braced content] := by
  refine ReadsStatements.readsBlock (.last (List.cons_ne_nil _ _) ⟨rfl, rfl, rfl⟩ ?_) rfl
  rintro deeper enough _ rfl
  obtain ⟨below, rfl⟩ := Nat.exists_eq_add_of_le' (Nat.le_trans (Nat.le_add_left 1 depth) enough)
  have control :
      Takes (controlExpression (phraseWithin below)) [.braced content] .blockLike [] := by
    have own := read below (Nat.le_of_succ_le_succ enough) [] rfl
    refine .of_not_sees rfl ?_
    refine (takes_optionalWord_of_absent rfl).bind ((takes_optionalWord_of_absent rfl).bind ?_)
    refine (takes_optionalWord_of_absent rfl).bind ((takes_optionalWord_of_absent rfl).bind ?_)
    refine (takes_optionalWord_of_absent rfl).bind ((takes_optionalWord_of_absent rfl).bind ?_)
    refine (takes_optionalWord_of_absent rfl).bind ?_
    exact Takes.bind own.takes (takes_pure _ _)
  refine Takes.accepts_bind (takes_upcomingKind fun _ _ => ⟨_, rfl⟩) ?_
  refine Takes.accepts_bind (takes_leadingExpression_control rfl rfl rfl control rfl) ?_
  exact (takes_optionalMark_of_absent rfl).accepts_bind (accepts_pure trivial)

/-! ### Arguments in braces -/

/-- Whether the length of an array stays in one piece in braces: it is a block, or opens an
expression. -/
def staysTogether : Tokens → Bool
  | [.group .brace _] => true
  | length => opensExpression length

/-- A calculation stays in one piece, but not after a block that it starts with. -/
example : staysTogether [.plain "N", .mark '+' false, .literal "1"] = true ∧
    staysTogether [.braced [.literal "1"], .mark '+' false, .literal "1"] = false := by decide

/-- A length that stays in one piece may be an argument in braces. -/
theorem readsInAngles_length {length : Tokens} (together : staysTogether length = true)
    (read : Reads expression (depth + 1) length (fun _ => True) (· = [])) :
    ReadsInAngles (depth + 3) [.braced length] := by
  have inBraces : Reads block (depth + 3) [.braced length] (fun _ => True) fun _ => True := by
    unfold staysTogether at together
    split at together
    · exact readsBlock_braced (reads_block_of_expression read) true
    · exact (reads_block_of_opensExpression together read).mono (Nat.le_succ _)
  refine fun deeper enough => ⟨fun _ _ => rfl, fun rest _ => .of_not_sees rfl (.of_sees rfl ?_)⟩
  have argument : (constantArgument (phraseWithin deeper)).Passes ([.braced length] ++ rest) rest :=
    .of_not_sees rfl (.of_not_sees rfl (.of_sees rfl (inBraces deeper enough rest trivial)))
  exact argument.captured.bind fun _ _ => accepts_pure trivial

end Fieldwise.Grammar
