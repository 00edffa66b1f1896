/-
This file says that the kind of a statement depends only on the tokens of the statement. It is found
by looking at them, so a test of a run of tokens can say of which kind the statement is that they
start, wherever the run stands.
-/

import Fieldwise.Proofs.CodeBlocks

namespace Fieldwise

namespace Reader

variable {A B : Type} {tokens rest : Tokens}

/-! ### Results that only the remaining tokens decide -/

/-- Where the reader gives a result, it gives it wherever the same tokens remain. -/
def Steady (reader : Reader A) : Prop :=
  ∀ reading result after, reader reading = .ok (result, after) →
    reader.Takes reading.remaining result after.remaining

section

variable {first : Reader A} {next : A → Reader B}

theorem steady_pure (result : B) : (pure result : Reader B).Steady := by
  intro reading _ _ found
  cases found
  exact takes_pure result reading.remaining

theorem steady_throw (error : SyntaxError) : (throw error : Reader B).Steady :=
  fun _ _ _ => nofun

theorem steady_expected (wording : String) : (expected wording : Reader B).Steady :=
  fun _ _ _ found => absurd found expected_ne_ok

theorem Steady.bind (steady : first.Steady) (more : ∀ middle, (next middle).Steady) :
    (first >>= next).Steady := by
  intro reading result after found
  obtain ⟨middle, between, found, rest⟩ := bind_eq_ok_iff.mp found
  exact (steady reading middle between found).bind (more middle between result after rest)

theorem steady_get {next : Reading → Reader B} (more : ∀ reading, (next reading).Steady)
    (same : ∀ first second, first.remaining = second.remaining → next first = next second) :
    (get >>= next).Steady := by
  intro reading result after found
  refine takes_get fun other remains => ?_
  rw [same other reading remains]
  exact more reading reading result after found

theorem steady_advance (taken : Nat) (remaining : Tokens) : (advance taken remaining).Steady := by
  intro reading _ _ found
  cases found
  exact fun _ _ => ⟨_, rfl, rfl⟩

theorem steady_write (written : Tokens) : (write written).Steady := by
  intro reading _ _ found
  cases found
  exact takes_write written reading.remaining

theorem steady_sees (test : Lookahead) : (sees test).Steady :=
  steady_get (fun _ => steady_pure _) fun _ _ same => by rw [same]

theorem steady_ite {condition : Prop} [Decidable condition] {yes no : Reader B}
    (ifTrue : yes.Steady) (ifFalse : no.Steady) : (if condition then yes else no).Steady := by
  split
  · exact ifTrue
  · exact ifFalse

theorem Steady.discard (steady : first.Steady) : (discard first).Steady := by
  show (first >>= fun _ => pure ()).Steady
  exact steady.bind fun _ => steady_pure ()

/-- A steady reader that fails somewhere fails wherever the same tokens remain. -/
theorem Steady.peeking (steady : first.Steady) : (peeking first).Steady := by
  rintro reading _ _ found reading' remains
  unfold Reader.peeking at found ⊢
  cases own : first reading with
  | ok pair =>
    obtain ⟨result, after⟩ := pair
    rw [own] at found
    cases found
    obtain ⟨after', found', -⟩ := steady reading result after own reading' remains
    rw [found']
    exact ⟨reading', rfl, remains⟩
  | error error =>
    rw [own] at found
    cases found
    cases other : first reading' with
    | ok pair =>
      obtain ⟨result, after⟩ := pair
      obtain ⟨_, found', -⟩ := steady reading' result after other reading remains.symm
      cases own.symm.trans found'
    | error error => exact ⟨reading', rfl, remains⟩

end

theorem steady_mark (operator : String) : (mark operator).Steady := by
  refine steady_get (fun _ => ?_) fun _ _ same => by rw [same]
  exact steady_ite ((steady_advance _ _).bind fun _ => steady_write _) (steady_throw _)

theorem steady_optionalMark (operator : String) : (optionalMark operator).Steady :=
  (steady_sees _).bind fun _ =>
    steady_ite ((steady_mark operator).bind fun _ => steady_pure _) (steady_pure _)

theorem steady_anyWord : anyWord.Steady := by
  refine steady_get (fun _ => ?_) fun _ _ same => by rw [same]
  split
  · exact (steady_advance _ _).bind fun _ => (steady_write _).bind fun _ => steady_pure _
  · exact steady_expected _

theorem steady_name : name.Steady := by
  refine steady_get (fun _ => ?_) fun _ _ same => by rw [same]
  split
  · exact steady_ite (steady_throw _) steady_anyWord
  · exact steady_expected _

end Reader

namespace Grammar

open Reader Lookahead

variable {tokens : Tokens}

/-! ### Kinds of statements -/

theorem steady_namePath : namePath.Steady := by
  refine (steady_optionalMark "::").bind fun rooted => ?_
  have segments (bound : Nat) (before : List Segment) :
      (namePath.segments (any [Lookahead.name, oneOf ["super", "self", "Self", "crate"]])
        bound before).Steady := by
    induction bound generalizing before with
    | zero => exact steady_expected _
    | succ bound inductionHypothesis =>
      refine (steady_sees _).bind fun _ => steady_ite (steady_anyWord.bind fun name => ?_) ?_
      · refine (steady_optionalMark "::").bind fun _ => ?_
        exact steady_ite (inductionHypothesis _) (steady_pure _)
      · refine steady_ite ?_ (steady_expected _)
        exact steady_name.discard.bind fun _ => steady_pure _
  refine steady_get (fun _ => ?_) fun _ _ same => by rw [same]
  exact (segments _ _).bind fun _ => steady_pure _

theorem steady_statementKind : statementKind.Steady := by
  refine Steady.bind (Steady.peeking ?_) fun called => ?_
  · refine steady_namePath.discard.bind fun _ => ?_
    exact (steady_sees _).bind fun _ => (steady_sees _).bind fun _ => steady_pure _
  · refine steady_ite (steady_pure _) ((steady_sees _).bind fun _ => steady_ite (steady_pure _) ?_)
    exact (steady_sees _).bind fun _ => steady_ite (steady_pure _) (steady_pure _)

/-- The kind of the statement that the tokens start, if a statement without attributes can be of
one. -/
def kindOf (tokens : Tokens) : Option StatementKind :=
  match statementKind ⟨tokens, 0, []⟩ with
  | .ok (kind, _) => some kind
  | .error _ => none

/-- The kind of a statement depends only on its tokens. -/
theorem takes_upcomingKind_of_kindOf (unattributed : Lookahead.mark "#" tokens = false)
    {kind : StatementKind} (own : kindOf tokens = some kind) :
    Takes upcomingKind tokens (some kind) tokens := by
  unfold kindOf at own
  split at own
  · rename_i found
    cases own
    have taken : Takes statementKind tokens kind _ := steady_statementKind _ _ _ found
    have skipped : Takes skipAttributes tokens () tokens := by
      refine takes_loop_last (.of_not_sees ?_ (takes_pure _ _))
      rw [Lookahead.and, unattributed, Bool.false_and]
    have both : Takes (do skipAttributes; statementKind) tokens kind _ := skipped.bind taken
    refine takes_upcomingKind fun position written => ?_
    obtain ⟨after, found, -⟩ := both ⟨tokens, position, written⟩ rfl
    exact ⟨after, found⟩
  · cases own

/-! ### Names as statements -/

section

variable {name : Identifier} (ordinary : name.isKeyword = false)

include ordinary

theorem takes_namePath_word : Takes namePath [.word name] ⟨false, [.mk name .none]⟩ [] := by
  refine (takes_optionalMark_of_absent rfl).bind (takes_get fun reading remains => ?_)
  have segments : Takes (namePath.segments
      (any [Lookahead.name, oneOf ["super", "self", "Self", "crate"]])
      (reading.remaining.length + 1) []) [.word name] [.mk name .none] [] := by
    refine .of_sees ?_ ((takes_anyWord name []).bind ?_)
    · show (Lookahead.name [.word name] || _) = true
      rw [name_of_ordinary ordinary, Bool.true_or]
    · exact (takes_optionalMark_of_absent rfl).bind (takes_pure _ _)
  exact segments.bind (takes_pure _ _)

/-- A name with nothing after it starts no item, be it `union` or the like. -/
theorem startsItem_word : startsItem [.word name] = false := by
  have first : oneOf ["pub", "extern", "use", "mod", "type", "struct", "enum", "fn", "trait",
      "impl", "macro"] [.word name] = false := oneOf_of_ordinary ordinary (by decide) []
  have other (text : String) (reserved : (Identifier.plain text).isKeyword = true) :
      Lookahead.word text [.word name] = false := word_of_ordinary ordinary reserved []
  have alone (test : Lookahead) (unmet : test [] = false) : second test [.word name] = false := by
    show (true && test []) = false
    rw [unmet, Bool.and_false]
  simp only [startsItem, startsAutoTrait, any, List.any_cons, List.any_nil, Lookahead.and, first,
    other "crate" (by decide), other "static" (by decide), other "const" (by decide),
    other "unsafe" (by decide), other "async" (by decide), alone Lookahead.name rfl,
    alone (.word "trait") rfl, alone (oneOf ["unsafe", "impl"]) rfl, Bool.false_and,
    Bool.and_false, Bool.or_self]

/-- A name is an expression where it is a statement. -/
theorem kindOf_word : kindOf [.word name] = some .expression := by
  have unbound : Lookahead.word "let" [.word name] = false :=
    word_of_ordinary ordinary (by decide) []
  have kind : Takes statementKind [.word name] .expression [.word name] := by
    refine (@takes_peeking _ _ [] (false, false) _ ?_).bind ?_
    · refine (takes_namePath_word ordinary).discard.bind ?_
      exact (takes_sees _ []).bind ((takes_sees _ []).bind (takes_pure _ []))
    · refine .of_not_sees unbound ((takes_sees _ _).bind ?_)
      rw [startsItem_word ordinary]
      exact takes_pure _ _
  obtain ⟨_, found, -⟩ := kind ⟨[.word name], 0, []⟩ rfl
  rw [kindOf, found]

end

end Grammar

end Fieldwise
