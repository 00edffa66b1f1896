/-
This file says which tokens the grammar accepts as blocks in generated code. A block consists of
statements: new locals, expressions with `;` after them, conditionals and loops; an expression may
end it.
-/

import Fieldwise.Proofs.CodeExpressions

namespace Fieldwise.Grammar

open Reader Lookahead
open Token (EndsExpression EndsPattern)

variable {recur : Recursion} {depth deeper : Nat} {tokens later rest : Tokens}

/-! ### Expressions that start a statement -/

/-- Which way the grammar goes where a statement starts with an operand. -/
structure ShowsLeading (tokens : Tokens) : Prop where
  visible : invisible tokens = false
  unattributed : and (.not invisible) (.mark "#") tokens = false
  uncontrolled : startsControl tokens = false
  unlabelled : Lookahead.lifetime tokens = false

/-- An expression of the form may go on with an operator where it starts a statement. -/
def GoesOn (form : Form) : Prop := form ≠ .blockLike ∧ form ≠ .groupedBlock

/-- Where a statement starts with an operand, it goes on as other expressions do. -/
theorem accepts_leadingExpression {given : Form → Prop} (shows : ShowsLeading tokens)
    (goesOn : ∀ form, given form → GoesOn form)
    (operand : (recur (.unary true)).Accepts tokens given later)
    (operators : ∀ form, given form → (recur (.operators true .lowest form)).Passes later rest) :
    (leadingExpressionRule recur).Passes tokens rest := by
  have attributes : (captured (discard (operandAttributes recur))).Passes tokens tokens :=
    (takes_operandAttributes shows.unattributed).discard.passes.captured
  have leading : (leadingOperand recur).Accepts tokens given later :=
    .of_not_sees shows.visible (.of_not_sees shows.uncontrolled
      (.of_not_sees shows.unlabelled operand))
  refine attributes.bind fun _ _ => leading.capture.bind ?_
  rintro ⟨form, written⟩ holds
  obtain ⟨unblocked, ungrouped⟩ := goesOn form holds
  have further : (form != .blockLike && form != .groupedBlock) = true := by
    rw [bne_iff_ne.mpr unblocked, bne_iff_ne.mpr ungrouped]
    rfl
  dsimp only
  split
  · refine (takes_write _ _).accepts_bind ((takes_write _ _).accepts_bind ?_)
    exact .of_true further (operators form holds)
  · exact (takes_write _ _).accepts_bind (.of_true further (operators form holds))

/-- From the depth on, the grammar accepts the tokens as an expression that starts a statement. -/
abbrev ReadsLeading (depth : Nat) (tokens : Tokens) : Prop :=
  Reads (· .leadingExpression) depth tokens (fun _ => True) (EndsExpression true)

theorem passes_operators (positive : 0 < deeper) (ends : EndsExpression true rest) (form : Form) :
    (phraseWithin deeper (.operators true .lowest form)).Passes rest rest := by
  obtain ⟨below, rfl⟩ := Nat.exists_eq_add_of_le' positive
  exact (takes_operatorsRule ends true .lowest form).passes

/-- An operand may start a statement. -/
theorem readsLeading_of_operand {given : Form → Prop} (positive : 0 < depth)
    (shows : ∀ rest, ShowsLeading (tokens ++ rest)) (goesOn : ∀ form, given form → GoesOn form)
    (operand : Reads (· (.unary true)) depth tokens given (EndsExpression true)) :
    ReadsLeading (depth + 1) tokens :=
  Reads.phrase .leadingExpression fun deeper enough rest ends =>
    accepts_leadingExpression (shows rest) goesOn (operand deeper enough rest ends)
      fun form _ => passes_operators (Nat.lt_of_lt_of_le positive enough) ends form

/-- A path or a call may start a statement. -/
theorem ReadsOperand.readsLeading (positive : 0 < depth)
    (operand : ReadsOperand true depth tokens (fun form => form = .path ∨ form = .other))
    (shows : ∀ rest, ShowsLeading (tokens ++ rest)) : ReadsLeading (depth + 1) tokens := by
  refine readsLeading_of_operand positive shows ?_ (operand.before fun _ ends => .expression ends)
  rintro _ (rfl | rfl) <;> exact ⟨by decide, by decide⟩

/-- The right side of an assignment is an operand with which no operator goes on. -/
theorem reads_operand_assignment {value : Tokens} (positive : 0 < depth)
    (operand : Reads (· (.unary true)) depth value (fun _ => True) (EndsExpression true)) :
    Reads (· (.operand true .assignment)) (depth + 1) value (fun _ => True)
      (EndsExpression true) := by
  refine Reads.phrase (.operand true .assignment) fun deeper enough rest ends => ?_
  refine (operand deeper enough rest ends).bind fun form _ => ?_
  obtain ⟨below, rfl⟩ := Nat.exists_eq_add_of_le' (Nat.lt_of_lt_of_le positive enough)
  refine (takes_get fun _ _ => takes_get fun reading remains => ?_ :
    Takes (operandRestRule (phraseWithin below) true .assignment form) rest form rest).passes
  have last : nextPrecedence reading.remaining = .lowest := by
    rw [remains]
    cases ends <;> rfl
  rw [last]
  exact takes_pure _ _

theorem showsLeading_word {name : Identifier} (ordinary : name.isKeyword = false)
    (rest : Tokens) : ShowsLeading (.word name :: rest) where
  visible := rfl
  unattributed := rfl
  uncontrolled := by
    have noLoop : oneOf ["if", "while", "loop", "match"] (.word name :: rest) = false :=
      oneOf_of_ordinary ordinary (by decide) rest
    have noFor : Lookahead.word "for" (.word name :: rest) = false :=
      word_of_ordinary ordinary (by decide) rest
    have unmarked : oneOf ["unsafe", "const", "try"] (.word name :: rest) = false :=
      oneOf_of_ordinary ordinary (by decide) rest
    have unbraced : opens .brace (.word name :: rest) = false := rfl
    simp only [startsControl, any, List.any_cons, List.any_nil, Lookahead.and, noLoop, noFor,
      unmarked, unbraced, Bool.false_and, Bool.or_self]
  unlabelled := rfl

theorem showsLeading_less (rest : Tokens) : ShowsLeading (.less :: rest) := ⟨rfl, rfl, rfl, rfl⟩

/-- An assignment to a local may start a statement. -/
theorem readsLeading_assignment {name : Identifier} {value : Tokens}
    (ordinary : name.isKeyword = false) (positive : 0 < depth)
    (operand : Reads (· (.unary true)) depth value (fun _ => True) (EndsExpression true)) :
    ReadsLeading (depth + 3) (.word name :: .equals :: value) := by
  have named : ReadsOperand true 1 [.word name] _ :=
    (readsAtom_bare (.of_single ordinary)).readsOperand nofun
  refine Reads.phrase .leadingExpression fun deeper enough rest ends => ?_
  obtain ⟨below, rfl⟩ := Nat.exists_eq_add_of_le' (Nat.le_trans (Nat.le_add_left 1 _) enough)
  have target := named (below + 1) (Nat.le_add_left 1 below) (.equals :: (value ++ rest))
    (.assignment _)
  refine accepts_leadingExpression (showsLeading_word ordinary _) ?_ target fun form holds => ?_
  · rintro _ (rfl | rfl) <;> exact ⟨by decide, by decide⟩
  have unranged : (form == .range) = false := by rcases holds with rfl | rfl <;> rfl
  show (operatorsRule (phraseWithin below) true .lowest form).Passes _ _
  unfold operatorsRule
  rw [unranged]
  refine accepts_get fun reading remains => ?_
  rw [remains]
  refine (takes_sees _ _).accepts_bind ((takes_mark rfl false _).accepts_bind ?_)
  have assigned := reads_operand_assignment positive operand below (Nat.le_of_succ_le_succ enough)
    rest ends
  refine assigned.discard.accepts_bind (passes_operators ?_ ends _)
  omega

/-- Loops, conditionals and other expressions that end with their block end a statement, if nothing
follows that goes on with them. -/
theorem takes_leadingExpression_control
    (visible : invisible tokens = false)
    (unattributed : and (.not invisible) (.mark "#") tokens = false)
    (controlled : startsControl tokens = true)
    (read : Takes (controlExpression recur) tokens .blockLike rest)
    (ends : any [markBut "." "..", .mark "?"] rest = false) :
    Takes (leadingExpressionRule recur) tokens .blockLike rest := by
  have attributes : (captured (discard (operandAttributes recur))).Passes tokens tokens :=
    (takes_operandAttributes unattributed).discard.passes.captured
  have leading : Takes (leadingOperand recur) tokens .blockLike rest :=
    .of_not_sees visible (.of_sees controlled read)
  refine takes_iff_accepts.mpr (attributes.bind fun _ _ => ?_)
  refine (takes_iff_accepts.mp leading).capture.bind ?_
  rintro ⟨_, written⟩ rfl
  refine (takes_write _ _).accepts_bind ((takes_write _ _).accepts_bind ?_)
  exact .of_not_sees ends (accepts_pure rfl)

/-! ### Statements -/

/-- Reads the kind of a statement, of which nothing is taken. -/
def upcomingKind : Reader (Option StatementKind) := peeking do
  skipAttributes
  statementKind

theorem takes_upcomingKind {kind : StatementKind}
    (shown : ∀ position written, ∃ after,
      (do skipAttributes; statementKind : Reader StatementKind) ⟨tokens, position, written⟩ =
        .ok (kind, after)) : Takes upcomingKind tokens (some kind) tokens := by
  rintro ⟨_, position, written⟩ rfl
  obtain ⟨after, found⟩ := shown position written
  refine ⟨_, ?_, rfl⟩
  rw [upcomingKind, peeking, found]

/-- What may start a statement or end a block, so that nothing here goes on with a statement before
it. -/
structure StartsStatement (tokens : Tokens) : Prop where
  separate : Lookahead.mark ";" tokens = false
  noAlternative : Lookahead.word "else" tokens = false
  apart : any [markBut "." "..", .mark "?"] tokens = false

/-- Which way the grammar goes where an expression is a statement. -/
structure ShowsStatement (tokens : Tokens) : Prop where
  counted : 0 < Token.countAll tokens
  starts : ∀ rest, StartsStatement (tokens ++ rest)
  kind : ∀ rest, Takes upcomingKind (tokens ++ rest) (some .expression) (tokens ++ rest)

/-- From the depth on, the grammar accepts the tokens as a statement, with its `;` if it has one. -/
structure ReadsStatement (depth : Nat) (tokens : Tokens) : Prop where
  counted : 0 < Token.countAll tokens
  starts : ∀ rest, StartsStatement (tokens ++ rest)
  reads : Reads statement depth tokens (· = false) StartsStatement

theorem ReadsStatement.mono (read : ReadsStatement depth tokens) (le : depth ≤ deeper) :
    ReadsStatement deeper tokens :=
  ⟨read.counted, read.starts, Reads.mono read.reads le⟩

theorem ReadsStatement.ne_nil (read : ReadsStatement depth tokens) : tokens ≠ [] := by
  rintro rfl
  exact Nat.lt_irrefl 0 read.counted

/-- What gives a name to a value is a statement. -/
theorem readsStatement_let {name value : Tokens} (pattern : ReadsPattern depth name)
    (read : ReadsExpression true depth value) :
    ReadsStatement depth (Code.letTokens name value) where
  counted := by
    rw [Code.letTokens, List.append_assoc, List.append_assoc, List.append_assoc,
      Token.countAll_append]
    exact Nat.lt_add_right _ Nat.one_pos
  starts _ := by
    rw [Code.letTokens]
    simp only [List.append_assoc]
    exact ⟨rfl, rfl, rfl⟩
  reads deeper enough rest _ := by
    have tokens : Code.letTokens name value ++ rest =
        .plain "let" :: (name ++ .equals :: (value ++ .semicolon :: rest)) := by
      simp [Code.letTokens]
    rw [tokens]
    refine (takes_upcomingKind fun _ _ => ⟨_, rfl⟩).accepts_bind ?_
    have bound : (capture (expression (phraseWithin deeper))).Passes (value ++ .semicolon :: rest)
        (.semicolon :: rest) := (read deeper enough _ (.semicolon rest)).capture.passes
    have binding : Takes (localStatement (phraseWithin deeper))
        (.plain "let" :: (name ++ .equals :: (value ++ .semicolon :: rest))) () rest := by
      refine Takes.bind (takes_word "let" _) ?_
      refine (pattern deeper enough _ (.equals false _)).discard.bind ?_
      refine (takes_optionalMark_of_absent rfl).bind (.of_sees rfl ?_)
      refine (takes_mark rfl false _).bind ?_
      refine Accepts.takes (bound.bind fun _ _ => (takes_write _ _).accepts_bind ?_)
      exact .of_not_both _ rfl (takes_mark rfl false rest).passes
    refine (takes_outerAttributes_of_absent rfl).discard.accepts_bind ?_
    exact binding.accepts_bind (accepts_pure rfl)

/-- An expression with `;` after it is a statement. -/
theorem ReadsLeading.readsStatement (read : ReadsLeading depth tokens)
    (shows : ShowsStatement tokens) : ReadsStatement depth (tokens ++ [.semicolon]) where
  counted := by
    rw [Token.countAll_append]
    exact Nat.lt_add_right _ shows.counted
  starts rest := by
    rw [List.append_assoc]
    exact shows.starts _
  reads deeper enough rest _ := by
    rw [List.append_assoc]
    refine (shows.kind _).accepts_bind ((read deeper enough _ (.semicolon rest)).bind fun _ _ => ?_)
    exact (takes_optionalMark rfl false rest).accepts_bind (accepts_pure rfl)

/-- A loop, a conditional or a match is a statement. -/
theorem readsStatement_control (shows : ShowsStatement tokens)
    (opens : ∀ rest, invisible (tokens ++ rest) = false ∧
      and (.not invisible) (.mark "#") (tokens ++ rest) = false ∧
      startsControl (tokens ++ rest) = true)
    (read : Reads controlExpression depth tokens (· = .blockLike) StartsStatement) :
    ReadsStatement (depth + 1) tokens where
  counted := shows.counted
  starts := shows.starts
  reads deeper enough rest starts := by
    obtain ⟨below, rfl⟩ := Nat.exists_eq_add_of_le' (Nat.le_trans (Nat.le_add_left 1 depth) enough)
    have control := read below (Nat.le_of_succ_le_succ enough) rest starts
    obtain ⟨visible, unattributed, controlled⟩ := opens rest
    refine (shows.kind rest).accepts_bind ?_
    refine (takes_leadingExpression_control visible unattributed controlled
      (takes_iff_accepts.mpr control) starts.apart).accepts_bind ?_
    exact (takes_optionalMark_of_absent starts.separate).accepts_bind (accepts_pure rfl)

/-! ### Blocks -/

/-- From the depth on, the grammar accepts the tokens as the inside of a block. -/
abbrev ReadsBlock (depth : Nat) (tokens : Tokens) : Prop :=
  ∀ attributes, Reads (· (.block attributes)) depth [.braced tokens] (fun _ => True) fun _ => True

/-- From the depth on, the grammar accepts the tokens as statements, and perhaps an expression after
them. -/
inductive ReadsStatements (depth : Nat) : Tokens → Prop
  | ended : ReadsStatements depth []
  | last {tokens : Tokens} (filled : tokens ≠ []) (starts : StartsStatement tokens)
    (reads : Reads statement depth tokens (fun _ => True) (· = [])) : ReadsStatements depth tokens
  | next {tokens rest : Tokens} (first : ReadsStatement depth tokens)
    (more : ReadsStatements depth rest) : ReadsStatements depth (tokens ++ rest)

theorem ReadsStatements.starts (read : ReadsStatements depth tokens) : StartsStatement tokens := by
  cases read with
  | ended => exact ⟨rfl, rfl, rfl⟩
  | last _ starts => exact starts
  | next first => exact first.starts _

theorem atEnd_of_ne_nil (filled : tokens ≠ []) : atEnd tokens = false :=
  List.isEmpty_eq_false_iff.mpr filled

theorem ReadsStatement.alone (read : ReadsStatement depth tokens) :
    ReadsStatements depth tokens := by
  have statements : ReadsStatements depth (tokens ++ []) := .next read .ended
  rwa [List.append_nil] at statements

/-- An expression may end a block. -/
theorem ReadsLeading.readsStatements (read : ReadsLeading depth tokens) (filled : tokens ≠ [])
    (starts : StartsStatement tokens) (kind : Takes upcomingKind tokens (some .expression) tokens) :
    ReadsStatements depth tokens := by
  refine .last filled starts fun deeper enough rest ended => ?_
  subst ended
  have final := read deeper enough [] .ended
  rw [List.append_nil] at final ⊢
  refine kind.accepts_bind (Accepts.bind final fun _ _ => ?_)
  exact (takes_optionalMark_of_absent rfl).accepts_bind (accepts_pure trivial)

/-- Each run of the loop takes one statement. -/
theorem ReadsStatements.takes_loopAtMost (read : ReadsStatements depth tokens)
    (enough : depth ≤ deeper) {bound : Nat} (fewer : Token.countAll tokens < bound) :
    Takes (loopAtMost bound do
      if ← optionalMark ";" then return true
      else if ← sees atEnd then return false
      else
        let needsSemicolon ← statement (phraseWithin deeper)
        if ← sees atEnd then return false
        else if needsSemicolon then expected "unexpected token, expected `;`"
        else return true) tokens () [] := by
  induction read generalizing bound with
  | ended =>
    obtain ⟨bound, rfl⟩ := Nat.exists_eq_add_one_of_ne_zero (Nat.ne_of_gt fewer)
    exact takes_loopAtMost_last
      ((takes_optionalMark_of_absent rfl).bind (.of_sees rfl (takes_pure _ _)))
  | last filled starts reads =>
    obtain ⟨bound, rfl⟩ := Nat.exists_eq_add_one_of_ne_zero (Nat.ne_of_gt (Nat.zero_lt_of_lt fewer))
    have final := reads deeper enough [] rfl
    rw [List.append_nil] at final
    refine takes_loopAtMost_last ((takes_optionalMark_of_absent starts.separate).bind ?_)
    refine .of_not_sees (atEnd_of_ne_nil filled) (takes_iff_accepts.mpr (final.bind fun _ _ => ?_))
    exact .of_sees rfl (accepts_pure rfl)
  | @next tokens rest first more inductionHypothesis =>
    obtain ⟨bound, rfl⟩ := Nat.exists_eq_add_one_of_ne_zero (Nat.ne_of_gt (Nat.zero_lt_of_lt fewer))
    have own := first.reads deeper enough rest more.starts
    have filled : tokens ++ rest ≠ [] := List.append_ne_nil_of_left_ne_nil first.ne_nil rest
    have start := takes_optionalMark_of_absent (first.starts rest).separate
    by_cases empty : rest = []
    · subst empty
      refine takes_loopAtMost_last (start.bind (.of_not_sees (atEnd_of_ne_nil filled) ?_))
      exact takes_iff_accepts.mpr (own.bind fun _ _ => .of_sees rfl (accepts_pure rfl))
    · refine takes_loopAtMost_again (start.bind (.of_not_sees (atEnd_of_ne_nil filled) ?_))
        (inductionHypothesis ?_)
      · refine takes_iff_accepts.mpr (own.bind fun _ unneeded => ?_)
        subst unneeded
        exact .of_not_sees (atEnd_of_ne_nil empty) (accepts_pure rfl)
      · have counted := first.counted
        rw [Token.countAll_append] at fewer
        omega

theorem takes_innerAttributes_of_absent (absent : Lookahead.mark "#" tokens = false) :
    Takes (innerAttributes recur) tokens () tokens := by
  refine takes_loop_last (.of_not_sees ?_ (takes_pure _ _))
  rw [Lookahead.and, absent, Bool.false_and]

/-- Statements in braces are a block, unless attributes open them. -/
theorem ReadsStatements.readsBlock (read : ReadsStatements depth tokens)
    (unattributed : Lookahead.mark "#" tokens = false) : ReadsBlock (depth + 1) tokens := by
  intro attributes
  refine Reads.phrase (.block attributes) fun deeper enough rest _ => ?_
  have all : Takes (statements (phraseWithin deeper)) tokens () [] :=
    takes_get fun reading remains => read.takes_loopAtMost enough (by rw [remains]; omega)
  cases attributes with
  | false => exact (all.enclosed (by decide) rest).passes
  | true =>
    have content : Takes (do
        innerAttributes (phraseWithin deeper)
        statements (phraseWithin deeper)) tokens () [] :=
      (takes_innerAttributes_of_absent unattributed).bind all
    exact (content.enclosed (by decide) rest).passes

/-! ### Loops, conditionals and matches -/

theorem takes_conditional {condition content : Tokens} (test : ReadsExpression false depth condition)
    (body : ReadsBlock depth content) (enough : depth ≤ deeper)
    (alone : Lookahead.word "else" rest = false) :
    Takes (conditional (phraseWithin deeper))
      (.plain "if" :: (condition ++ .braced content :: rest)) () rest := by
  refine takes_loop_last ((takes_word "if" _).bind ?_)
  refine (test deeper enough _ (.block rfl _ _)).discard.bind ?_
  refine Takes.bind (body false deeper enough rest trivial).takes ?_
  exact (takes_optionalWord_of_absent alone).bind (takes_pure _ _)

theorem showsStatement_plain {text : String} {tokens : Tokens}
    (kind : ∀ rest, Takes upcomingKind (.plain text :: (tokens ++ rest)) (some .expression)
      (.plain text :: (tokens ++ rest)))
    (noAlternative : (Identifier.plain text == .plain "else") = false) :
    ShowsStatement (.plain text :: tokens) where
  counted := Nat.lt_add_right _ Nat.one_pos
  starts _ := ⟨rfl, noAlternative, rfl⟩
  kind := kind

/-- A conditional without an alternative is a statement. -/
theorem readsStatement_conditional {condition content : Tokens}
    (test : ReadsExpression false depth condition) (body : ReadsBlock depth content) :
    ReadsStatement (depth + 1) (.plain "if" :: (condition ++ [.braced content])) := by
  refine readsStatement_control (showsStatement_plain ?_ (by decide)) (fun _ => ⟨rfl, rfl, rfl⟩) ?_
  · exact fun _ => takes_upcomingKind fun _ _ => ⟨_, rfl⟩
  · intro deeper enough rest starts
    rw [List.cons_append, List.append_assoc]
    refine .of_sees rfl ?_
    exact (takes_conditional test body enough starts.noAlternative).accepts_bind (accepts_pure rfl)

/-- A loop over items is a statement. -/
theorem readsStatement_loop {item items content : Tokens} (bound : ReadsAlternatives depth item)
    (closed : ∀ rest, opensParameters (item ++ rest) = false)
    (iterated : ReadsExpression false depth items) (body : ReadsBlock depth content) :
    ReadsStatement (depth + 1)
      (.plain "for" :: (item ++ .plain "in" :: (items ++ [.braced content]))) := by
  refine readsStatement_control (showsStatement_plain ?_ (by decide)) ?_ ?_
  · exact fun _ => takes_upcomingKind fun _ _ => ⟨_, rfl⟩
  · intro rest
    have unapplied (more : Tokens) :
        second opensParameters (.plain "for" :: (item ++ more)) = false := closed more
    have controlled (more : Tokens) : and (.word "for") (.not (second opensParameters))
        (.plain "for" :: (item ++ more)) = true := by
      rw [Lookahead.and, Lookahead.not, unapplied]
      rfl
    rw [List.cons_append, List.append_assoc]
    refine ⟨rfl, rfl, List.any_eq_true.mpr ⟨_, ?_, controlled _⟩⟩
    exact List.mem_cons_of_mem _ List.mem_cons_self
  · intro deeper enough rest _
    have tokens : .plain "for" :: (item ++ .plain "in" :: (items ++ [.braced content])) ++ rest =
        .plain "for" :: (item ++ .plain "in" :: (items ++ .braced content :: rest)) := by
      simp
    rw [tokens]
    refine .of_not_sees rfl ((takes_optionalWord_of_absent rfl).accepts_bind ?_)
    refine (takes_optionalWord "for" _).accepts_bind ?_
    refine (bound deeper enough _ (.loop _)).discard.accepts_bind ?_
    refine (takes_word "in" _).accepts_bind ?_
    refine (iterated deeper enough _ (.block rfl _ _)).discard.accepts_bind ?_
    exact (body true deeper enough rest trivial).bind fun _ _ => accepts_pure rfl

theorem takes_arrow (rest : Tokens) :
    Takes (mark "=>") (Token.operator ['=', '>'] ++ rest) () rest := by
  rintro reading remains
  rw [mark_eq, remains]
  exact ⟨_, rfl, rfl⟩

/-- From the depth on, the grammar accepts a pattern and an expression as an arm of a match. -/
structure ReadsArm (depth : Nat) (arm : Tokens × Tokens) : Prop where
  unattributed : ∀ rest, Lookahead.mark "#" (arm.1 ++ rest) = false
  pattern : ReadsAlternatives depth arm.1
  result : ReadsLeading depth arm.2

/-- Arms of a match, one after the other. -/
def armTokens (arms : List (Tokens × Tokens)) : Tokens :=
  (arms.map fun arm => Code.arm arm.1 arm.2).flatten

theorem length_le_countAll_armTokens (arms : List (Tokens × Tokens)) :
    arms.length ≤ Token.countAll (armTokens arms) := by
  induction arms with
  | nil => exact Nat.le_refl _
  | cons arm later inductionHypothesis =>
    have comma : Token.countAll [Token.comma] = 1 := rfl
    have tokens : armTokens (arm :: later) = Code.arm arm.1 arm.2 ++ armTokens later := rfl
    rw [tokens, List.length_cons, Token.countAll_append, Code.arm, Token.countAll_append, comma]
    omega

theorem takes_loopAtMost_arms {arms : List (Tokens × Tokens)}
    (each : ∀ arm ∈ arms, ReadsArm depth arm) (enough : depth ≤ deeper) {bound : Nat}
    (fewer : arms.length < bound) :
    Takes (loopAtMost bound do
      if ← sees atEnd then return false
      discard (outerAttributes (phraseWithin deeper))
      discard (alternatives (phraseWithin deeper))
      if ← optionalWord "if" then discard (expression (phraseWithin deeper))
      Reader.mark "=>"
      let form : Form ← phraseWithin deeper .leadingExpression
      if form != .blockLike && !(← sees atEnd) then Reader.mark ","
      else discard (optionalMark ",")
      return true) (armTokens arms) () [] := by
  induction arms generalizing bound with
  | nil =>
    obtain ⟨bound, rfl⟩ := Nat.exists_eq_add_one_of_ne_zero (Nat.ne_of_gt fewer)
    exact takes_loopAtMost_last (.of_sees rfl (takes_pure _ _))
  | cons arm later inductionHypothesis =>
    obtain ⟨bound, rfl⟩ := Nat.exists_eq_add_one_of_ne_zero (Nat.ne_of_gt (Nat.zero_lt_of_lt fewer))
    rw [List.forall_mem_cons] at each
    have tokens : armTokens (arm :: later) =
        arm.1 ++ (Token.operator ['=', '>'] ++ (arm.2 ++ Token.comma :: armTokens later)) := by
      simp [armTokens, Code.arm]
    rw [tokens]
    refine takes_loopAtMost_again ?_
      (inductionHypothesis each.2 (Nat.lt_of_succ_lt_succ fewer))
    have own := each.1
    refine .of_not_sees (atEnd_of_ne_nil ?_) ?_
    · exact List.append_ne_nil_of_left_ne_nil own.pattern.ne_nil _
    refine (takes_outerAttributes_of_absent (own.unattributed _)).discard.bind ?_
    refine (own.pattern deeper enough _ (.equals true _)).discard.bind ?_
    refine (takes_optionalWord_of_absent rfl).bind ?_
    refine (takes_arrow _).bind (takes_iff_accepts.mpr ?_)
    refine (own.result deeper enough _ (.comma _)).bind fun form _ => ?_
    refine (takes_sees _ _).accepts_bind ?_
    split
    · exact (takes_mark rfl false _).accepts_bind (accepts_pure rfl)
    · exact (takes_optionalMark rfl false _).discard.accepts_bind (accepts_pure rfl)

theorem takes_matchArms {arms : List (Tokens × Tokens)} (each : ∀ arm ∈ arms, ReadsArm depth arm)
    (enough : depth ≤ deeper) :
    Takes (matchArms (phraseWithin deeper)) (armTokens arms) () [] := by
  refine (takes_innerAttributes_of_absent ?_).bind (takes_get fun reading remains => ?_)
  · cases arms with
    | nil => rfl
    | cons arm later =>
      rw [armTokens, List.map_cons, List.flatten_cons, Code.arm]
      simp only [List.append_assoc]
      exact (each arm List.mem_cons_self).unattributed _
  · rw [remains]
    have fewer := length_le_countAll_armTokens arms
    exact takes_loopAtMost_arms each enough (by omega)

/-- A match is a statement. -/
theorem readsStatement_match {value : Tokens} {arms : List (Tokens × Tokens)}
    (looked : ReadsExpression false depth value) (each : ∀ arm ∈ arms, ReadsArm depth arm) :
    ReadsStatement (depth + 1) (.plain "match" :: (value ++ [.braced (armTokens arms)])) := by
  refine readsStatement_control (showsStatement_plain ?_ (by decide)) (fun _ => ⟨rfl, rfl, rfl⟩) ?_
  · exact fun _ => takes_upcomingKind fun _ _ => ⟨_, rfl⟩
  · intro deeper enough rest _
    rw [List.cons_append, List.append_assoc]
    refine .of_not_sees rfl ((takes_optionalWord_of_absent rfl).accepts_bind ?_)
    refine (takes_optionalWord_of_absent rfl).accepts_bind ?_
    refine (takes_optionalWord_of_absent rfl).accepts_bind ?_
    refine (takes_optionalWord "match" _).accepts_bind ?_
    refine (looked deeper enough _ (.block rfl _ _)).discard.accepts_bind ?_
    exact ((takes_matchArms each enough).enclosed (by decide) rest).accepts_bind (accepts_pure rfl)

end Fieldwise.Grammar
