/-
This file says which tokens the grammar accepts as expressions in generated code. An atom is a path,
a call of a closure or the like; calls may follow it, and with them it is an operand. An operand is an
expression where no operator follows, and so the arguments of calls are expressions again.
-/

import Fieldwise.Proofs.CodePatterns

namespace Fieldwise

/-! ### What may follow -/

namespace Token

/-- What may stand after an expression: nothing, a comma, `;`, or a block where braces belong to no
expression. -/
inductive EndsExpression (structures : Bool) : Tokens → Prop
  | ended : EndsExpression structures []
  | comma (rest : Tokens) : EndsExpression structures (comma :: rest)
  | semicolon (rest : Tokens) : EndsExpression structures (semicolon :: rest)
  | block (excluded : structures = false) (content rest : Tokens) :
    EndsExpression structures (braced content :: rest)

/-- What may stand after an operand: what follows expressions, or the sign of an assignment. -/
inductive EndsOperand (structures : Bool) : Tokens → Prop
  | expression {rest : Tokens} (ends : EndsExpression structures rest) :
    EndsOperand structures rest
  | assignment (rest : Tokens) : EndsOperand structures (equals :: rest)

/-- What may stand after an atom: what follows operands, or a call. -/
inductive EndsAtom (structures : Bool) : Tokens → Prop
  | operand {rest : Tokens} (ends : EndsOperand structures rest) : EndsAtom structures rest
  | arguments (content rest : Tokens) : EndsAtom structures (parenthesized content :: rest)
  | member (rest : Tokens) : EndsAtom structures (.mark '.' false :: rest)

variable {structures : Bool} {rest : Tokens}

theorem EndsAtom.endsPath (ends : EndsAtom structures rest) : endsPath rest = true := by
  rcases ends with ⟨⟨_ | _ | _ | _⟩ | _⟩ | _ | _ <;> rfl

theorem EndsItem.endsExpression (ends : EndsItem rest) : EndsExpression structures rest := by
  cases ends with
  | ended => exact .ended
  | comma rest => exact .comma rest

end Token

open Token (EndsAtom EndsExpression EndsItem EndsOperand EndsType endsPath mark_eq_false_of_endsPath)

namespace Grammar

open Reader Lookahead

variable {recur : Recursion} {depth deeper : Nat} {tokens rest : Tokens} {structures : Bool}

/-! ### Paths as atoms -/

theorem takes_afterPath (plain : Bool) (ends : EndsAtom structures rest) :
    Takes (afterPath recur plain structures) rest .path rest := by
  have noMacro : callsMacro rest = false := by
    show (Lookahead.mark "!" rest && _) = false
    rw [mark_eq_false_of_endsPath ends.endsPath rfl rfl, Bool.false_and]
  have noFields : (structures && opens .brace rest) = false := by
    rcases ends with ⟨⟨_ | _ | _ | excluded⟩ | _⟩ | _ | _
    all_goals first | exact Bool.and_false _ | rw [excluded, Bool.false_and]
  refine .of_not_both _ noMacro ((takes_sees _ _).bind ?_)
  rw [noFields]
  exact takes_pure _ _

/-- Which way the grammar goes where the path of an expression starts. -/
structure ShowsPathExpression (tokens : Tokens) : Prop where
  visible : invisible tokens = false
  noLiteral : Lookahead.literal tokens = false
  notAsynchronous : startsAsynchronous tokens = false
  noTry : and (.word "try") (second (opens .brace)) tokens = false
  noClosure : startsClosure tokens = false
  noBuiltin : and (.word "builtin") (second (.mark "#")) tokens = false
  path : startsPathExpression tokens = true

theorem ShowsPathExpression.accepts_atom {given : Form → Prop} (shows : ShowsPathExpression tokens)
    (accepted : (pathExpression recur structures).Accepts tokens given rest) :
    (atom recur structures).Accepts tokens given rest :=
  .of_not_sees shows.visible <| .of_not_sees shows.noLiteral <|
    .of_not_sees shows.notAsynchronous <| .of_not_sees shows.noTry <|
    .of_not_sees shows.noClosure <| .of_not_sees shows.noBuiltin <| .of_sees shows.path accepted

theorem showsPathExpression_word {name : Identifier} (ordinary : name.isKeyword = false)
    (unattributed : Lookahead.mark "#" rest = false) :
    ShowsPathExpression (.word name :: rest) := by
  have other (text : String) (reserved : (Identifier.plain text).isKeyword = true) :
      Lookahead.word text (.word name :: rest) = false := word_of_ordinary ordinary reserved rest
  have unmarked : Lookahead.mark "|" (.word name :: rest) = false := rfl
  refine ⟨rfl, literal_of_ordinary ordinary rest, ?_, ?_, ?_, ?_, ?_⟩
  · rw [startsAsynchronous, Lookahead.and, other "async" (by decide), Bool.false_and]
  · rw [Lookahead.and, other "try" (by decide), Bool.false_and]
  · simp only [startsClosure, any, List.any_cons, List.any_nil, Lookahead.and, unmarked,
      other "move" (by decide), other "for" (by decide), other "const" (by decide),
      other "static" (by decide), other "async" (by decide), Bool.false_and, Bool.or_self]
  · show (_ && (true && Lookahead.mark "#" rest)) = false
    rw [unattributed, Bool.and_false, Bool.and_false]
  · show ((Lookahead.name (.word name :: rest) || _) || _) = true
    rw [name_of_ordinary ordinary, Bool.true_or, Bool.true_or]

theorem showsPathExpression_name {name : QualifiedName} (ordinary : name.Ordinary)
    (unattributed : Lookahead.mark "#" rest = false) :
    ShowsPathExpression (name.tokens ++ rest) := by
  obtain ⟨named, each⟩ := ordinary
  obtain ⟨rooted, first | ⟨first, later⟩⟩ := name
  · exact absurd rfl named
  rw [QualifiedName.tokens, List.map_cons, pathTokens_cons]
  cases rooted with
  | true => exact ⟨rfl, rfl, rfl, rfl, rfl, rfl, rfl⟩
  | false =>
    refine showsPathExpression_word (each first List.mem_cons_self) ?_
    cases later with
    | nil => exact unattributed
    | cons next others => rfl

theorem showsPathExpression_less (rest : Tokens) : ShowsPathExpression (.less :: rest) :=
  ⟨rfl, rfl, rfl, rfl, rfl, rfl, rfl⟩

/-- What is read as a path is an atom where no fields are given to it. -/
theorem accepts_pathExpression (read : (qualifiedPath recur true).Passes tokens rest)
    (ends : EndsAtom structures rest) :
    (pathExpression recur structures).Accepts tokens (· = .path) rest :=
  read.bind fun _ _ => (takes_write _ _).accepts_bind ((takes_afterPath _ ends).accepts rfl)

/-- A path with fields in braces is a structure. -/
theorem accepts_pathExpression_structure {content : Tokens}
    (read : (qualifiedPath recur true).Passes tokens (.braced content :: rest))
    (fields : Takes (fieldValues recur) content () []) :
    (pathExpression recur true).Accepts tokens (· = .other) rest := by
  refine read.bind fun path _ => (takes_write _ _).accepts_bind (.of_not_both _ rfl ?_)
  refine (takes_sees _ _).accepts_bind ?_
  exact (fields.enclosed (by decide) rest).accepts_bind (accepts_pure rfl)

/-! ### Operands -/

/-- Which way the grammar goes where an operand starts without attributes and operators. -/
structure ShowsOperand (tokens : Tokens) : Prop where
  unattributed : and (.not invisible) (.mark "#") tokens = false
  plain : and (.not invisible) (any [.mark "&", .mark "*", .mark "!", .mark "-"]) tokens = false

theorem takes_operandAttributes
    (unattributed : and (.not invisible) (.mark "#") tokens = false) :
    Takes (operandAttributes recur) tokens [] tokens :=
  takes_get fun _ _ => .of_not_sees unattributed (takes_pure _ _)

theorem ShowsOperand.accepts_unaryRule {given : Form → Prop} (shows : ShowsOperand tokens)
    (accepted : (operandWithTrailers recur structures).Accepts tokens given rest) :
    (unaryRule recur structures).Accepts tokens given rest := by
  refine Accepts.verbatimIf ((takes_operandAttributes shows.unattributed).accepts_bind ?_)
  exact .of_not_sees shows.plain (accepted.bind fun _ holds => accepts_pure holds)

theorem showsOperand_name {name : QualifiedName} (ordinary : name.Ordinary) (rest : Tokens) :
    ShowsOperand (name.tokens ++ rest) := by
  obtain ⟨named, -⟩ := ordinary
  obtain ⟨rooted, first | ⟨first, later⟩⟩ := name
  · exact absurd rfl named
  rw [QualifiedName.tokens, List.map_cons, pathTokens_cons]
  cases rooted <;> exact ⟨rfl, rfl⟩

/-- From the depth on, the grammar accepts the tokens as what follows an atom: a call. -/
structure ReadsTrailer (depth : Nat) (tokens : Tokens) : Prop where
  counted : 0 < Token.countAll tokens
  follows : ∀ structures rest, EndsAtom structures (tokens ++ rest)
  reads : ∀ deeper, depth ≤ deeper → ∀ form, form ≠ .range → ∀ rest,
    (trailer (phraseWithin deeper) form).Accepts (tokens ++ rest) (· = some .other) rest

theorem takes_trailer_of_endsOperand (ends : EndsOperand structures rest) (form : Form) :
    Takes (trailer recur form) rest none rest := by
  obtain ⟨noCall, noMember, noIndex, noFailure⟩ : opens .parenthesis rest = false ∧
      markBut "." ".." rest = false ∧ opens .bracket rest = false ∧
      Lookahead.mark "?" rest = false := by
    rcases ends with ⟨_ | _ | _ | _⟩ | _ <;> exact ⟨rfl, rfl, rfl, rfl⟩
  refine .of_not_sees noCall (.of_not_both _ noMember ?_)
  exact .of_not_sees noIndex (.of_not_both _ noFailure (takes_pure _ _))

/-- Calls are read one after the other; without any the form stays as it is. -/
theorem accepts_trailers {runs : List Tokens} (each : ∀ run ∈ runs, ReadsTrailer depth run)
    (enough : depth ≤ deeper) {limit : Nat} (fewer : runs.length < limit) {form : Form}
    (unranged : form ≠ .range) (ends : EndsOperand structures rest) :
    (trailers (phraseWithin deeper) limit form).Accepts (runs.flatten ++ rest)
      (fun result => result = form ∨ result = .other) rest := by
  induction runs generalizing limit form with
  | nil =>
    obtain ⟨limit, rfl⟩ := Nat.exists_eq_add_one_of_ne_zero (Nat.ne_of_gt fewer)
    exact (takes_trailer_of_endsOperand ends form).accepts_bind (accepts_pure (.inl rfl))
  | cons run later inductionHypothesis =>
    obtain ⟨limit, rfl⟩ := Nat.exists_eq_add_one_of_ne_zero (Nat.ne_of_gt (Nat.zero_lt_of_lt fewer))
    rw [List.forall_mem_cons] at each
    rw [List.flatten_cons, List.append_assoc]
    refine (each.1.reads deeper enough form unranged _).bind ?_
    rintro _ rfl
    have others := inductionHypothesis each.2 (Nat.lt_of_succ_lt_succ fewer)
      (by decide : Form.other ≠ .range)
    exact others.imp fun _ other => .inr (other.elim id id)

theorem length_le_countAll_trailers {runs : List Tokens}
    (each : ∀ run ∈ runs, ReadsTrailer depth run) : runs.length ≤ Token.countAll runs.flatten := by
  induction runs with
  | nil => exact Nat.le_refl _
  | cons run later inductionHypothesis =>
    rw [List.forall_mem_cons] at each
    have own := each.1.counted
    have others := inductionHypothesis each.2
    rw [List.length_cons, List.flatten_cons, Token.countAll_append]
    omega

theorem endsAtom_trailers {runs : List Tokens} (each : ∀ run ∈ runs, ReadsTrailer depth run)
    (ends : EndsOperand structures rest) : EndsAtom structures (runs.flatten ++ rest) := by
  cases runs with
  | nil => exact .operand ends
  | cons run later =>
    rw [List.flatten_cons, List.append_assoc]
    exact (each run List.mem_cons_self).follows structures _

/-- From the depth on, the grammar accepts the tokens as an atom with the property. -/
structure ReadsAtom (structures : Bool) (depth : Nat) (tokens : Tokens) (given : Form → Prop) :
    Prop where
  shows : ∀ rest, EndsAtom structures rest → ShowsOperand (tokens ++ rest)
  reads : Reads (atom · structures) depth tokens given (EndsAtom structures)

/-- From the depth on, the grammar accepts the tokens as an operand with the property. -/
abbrev ReadsOperand (structures : Bool) (depth : Nat) (tokens : Tokens) (given : Form → Prop) :
    Prop :=
  Reads (· (.unary structures)) depth tokens given (EndsOperand structures)

/-- An atom with calls is an operand. -/
theorem readsOperand_of_trailers {given : Form → Prop} (unranged : ¬ given .range)
    (atom : ReadsAtom structures depth tokens given) {runs : List Tokens}
    (each : ∀ run ∈ runs, ReadsTrailer depth run) :
    ReadsOperand structures (depth + 1) (tokens ++ runs.flatten)
      (fun form => given form ∨ form = .other) := by
  refine Reads.phrase (.unary structures) fun deeper enough rest ends => ?_
  rw [List.append_assoc]
  have follows := endsAtom_trailers each ends
  refine (atom.shows _ follows).accepts_unaryRule ((atom.reads deeper enough _ follows).bind ?_)
  intro form holds
  refine accepts_get fun reading remains => ?_
  rw [remains, Token.countAll_append]
  have fewer := length_le_countAll_trailers each
  refine (accepts_trailers each enough (by omega) (fun same => unranged (same ▸ holds)) ends).imp ?_
  rintro _ (rfl | rfl)
  · exact .inl holds
  · exact .inr rfl

/-- An atom alone is an operand. -/
theorem ReadsAtom.readsOperand {given : Form → Prop} (atom : ReadsAtom structures depth tokens given)
    (unranged : ¬ given .range) :
    ReadsOperand structures (depth + 1) tokens (fun form => given form ∨ form = .other) := by
  have operand := readsOperand_of_trailers unranged atom (List.forall_mem_nil _)
  rwa [List.flatten_nil, List.append_nil] at operand

/-! ### Expressions -/

/-- From the depth on, the grammar accepts the tokens as an expression; the flag tells whether
braces after a path belong to it. -/
abbrev ReadsExpression (structures : Bool) (depth : Nat) (tokens : Tokens) : Prop :=
  Reads (· (.expression structures)) depth tokens (fun _ => True) (EndsExpression structures)

theorem takes_operatorsRule (ends : EndsExpression structures rest) (inner : Bool)
    (base : Precedence) (form : Form) :
    Takes (operatorsRule recur inner base form) rest form rest := by
  obtain ⟨noOperator, noAssignment, noRange, noCast⟩ : binaryOperator rest = none ∧
      markBut "=" "=>" rest = false ∧ Lookahead.mark ".." rest = false ∧
      Lookahead.word "as" rest = false := by
    rcases ends with _ | _ | _ | _ <;> exact ⟨rfl, rfl, rfl, rfl⟩
  unfold operatorsRule
  split
  · exact takes_pure _ _
  · refine takes_get fun reading remains => ?_
    rw [remains, noOperator]
    exact .of_not_both _ noAssignment (.of_not_both _ noRange (.of_not_both _ noCast
      (takes_pure _ _)))

/-- Where no operator follows, what is read as an operand is an expression. -/
theorem readsExpression_of_unary
    (operand : Reads (· (.unary structures)) (depth + 1) tokens (fun _ => True)
      (EndsExpression structures)) :
    ReadsExpression structures (depth + 2) tokens := by
  refine Reads.phrase (.expression structures) fun deeper enough rest ends => ?_
  refine (operand deeper enough rest ends).bind fun form _ => ?_
  obtain ⟨below, rfl⟩ := Nat.exists_eq_add_of_le' (Nat.le_trans (Nat.le_add_left 1 depth) enough)
  exact (takes_operatorsRule ends structures .lowest form).passes

theorem ReadsOperand.readsExpression {given : Form → Prop}
    (operand : ReadsOperand structures (depth + 1) tokens given) :
    ReadsExpression structures (depth + 2) tokens :=
  readsExpression_of_unary ((operand.imp fun _ _ => trivial).before fun _ ends => .expression ends)

/-- What is read as an atom where an expression may end is an operand there. -/
theorem reads_unary_of_atom {given : Form → Prop} (shows : ∀ rest, ShowsOperand (tokens ++ rest))
    (read : Reads (atom · structures) depth tokens given (EndsExpression structures)) :
    Reads (· (.unary structures)) (depth + 1) tokens given (EndsExpression structures) := by
  refine Reads.phrase (.unary structures) fun deeper enough rest ends => ?_
  refine (shows rest).accepts_unaryRule ((read deeper enough rest ends).bind fun form holds => ?_)
  refine accepts_get fun _ _ => ?_
  exact (takes_trailer_of_endsOperand (.expression ends) form).accepts_bind (accepts_pure holds)

/-- So it is an expression. -/
theorem readsExpression_of_atom (shows : ∀ rest, ShowsOperand (tokens ++ rest))
    (read : Reads (atom · structures) depth tokens (fun _ => True) (EndsExpression structures)) :
    ReadsExpression structures (depth + 2) tokens :=
  readsExpression_of_unary (reads_unary_of_atom shows read)

/-- Nothing is no expression. -/
theorem ReadsExpression.ne_nil (reads : ReadsExpression structures depth tokens) : tokens ≠ [] := by
  rintro rfl
  have failed : phraseWithin (depth + 2) (.expression structures) ⟨[], 0, []⟩ =
      .error (.ended "expected an expression") := rfl
  obtain ⟨_, _, found, -⟩ := reads (depth + 2) (Nat.le_add_right depth 2) [] .ended ⟨[], 0, []⟩ rfl
  cases failed.symm.trans found

/-! ### Calls -/

section

variable {arguments : List Tokens}
  (each : ∀ argument ∈ arguments, ReadsExpression true depth argument)

include each

/-- Arguments are read in parentheses, with commas between them and perhaps after the last. -/
theorem takes_arguments (trailing : Bool) (filled : trailing = true → arguments ≠ [])
    (enough : depth ≤ deeper) (rest : Tokens) :
    Takes (callArguments (phraseWithin deeper)) (.parenthesized
      (Token.commaSeparated arguments ++ if trailing then [Token.comma] else []) :: rest) () rest := by
  refine Takes.enclosed (by decide) (takes_terminated trailing filled ?_ ?_) rest
  · exact fun argument member => (each argument member).ne_nil
  · exact fun argument member rest ends =>
      (each argument member deeper enough rest ends.endsExpression).discard

/-- A call is read after what is called. -/
theorem readsTrailer_call (trailing : Bool) (filled : trailing = true → arguments ≠ []) :
    ReadsTrailer depth [.parenthesized
      (Token.commaSeparated arguments ++ if trailing then [Token.comma] else [])] where
  counted := Nat.succ_pos _
  follows _ rest := .arguments _ rest
  reads _ enough _ _ rest :=
    .of_sees rfl ((takes_arguments each trailing filled enough rest).accepts_bind (accepts_pure rfl))

end

/-- A call of a method is read after the receiver, with type arguments or without. -/
theorem readsTrailer_method {name : Identifier} {types : Option (List Tokens)}
    {arguments : List Tokens} (ordinary : name.isKeyword = false)
    (given : ∀ listed ∈ types, ∀ type ∈ listed, ReadsInAngles depth type)
    (each : ∀ argument ∈ arguments, ReadsExpression true depth argument) :
    ReadsTrailer depth (.mark '.' false :: .word name ::
      (turbofish types ++ [.parenthesized (Token.commaSeparated arguments)])) where
  counted := by
    rw [Token.countAll]
    exact Nat.lt_add_right _ Nat.one_pos
  follows _ rest := .member _
  reads deeper enough form unranged rest := by
    have call := takes_arguments each false nofun enough rest
    rw [if_neg Bool.false_ne_true, List.append_nil] at call
    have noPair (more : Tokens) :
        Takes memberPair (.word name :: more) false (.word name :: more) := by
      rintro ⟨_, position, written⟩ rfl
      exact ⟨_, rfl, rfl⟩
    refine .of_not_sees rfl ((takes_sees _ _).accepts_bind ?_)
    rw [bne_iff_ne.mpr unranged]
    show Accepts (Reader.mark "." >>= _) _ _ _
    refine (takes_mark rfl false _).accepts_bind ((noPair _).accepts_bind ?_)
    refine (takes_optionalWord_of_absent ?_).accepts_bind ?_
    · exact word_of_ordinary ordinary (by decide) _
    refine (takes_member ordinary _).accepts_bind ((takes_sees _ _).accepts_bind ?_)
    cases types with
    | none =>
      refine (takes_sees _ _).accepts_bind ?_
      exact call.accepts_bind (accepts_pure rfl)
    | some listed =>
      have applied := passes_turbofish (given listed rfl) enough
        (.parenthesized (Token.commaSeparated arguments) :: rest)
      rw [← List.singleton_append, ← List.append_assoc] at applied
      show Accepts (angled (phraseWithin deeper) >>= _) _ _ _
      refine applied.bind fun _ _ => (takes_write _ _).accepts_bind ?_
      exact call.accepts_bind (accepts_pure rfl)

/-! ### Paths -/

/-- Where the run shows a path, what is read as one is an atom. -/
theorem ReadsQualifiedPath.readsAtom (read : ReadsQualifiedPath depth tokens)
    (shows : ∀ rest, endsPath rest = true →
      ShowsPathExpression (tokens ++ rest) ∧ ShowsOperand (tokens ++ rest)) :
    ReadsAtom structures depth tokens (· = .path) where
  shows rest ends := (shows rest ends.endsPath).2
  reads deeper enough rest ends :=
    (shows rest ends.endsPath).1.accepts_atom
      (accepts_pathExpression (read deeper enough rest ends.endsPath) ends)

section

variable {types : Option (List Tokens)}
  (given : ∀ listed ∈ types, ∀ type ∈ listed, ReadsInAngles depth type)

include given

/-- A name is an atom, with type arguments or without. -/
theorem readsAtom_name {name : QualifiedName} (ordinary : name.Ordinary) :
    ReadsAtom structures depth (name.tokens ++ turbofish types) (· = .path) := by
  refine (readsQualifiedPath_name given ordinary).readsAtom fun rest ends => ?_
  have unattributed : Lookahead.mark "#" (turbofish types ++ rest) = false := by
    cases types with
    | none => exact mark_eq_false_of_endsPath ends rfl rfl
    | some listed => rfl
  rw [List.append_assoc]
  exact ⟨showsPathExpression_name ordinary unattributed, showsOperand_name ordinary _⟩

/-- A name of a type that is seen as a trait is an atom. -/
theorem readsAtom_qualified {type : Tokens} {trait : QualifiedName} {name : Identifier}
    (read : ReadsPathType depth type) (seen : trait.Ordinary) (ordinary : name.isKeyword = false) :
    ReadsAtom structures depth
      (Code.angled (type ++ [.plain "as"] ++ trait.tokens) ++ Token.pathSeparator ++
        (.word name :: turbofish types)) (· = .path) :=
  (readsQualifiedPath_qualified given read seen ordinary).readsAtom fun _ _ =>
    ⟨showsPathExpression_less _, rfl, rfl⟩

end

/-- A name alone is an atom. -/
theorem readsAtom_bare {name : QualifiedName} (ordinary : name.Ordinary) :
    ReadsAtom structures depth name.tokens (· = .path) := by
  have atom : ReadsAtom structures depth (name.tokens ++ turbofish none) (· = .path) :=
    readsAtom_name (by simp) ordinary
  rwa [turbofish, List.append_nil] at atom

/-! ### Literals -/

theorem readsAtom_literal (text : String) :
    ReadsAtom structures depth [.literal text] (· = .other) where
  shows _ _ := ⟨rfl, rfl⟩
  reads _ _ rest _ := by
    have taken : Takes Reader.literal (.literal text :: rest) text rest := by
      rintro ⟨_, _, _⟩ rfl
      exact ⟨_, rfl, rfl⟩
    exact .of_not_sees rfl (.of_sees rfl (taken.discard.accepts_bind (accepts_pure rfl)))

/-! ### Structures and pairs -/

/-- The fields of a structure are read, each after its label. -/
theorem takes_fieldValues {items : List (Identifier × Tokens)}
    (each : ∀ item ∈ items, item.1.isKeyword = false ∧ ReadsExpression true depth item.2)
    (enough : depth ≤ deeper) :
    Takes (fieldValues (phraseWithin deeper)) (Token.commaSeparated (items.map labelledTokens))
      () [] := by
  have value (item : Identifier × Tokens) (member : item ∈ items) (rest : Tokens)
      (ends : EndsItem rest) :
      Takes (discard (expression (phraseWithin deeper))) (item.2 ++ rest) () rest :=
    ((each item member).2 deeper enough rest ends.endsExpression).discard
  rw [← List.append_nil (Token.commaSeparated _)]
  refine takes_loop_items (.of_sees rfl (takes_pure _ _)) ?_ ?_
  · refine List.forall_mem_map.mpr fun item member => .of_not_sees rfl (.of_not_sees rfl ?_)
    refine (takes_outerAttributes_of_absent rfl).discard.bind ?_
    refine (takes_member (each item member).1 _).bind ((takes_sees _ _).bind ?_)
    refine (takes_mark rfl false _).bind ((value item member _ .ended).bind ?_)
    exact .of_sees rfl (takes_pure _ _)
  · refine List.forall_mem_map.mpr fun item member rest => .of_not_sees rfl (.of_not_sees rfl ?_)
    refine (takes_outerAttributes_of_absent rfl).discard.bind ?_
    refine (takes_member (each item member).1 _).bind ((takes_sees _ _).bind ?_)
    refine (takes_mark rfl false _).bind ((value item member _ (.comma rest)).bind ?_)
    exact .of_not_sees rfl ((takes_mark rfl false rest).bind (takes_pure _ _))

/-- A name with fields in braces is an atom. -/
theorem readsAtom_structure {name : QualifiedName} (ordinary : name.Ordinary)
    {items : List (Identifier × Tokens)}
    (each : ∀ item ∈ items, item.1.isKeyword = false ∧ ReadsExpression true depth item.2) :
    ReadsAtom true depth
      (name.tokens ++ [.braced (Token.commaSeparated (items.map labelledTokens))]) (· = .other) where
  shows rest _ := by
    rw [List.append_assoc]
    exact showsOperand_name ordinary _
  reads deeper enough rest _ := by
    rw [List.append_assoc]
    refine (showsPathExpression_name ordinary rfl).accepts_atom ?_
    exact accepts_pathExpression_structure (readsQualifiedPath_bare ordinary deeper enough _ rfl)
      (takes_fieldValues each enough)

/-- Expressions in parentheses are an atom. -/
theorem readsAtom_parenthesized {items : List Tokens}
    (each : ∀ item ∈ items, ReadsExpression true depth item) :
    ReadsAtom structures depth [.parenthesized (Token.commaSeparated items)] (· = .other) where
  shows _ _ := ⟨rfl, rfl⟩
  reads deeper enough rest _ := by
    have content := takes_arguments each false nofun enough rest
    rw [if_neg Bool.false_ne_true, List.append_nil] at content
    refine .of_not_sees rfl <| .of_not_sees rfl <| .of_not_sees rfl <| .of_not_sees rfl <|
      .of_not_sees rfl <| .of_not_sees rfl <| .of_not_sees rfl <| .of_sees rfl ?_
    exact content.accepts_bind (accepts_pure rfl)

/-! ### Closures -/

/-- An argument of a closure, its name perhaps after `mut`, with its type. -/
def parameterTokens (mutable : Bool) (name : Identifier) (type : Tokens) : Tokens :=
  (if mutable then [.plain "mut"] else []) ++ [.word name] ++ Token.colon :: type

/-- From the depth on, the grammar accepts the tokens as an argument of a closure. -/
structure ReadsParameter (depth : Nat) (tokens : Tokens) : Prop where
  unfinished : ∀ rest, Lookahead.mark "|" (tokens ++ rest) = false
  reads : Reads closureArgument depth tokens (fun _ => True) EndsType

theorem readsParameter {name : Identifier} {type : Tokens} (mutable : Bool)
    (ordinary : name.isKeyword = false) (read : ReadsType depth type) :
    ReadsParameter (depth + 1) (parameterTokens mutable name type) where
  unfinished rest := by cases mutable <;> rfl
  reads deeper enough rest ends := by
    have named := reads_pattern_name ordinary mutable deeper
      (Nat.le_trans (Nat.le_add_left 1 depth) enough) (Token.colon :: (type ++ rest)) rfl
    have typed := read.written (Nat.le_of_succ_le enough) ends
    have unattributed : Lookahead.mark "#" (parameterTokens mutable name type ++ rest) = false := by
      cases mutable <;> rfl
    have attributes : (captured (discard (outerAttributes (phraseWithin deeper)))).Passes
        (parameterTokens mutable name type ++ rest) (parameterTokens mutable name type ++ rest) :=
      Accepts.captured ((takes_outerAttributes_of_absent unattributed).discard.accepts trivial)
    refine attributes.bind fun _ _ => ?_
    rw [parameterTokens, List.append_assoc]
    refine named.capture.bind fun _ _ => (takes_sees _ _).accepts_bind ?_
    rw [show Lookahead.mark ":" (Token.colon :: (type ++ rest)) = true from rfl, Bool.or_true]
    refine (takes_write _ _).accepts_bind ((takes_write _ _).accepts_bind ?_)
    exact (takes_mark rfl false _).accepts_bind (typed.accepts trivial)

/-- Arguments of a closure are read up to the `|` after them. -/
theorem takes_parameters {parameters : List Tokens}
    (each : ∀ parameter ∈ parameters, ReadsParameter depth parameter) (enough : depth ≤ deeper)
    (rest : Tokens) :
    Takes (separatedUntil "," (.mark "|") (closureArgument (phraseWithin deeper)))
      (Token.commaSeparated parameters ++ .mark '|' false :: rest) () (.mark '|' false :: rest) := by
  have argument (parameter : Tokens) (member : parameter ∈ parameters) {later : Tokens}
      (ends : EndsType later) :
      Takes (closureArgument (phraseWithin deeper)) (parameter ++ later) () later :=
    ((each parameter member).reads deeper enough later ends).takes
  refine takes_loop_items (.of_sees rfl (takes_pure _ _)) ?_ ?_
  · intro parameter member
    refine .of_not_sees ((each parameter member).unfinished _) ?_
    exact (argument parameter member (.bar rest)).bind (takes_optionalMark_of_absent rfl)
  · intro parameter member later
    refine .of_not_sees ((each parameter member).unfinished _) ?_
    refine (argument parameter member (.borders (.comma later))).bind ?_
    exact .of_sees rfl ((takes_mark rfl false later).bind (takes_pure _ _))

/-- A function that takes its surroundings by value is an expression; what follows ends its body. -/
theorem readsExpression_anonymousFunction {parameters : List Tokens} {body : Tokens}
    (each : ∀ parameter ∈ parameters, ReadsParameter depth parameter)
    (read : ReadsExpression true depth body)
    (unarrowed : ∀ rest, Lookahead.mark "->" (body ++ rest) = false) :
    ReadsExpression true (depth + 2)
      (Code.anonymousFunction (Token.commaSeparated parameters) body) := by
  refine readsExpression_of_atom (fun _ => ⟨rfl, rfl⟩) fun deeper enough rest ends => ?_
  have tokens : Code.anonymousFunction (Token.commaSeparated parameters) body ++ rest =
      .plain "move" :: .mark '|' false ::
        (Token.commaSeparated parameters ++ .mark '|' false :: (body ++ rest)) := by
    simp [Code.anonymousFunction]
  rw [tokens]
  refine .of_not_sees rfl <| .of_not_sees rfl <| .of_not_sees rfl <| .of_not_sees rfl <|
    .of_sees rfl ?_
  have absent {text : String} {tokens : Tokens} (absent : Lookahead.word text tokens = false) :
      Takes (discard (optionalWord text)) tokens () tokens :=
    (takes_optionalWord_of_absent absent).discard
  have noBinder {tokens : Tokens} (absent : Lookahead.word "for" tokens = false) :
      Takes (binder (phraseWithin deeper)) tokens false tokens :=
    (takes_optionalWord_of_absent absent).bind (takes_pure _ _)
  refine (noBinder rfl).discard.accepts_bind ((absent rfl).accepts_bind ?_)
  refine (absent rfl).accepts_bind ((absent rfl).accepts_bind ?_)
  refine (takes_optionalWord "move" _).discard.accepts_bind ?_
  refine (takes_mark rfl false _).accepts_bind ((takes_parameters each enough _).accepts_bind ?_)
  refine (takes_mark rfl false _).accepts_bind (.of_not_sees (unarrowed rest) ?_)
  exact (read deeper enough rest ends).discard.accepts_bind (accepts_pure trivial)

/-! ### Blocks, references and returns -/

/-- What is in braces where an operand may stand is read as a block. -/
theorem atom_braced (content rest written : Tokens) (position : Nat) :
    atom recur structures ⟨.braced content :: rest, position, written⟩ =
      (do block recur; return Form.blockLike) ⟨.braced content :: rest, position, written⟩ :=
  rfl

theorem readsExpression_block {content : Tokens}
    (read : Reads block depth [.braced content] (fun _ => True) fun _ => True) :
    ReadsExpression structures (depth + 2) [.braced content] := by
  refine readsExpression_of_atom (fun _ => ⟨rfl, rfl⟩) fun deeper enough rest _ => ?_
  show (atom (phraseWithin deeper) structures).Passes _ _
  rintro ⟨_, position, written⟩ rfl
  rw [List.singleton_append, atom_braced]
  exact ((read deeper enough rest trivial).bind fun _ _ => accepts_pure trivial) _ rfl

/-- A reference to a local is an expression. -/
theorem readsExpression_reference {name : Identifier} (ordinary : name.isKeyword = false)
    (other : name ≠ .plain "raw") (mutable : Bool) :
    ReadsExpression structures 3
      (.mark '&' false :: ((if mutable then [.plain "mut"] else []) ++ [.word name])) := by
  have operand : ReadsOperand structures 1 [.word name] _ :=
    (readsAtom_bare (.of_single ordinary)).readsOperand nofun
  have unraw (rest : Tokens) (seconds : Lookahead) :
      and (.word "raw") seconds (.word name :: rest) = false := by
    show ((name == .plain "raw") && _) = false
    rw [beq_eq_false_iff_ne.mpr other, Bool.false_and]
  have immutable (rest : Tokens) : Lookahead.word "mut" (.word name :: rest) = false :=
    word_of_ordinary ordinary (by decide) rest
  refine readsExpression_of_unary (Reads.phrase (.unary structures) fun deeper enough rest ends => ?_)
  have named := (operand deeper enough rest (.expression ends)).discard
  have operator : Takes unaryOperator
      (.mark '&' false :: ((if mutable then [.plain "mut"] else []) ++ [.word name]) ++ rest) ()
      ([.word name] ++ rest) := by
    refine .of_sees rfl ((takes_mark rfl false _).bind ?_)
    cases mutable with
    | true => exact .of_not_sees rfl (takes_optionalWord "mut" _).discard
    | false =>
      exact .of_not_sees (unraw _ _) (takes_optionalWord_of_absent (immutable rest)).discard
  refine (Accepts.verbatimIf ?_ : (unaryRule (phraseWithin deeper) structures).Passes _ _)
  refine (takes_operandAttributes rfl).accepts_bind ?_
  refine .of_sees rfl ?_
  exact operator.accepts_bind (named.accepts_bind (accepts_pure trivial))

/-- What is returned is an expression. -/
theorem reads_atom_return {value : Tokens} (read : ReadsExpression true depth value)
    (starts : ∀ rest, startsExpression (value ++ rest) = true) :
    Reads (atom · structures) depth (.plain "return" :: value) (· = .other)
      (EndsExpression true) := by
  intro deeper enough rest ends
  refine .of_not_sees rfl <| .of_not_sees rfl <| .of_not_sees rfl <| .of_not_sees rfl <|
    .of_not_sees rfl <| .of_not_sees rfl <| .of_not_sees rfl <| .of_not_sees rfl <|
    .of_sees rfl ?_
  refine .of_not_sees rfl ((takes_optionalWord_of_absent rfl).accepts_bind (.of_not_sees rfl ?_))
  refine (takes_anyWord _ _).discard.accepts_bind ?_
  have returned : (optionalValue (phraseWithin deeper)).Passes (value ++ rest) rest :=
    .of_sees (starts rest) (read deeper enough rest ends).discard.passes
  exact returned.bind fun _ _ => accepts_pure rfl

end Grammar

end Fieldwise
