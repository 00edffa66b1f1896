/-
This file says that the statements of a loop are the inside of a block. What a declaration gives to
them are types and names, and the length of an array; the grammar accepts them where it accepts the
types, the names are no keywords and the length stays in one piece.
-/

import Fieldwise.Proofs.CodeCalls

namespace Fieldwise

open Grammar Reader Lookahead
open Code (localName)

/-! ### What loops run over -/

namespace LoopItems

variable {items : LoopItems} {depth : Nat} {focus : Tokens}

/-- From the depth on, the grammar accepts the type of the keys, which opens with no lifetime. -/
def Readable (depth : Nat) : LoopItems → Prop
  | .elements => True
  | .entries key => ReadsType depth key.tokens ∧ Lookahead.lifetime key.tokens = false

theorem readsType_slotType (readable : items.Readable depth) (read : ReadsType depth focus) :
    ReadsType (depth + 1) (items.slotType focus) := by
  cases items with
  | elements => exact read.mono (Nat.le_succ depth)
  | entries key => exact (readsPathType_pair readable.1 read readable.2).readsType

theorem readsAlternatives_pattern (items : LoopItems) : ReadsAlternatives 2 items.pattern := by
  have name (text : String) (ordinary : (Identifier.plain text).isKeyword = false) :
      ReadsAlternatives 1 (localName text) := readsAlternatives_name ordinary
  cases items with
  | elements => exact (name "__element" (by decide)).mono (Nat.le_succ 1)
  | entries key =>
    refine (readsPattern_parenthesized ?_).alternatives fun _ => rfl
    exact List.forall_mem_cons.mpr ⟨name "__key" (by decide),
      List.forall_mem_singleton.mpr (name "__element" (by decide))⟩

theorem opensParameters_pattern (items : LoopItems) (rest : Tokens) :
    opensParameters (items.pattern ++ rest) = false := by
  cases items <;> rfl

theorem readsExpression_slot (items : LoopItems) : ReadsExpression true 4 items.slot := by
  have name (text : String) (ordinary : (Identifier.plain text).isKeyword = false) :
      ReadsExpression true 2 (localName text) := readsExpression_word ordinary
  cases items with
  | elements => exact (name "__value" (by decide)).mono (by decide)
  | entries key =>
    refine ReadsOperand.readsExpression ((readsAtom_parenthesized ?_).readsOperand nofun)
    exact List.forall_mem_cons.mpr ⟨name "__key" (by decide),
      List.forall_mem_singleton.mpr (name "__value" (by decide))⟩

end LoopItems

namespace Body

variable {body : Body} {depth : Nat} {replacement : Tokens}

/-- From the depth on, the grammar accepts what a declaration gives to every body: the type of the
focused values and the names. The runtime is the one that no attribute gives. -/
structure Readable (depth : Nat) (body : Body) : Prop where
  enough : 4 ≤ depth
  default : body.context.runtime = defaultRuntime
  ordinary : body.rebuild.aggregate.Ordinary
  focus : ReadsType depth body.focusType

theorem Readable.mono {deeper : Nat} (readable : body.Readable depth) (le : depth ≤ deeper) :
    body.Readable deeper :=
  ⟨Nat.le_trans readable.enough le, readable.default, readable.ordinary, readable.focus.mono le⟩

/-! ### The aggregate -/

theorem Readable.self (readable : body.Readable depth) : ReadsType depth body.selfType := by
  have enough := readable.enough
  exact (readsPathType_selfType readable.ordinary.named readable.ordinary.parameters).readsType.mono
    (by omega)

theorem readsStatement_destructureTokens (readable : body.Readable depth) :
    ReadsStatement depth body.destructureTokens := by
  have enough := readable.enough
  have pattern : ReadsPattern 2 (body.rebuild.aggregate.listing fun field =>
      [.word field.name.binding]) :=
    readsPattern_listing readable.ordinary fun field _ =>
      readsAlternatives_name field.name.ordinary_binding
  have tokens : body.destructureTokens = Code.letTokens
      (body.rebuild.aggregate.listing fun field => [.word field.name.binding])
      [.word Context.source] := by
    rw [destructureTokens, Reconstruction.destructureTokens_eq, Code.letTokens]
    simp only [List.append_assoc]
    rfl
  rw [tokens]
  exact readsStatement_let (pattern.mono (by omega))
    ((readsExpression_word (by decide)).mono (by omega))

/-- The expression for the aggregate is read two levels above the replacement in it. -/
theorem readsExpression_rebuilt (ordinary : body.rebuild.aggregate.Ordinary) (enough : 2 ≤ depth)
    (read : ReadsExpression true depth replacement) :
    ReadsExpression true (depth + 2) (body.rebuild.tokens replacement) := by
  rw [Reconstruction.tokens_eq]
  refine readsExpression_listing ordinary fun field _ => ?_
  split
  · exact read
  · exact (readsExpression_word field.name.ordinary_binding).mono enough

theorem readsExpression_unchanged (ordinary : body.rebuild.aggregate.Ordinary) :
    ReadsExpression true 4 body.rebuild.unchangedTokens :=
  readsExpression_rebuilt ordinary (Nat.le_refl 2)
    (readsExpression_word body.rebuild.target.name.ordinary_binding)

/-- No arrow follows the arguments of a closure that puts the aggregate together. -/
theorem unarrowed_rebuilt (body : Body) (replacement rest : Tokens) :
    Lookahead.mark "->" (body.rebuild.tokens replacement ++ rest) = false := by
  rw [Reconstruction.tokens_eq, Aggregate.listing]
  split <;> rfl

/-- An effect whose value goes into the aggregate may end a body. -/
theorem readsLeading_rebuild {name : String} {source effect : Tokens}
    (readable : body.Readable depth) (ordinary : (Identifier.plain name).isKeyword = false)
    (typed : ReadsType depth source) (handed : ReadsExpression true depth effect)
    (read : ReadsExpression true depth replacement) :
    ReadsLeading (depth + 6) (body.context.mapTokens source body.selfType effect
      (Code.anonymousFunction (Code.typed name source) (body.rebuild.tokens replacement))) := by
  have enough := readable.enough
  have rebuilt : ReadsExpression true (depth + 2) _ :=
    readsExpression_rebuilt readable.ordinary (by omega) read
  have parameter : ReadsParameter (depth + 2) (parameterTokens false _ _) :=
    readsParameter false ordinary (typed.mono (Nat.le_succ depth))
  have closure := readsExpression_anonymousFunction (List.forall_mem_singleton.mpr parameter) rebuilt
    (body.unarrowed_rebuilt _)
  have put : ReadsOperand true (depth + 4 + 1) _ _ := body.context.readsOperand_map
    readable.default (by omega) (typed.mono (by omega)) (readable.self.mono (by omega))
    (handed.mono (by omega)) closure
  exact put.readsLeading (Nat.succ_pos _) fun _ => showsLeading_less _

/-! ### Loops -/

/-- From the depth on, the grammar accepts what a declaration gives to the gathering of values: the
length of an array, which stays in one piece, or the declared type. -/
def Gathers (depth : Nat) (body : Body) : Gathering → Prop
  | .list => True
  | .array length =>
    staysTogether length = true ∧ Reads expression depth length (fun _ => True) (· = [])
  | .declared => ReadsType depth body.fieldType

theorem readsExpression_values : ReadsExpression true 2 (localName "__values") :=
  readsExpression_word (by decide)

/-- A length may be an argument of the function that fills an array. -/
theorem readsExpression_collectArray {length : Tokens} (readable : body.Readable depth)
    (together : staysTogether length = true)
    (read : Reads expression depth length (fun _ => True) (· = [])) :
    ReadsExpression true (depth + 4)
      (body.collectTokens (.array length) (localName "__values")) := by
  obtain ⟨below, rfl⟩ := Nat.exists_eq_add_of_le' (Nat.le_trans (by decide : 1 ≤ 4) readable.enough)
  have listed : ∀ type ∈ [body.focusType, [.braced length]], ReadsInAngles (below + 3) type :=
    List.forall_mem_cons.mpr ⟨readable.focus.readsInAngles.mono (by omega),
      List.forall_mem_singleton.mpr (readsInAngles_length together read)⟩
  have called : ReadsOperand true (below + 3 + 1) (_ ++ turbofish (some _) ++
      [.parenthesized (Token.commaSeparated [localName "__values"])]) _ :=
    readsOperand_named (List.forall_mem_singleton.mpr (readsExpression_values.mono (by omega)))
      (Context.ordinary_runtime ["__private", "collect_array"] (by decide))
      (by rintro _ ⟨⟩; exact listed)
  rw [← Context.runtimeName_eq readable.default, turbofish] at called
  rw [collectTokens]
  simp only [← List.append_assoc] at called ⊢
  exact called.readsExpression

theorem readsExpression_collectDeclared (declared : ReadsType depth body.fieldType) :
    ReadsExpression true (depth + 2) (body.collectTokens .declared (localName "__values")) := by
  have trailers : ∀ run ∈ [.mark '.' false :: .word (.plain "into_iter") ::
        (turbofish none ++ [.parenthesized (Token.commaSeparated [])]),
      .mark '.' false :: .word (.plain "collect") ::
        (turbofish (some [body.fieldType]) ++ [.parenthesized (Token.commaSeparated [])])],
      ReadsTrailer depth run :=
    List.forall_mem_cons.mpr ⟨readsTrailer_method (by decide) nofun (List.forall_mem_nil _),
      List.forall_mem_singleton.mpr (readsTrailer_method (by decide)
        (by rintro _ ⟨⟩; exact List.forall_mem_singleton.mpr declared.readsInAngles)
        (List.forall_mem_nil _))⟩
  have values : ReadsAtom true depth (localName "__values") _ :=
    readsAtom_bare (.of_single (by decide))
  have operand := readsOperand_of_trailers nofun values trailers
  rw [List.flatten_cons, List.flatten_singleton] at operand
  rw [collectTokens, Code.method]
  simp only [turbofish, List.nil_append, List.append_assoc] at operand ⊢
  exact operand.readsExpression

theorem readsExpression_collectTokens {gathering : Gathering} (readable : body.Readable depth)
    (gathers : body.Gathers depth gathering) :
    ReadsExpression true (depth + 4) (body.collectTokens gathering (localName "__values")) := by
  cases gathering with
  | list => exact (readsExpression_word (by decide)).mono (by omega)
  | array length => exact readsExpression_collectArray readable gathers.1 gathers.2
  | declared => exact (readsExpression_collectDeclared gathers).mono (by omega)

end Body

/-! ### Statements of loops -/

/-- The function is applied to one element. -/
theorem Body.readsExpression_applied :
    ReadsExpression true 4 (Body.applied (localName "__element")) := by
  have element : ReadsExpression true 2 (localName "__element") := readsExpression_word (by decide)
  have called : ReadsOperand true 3 (_ ++ turbofish none ++ _) _ :=
    readsOperand_named (List.forall_mem_singleton.mpr element)
      (.of_single (by decide : Context.function.isKeyword = false)) nofun
  exact called.readsExpression

section

variable {depth : Nat} {type value : Tokens}

/-- A value may be returned as an effect. -/
theorem Context.readsBlock_return {context : Context} (default : context.runtime = defaultRuntime)
    (enough : 2 ≤ depth) (typed : ReadsType depth type) (read : ReadsExpression true depth value) :
    ReadsBlock (depth + 5)
      ([.plain "return"] ++ context.pureTokens type value ++ [.semicolon]) := by
  have effect : ReadsExpression true (depth + 2) (context.pureTokens type value) :=
    (context.readsOperand_pure default enough typed read).readsExpression
  have returned : Reads (atom · true) (depth + 2) (.plain "return" :: context.pureTokens type value)
      (· = .other) (Token.EndsExpression true) :=
    reads_atom_return effect fun _ => rfl
  have operand : Reads (· (.unary true)) (depth + 3) _ (· = .other) (Token.EndsExpression true) :=
    reads_unary_of_atom (fun _ => ⟨rfl, rfl⟩) returned
  have leading : ReadsLeading (depth + 4) (.plain "return" :: context.pureTokens type value) :=
    readsLeading_of_operand (Nat.succ_pos _) (fun _ => ⟨rfl, rfl, rfl, rfl⟩)
      (by rintro _ rfl; exact ⟨by decide, by decide⟩) operand
  have statement : ReadsStatement (depth + 4) _ :=
    leading.readsStatement (showsStatement_plain
      (fun _ => takes_upcomingKind fun _ _ => ⟨_, rfl⟩) (by decide))
  exact statement.alone.readsBlock rfl

/-- A closure may add a value to those collected before. -/
theorem readsExpression_push {collected focus slot : Tokens}
    (collects : ReadsType depth collected) (focused : ReadsType depth focus)
    (read : ReadsExpression true depth slot) :
    ReadsExpression true (depth + 7) (Code.anonymousFunction
      ([.plain "mut"] ++ Code.typed "__values" collected ++ [.comma] ++ Code.typed "__value" focus)
      [.braced (Code.method (localName "__values") "push" slot ++ [.semicolon] ++
        localName "__values")]) := by
  have push : ReadsOperand true (depth + 1) (Code.method (localName "__values") "push" slot) _ :=
    readsOperand_method (List.forall_mem_singleton.mpr read) (by decide) (by decide)
  have values : ReadsOperand true 1 (localName "__values") _ :=
    (readsAtom_bare (.of_single (by decide))).readsOperand nofun
  have statement : ReadsStatement (depth + 2) (_ ++ [.semicolon]) :=
    (push.readsLeading (Nat.succ_pos depth) fun _ => showsLeading_word (by decide) _).readsStatement
      (showsStatement_plain (fun _ => takes_upcomingKind fun _ _ => ⟨_, rfl⟩) (by decide))
  have named : ReadsLeading 2 (localName "__values") :=
    values.readsLeading Nat.one_pos fun _ => showsLeading_word (by decide) _
  have last : ReadsStatements (depth + 2) (localName "__values") :=
    ReadsLeading.readsStatements (named.mono (Nat.le_add_left 2 depth)) (List.cons_ne_nil _ _)
      ⟨rfl, rfl, rfl⟩ (takes_upcomingKind fun _ _ => ⟨_, rfl⟩)
  have block : ReadsBlock (depth + 3) _ := (ReadsStatements.next statement last).readsBlock rfl
  have parameters : ∀ parameter ∈ [parameterTokens true (.plain "__values") collected,
      parameterTokens false (.plain "__value") focus], ReadsParameter (depth + 5) parameter :=
    List.forall_mem_cons.mpr
      ⟨readsParameter true (by decide) (collects.mono (Nat.le_add_right depth 4)),
        List.forall_mem_singleton.mpr
          (readsParameter false (by decide) (focused.mono (Nat.le_add_right depth 4)))⟩
  have closure := readsExpression_anonymousFunction parameters (readsExpression_block (block true))
    fun _ => rfl
  exact closure

/-- A round of a loop may add the value of one element to those collected before. -/
theorem Context.readsBlock_round {context : Context} {collected focus slot : Tokens}
    (default : context.runtime = defaultRuntime) (collects : ReadsType depth collected)
    (focused : ReadsType depth focus) (read : ReadsExpression true depth slot) :
    ReadsBlock (depth + 12) (localName "__acc" ++ [.equals] ++
      context.map2Tokens collected focus collected (localName "__acc")
        (Body.applied (localName "__element")) (Code.anonymousFunction
          ([.plain "mut"] ++ Code.typed "__values" collected ++ [.comma] ++
            Code.typed "__value" focus)
          [.braced (Code.method (localName "__values") "push" slot ++ [.semicolon] ++
            localName "__values")]) ++ [.semicolon]) := by
  have accumulated : ReadsExpression true 2 (localName "__acc") := readsExpression_word (by decide)
  have joined : ReadsOperand true (depth + 7 + 1) _ _ := context.readsOperand_map2 default
    (Nat.le_add_left 2 (depth + 5)) (collects.mono (by omega)) (focused.mono (by omega))
    (collects.mono (by omega)) (accumulated.mono (by omega))
    (Body.readsExpression_applied.mono (by omega)) (readsExpression_push collects focused read)
  have assignment : ReadsLeading (depth + 11) (.plain "__acc" :: .equals :: _) :=
    readsLeading_assignment (by decide) (Nat.succ_pos _)
      ((joined.before fun _ ends => .expression ends).imp fun _ _ => trivial)
  have statement : ReadsStatement (depth + 11) (_ ++ [.semicolon]) :=
    assignment.readsStatement
      (showsStatement_plain (fun _ => takes_upcomingKind fun _ _ => ⟨_, rfl⟩) (by decide))
  exact statement.alone.readsBlock rfl

end

namespace Body

variable {body : Body} {depth : Nat} {items : LoopItems} {gathering : Gathering}

theorem readsExpression_target (structures : Bool) :
    ReadsExpression structures 2 body.targetTokens :=
  readsExpression_word body.rebuild.target.name.ordinary_binding

/-- The type of the collected values. -/
def collectedType (body : Body) (items : LoopItems) : Tokens :=
  Code.rooted ["std", "vec", "Vec"] ++ Code.angled (items.slotType body.focusType)

theorem Readable.collected (readable : body.Readable depth) (keys : items.Readable depth) :
    ReadsType (depth + 2) (body.collectedType items) := by
  have argument := items.readsType_slotType keys readable.focus
  have vector : (QualifiedName.mk true (["std", "vec", "Vec"].map .plain)).Ordinary :=
    ⟨List.cons_ne_nil _ _, by decide⟩
  have applied : ReadsPathType (depth + 1 + 1)
      (_ ++ Code.angled (_ ++ if false = true then _ else _)) :=
    readsPathType_applied vector (List.forall_mem_singleton.mpr argument.readsInAngles) nofun
  rw [if_neg Bool.false_ne_true, List.append_nil, ← Code.rooted_eq] at applied
  exact applied.readsType

/-- An empty field is passed on unchanged. -/
theorem readsStatement_guard (readable : body.Readable depth) :
    ReadsStatement (depth + 6) (.plain "if" :: (Code.method body.targetTokens "is_empty" [] ++
      [.braced ([.plain "return"] ++
        body.context.pureTokens body.selfType body.rebuild.unchangedTokens ++ [.semicolon])])) := by
  have enough := readable.enough
  have test : ReadsOperand false 1 (Code.method body.targetTokens "is_empty" []) _ :=
    readsOperand_method (List.forall_mem_nil _) body.rebuild.target.name.ordinary_binding (by decide)
  have unchanged := (readsExpression_unchanged readable.ordinary).mono enough
  exact readsStatement_conditional (test.readsExpression.mono (by omega))
    (body.context.readsBlock_return readable.default (by omega) readable.self unchanged)

/-- The collecting starts with nothing. -/
theorem readsStatement_start (readable : body.Readable depth) (keys : items.Readable depth) :
    ReadsStatement (depth + 4) (Code.letTokens [.plain "mut", .plain "__acc"]
      (body.context.pureTokens (body.collectedType items)
        (Code.rooted ["std", "vec", "Vec"] ++ Token.pathSeparator ++ [.plain "with_capacity",
          .parenthesized (Code.method body.targetTokens "len" [])]))) := by
  have enough := readable.enough
  have pattern : ReadsPattern 1 [.plain "mut", .plain "__acc"] :=
    (reads_pattern_name (by decide) true).before fun _ ends => endsName_of_endsPattern ends
  have length : ReadsOperand true 1 (Code.method body.targetTokens "len" []) _ :=
    readsOperand_method (List.forall_mem_nil _) body.rebuild.target.name.ordinary_binding (by decide)
  have capacity : ReadsOperand true 3 (_ ++ turbofish none ++ _) _ :=
    readsOperand_named (List.forall_mem_singleton.mpr length.readsExpression)
      (⟨List.cons_ne_nil _ _, by decide⟩ : (QualifiedName.mk true
        (["std", "vec", "Vec", "with_capacity"].map .plain)).Ordinary) nofun
  have start : ReadsOperand true (depth + 3) _ _ := body.context.readsOperand_pure readable.default
    (Nat.le_add_left 2 depth) (readable.collected keys) (capacity.readsExpression.mono (by omega))
  exact readsStatement_let (pattern.mono (by omega)) start.readsExpression

/-- In the end the values are gathered, and the aggregate is put together. -/
theorem readsLeading_gather (readable : body.Readable depth) (keys : items.Readable depth)
    (gathers : body.Gathers depth gathering) :
    ReadsLeading (depth + 10) (body.context.mapTokens (body.collectedType items) body.selfType
      (localName "__acc") (Code.anonymousFunction (Code.typed "__values" (body.collectedType items))
        (body.rebuild.tokens (body.collectTokens gathering (localName "__values"))))) := by
  have enough := readable.enough
  have accumulated : ReadsExpression true 2 (localName "__acc") := readsExpression_word (by decide)
  exact readsLeading_rebuild (readable.mono (by omega)) (by decide)
    ((readable.collected keys).mono (by omega)) (accumulated.mono (by omega))
    (readsExpression_collectTokens readable gathers)

/-- The statements of a loop are the inside of a block. -/
theorem readsStatements_loopTokens (readable : body.Readable depth) (keys : items.Readable depth)
    (gathers : body.Gathers depth gathering) :
    ReadsStatements (depth + 15) (body.loopTokens items gathering) := by
  have enough := readable.enough
  have round : ReadsBlock (depth + 2 + 12) _ :=
    body.context.readsBlock_round readable.default (readable.collected keys)
      (readable.focus.mono (by omega)) (items.readsExpression_slot.mono (by omega))
  have loop : ReadsStatement (depth + 15) _ := readsStatement_loop
    (items.readsAlternatives_pattern.mono (by omega)) items.opensParameters_pattern
    ((body.readsExpression_target false).mono (by omega)) round
  have last : ReadsStatements (depth + 15) _ := ReadsLeading.readsStatements
    ((readsLeading_gather readable keys gathers).mono (by omega)) (List.cons_ne_nil _ _)
    ⟨rfl, rfl, rfl⟩ (takes_upcomingKind fun _ _ => ⟨_, rfl⟩)
  have all := ReadsStatements.next ((readsStatement_destructureTokens readable).mono (by omega))
    (.next ((readsStatement_guard readable).mono (by omega))
      (.next ((readsStatement_start readable keys).mono (by omega)) (.next loop last)))
  rw [loopTokens]
  simp only [List.append_assoc, List.cons_append, List.nil_append] at all ⊢
  exact all

end Body

end Fieldwise
