/-
This file says in which orders the parts of a body run. A body takes its aggregate apart and
goes on as a flow of statements, of which some are passed over and some are repeated; the
flow prints to the tokens of the body. On every way through the flow, the local name of a
field that is not the target stands once, wherever the parts that are copied from the
declaration are left out.
-/

import Fieldwise.Proofs.Derived
import Fieldwise.Proofs.Slots

namespace Fieldwise

open Code

/-! ### Flows -/

/-- Statements and expressions in the order in which they run. -/
inductive Flow where
  /-- The value of the flow. -/
  | result (value : Piece)
  /-- A statement before the rest. -/
  | statement (piece : Piece) (rest : Flow)
  /-- A value that is returned under a condition; the rest is passed over then. -/
  | earlyReturn (condition value : Piece) (rest : Flow)
  /-- Rounds, each of which binds a pattern to the next of the items, before the rest. -/
  | rounds (pattern items round : Piece) (rest : Flow)
  /-- Patterns of which one fits, each with the value of the flow if it is the one. -/
  | branches (scrutinee : Piece) (arms : List (Piece × Piece))

namespace Flow

/-- The tokens of a flow. -/
def tokens : Flow → Tokens
  | .result value => value.tokens
  | .statement piece rest => piece.tokens ++ rest.tokens
  | .earlyReturn condition value rest =>
    [.plain "if"] ++ condition.tokens ++
      [.braced ([.plain "return"] ++ value.tokens ++ [.semicolon])] ++ rest.tokens
  | .rounds pattern items round rest =>
    [.plain "for"] ++ pattern.tokens ++ [.plain "in"] ++ items.tokens ++
      [.braced round.tokens] ++ rest.tokens
  | .branches scrutinee arms =>
    [.plain "match"] ++ scrutinee.tokens ++
      [.braced (arms.flatMap fun (pattern, value) => arm pattern.tokens value.tokens)]

/-- The pieces that run one after the other on a way through a flow. -/
inductive Way : Flow → List Piece → Prop
  | result {value : Piece} : Way (.result value) [value]
  | statement {piece : Piece} {rest : Flow} {way : List Piece} (after : Way rest way) :
      Way (.statement piece rest) (piece :: way)
  | returned {condition value : Piece} {rest : Flow} :
      Way (.earlyReturn condition value rest) [condition, value]
  | passed {condition value : Piece} {rest : Flow} {way : List Piece} (after : Way rest way) :
      Way (.earlyReturn condition value rest) (condition :: way)
  | rounds {pattern items round : Piece} {rest : Flow} {way : List Piece} (count : Nat)
      (after : Way rest way) :
      Way (.rounds pattern items round rest)
        (items :: ((List.replicate count [pattern, round]).flatten ++ way))
  | branches {scrutinee pattern value : Piece} {arms : List (Piece × Piece)}
      (member : (pattern, value) ∈ arms) :
      Way (.branches scrutinee arms) [scrutinee, pattern, value]

end Flow

/-! ### Uses of a word -/

namespace Flow

/-- The flow uses the word so many times on every way through it, and not in a piece that is
passed over on one way or repeated on another. -/
def Uses (word : Identifier) (times : Nat) : Flow → Prop
  | .result value => value.Uses word times
  | .statement piece rest => piece.Uses word 0 ∧ rest.Uses word times
  | .earlyReturn condition value rest =>
    condition.Uses word 0 ∧ value.Uses word times ∧ rest.Uses word times
  | .rounds pattern items round rest =>
    pattern.Uses word 0 ∧ items.Uses word 0 ∧ round.Uses word 0 ∧ rest.Uses word times
  | .branches scrutinee arms =>
    scrutinee.Uses word 0 ∧ ∀ arm ∈ arms, arm.1.Uses word 0 ∧ arm.2.Uses word times

/-- What holds of the pieces of a flow holds of every way through it. -/
theorem Way.uses {flow : Flow} {way : List Piece} (through : flow.Way way) {word : Identifier}
    {times : Nat} (uses : flow.Uses word times) : (Piece.joined way).Uses word times := by
  induction through with
  | result => exact Piece.Uses.cons uses Piece.uses_joined_nil
  | statement _ inductionHypothesis =>
    exact Nat.zero_add times ▸ uses.1.cons (inductionHypothesis uses.2)
  | returned =>
    exact Nat.zero_add times ▸ uses.1.cons (uses.2.1.cons Piece.uses_joined_nil)
  | passed _ inductionHypothesis =>
    exact Nat.zero_add times ▸ uses.1.cons (inductionHypothesis uses.2.2)
  | @rounds pattern _ round _ _ count _ inductionHypothesis =>
    obtain ⟨patternUses, itemsUses, roundUses, restUses⟩ := uses
    -- A round does not use the word, and so no number of rounds does.
    have repeated : ∀ piece ∈ (List.replicate count [pattern, round]).flatten,
        piece.Uses word 0 := by
      intro piece member
      obtain ⟨both, replicated, within⟩ := List.mem_flatten.mp member
      rw [List.eq_of_mem_replicate replicated, List.mem_pair] at within
      rcases within with rfl | rfl
      · exact patternUses
      · exact roundUses
    exact Nat.zero_add times ▸
      itemsUses.cons (Piece.uses_joined_append repeated (inductionHypothesis restUses))
  | branches member =>
    obtain ⟨pattern, value⟩ := uses.2 _ member
    have chosen := pattern.cons (value.cons Piece.uses_joined_nil)
    rw [Nat.zero_add] at chosen
    exact Nat.zero_add times ▸ uses.1.cons chosen

end Flow

/-! ### The flow of a body -/

/-- The new value of a field, made out of the collected values. -/
def Body.collectPiece (body : Body) (gathering : Gathering) (values : Tokens) : Piece where
  tokens := body.collectTokens gathering values
  copied :=
    match gathering with
    | .list => []
    | .array length => [body.context.runtime.tokens, body.focusType, length]
    | .declared => [body.fieldType]

/-- The name that the forms of a type are copied with. -/
def Branching.copied : Branching → List Tokens
  | .either name => [(name.map QualifiedName.tokens).getD []]
  | .validated name => [(name.map QualifiedName.tokens).getD []]
  | _ => []

/-- The form that carries the focus, around a local name. -/
def Branching.focusPiece (branching : Branching) (content : String) : Piece :=
  ⟨branching.focusForm ++ [.parenthesized (localName content)], branching.copied⟩

/-- The other form. -/
def Branching.otherPiece (branching : Branching) : Piece :=
  ⟨branching.otherForm, branching.copied⟩

namespace Body

variable (body : Body)

/-- The flow of a loop: an empty collection is returned as it is. -/
def loopFlow (items : LoopItems) (gathering : Gathering) : Flow :=
  let context := body.context
  let runtime := context.runtime.tokens
  let focus := body.focusType
  let self := body.selfType
  let target := body.targetTokens
  let values := localName "__values"
  let vector := rooted ["std", "vec", "Vec"]
  let slot := items.slotType focus
  let collected := vector ++ angled slot
  let unchanged := body.rebuild.piece ⟨target, []⟩
  let rebuilt := body.rebuild.piece (body.collectPiece gathering values)
  .earlyReturn ⟨method target "is_empty" [], []⟩
    ⟨context.pureTokens self unchanged.tokens, [runtime, self] ++ unchanged.copied⟩ <|
  .statement
    ⟨letTokens [.plain "mut", .plain "__acc"] (context.pureTokens collected
      (vector ++ Token.pathSeparator ++
        [.plain "with_capacity", .parenthesized (method target "len" [])])), [runtime, slot]⟩ <|
  .rounds ⟨items.pattern, []⟩ ⟨target, []⟩
    ⟨localName "__acc" ++ [.equals] ++ context.map2Tokens collected focus collected
        (localName "__acc") (applied (localName "__element"))
        (anonymousFunction
          ([.plain "mut"] ++ typed "__values" collected ++ [.comma] ++ typed "__value" focus)
          [.braced (method values "push" (items.slot) ++ [.semicolon] ++ values)]) ++ [.semicolon],
      [runtime, slot, focus, slot, slot, focus]⟩ <|
  .result
    ⟨context.mapTokens collected self (localName "__acc")
        (anonymousFunction (typed "__values" collected) rebuilt.tokens),
      [runtime, slot, self, slot] ++ rebuilt.copied⟩

/-- The flow of a look at the branches. -/
def branchFlow (branching : Branching) : Flow :=
  let context := body.context
  let runtime := context.runtime.tokens
  let present := body.rebuild.piece (branching.focusPiece "__value")
  let absent := body.rebuild.piece branching.otherPiece
  .branches ⟨body.targetTokens, []⟩ [
    (branching.focusPiece "__element",
      ⟨context.mapTokens body.focusType body.selfType (applied (localName "__element"))
          (anonymousFunction (typed "__value" body.focusType) present.tokens),
        [runtime, body.focusType, body.selfType, body.focusType] ++ present.copied⟩),
    (branching.otherPiece,
      ⟨context.pureTokens body.selfType absent.tokens,
        [runtime, body.selfType] ++ absent.copied⟩)]

/-- The flow that leaves the work to a container's instance. -/
def delegateFlow (container : Container) (taken : List TypeExpression) : Flow :=
  let context := body.context
  let runtime := context.runtime.tokens
  let instanceType := body.instanceTokens container taken
  let asDefault := angled
    (instanceType ++ [.plain "as"] ++ rooted ["core", "default", "Default"])
  let asTraverse := angled
    (instanceType ++ [.plain "as"] ++ context.runtimeName ["Traverse"])
  let call := asTraverse ++ Token.pathSeparator ++ [.plain "traverse"] ++ Token.pathSeparator ++
    angled (Token.commaSeparated
      [[.word Context.effect], body.focusType, body.focusType, Context.inferred]) ++
    [.parenthesized (Token.commaSeparated
      [[.mark '&' false, .plain "__instance"], [.word Context.applicative], body.targetTokens,
        [.mark '&' false, .plain "mut", .word Context.function]] ++ [.comma])]
  let rebuilt := body.rebuild.piece ⟨localName "__value", []⟩
  .statement
    ⟨letTokens (localName "__instance")
        (asDefault ++ Token.pathSeparator ++ [.plain "default", .parenthesized []]),
      runtime :: taken.map (·.tokens)⟩ <|
  .statement
    ⟨letTokens (localName "__traversed") call,
      runtime :: taken.map (·.tokens) ++ [runtime, body.focusType, body.focusType]⟩ <|
  .result
    ⟨context.mapTokens body.fieldType body.selfType (localName "__traversed")
        (anonymousFunction (typed "__value" body.fieldType) rebuilt.tokens),
      [runtime, body.fieldType, body.selfType, body.fieldType] ++ rebuilt.copied⟩

/-- The flow of a body after the aggregate is taken apart. -/
def flow : Flow :=
  match body.plan with
  | .loop items gathering => body.loopFlow items gathering
  | .branches branching => body.branchFlow branching
  | .delegate container taken => body.delegateFlow container taken

/-- A body takes its aggregate apart and goes on with its flow. -/
theorem tokens_eq_flow : body.tokens = body.destructureTokens ++ body.flow.tokens := by
  rw [tokens, flow]
  cases body.plan with
  | loop items gathering =>
    simp only [loopTokens, loopFlow, Flow.tokens, List.append_assoc]
    rfl
  | branches branching =>
    simp only [branchTokens, branchFlow, Flow.tokens, Branching.focusPiece, List.append_assoc,
      List.flatMap_cons, List.flatMap_nil, List.append_nil]
    rfl
  | delegate container taken =>
    simp only [delegateTokens, delegateFlow, Flow.tokens, List.append_assoc]
    rfl

end Body

/-! ### Foreign words in the code around them -/

section

variable {word : Identifier} (foreign : word.Foreign)

include foreign

theorem LoopItems.uses_pattern (items : LoopItems) : Piece.Uses word 0 ⟨items.pattern, []⟩ := by
  cases items <;> simp (disch := decide) [Piece.Uses, pattern, foreign.count_plain_cons]

theorem LoopItems.count_slot (items : LoopItems) : (Tokens.words items.slot).count word = 0 := by
  cases items <;> simp (disch := decide) [slot, foreign.count_plain_cons]

theorem Body.uses_collectPiece (body : Body) (gathering : Gathering) :
    (body.collectPiece gathering (localName "__values")).Uses word 0 := by
  cases gathering <;>
    simp (disch := decide) [Piece.Uses, collectPiece, collectTokens, foreign.count_plain_cons]

theorem Branching.count_focusForm (branching : Branching) :
    (Tokens.words branching.focusForm).count word =
      (branching.copied.flatMap Tokens.words).count word := by
  cases branching <;>
    simp (disch := decide) [focusForm, copied, formOf, foreign.count_plain_cons]

theorem Branching.uses_focusPiece (branching : Branching) {content : String}
    (fixed : content ∈ Code.vocabulary) : (branching.focusPiece content).Uses word 0 := by
  simp [Piece.Uses, focusPiece, branching.count_focusForm foreign,
    foreign.count_plain_cons [] fixed]

theorem Branching.uses_otherPiece (branching : Branching) :
    branching.otherPiece.Uses word 0 := by
  cases branching <;>
    simp (disch := decide) [Piece.Uses, otherPiece, otherForm, otherForm.carried, copied, formOf,
      foreign.count_plain_cons]

theorem Body.count_instanceTokens (body : Body) (container : Container)
    (taken : List TypeExpression) :
    (Tokens.words (body.instanceTokens container taken)).count word =
      (Tokens.words body.context.runtime.tokens).count word +
        ((taken.map (·.tokens)).flatMap Tokens.words).count word := by
  cases container <;> cases taken <;>
    simp (disch := decide) [instanceTokens, Container.instancePath, Container.instanceName,
      foreign.count_plain_cons]

end

/-! ### Uses in bodies -/

namespace Body

variable {body : Body} {word : Identifier}

theorem count_targetTokens (different : word ≠ body.rebuild.binding) :
    (Tokens.words body.targetTokens).count word = 0 := by
  simp [targetTokens, List.count_cons_of_ne different.symm]

section

variable (foreign : word.Foreign) (different : word ≠ body.rebuild.binding)

include foreign different

theorem uses_loopFlow (items : LoopItems) (gathering : Gathering) :
    (body.loopFlow items gathering).Uses word (body.rebuild.localNames.count word) := by
  have target := count_targetTokens different
  have ownValue : Piece.Uses word 0 ⟨body.targetTokens, []⟩ := target
  have unchanged := Reconstruction.uses_piece different ownValue
  have rebuilt := Reconstruction.uses_piece different (body.uses_collectPiece foreign gathering)
  unfold Piece.Uses at unchanged rebuilt
  refine ⟨?condition, ?unchanged, ?start, items.uses_pattern foreign, ?items, ?round, ?result⟩
  case condition => simp (disch := decide) [Piece.Uses, target, foreign.count_plain_cons]
  case unchanged =>
    simp (disch := decide) [Piece.Uses, Context.pureTokens, foreign.count_call, unchanged]
    omega
  case start =>
    simp (disch := decide) [Piece.Uses, Context.pureTokens, foreign.count_call, target,
      foreign.count_plain_cons]
  case items => exact target
  case round =>
    simp (disch := decide) [Piece.Uses, Context.map2Tokens, foreign.count_call, applied,
      Context.function, items.count_slot foreign, foreign.count_plain_cons]
    omega
  case result =>
    show Piece.Uses _ _ _
    simp (disch := decide) [Piece.Uses, Context.mapTokens, foreign.count_call, rebuilt,
      foreign.count_plain_cons]
    omega

theorem uses_branchFlow (branching : Branching) :
    (body.branchFlow branching).Uses word (body.rebuild.localNames.count word) := by
  have value : (branching.focusPiece "__value").Uses word 0 :=
    branching.uses_focusPiece foreign (by decide)
  have present := Reconstruction.uses_piece different value
  have absent := Reconstruction.uses_piece different (branching.uses_otherPiece foreign)
  unfold Piece.Uses at present absent
  refine ⟨?scrutinee, fun arm member => ?arms⟩
  case scrutinee => exact count_targetTokens different
  case arms =>
    rcases List.mem_pair.mp member with rfl | rfl
    · refine ⟨branching.uses_focusPiece foreign (by decide), ?_⟩
      simp (disch := decide) [Piece.Uses, Context.mapTokens, foreign.count_call, applied,
        Context.function, present, foreign.count_plain_cons]
      omega
    · refine ⟨branching.uses_otherPiece foreign, ?_⟩
      simp (disch := decide) [Piece.Uses, Context.pureTokens, foreign.count_call, absent]
      omega

theorem uses_delegateFlow (container : Container) (taken : List TypeExpression) :
    (body.delegateFlow container taken).Uses word (body.rebuild.localNames.count word) := by
  have value : Piece.Uses word 0 ⟨localName "__value", []⟩ := by
    simp (disch := decide) [Piece.Uses, foreign.count_plain_cons]
  have rebuilt := Reconstruction.uses_piece different value
  unfold Piece.Uses at rebuilt
  refine ⟨?default, ?traversed, ?result⟩
  case default =>
    simp (disch := decide) [Piece.Uses, count_instanceTokens foreign, foreign.count_plain_cons]
  case traversed =>
    simp (disch := decide) [Piece.Uses, count_instanceTokens foreign, foreign.count_plain_cons,
      Context.effect, Context.applicative, Context.function, count_targetTokens different]
    omega
  case result =>
    show Piece.Uses _ _ _
    simp (disch := decide) [Piece.Uses, Context.mapTokens, foreign.count_call, rebuilt,
      foreign.count_plain_cons]
    omega

/-- On every way through a body, a foreign word other than the target's local name is used once
if it is the local name of a field, and never else. -/
theorem uses_flow : body.flow.Uses word (body.rebuild.localNames.count word) := by
  rw [flow]
  cases body.plan with
  | loop items gathering => exact uses_loopFlow foreign different items gathering
  | branches branching => exact uses_branchFlow foreign different branching
  | delegate container taken => exact uses_delegateFlow foreign different container taken

end

end Body

end Fieldwise
