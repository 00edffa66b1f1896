/-
This file says that what is spliced into a body is no larger than the body. A body has all the tokens
of the types, the length and the values that it is made of. So a depth that is enough for the tokens
of a body is enough for each of these.
-/

import Fieldwise.Proofs.LoopBodies

namespace Fieldwise

open Grammar
open Code (localName)

/-! ### Tokens -/

namespace Token

theorem countAll_parenthesized (content rest : Tokens) :
    countAll (.parenthesized content :: rest) = countAll content + 2 + countAll rest :=
  rfl

theorem countAll_braced (content rest : Tokens) :
    countAll (.braced content :: rest) = countAll content + 2 + countAll rest :=
  rfl

end Token

/-- Below the depth for more tokens, the depth for fewer is enough. -/
theorem Grammar.depthFor_le {part whole : Tokens}
    (fewer : Token.countAll part ≤ Token.countAll whole) : depthFor part ≤ depthFor whole :=
  Nat.mul_le_mul_left 12 (Nat.add_le_add_right fewer 2)

/-! ### Aggregates -/

/-- What stands for a field is a part of what stands for the aggregate. -/
theorem Aggregate.countAll_le_listing {aggregate : Aggregate} (ordinary : aggregate.Ordinary)
    (item : Field → Tokens) {field : Field} (among : field ∈ aggregate.fields) :
    Token.countAll (item field) ≤ Token.countAll (aggregate.listing item) := by
  rw [listing]
  cases style : aggregate.style with
  | named =>
    have whole := Token.countAll_le_commaSeparated (List.mem_map.mpr ⟨field, among, rfl⟩ :
      _ ∈ aggregate.fields.map fun field =>
        Reconstruction.labelTokens field.name ++ [.colon] ++ item field)
    rw [Token.countAll_append] at whole
    dsimp only
    rw [Token.countAll, Token.countAll_braced]
    omega
  | tuple =>
    have whole := Token.countAll_le_commaSeparated (List.mem_map.mpr ⟨field, among, rfl⟩ :
      item field ∈ aggregate.fields.map item)
    dsimp only
    rw [Token.countAll, Token.countAll_parenthesized]
    omega
  | unit =>
    rw [ordinary.listed style] at among
    cases among

/-! ### Bodies -/

namespace Body

variable {body : Body}

/-- The replacement is a part of what puts the aggregate together. -/
theorem countAll_le_rebuilt (ordinary : body.rebuild.aggregate.Ordinary) (replacement : Tokens) :
    Token.countAll replacement ≤ Token.countAll (body.rebuild.tokens replacement) := by
  obtain ⟨field, among, same⟩ := body.rebuild.exists_target
  have whole := Aggregate.countAll_le_listing ordinary
    (fun field => if field.name = body.rebuild.target.name then replacement
      else [.word field.name.binding]) among
  rwa [if_pos same, ← Reconstruction.tokens_eq] at whole

/-- The type that an effect is mapped from and the result of the function are parts of it. -/
theorem countAll_le_mapTokens (context : Context)
    (source target effect parameters result : Tokens) :
    Token.countAll source + Token.countAll result ≤ Token.countAll
      (context.mapTokens source target effect (Code.anonymousFunction parameters result)) := by
  simp only [Context.mapTokens, Context.call, Code.angled, Code.anonymousFunction,
    Token.commaSeparated, Token.separated, Token.countAll_append, Token.countAll_parenthesized]
  omega

/-- What one round adds and what the values are gathered into are parts of a loop. -/
theorem countAll_le_loopTokens (body : Body) (ordinary : body.rebuild.aggregate.Ordinary)
    (items : LoopItems) (gathering : Gathering) :
    Token.countAll (items.slotType body.focusType) +
        Token.countAll (body.collectTokens gathering (localName "__values")) ≤
      Token.countAll (body.loopTokens items gathering) := by
  have values := countAll_le_rebuilt ordinary
    (body.collectTokens gathering (localName "__values"))
  have slot : Token.countAll (items.slotType body.focusType) ≤
      Token.countAll (body.collectedType items) := by
    rw [collectedType, Code.angled, Token.countAll_append, Token.countAll_append,
      Token.countAll_append]
    omega
  have last := countAll_le_mapTokens body.context (body.collectedType items) body.selfType
    (localName "__acc") (Code.typed "__values" (body.collectedType items))
    (body.rebuild.tokens (body.collectTokens gathering (localName "__values")))
  rw [loopTokens, Token.countAll_append]
  exact Nat.le_trans (Nat.le_trans (Nat.add_le_add slot values) last) (Nat.le_add_left _ _)

theorem countAll_length_le (body : Body) (length values : Tokens) :
    Token.countAll length ≤ Token.countAll (body.collectTokens (.array length) values) := by
  simp only [collectTokens, Code.angled, Token.commaSeparated, Token.separated,
    Token.countAll_append, Token.countAll_braced]
  omega

theorem countAll_fieldType_le (body : Body) (values : Tokens) :
    Token.countAll body.fieldType ≤ Token.countAll (body.collectTokens .declared values) := by
  simp only [collectTokens, Code.angled, Token.countAll_append]
  omega

theorem countAll_key_le (key : TypeExpression) (focus : Tokens) :
    Token.countAll key.tokens ≤ Token.countAll (LoopItems.slotType focus (.entries key)) := by
  rw [LoopItems.slotType, Token.countAll_parenthesized, Token.commaSeparated, Token.separated,
    Token.countAll_append, Token.countAll_append]
  omega

theorem countAll_focusType_le_slotType (items : LoopItems) (focus : Tokens) :
    Token.countAll focus ≤ Token.countAll (items.slotType focus) := by
  cases items with
  | elements => exact Nat.le_refl _
  | entries key =>
    rw [LoopItems.slotType, Token.countAll_parenthesized, Token.commaSeparated, Token.separated,
      Token.separated, Token.countAll_append]
    omega

/-- The type of the focused values is a part of every body. -/
theorem countAll_focusType_le (body : Body) (ordinary : body.rebuild.aggregate.Ordinary) :
    Token.countAll body.focusType ≤ Token.countAll body.tokens := by
  unfold tokens
  split
  · rename_i items gathering _
    have slot := countAll_focusType_le_slotType items body.focusType
    have loop := body.countAll_le_loopTokens ordinary items gathering
    omega
  · rename_i branching _
    have present := countAll_le_mapTokens body.context body.focusType body.selfType
      (applied (localName "__element")) (Code.typed "__value" body.focusType)
      (body.rebuild.tokens (branching.focusForm ++ [.parenthesized (localName "__value")]))
    simp only [branchTokens, Code.arm, Token.countAll_append, Token.countAll_braced]
    omega
  · simp only [delegateTokens, Code.letTokens, Code.angled, Token.commaSeparated, Token.separated,
      Token.countAll_append]
    omega

/-- The types that an instance takes, and the declared type, are parts of what leaves the work to
it. -/
theorem countAll_le_delegateTokens (container : Container) (taken : List TypeExpression) :
    Token.countAll (body.instanceTokens container taken) + Token.countAll body.fieldType ≤
      Token.countAll (body.delegateTokens container taken) := by
  have last := countAll_le_mapTokens body.context body.fieldType body.selfType
    (localName "__traversed") (Code.typed "__value" body.fieldType)
    (body.rebuild.tokens (localName "__value"))
  simp only [delegateTokens, Code.letTokens, Code.angled, Token.countAll_append]
  omega

theorem countAll_taken_le {container : Container} {taken : List TypeExpression}
    {type : TypeExpression} (among : type ∈ taken) :
    Token.countAll type.tokens ≤ Token.countAll (body.instanceTokens container taken) := by
  have whole := Token.countAll_le_commaSeparated (List.mem_map_of_mem among :
    type.tokens ∈ taken.map (·.tokens))
  have filled : taken.isEmpty = false := List.isEmpty_eq_false_iff.mpr (List.ne_nil_of_mem among)
  rw [instanceTokens, filled, if_neg Bool.false_ne_true, Code.angled]
  simp only [Token.countAll_append]
  omega

end Body

end Fieldwise
