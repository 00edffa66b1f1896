/-
This file says that the statements of the other bodies are insides of blocks: those that look at the
branches of a value, and those that leave the work to a container's ready instance. The names of
branches are those that the field was declared with.
-/

import Fieldwise.Proofs.LoopBodies

namespace Fieldwise

open Grammar Reader Lookahead
open Code (localName)

/-! ### Branches -/

namespace Branching

/-- The name of the type, where it is that of the declaration, has parts and no keyword. -/
def Readable : Branching → Prop
  | .option => True
  | .result => True
  | .either declared => ∃ own, declared = some own ∧ own.Ordinary
  | .validated declared => ∃ own, declared = some own ∧ own.Ordinary

/-- A form of a declared type is a name. -/
theorem exists_formOf {name : QualifiedName} (ordinary : name.Ordinary) {form : String}
    (own : (Identifier.plain form).isKeyword = false) :
    ∃ whole : QualifiedName, whole.Ordinary ∧ formOf (some name) form = whole.tokens := by
  refine ⟨⟨name.rooted, name.names ++ [.plain form]⟩, ⟨?_, ?_⟩, ?_⟩
  · exact List.append_ne_nil_of_right_ne_nil _ (List.cons_ne_nil _ _)
  · rw [List.forall_mem_append]
    exact ⟨ordinary.ordinary, List.forall_mem_singleton.mpr own⟩
  · obtain ⟨rooted, first | ⟨first, later⟩⟩ := name
    · exact absurd rfl ordinary.named
    · show (QualifiedName.mk rooted (first :: later)).tokens ++ Token.pathSeparator ++
        [.plain form] = _
      simp only [QualifiedName.tokens, List.cons_append, List.map_cons, List.map_append,
        pathTokens_cons, laterTokens, List.flatten_append, List.append_assoc]
      rfl

variable {branching : Branching}

theorem exists_focusForm (readable : branching.Readable) :
    ∃ name : QualifiedName, name.Ordinary ∧ branching.focusForm = name.tokens := by
  cases branching with
  | option => exact ⟨_, ⟨List.cons_ne_nil _ _, by decide⟩, Code.rooted_eq _⟩
  | result => exact ⟨_, ⟨List.cons_ne_nil _ _, by decide⟩, Code.rooted_eq _⟩
  | either name =>
    obtain ⟨own, rfl, ordinary⟩ := readable
    exact exists_formOf ordinary (by decide)
  | validated name =>
    obtain ⟨own, rfl, ordinary⟩ := readable
    exact exists_formOf ordinary (by decide)

theorem exists_otherForm (readable : branching.Readable) :
    ∃ name : QualifiedName, name.Ordinary ∧
      (branching.otherForm = name.tokens ∧ name.rooted = true ∨
        branching.otherForm = name.tokens ++ otherForm.carried) := by
  cases branching with
  | option => exact ⟨_, ⟨List.cons_ne_nil _ _, by decide⟩, .inl ⟨Code.rooted_eq _, rfl⟩⟩
  | result =>
    exact ⟨QualifiedName.mk true (["core", "result", "Result", "Err"].map .plain),
      ⟨List.cons_ne_nil _ _, by decide⟩, .inr rfl⟩
  | either name =>
    obtain ⟨own, rfl, ordinary⟩ := readable
    obtain ⟨whole, named, same⟩ := exists_formOf ordinary
      (by decide : (Identifier.plain "Left").isKeyword = false)
    exact ⟨whole, named, .inr (by rw [otherForm, same])⟩
  | validated name =>
    obtain ⟨own, rfl, ordinary⟩ := readable
    obtain ⟨whole, named, same⟩ := exists_formOf ordinary
      (by decide : (Identifier.plain "Invalid").isKeyword = false)
    exact ⟨whole, named, .inr (by rw [otherForm, same])⟩

/-- The form that carries the focus is a pattern around a local name, and an expression. -/
theorem readsAlternatives_focusForm (readable : branching.Readable) :
    ReadsAlternatives 2 (branching.focusForm ++ [.parenthesized (localName "__element")]) ∧
      ∀ rest, Lookahead.mark "#"
        (branching.focusForm ++ [.parenthesized (localName "__element")] ++ rest) = false := by
  obtain ⟨name, ordinary, same⟩ := exists_focusForm readable
  have element : ReadsAlternatives 1 (localName "__element") := readsAlternatives_name (by decide)
  have held : ReadsAfterPath 1 [.parenthesized (localName "__element")] :=
    .parts (List.forall_mem_singleton.mpr element)
  rw [same]
  refine ⟨readsAlternatives_path ordinary held (.inr (List.cons_ne_nil _ _)), fun rest => ?_⟩
  rw [List.append_assoc]
  exact mark_name ordinary rfl (by decide) _

theorem readsExpression_focusForm (readable : branching.Readable) :
    ReadsExpression true 4 (branching.focusForm ++ [.parenthesized (localName "__value")]) := by
  obtain ⟨name, ordinary, same⟩ := exists_focusForm readable
  have value : ReadsExpression true 2 (localName "__value") := readsExpression_word (by decide)
  have called : ReadsOperand true 3 (_ ++ turbofish none ++ _) _ :=
    readsOperand_named (List.forall_mem_singleton.mpr value) ordinary nofun
  rw [turbofish, List.append_nil] at called
  rw [same]
  exact called.readsExpression

/-- The other form is a pattern, and the same tokens are an expression. -/
theorem readsAlternatives_otherForm (readable : branching.Readable) :
    ReadsAlternatives 2 branching.otherForm ∧
      ∀ rest, Lookahead.mark "#" (branching.otherForm ++ rest) = false := by
  obtain ⟨name, ordinary, ⟨same, rooted⟩ | same⟩ := exists_otherForm readable
  · rw [same]
    have alone : ReadsAlternatives 2 (name.tokens ++ []) :=
      readsAlternatives_path ordinary .alone (.inl rooted)
    rw [List.append_nil] at alone
    exact ⟨alone, mark_name ordinary rfl (by decide)⟩
  · rw [same]
    have other : ReadsAlternatives 1 (localName "__other") := readsAlternatives_name (by decide)
    have held : ReadsAfterPath 1 otherForm.carried := .parts (List.forall_mem_singleton.mpr other)
    refine ⟨readsAlternatives_path ordinary held (.inr (List.cons_ne_nil _ _)), fun rest => ?_⟩
    rw [List.append_assoc]
    exact mark_name ordinary rfl (by decide) _

theorem readsExpression_otherForm (readable : branching.Readable) :
    ReadsExpression true 4 branching.otherForm := by
  obtain ⟨name, ordinary, ⟨same, -⟩ | same⟩ := exists_otherForm readable
  · rw [same]
    have alone : ReadsOperand true 1 name.tokens _ := (readsAtom_bare ordinary).readsOperand nofun
    exact alone.readsExpression.mono (by decide)
  · rw [same]
    have other : ReadsExpression true 2 (localName "__other") := readsExpression_word (by decide)
    have called : ReadsOperand true 3 (_ ++ turbofish none ++ _) _ :=
      readsOperand_named (List.forall_mem_singleton.mpr other) ordinary nofun
    rw [turbofish, List.append_nil] at called
    exact called.readsExpression

end Branching

namespace Body

variable {body : Body} {depth : Nat} {branching : Branching}

/-- Around the focus the aggregate is put together again. -/
theorem readsArm_present (readable : body.Readable depth) (forms : branching.Readable) :
    ReadsArm (depth + 6) (branching.focusForm ++ [.parenthesized (localName "__element")],
      body.context.mapTokens body.focusType body.selfType (applied (localName "__element"))
        (Code.anonymousFunction (Code.typed "__value" body.focusType) (body.rebuild.tokens
          (branching.focusForm ++ [.parenthesized (localName "__value")])))) := by
  have enough := readable.enough
  obtain ⟨pattern, unattributed⟩ := branching.readsAlternatives_focusForm forms
  exact ⟨unattributed, pattern.mono (by omega), readsLeading_rebuild readable (by decide)
    readable.focus (readsExpression_applied.mono enough)
    ((branching.readsExpression_focusForm forms).mono enough)⟩

/-- The other form is passed on. -/
theorem readsArm_absent (readable : body.Readable depth) (forms : branching.Readable) :
    ReadsArm (depth + 6) (branching.otherForm,
      body.context.pureTokens body.selfType (body.rebuild.tokens branching.otherForm)) := by
  have enough := readable.enough
  have other : ReadsExpression true (depth + 2) _ :=
    readsExpression_rebuilt readable.ordinary (by omega)
      ((branching.readsExpression_otherForm forms).mono enough)
  have absent : ReadsOperand true (depth + 4 + 1) _ _ := body.context.readsOperand_pure
    readable.default (by omega) (readable.self.mono (by omega)) (other.mono (by omega))
  obtain ⟨pattern, unattributed⟩ := branching.readsAlternatives_otherForm forms
  exact ⟨unattributed, pattern.mono (by omega),
    absent.readsLeading (Nat.succ_pos _) fun _ => showsLeading_less _⟩

/-- The statements of a look at branches are the inside of a block. -/
theorem readsStatements_branchTokens (readable : body.Readable depth)
    (forms : branching.Readable) : ReadsStatements (depth + 15) (body.branchTokens branching) := by
  have looked := readsStatement_match ((body.readsExpression_target false).mono (by omega))
    (List.forall_mem_cons.mpr ⟨readsArm_present readable forms,
      List.forall_mem_singleton.mpr (readsArm_absent readable forms)⟩)
  have all := ReadsStatements.next ((readsStatement_destructureTokens readable).mono (by omega))
    (looked.mono (by omega : _ ≤ depth + 15)).alone
  rw [branchTokens]
  simp only [armTokens, List.map_cons, List.map_nil, List.flatten_cons, List.flatten_nil,
    List.append_nil, List.append_assoc, List.cons_append, List.nil_append] at all ⊢
  exact all

/-! ### Instances -/

/-- A ready instance is a type. -/
theorem readsPathType_instanceTokens (readable : body.Readable depth) (container : Container)
    {taken : List TypeExpression} (each : ∀ type ∈ taken, ReadsType depth type.tokens) :
    ReadsPathType (depth + 1) (body.instanceTokens container taken) := by
  have name : (QualifiedName.mk true (("undertow" :: container.instancePath).map .plain)).Ordinary :=
    Context.ordinary_runtime _ (by cases container <;> decide)
  rw [instanceTokens, Context.runtimeName_eq readable.default]
  split
  · rw [List.append_nil]
    exact (readsPathType_name name).mono (by omega)
  · have applied : ReadsPathType (depth + 1)
        (_ ++ Code.angled (_ ++ if false = true then _ else _)) := readsPathType_applied name
      (List.forall_mem_map.mpr fun type member => (each type member).readsInAngles) nofun
    rwa [if_neg Bool.false_ne_true, List.append_nil] at applied

/-- The instance is made. -/
theorem readsStatement_instance (readable : body.Readable depth) (container : Container)
    {taken : List TypeExpression} (each : ∀ type ∈ taken, ReadsType depth type.tokens) :
    ReadsStatement (depth + 3) (Code.letTokens (localName "__instance")
      (Code.angled (body.instanceTokens container taken ++ [.plain "as"] ++
        Code.rooted ["core", "default", "Default"]) ++ Token.pathSeparator ++
          [.plain "default", .parenthesized []])) := by
  have trait : (QualifiedName.mk true (["core", "default", "Default"].map .plain)).Ordinary :=
    ⟨List.cons_ne_nil _ _, by decide⟩
  have type := readsPathType_instanceTokens readable container each
  have noTypes : ∀ listed ∈ (none : Option (List Tokens)), ∀ type ∈ listed,
      ReadsInAngles (depth + 1) type := nofun
  have made : ReadsOperand true (depth + 1 + 1) _ _ := readsOperand_qualified
    (List.forall_mem_nil _) type trait (by decide : (Identifier.plain "default").isKeyword = false)
    noTypes false nofun
  rw [if_neg Bool.false_ne_true, List.append_nil, turbofish, ← Code.rooted_eq] at made
  have name : ReadsPattern 1 (localName "__instance") := readsPattern_name (by decide)
  have statement : ReadsStatement (depth + 3) _ :=
    readsStatement_let (name.mono (by omega)) made.readsExpression
  simp only [List.append_assoc] at statement ⊢
  exact statement

/-- It is applied to the effect and to the focus, which it gives back. -/
theorem readsInAngles_traverse (readable : body.Readable depth) :
    ∀ type ∈ [[.word Context.effect], body.focusType, body.focusType, Context.inferred],
      ReadsInAngles (depth + 1) type := by
  have effect : ReadsType 1 [.word Context.effect] :=
    (readsPathType_name (.of_single (by decide))).readsType
  have focus := readable.focus.readsInAngles.mono (Nat.le_succ depth)
  exact List.forall_mem_cons.mpr ⟨effect.readsInAngles.mono (by omega),
    List.forall_mem_cons.mpr ⟨focus, List.forall_mem_cons.mpr ⟨focus, List.forall_mem_singleton.mpr
      (readsPathType_inferred.readsType.readsInAngles.mono (by omega))⟩⟩⟩

/-- It is given the value with the effect and the function. -/
theorem readsExpression_traverse (readable : body.Readable depth) :
    ∀ argument ∈ [[.mark '&' false, .plain "__instance"], [.word Context.applicative],
        body.targetTokens, [.mark '&' false, .plain "mut", .word Context.function]],
      ReadsExpression true (depth + 1) argument := by
  have enough := readable.enough
  have instanceOf : ReadsExpression true 3 [.mark '&' false, .plain "__instance"] :=
    readsExpression_reference (by decide) (by decide) false
  have handed : ReadsExpression true 2 [.word Context.applicative] :=
    readsExpression_word (by decide)
  have function : ReadsExpression true 3 [.mark '&' false, .plain "mut", .word Context.function] :=
    readsExpression_reference (by decide) (by decide) true
  exact List.forall_mem_cons.mpr ⟨instanceOf.mono (by omega), List.forall_mem_cons.mpr
    ⟨handed.mono (by omega), List.forall_mem_cons.mpr
      ⟨(body.readsExpression_target true).mono (by omega),
        List.forall_mem_singleton.mpr (function.mono (by omega))⟩⟩⟩

/-- It is called with the function. -/
theorem readsStatement_traverse (readable : body.Readable depth) (container : Container)
    {taken : List TypeExpression} (each : ∀ type ∈ taken, ReadsType depth type.tokens) :
    ReadsStatement (depth + 3) (Code.letTokens (localName "__traversed")
      (Code.angled (body.instanceTokens container taken ++ [.plain "as"] ++
        body.context.runtimeName ["Traverse"]) ++ Token.pathSeparator ++ [.plain "traverse"] ++
        Token.pathSeparator ++ Code.angled (Token.commaSeparated
          [[.word Context.effect], body.focusType, body.focusType, Context.inferred]) ++
        [.parenthesized (Token.commaSeparated [[.mark '&' false, .plain "__instance"],
          [.word Context.applicative], body.targetTokens,
          [.mark '&' false, .plain "mut", .word Context.function]] ++ [.comma])])) := by
  have enough := readable.enough
  have seen : (QualifiedName.mk true (("undertow" :: ["Traverse"]).map .plain)).Ordinary :=
    Context.ordinary_runtime _ (by decide)
  have type := readsPathType_instanceTokens readable container each
  have types : ∀ listed ∈ some [[.word Context.effect], body.focusType, body.focusType,
      Context.inferred], ∀ type ∈ listed, ReadsInAngles (depth + 1) type := by
    rintro _ ⟨⟩
    exact readsInAngles_traverse readable
  have called : ReadsOperand true (depth + 1 + 1) _ _ :=
    readsOperand_qualified (readsExpression_traverse readable) type seen
      (by decide : (Identifier.plain "traverse").isKeyword = false) types true
      fun _ => List.cons_ne_nil _ _
  rw [if_pos rfl, turbofish, ← Context.runtimeName_eq readable.default] at called
  have name : ReadsPattern 1 (localName "__traversed") := readsPattern_name (by decide)
  have statement : ReadsStatement (depth + 3) _ :=
    readsStatement_let (name.mono (by omega)) called.readsExpression
  simp only [List.append_assoc] at statement ⊢
  exact statement

/-- The statements that leave the work to an instance are the inside of a block. -/
theorem readsStatements_delegateTokens (readable : body.Readable depth) (container : Container)
    {taken : List TypeExpression} (each : ∀ type ∈ taken, ReadsType depth type.tokens)
    (declared : ReadsType depth body.fieldType) :
    ReadsStatements (depth + 15) (body.delegateTokens container taken) := by
  have enough := readable.enough
  have value : ReadsExpression true 2 (localName "__value") := readsExpression_word (by decide)
  have traversed : ReadsExpression true 2 (localName "__traversed") :=
    readsExpression_word (by decide)
  have leading : ReadsLeading (depth + 6) _ := readsLeading_rebuild readable
    (by decide : (Identifier.plain "__value").isKeyword = false) declared
    (traversed.mono (by omega)) (value.mono (by omega))
  have last : ReadsStatements (depth + 15) _ := ReadsLeading.readsStatements
    (leading.mono (by omega)) (List.cons_ne_nil _ _) ⟨rfl, rfl, rfl⟩
    (takes_upcomingKind fun _ _ => ⟨_, rfl⟩)
  have all := ReadsStatements.next ((readsStatement_destructureTokens readable).mono (by omega))
    (.next ((readsStatement_instance readable container each).mono (by omega))
      (.next ((readsStatement_traverse readable container each).mono (by omega)) last))
  rw [delegateTokens]
  simp only [List.append_assoc] at all ⊢
  exact all

end Body

end Fieldwise
