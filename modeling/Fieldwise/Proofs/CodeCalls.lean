/-
This file says that the calls that bodies consist of are read as expressions: calls of the
capability and of the runtime, and the expression that puts an aggregate together again. What is
spliced into them are declared types, local names and other expressions; each is read a few levels
below the call that it stands in.
-/

import Fieldwise.Body.Basic
import Fieldwise.Proofs.ArrayLengths
import Fieldwise.Proofs.Slots

namespace Fieldwise

open Grammar

/-! ### The names of a declaration -/

/-- The names that a declaration gives to generated code are no keywords, and it has fields only
where it lists them. -/
structure Aggregate.Ordinary (aggregate : Aggregate) : Prop where
  named : aggregate.name.isKeyword = false
  parameters : ∀ parameter ∈ aggregate.generics.parameters, parameter.Ordinary
  labels : aggregate.style = .named →
    ∀ field ∈ aggregate.fields, ∃ label, field.name = .named label ∧ label.isKeyword = false
  listed : aggregate.style = .unit → aggregate.fields = []

theorem FieldName.ordinary_binding (name : FieldName) : name.binding.isKeyword = false := by
  have others : ∀ text ∈ Identifier.keywords, ¬ "__field_".toList <+: text.toList := by decide
  rw [Identifier.isKeyword]
  refine Bool.and_eq_false_iff.mpr (.inr ?_)
  rw [← Bool.not_eq_true, List.contains_iff_mem]
  exact fun member => others _ member name.prefix_binding

namespace Grammar

open Reader Lookahead

variable {depth : Nat} {structures : Bool} {aggregate : Aggregate} {item : Field → Tokens}

/-! ### Calls of names -/

/-- A local name is an expression. -/
theorem readsExpression_word {name : Identifier} (ordinary : name.isKeyword = false) :
    ReadsExpression structures 2 [.word name] :=
  ((readsAtom_bare (.of_single ordinary)).readsOperand nofun).readsExpression

section

variable {arguments : List Tokens}
  (each : ∀ argument ∈ arguments, ReadsExpression true depth argument)

include each

/-- A call of a name is an operand, with type arguments or without. -/
theorem readsOperand_named {name : QualifiedName} {types : Option (List Tokens)}
    (ordinary : name.Ordinary)
    (given : ∀ listed ∈ types, ∀ type ∈ listed, ReadsInAngles depth type) :
    ReadsOperand structures (depth + 1)
      (name.tokens ++ turbofish types ++ [.parenthesized (Token.commaSeparated arguments)])
      (fun form => form = .path ∨ form = .other) := by
  have called := readsTrailer_call each false nofun
  rw [if_neg Bool.false_ne_true, List.append_nil] at called
  exact readsOperand_of_trailers nofun (readsAtom_name given ordinary)
    (List.forall_mem_singleton.mpr called)

/-- So is a call of what a type has as an instance of a trait, perhaps with a comma after the last
argument. -/
theorem readsOperand_qualified {type : Tokens} {trait : QualifiedName} {name : Identifier}
    {types : Option (List Tokens)} (read : ReadsPathType depth type) (seen : trait.Ordinary)
    (ordinary : name.isKeyword = false)
    (given : ∀ listed ∈ types, ∀ type ∈ listed, ReadsInAngles depth type) (trailing : Bool)
    (filled : trailing = true → arguments ≠ []) :
    ReadsOperand structures (depth + 1)
      (Code.angled (type ++ [.plain "as"] ++ trait.tokens) ++ Token.pathSeparator ++
        (.word name :: turbofish types) ++ [.parenthesized (Token.commaSeparated arguments ++
          if trailing then [Token.comma] else [])])
      (fun form => form = .path ∨ form = .other) :=
  readsOperand_of_trailers nofun (readsAtom_qualified given read seen ordinary)
    (List.forall_mem_singleton.mpr (readsTrailer_call each trailing filled))

/-- So is a call of a method of a local name. -/
theorem readsOperand_method {name : Identifier} {method : String}
    (ordinary : name.isKeyword = false) (called : (Identifier.plain method).isKeyword = false) :
    ReadsOperand structures (depth + 1)
      (Code.method [.word name] method (Token.commaSeparated arguments))
      (fun form => form = .path ∨ form = .other) := by
  have trailer : ReadsTrailer depth (.mark '.' false :: .word (.plain method) ::
      (turbofish none ++ [.parenthesized (Token.commaSeparated arguments)])) :=
    readsTrailer_method called nofun each
  exact readsOperand_of_trailers nofun (readsAtom_bare (.of_single ordinary))
    (List.forall_mem_singleton.mpr trailer)

end

/-! ### Aggregates -/

theorem exists_labelled (item : Field → Tokens) {fields : List Field}
    (labels : ∀ field ∈ fields, ∃ label, field.name = .named label ∧ label.isKeyword = false) :
    ∃ items : List (Identifier × Tokens),
      (fields.map fun field => Reconstruction.labelTokens field.name ++ [.colon] ++ item field) =
        items.map labelledTokens ∧
      ∀ labelled ∈ items,
        labelled.1.isKeyword = false ∧ ∃ field ∈ fields, labelled.2 = item field := by
  induction fields with
  | nil => exact ⟨[], rfl, List.forall_mem_nil _⟩
  | cons field rest inductionHypothesis =>
    rw [List.forall_mem_cons] at labels
    obtain ⟨⟨label, named, ordinary⟩, later⟩ := labels
    obtain ⟨items, same, each⟩ := inductionHypothesis later
    refine ⟨(label, item field) :: items, ?_, List.forall_mem_cons.mpr ⟨?_, ?_⟩⟩
    · rw [List.map_cons, List.map_cons, same, named]
      rfl
    · exact ⟨ordinary, field, List.mem_cons_self, rfl⟩
    · intro labelled member
      obtain ⟨own, field, among, value⟩ := each labelled member
      exact ⟨own, field, List.mem_cons_of_mem _ among, value⟩

/-- An aggregate with patterns for its fields is a pattern. -/
theorem readsPattern_listing (ordinary : aggregate.Ordinary)
    (each : ∀ field ∈ aggregate.fields, ReadsAlternatives depth (item field)) :
    ReadsPattern (depth + 1) (aggregate.listing item) := by
  have name : (QualifiedName.mk false [aggregate.name]).Ordinary := .of_single ordinary.named
  rw [Aggregate.listing]
  cases style : aggregate.style with
  | named =>
    obtain ⟨items, same, labelled⟩ := exists_labelled item (ordinary.labels style)
    dsimp only
    rw [same]
    refine readsPattern_path name (.fields fun item member => ?_) (.inr (List.cons_ne_nil _ _))
    obtain ⟨own, field, among, value⟩ := labelled item member
    exact ⟨own, value ▸ each field among⟩
  | tuple =>
    refine readsPattern_path name (.parts ?_) (.inr (List.cons_ne_nil _ _))
    exact List.forall_mem_map.mpr each
  | unit => exact (readsPattern_name ordinary.named).mono (Nat.le_add_left 1 depth)

/-- An aggregate with expressions for its fields is an expression. -/
theorem readsExpression_listing (ordinary : aggregate.Ordinary)
    (each : ∀ field ∈ aggregate.fields, ReadsExpression true depth (item field)) :
    ReadsExpression true (depth + 2) (aggregate.listing item) := by
  have name : (QualifiedName.mk false [aggregate.name]).Ordinary := .of_single ordinary.named
  rw [Aggregate.listing]
  cases style : aggregate.style with
  | named =>
    obtain ⟨items, same, labelled⟩ := exists_labelled item (ordinary.labels style)
    dsimp only
    rw [same]
    have values : ∀ labelled ∈ items,
        labelled.1.isKeyword = false ∧ ReadsExpression true depth labelled.2 := by
      intro item member
      obtain ⟨own, field, among, value⟩ := labelled item member
      exact ⟨own, value ▸ each field among⟩
    exact ((readsAtom_structure name values).readsOperand (by simp)).readsExpression
  | tuple =>
    have called : ReadsOperand true (depth + 1) (_ ++ turbofish none ++ _) _ :=
      readsOperand_named (List.forall_mem_map.mpr each) name (by simp)
    exact called.readsExpression
  | unit => exact (readsExpression_word ordinary.named).mono (Nat.le_add_left 2 depth)

end Grammar

/-! ### The runtime -/

namespace Context

variable {context : Context} {depth : Nat} {structures : Bool}

/-- A name of the default runtime is a path from the root. -/
theorem runtimeName_eq (default : context.runtime = defaultRuntime) (names : List String) :
    context.runtimeName names =
      (QualifiedName.mk true (("undertow" :: names).map .plain)).tokens := by
  rw [runtimeName, default, QualifiedName.tokens, List.map_cons, List.map_cons, pathTokens_cons,
    laterTokens, List.map_map, List.map_map]
  rfl

theorem ordinary_runtime (names : List String)
    (ordinary : ∀ name ∈ names, (Identifier.plain name).isKeyword = false) :
    (QualifiedName.mk true (("undertow" :: names).map .plain)).Ordinary := by
  refine ⟨List.cons_ne_nil _ _, List.forall_mem_map.mpr (List.forall_mem_cons.mpr ⟨?_, ordinary⟩)⟩
  decide

section

variable (default : context.runtime = defaultRuntime) (enough : 2 ≤ depth)

include default enough

/-- A call of the capability is an operand. -/
theorem readsOperand_call {method : String} {types arguments : List Tokens}
    (ordinary : (Identifier.plain method).isKeyword = false)
    (given : ∀ type ∈ types, ReadsInAngles depth type)
    (each : ∀ argument ∈ arguments, ReadsExpression true depth argument) :
    ReadsOperand structures (depth + 1) (context.call method types arguments)
      (fun form => form = .path ∨ form = .other) := by
  have seen : (QualifiedName.mk true (["undertow", "Applicative"].map .plain)).Ordinary :=
    ordinary_runtime _ (by decide)
  have carrier : ReadsPathType depth (QualifiedName.mk false [effect]).tokens :=
    (readsPathType_name (.of_single (by decide))).mono (Nat.le_of_succ_le enough)
  have listed : ∀ listed ∈ some types, ∀ type ∈ listed, ReadsInAngles depth type := by
    rintro _ ⟨⟩
    exact given
  have handed : ReadsExpression true 2 [.word applicative] := readsExpression_word (by decide)
  have called : ReadsOperand structures (depth + 1) _ _ := readsOperand_qualified
    (List.forall_mem_cons.mpr ⟨handed.mono enough, each⟩) carrier seen ordinary listed false nofun
  rw [if_neg Bool.false_ne_true, List.append_nil, turbofish, ← runtimeName_eq default] at called
  rw [call, capability]
  simp only [List.append_assoc] at called ⊢
  exact called

/-- A value as an effect is an operand. -/
theorem readsOperand_pure {type value : Tokens} (typed : ReadsType depth type)
    (read : ReadsExpression true depth value) :
    ReadsOperand structures (depth + 1) (context.pureTokens type value)
      (fun form => form = .path ∨ form = .other) :=
  readsOperand_call default enough (by decide) (List.forall_mem_singleton.mpr typed.readsInAngles)
    (List.forall_mem_singleton.mpr read)

/-- So is an effect with a function applied to its value. -/
theorem readsOperand_map {source target effect function : Tokens} (taken : ReadsType depth source)
    (made : ReadsType depth target) (read : ReadsExpression true depth effect)
    (applied : ReadsExpression true depth function) :
    ReadsOperand structures (depth + 1) (context.mapTokens source target effect function)
      (fun form => form = .path ∨ form = .other) := by
  have free : ReadsInAngles depth inferred :=
    readsPathType_inferred.readsType.readsInAngles.mono (Nat.le_of_succ_le enough)
  refine readsOperand_call default enough (by decide) ?_ ?_
  · exact List.forall_mem_cons.mpr ⟨taken.readsInAngles, List.forall_mem_cons.mpr
      ⟨made.readsInAngles, List.forall_mem_singleton.mpr free⟩⟩
  · exact List.forall_mem_cons.mpr ⟨read, List.forall_mem_singleton.mpr applied⟩

/-- So are two effects with a function applied to both values. -/
theorem readsOperand_map2 {left right target first second function : Tokens}
    (lefts : ReadsType depth left) (rights : ReadsType depth right) (made : ReadsType depth target)
    (former : ReadsExpression true depth first) (latter : ReadsExpression true depth second)
    (applied : ReadsExpression true depth function) :
    ReadsOperand structures (depth + 1)
      (context.map2Tokens left right target first second function)
      (fun form => form = .path ∨ form = .other) := by
  have free : ReadsInAngles depth inferred :=
    readsPathType_inferred.readsType.readsInAngles.mono (Nat.le_of_succ_le enough)
  refine readsOperand_call default enough (by decide) ?_ ?_
  · exact List.forall_mem_cons.mpr ⟨lefts.readsInAngles, List.forall_mem_cons.mpr
      ⟨rights.readsInAngles, List.forall_mem_cons.mpr
        ⟨made.readsInAngles, List.forall_mem_singleton.mpr free⟩⟩⟩
  · exact List.forall_mem_cons.mpr ⟨former, List.forall_mem_cons.mpr
      ⟨latter, List.forall_mem_singleton.mpr applied⟩⟩

end

end Context

end Fieldwise
