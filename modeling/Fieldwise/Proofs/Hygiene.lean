/-
This file says where the words of generated items come from. An item is made of words that
all generated code is written with, and of parts that are copied from the declaration; a
word of another kind stands in the item exactly if it stands in one of these parts. So the
items never say `Self` on their own, but they do not keep a copied `Self` out either, and a
generic parameter is captured exactly if it has one of the two names that items use.
-/

import Fieldwise.Grammar.Declaration
import Fieldwise.Proofs.ControlFlow
import Fieldwise.Proofs.Results
import Fieldwise.Proofs.Writing
import Fieldwise.Token.Lexer

namespace Fieldwise

open Code

/-! ### Bodies -/

/-- The copied parts of a flow. -/
def Flow.copied : Flow → List Tokens
  | .result value => value.copied
  | .statement piece rest => piece.copied ++ rest.copied
  | .earlyReturn condition value rest => condition.copied ++ value.copied ++ rest.copied
  | .rounds pattern items round rest =>
    pattern.copied ++ items.copied ++ round.copied ++ rest.copied
  | .branches scrutinee arms =>
    scrutinee.copied ++ arms.flatMap fun (pattern, value) => pattern.copied ++ value.copied

section

variable {word : Identifier} (foreign : word.Foreign)

include foreign

/-- A foreign word that no piece of a flow uses is only in copied parts. -/
theorem Flow.uses_whole {flow : Flow} (unused : flow.Uses word 0) :
    Piece.Uses word 0 ⟨flow.tokens, flow.copied⟩ := by
  induction flow with
  | result value => exact unused
  | statement piece rest inductionHypothesis =>
    obtain ⟨first, others⟩ := unused
    have after := inductionHypothesis others
    unfold Piece.Uses at first after ⊢
    simp [tokens, copied, first, after]
  | earlyReturn condition value rest inductionHypothesis =>
    obtain ⟨conditionUnused, valueUnused, others⟩ := unused
    have after := inductionHypothesis others
    unfold Piece.Uses at conditionUnused valueUnused after ⊢
    simp (disch := decide) [tokens, copied, conditionUnused, valueUnused, after,
      foreign.count_plain_cons]
  | rounds pattern items round rest inductionHypothesis =>
    obtain ⟨patternUnused, itemsUnused, roundUnused, others⟩ := unused
    have after := inductionHypothesis others
    unfold Piece.Uses at patternUnused itemsUnused roundUnused after ⊢
    simp (disch := decide) [tokens, copied, patternUnused, itemsUnused, roundUnused, after,
      foreign.count_plain_cons]
  | branches scrutinee arms =>
    have armsUnused : (Piece.joined (arms.map fun each =>
        ⟨arm each.1.tokens each.2.tokens, each.1.copied ++ each.2.copied⟩)).Uses word 0 := by
      refine Piece.uses_joined_of_forall (List.forall_mem_map.mpr fun each member => ?_)
      obtain ⟨patternUnused, valueUnused⟩ := unused.2 each member
      unfold Piece.Uses at patternUnused valueUnused ⊢
      simp [patternUnused, valueUnused]
    have scrutineeUnused := unused.1
    unfold Piece.Uses Piece.joined at armsUnused
    unfold Piece.Uses at scrutineeUnused ⊢
    simp only [List.flatMap_map] at armsUnused
    simp (disch := decide) [tokens, copied, scrutineeUnused, armsUnused, foreign.count_plain_cons]

end

/-- Taking an aggregate apart is written like the expression for its unchanged value. -/
theorem Reconstruction.destructureTokens_eq_unchanged (rebuild : Reconstruction)
    (source : Identifier) :
    rebuild.destructureTokens source =
      [.plain "let"] ++ rebuild.unchangedTokens ++ [.equals, .word source, .semicolon] := by
  have same : (fun field : Field => [Token.word field.name.binding]) = fun field =>
      if field.name = rebuild.target.name then [.word rebuild.binding]
      else [.word field.name.binding] := by
    funext field
    split
    · rename_i name
      rw [name]
      rfl
    · rfl
  rw [destructureTokens_eq, same, unchangedTokens, tokens_eq]

namespace Body

variable (body : Body)

/-- The copied parts of a body. -/
def copied : List Tokens :=
  body.rebuild.copied ⟨body.targetTokens, []⟩ ++ body.flow.copied

/-- A foreign word that is no local name of a field stands in a body only in copied parts. -/
theorem uses_whole {word : Identifier} (foreign : word.Foreign)
    (other : ∀ name : FieldName, word ≠ name.binding) :
    Piece.Uses word 0 ⟨body.tokens, body.copied⟩ := by
  have different : word ≠ body.rebuild.binding := other _
  -- As no local name of a field is the word, a way through the body does not use it.
  have unlisted : body.rebuild.localNames.count word = 0 := by
    refine List.count_eq_zero.mpr fun member => ?_
    rw [Reconstruction.localNames] at member
    split at member
    · cases member
    · obtain ⟨field, -, same⟩ := List.mem_map.mp member
      exact other field.name same.symm
  have target : Piece.Uses word 0 ⟨body.targetTokens, []⟩ := count_targetTokens different
  have unchanged := Reconstruction.uses_piece different target
  have flow := uses_flow foreign different
  rw [unlisted] at unchanged flow
  have after := Flow.uses_whole foreign flow
  unfold Piece.Uses at unchanged after ⊢
  rw [tokens_eq_flow, destructureTokens, Reconstruction.destructureTokens_eq_unchanged]
  have same : body.rebuild.unchangedTokens = (body.rebuild.piece ⟨body.targetTokens, []⟩).tokens :=
    rfl
  simp (disch := decide) [same, unchanged, after, copied, Context.source,
    foreign.count_plain_cons]
  rfl

end Body

/-! ### Items -/

namespace Definition

variable (aggregate : Aggregate) (definition : Definition)

/-- The copied parts of a draft; tokens that a generator wrote on its own are not taken
apart. -/
def draftCopied : Draft → List Tokens
  | .planned body => body.copied
  | .verbatim tokens => [tokens]

/-- The parts of the items of a traversal that are copied from the declaration: its
visibility, its parameters and predicates, the path of the runtime, the types of the aggregate
and of the focus, and the copied parts of the body. -/
def copied : List Tokens :=
  let runtime := aggregate.runtime.tokens
  let self := aggregate.selfType
  let focus := definition.focus.tokens
  [aggregate.visibility, aggregate.generics.introduced, runtime, self, focus,
    (aggregate.generics.whereClause.extend definition.body.bounds).tokens,
    self, runtime, self, runtime, focus, runtime, focus] ++ draftCopied definition.body.body

end Definition

theorem Definition.structureNameFor_ne_self (aggregate : Identifier) (field : FieldName) :
    structureNameFor aggregate field ≠ .plain "Self" := by
  intro same
  have texts : aggregate.text ++ field.pascal ++ "Traversal" = "Self" :=
    congrArg Identifier.text same
  have ending : "Traversal".toList <:+ "Self".toList := by
    rw [← texts, String.toList_append]
    exact List.suffix_append _ _
  exact absurd ending (by decide)

/-- The items of a traversal. -/
def Definition.itemTokens (definition : Definition) (aggregate : Aggregate) : Tokens :=
  definition.structureTokens aggregate ++ definition.implementationTokens aggregate

/-- A foreign word that is neither a local name of a field nor the name of the generated type
stands in the items of a traversal only in copied parts. -/
theorem Definition.uses_items {aggregate : Aggregate} {definition : Definition} {body : Body}
    (planned : definition.body.body = .planned body)
    (parameters : definition.typeParameters = [Context.effect, Context.functionType])
    {word : Identifier} (foreign : word.Foreign) (other : ∀ name : FieldName, word ≠ name.binding)
    (unnamed : definition.structureName ≠ word) :
    Piece.Uses word 0 ⟨definition.itemTokens aggregate, definition.copied aggregate⟩ := by
  have within := body.uses_whole foreign other
  unfold Piece.Uses at within ⊢
  have tokens : definition.body.tokens = body.tokens := by
    rw [Fragment.tokens, planned, Draft.tokens]
  simp (disch := decide) [itemTokens, structureTokens, implementationTokens, methodTokens, copied,
    parameters, planned, tokens, within, draftCopied, documented, attributeTokens, generated,
    effectOf, Context.effect, Context.functionType, foreign.count_plain_cons,
    List.count_cons_of_ne unnamed]

/-! ### Expansions -/

/-- The items of an expansion, if it gives items. -/
def Expansion.items? : Expansion → Option Tokens
  | .items tokens => some tokens
  | .errors _ => none

namespace Registry

/-- What is known of the items of a traversal: `Self` stands in them exactly if it stands in a
part that is copied from the declaration, and a parameter of the declaration is captured by one
of the method exactly if it has its name. -/
structure Transparent (aggregate : Aggregate) (definition : Definition) : Prop where
  self : .plain "Self" ∈ Tokens.words (definition.itemTokens aggregate) ↔
    ∃ part ∈ definition.copied aggregate, .plain "Self" ∈ Tokens.words part
  captured : ∀ parameter ∈ aggregate.generics.parameters,
    parameter.name ∈ definition.typeParameters ↔
      parameter.name = .plain "__F" ∨ parameter.name = .plain "__G"

theorem transparent_of_fieldResult_builtin {aggregate : Aggregate} {field : Field}
    {definition : Definition}
    (defined : builtin.fieldResult aggregate field = .ok definition) :
    Transparent aggregate definition := by
  obtain ⟨generator, builtIn, -, focus, fragment, -, written, rfl⟩ :=
    exists_of_fieldResult_eq_ok defined
  obtain ⟨body, planned, -⟩ := Generator.planned_of_mem_builtin builtIn written
  refine ⟨(Definition.uses_items planned rfl (by decide) (fun name => ?_)
    (Definition.structureNameFor_ne_self _ _)).mem_words_iff, fun parameter _ => ?_⟩
  · exact FieldName.plain_ne_binding (by decide)
  · exact List.mem_pair

/-- In the items of a declaration that is expanded, generated code never says `Self` on its own,
and a `Self` that was copied from the declaration is kept; the names of the two parameters of a
method are the only ones that it captures. -/
theorem transparent_of_expand_builtin {written : WrittenDeclaration} {listener : Level}
    {items : Tokens} (expanded : (builtin.expand written).result listener = .items items) :
    ∃ aggregate, Aggregate.ofWritten written = .ok aggregate ∧
      items = emit aggregate (builtin.tally aggregate).1 ∧
        ∀ definition ∈ (builtin.tally aggregate).1, Transparent aggregate definition := by
  obtain ⟨aggregate, scanned, rfl⟩ := exists_of_expand_eq_items expanded
  refine ⟨aggregate, scanned, rfl, fun definition member => ?_⟩
  obtain ⟨field, -, defined⟩ := (accounted_tally builtin aggregate).definitions definition member
  exact transparent_of_fieldResult_builtin defined

/-- The items of a directory are transparent. -/
theorem transparent_of_expand_builtin_directory :
    ∃ written items, ((Tokens.ofText "struct Directory { entries: Vec<Directory> }").bind
        fun tokens => (WrittenDeclaration.ofTokens tokens).toOption) = some written ∧
      (builtin.expand written).result .info = .items items ∧
        ∃ aggregate, Aggregate.ofWritten written = .ok aggregate ∧
          items = emit aggregate (builtin.tally aggregate).1 ∧
            ∀ definition ∈ (builtin.tally aggregate).1, Transparent aggregate definition := by
  have accepted : (((Tokens.ofText "struct Directory { entries: Vec<Directory> }").bind
      fun tokens => (WrittenDeclaration.ofTokens tokens).toOption).bind fun written =>
        ((builtin.expand written).result .info).items?).isSome := by decide +kernel
  obtain ⟨items, found⟩ := Option.isSome_iff_exists.mp accepted
  obtain ⟨written, read, given⟩ := Option.bind_eq_some_iff.mp found
  cases expanded : (builtin.expand written).result .info with
  | errors diagnostics =>
    rw [expanded] at given
    cases given
  | items tokens => exact ⟨written, tokens, read, expanded, transparent_of_expand_builtin expanded⟩

/-- The `Self` of a structure that holds itself stands in the items of its traversal, where it
is the generated type and not the structure. -/
theorem self_mem_items_recursive :
    ((Tokens.ofText "struct Node { children: Vec<Self> }").bind fun tokens =>
      (WrittenDeclaration.ofTokens tokens).toOption.bind fun written =>
        (Aggregate.ofWritten written).toOption.map fun aggregate =>
          (((builtin.expand written).result .info).items?.isSome,
            (builtin.tally aggregate).1.map fun definition =>
              decide (.plain "Self" ∈ Tokens.words (definition.itemTokens aggregate)))) =
      some (true, [true]) := by
  decide +kernel

end Registry

end Fieldwise
