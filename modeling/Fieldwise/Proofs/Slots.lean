/-
This file says what the pattern that takes an aggregate apart and the expression that puts
it together again list: every field once, in declared order, with its own local name, except
that the expression has the replacement in the one slot of the target. Local names of fields
differ from one another and from every other name in a body.
-/

import Fieldwise.Proofs.Rebuilding
import Fieldwise.Proofs.Words
import Mathlib.Data.List.Nodup

namespace Fieldwise

/-! ### Listing fields -/

/-- The aggregate's name with what stands for each field, one field after the other in
declared order, in the style in which its fields are written. -/
def Aggregate.listing (aggregate : Aggregate) (item : Field → Tokens) : Tokens :=
  match aggregate.style with
  | .named => [.word aggregate.name, .braced (Token.commaSeparated (aggregate.fields.map
      fun field => Reconstruction.labelTokens field.name ++ [.colon] ++ item field))]
  | .tuple =>
    [.word aggregate.name, .parenthesized (Token.commaSeparated (aggregate.fields.map item))]
  | .unit => [.word aggregate.name]

namespace Reconstruction

variable (rebuild : Reconstruction)

theorem shaped_eq_listing (item : Field → Tokens) :
    rebuild.shaped (rebuild.aggregate.fields.map fun field => (field.name, item field)) =
      rebuild.aggregate.listing item := by
  rw [shaped, Aggregate.listing]
  cases rebuild.aggregate.style <;> simp only [List.map_map] <;> rfl

/-- The pattern gives every field its own local name. -/
theorem destructureTokens_eq (source : Identifier) :
    rebuild.destructureTokens source =
      [.plain "let"] ++ rebuild.aggregate.listing (fun field => [.word field.name.binding]) ++
        [.equals, .word source, .semicolon] := by
  rw [destructureTokens, bindings, List.map_map, ← shaped_eq_listing]
  rfl

/-- The expression has the replacement in the target's slot, and in every other slot the local
name of the field. -/
theorem tokens_eq (replacement : Tokens) :
    rebuild.tokens replacement =
      rebuild.aggregate.listing fun field =>
        if field.name = rebuild.target.name then replacement else [.word field.name.binding] := by
  rw [tokens, slots, List.map_map, ← shaped_eq_listing]
  refine congrArg rebuild.shaped (List.map_congr_left fun field _ => ?_)
  rw [Function.comp_apply, slotOf]
  by_cases same : field.name = rebuild.target.name
  · rw [if_pos same, if_pos same]
    rfl
  · rw [if_neg same, if_neg same]
    rfl

theorem exists_target : ∃ field ∈ rebuild.aggregate.fields, field.name = rebuild.target.name := by
  have found := rebuild.declared
  rw [Aggregate.field?, List.find?_isSome] at found
  obtain ⟨field, member, same⟩ := found
  exact ⟨field, member, beq_iff_eq.mp same⟩

/-- A reconstruction fails exactly when no field has the target's name. -/
theorem around_eq_error {aggregate : Aggregate} {target : Field}
    (foreign : ∀ field ∈ aggregate.fields, field.name ≠ target.name) :
    around aggregate target =
      .error (.reconstructionMismatch aggregate.name.spelling target.name.display) := by
  refine dif_neg fun declared => ?_
  obtain ⟨field, member, same⟩ := (⟨aggregate, target, declared⟩ : Reconstruction).exists_target
  exact foreign field member same

end Reconstruction

/-! ### Local names -/

/-- The names that bodies bind besides those of the fields. -/
def Body.locals : List Identifier :=
  [Context.source, Context.function, Context.applicative] ++
    ["__acc", "__element", "__key", "__value", "__values", "__other", "__instance",
      "__traversed"].map .plain

/-- What the local names of all fields start with. -/
theorem FieldName.prefix_binding (name : FieldName) :
    "__field_".toList <+: name.binding.text.toList := by
  rw [binding, Identifier.plain, String.toList_append]
  exact List.prefix_append _ _

theorem FieldName.plain_ne_binding {name : FieldName} {text : String}
    (other : ¬ "__field_".toList <+: text.toList) : Identifier.plain text ≠ name.binding := by
  intro same
  refine other ?_
  rw [show text = name.binding.text from congrArg Identifier.text same]
  exact name.prefix_binding

/-- The local name of a field is no word that generated code is written with. -/
theorem FieldName.foreign_binding (name : FieldName) : name.binding.Foreign := by
  have others : ∀ text ∈ Code.vocabulary, ¬ "__field_".toList <+: text.toList := by decide
  exact fun text member => FieldName.plain_ne_binding (others text member)

theorem FieldName.binding_not_mem_locals (name : FieldName) : name.binding ∉ Body.locals := by
  have others : ∀ identifier ∈ Body.locals, ¬ "__field_".toList <+: identifier.text.toList := by
    decide
  exact fun member => others name.binding member name.prefix_binding

/-! ### The slot of the target -/

namespace Reconstruction

variable {rebuild : Reconstruction} {field : Field}

/-- Of the fields with distinct names, the target is the one with the target's local name. -/
theorem name_eq_target_iff (distinct : rebuild.aggregate.DistinctNames)
    (member : field ∈ rebuild.aggregate.fields) :
    field.name = rebuild.target.name ↔ field.name.binding = rebuild.binding := by
  refine ⟨fun same => congrArg FieldName.binding same, fun same => ?_⟩
  obtain ⟨target, targetMember, targetName⟩ := rebuild.exists_target
  have display : field.name.display = target.name.display := by
    rw [← FieldName.binding_eq_iff, same, targetName]
    rfl
  rw [List.inj_on_of_nodup_map distinct member targetMember display, targetName]

/-- One place among the fields is that of the target, and no other. -/
theorem exists_index (distinct : rebuild.aggregate.DistinctNames) :
    ∃ index < rebuild.aggregate.fields.length,
      ∀ other, (inside : other < rebuild.aggregate.fields.length) →
        (rebuild.aggregate.fields[other].name = rebuild.target.name ↔ other = index) := by
  obtain ⟨target, member, targetName⟩ := rebuild.exists_target
  obtain ⟨index, inFields, rfl⟩ := List.getElem_of_mem member
  refine ⟨index, inFields, fun other inside => ⟨fun same => ?_, ?_⟩⟩
  · let names := rebuild.aggregate.fields.map fun field => field.name.display
    have nodup : names.Nodup := distinct
    have otherName : other < names.length := by rwa [List.length_map]
    have indexName : index < names.length := by rwa [List.length_map]
    have sameName : names[other] = names[index] := by
      rw [List.getElem_map, List.getElem_map, same, targetName]
    exact nodup.getElem_inj_iff.mp sameName
  · rintro rfl
    exact targetName

/-- The rebuilt value is the one that was taken apart with the target's part replaced. -/
theorem build_eq_set (distinct : rebuild.aggregate.DistinctNames) {parts : List Value}
    (fits : parts.length = rebuild.aggregate.fields.length) {index : Nat}
    (only : ∀ other, (inside : other < rebuild.aggregate.fields.length) →
      (rebuild.aggregate.fields[other].name = rebuild.target.name ↔ other = index))
    (replacement : Value) :
    rebuild.build ((rebuild.bindings.map (·.2)).zip parts) replacement =
      .tree .record (parts.set index replacement) := by
  -- Both values are compared part by part; only the place of the target is written to.
  rw [build_eq distinct fits]
  refine congrArg (Value.tree .record) (List.ext_getElem ?_ fun other inside inParts => ?_)
  · rw [List.length_zipWith, List.length_set, fits, Nat.min_self]
  · rw [List.length_set, fits] at inParts
    rw [List.getElem_zipWith, List.getElem_set]
    by_cases same : other = index
    · rw [if_pos ((only other inParts).mpr same), if_pos same.symm]
    · rw [if_neg fun target => same ((only other inParts).mp target), if_neg (Ne.symm same)]

/-! ### Uses of a word -/

/-- The local names of the fields, as far as the style of the aggregate lists fields. -/
def localNames (rebuild : Reconstruction) : List Identifier :=
  match rebuild.aggregate.style with
  | .unit => []
  | _ => rebuild.aggregate.fields.map fun field => field.name.binding

/-- What stands in the slot of a field. -/
def slotPiece (rebuild : Reconstruction) (replacement : Piece) (field : Field) : Piece :=
  if field.name = rebuild.target.name then replacement else ⟨[.word field.name.binding], []⟩

/-- The parts of the expression that are copied from the declaration: the aggregate's name, the
names of the fields before their colons, and what is copied into the target's slot. -/
def copied (rebuild : Reconstruction) (replacement : Piece) : List Tokens :=
  match rebuild.aggregate.style with
  | .named =>
    [.word rebuild.aggregate.name] :: rebuild.aggregate.fields.flatMap fun field =>
      labelTokens field.name :: (rebuild.slotPiece replacement field).copied
  | .tuple =>
    [.word rebuild.aggregate.name] :: rebuild.aggregate.fields.flatMap fun field =>
      (rebuild.slotPiece replacement field).copied
  | .unit => [[.word rebuild.aggregate.name]]

/-- The expression with its copied parts. -/
def piece (rebuild : Reconstruction) (replacement : Piece) : Piece :=
  ⟨rebuild.tokens replacement.tokens, rebuild.copied replacement⟩

section

variable {word : Identifier} {replacement : Piece}

/-- A slot uses a word other than the target's local name if it is the local name of the
slot's field. -/
theorem uses_slotPiece (different : word ≠ rebuild.binding) (unused : replacement.Uses word 0)
    (field : Field) :
    (rebuild.slotPiece replacement field).Uses word ([field.name.binding].count word) := by
  rw [slotPiece]
  split
  · rename_i same
    have none : [field.name.binding].count word = 0 :=
      List.count_eq_zero.mpr fun member => different <| by
        rw [List.mem_singleton.mp member, same]
        rfl
    rw [none]
    exact unused
  · simp [Piece.Uses]

/-- The expression uses a word other than the target's local name if it is the local name of
a field. -/
theorem uses_piece (different : word ≠ rebuild.binding) (unused : replacement.Uses word 0) :
    (rebuild.piece replacement).Uses word (rebuild.localNames.count word) := by
  have slots := uses_slotPiece different unused
  have tokens : rebuild.tokens replacement.tokens =
      rebuild.aggregate.listing fun field => (rebuild.slotPiece replacement field).tokens := by
    rw [tokens_eq]
    refine congrArg rebuild.aggregate.listing (funext fun field => ?_)
    rw [slotPiece, apply_ite Piece.tokens]
  rw [piece, tokens, Aggregate.listing, copied, localNames]
  cases style : rebuild.aggregate.style with
  | named =>
    -- The label of a field is copied, so that a word of it is no use.
    have labelled (field : Field) :
        (⟨labelTokens field.name ++ [.colon] ++ (rebuild.slotPiece replacement field).tokens,
          labelTokens field.name :: (rebuild.slotPiece replacement field).copied⟩ : Piece).Uses
          word ([field.name.binding].count word) := by
      have slot := slots field
      unfold Piece.Uses at slot ⊢
      simp only [Tokens.words_append, Tokens.words_cons, Token.words_colon, Tokens.words_nil,
        List.append_nil, List.flatMap_cons, List.count_append, slot]
      omega
    have listed := (Piece.uses_joined_map labelled rebuild.aggregate.fields).listed
      rebuild.aggregate.name .brace
    simp only [Piece.joined, List.map_map, List.flatMap_map] at listed
    exact listed
  | tuple =>
    have listed := (Piece.uses_joined_map slots rebuild.aggregate.fields).listed
      rebuild.aggregate.name .parenthesis
    simp only [Piece.joined, List.map_map, List.flatMap_map] at listed
    exact listed
  | unit => simp [Piece.Uses]

end

end Reconstruction

end Fieldwise
