/-
This file proves which flags a field has. Its attributes may hold the words `skip` and `traverse`,
but not both of them. The flags say which of the words are among all the pieces of these
attributes, so it does not matter in which attribute they stand, in which order and how often. Of
several faults the first one decides.
-/

import Fieldwise.Proofs.Listings
import Fieldwise.Proofs.Writing

namespace Fieldwise

open Reader
open Token (front Yields)
open Attribute (Listing TakesPieces)

/-! ### Items on fields -/

namespace FieldItem

/-- The item that a piece of one word is; no other piece is an item that fields support. -/
def ofPiece : Tokens → FieldItem
  | [.word name] => ofPath ⟨false, [.mk name .none]⟩
  | _ => .unsupported

/-- The piece is one word. -/
def IsWord (piece : Tokens) : Prop := ∃ name, piece = [.word name]

theorem eq_of_ofPath_ne {path : Path} (supported : ofPath path ≠ .unsupported) :
    ∃ name, path = ⟨false, [.mk name .none]⟩ := by
  unfold ofPath at supported
  split at supported
  · rename_i single
    exact ⟨_, Path.single?_eq_some_iff.mp (beq_iff_eq.mp single)⟩
  · split at supported
    · rename_i single
      exact ⟨_, Path.single?_eq_some_iff.mp (beq_iff_eq.mp single)⟩
    · exact absurd rfl supported

theorem ofPiece_word (name : Identifier) :
    ofPiece [.word name] =
      if name = .plain "skip" then .skip
      else if name = .plain "traverse" then .traverse
      else .unsupported := by
  unfold ofPiece ofPath Path.single?
  simp only [beq_iff_eq, Option.some.injEq]

theorem isWord_of_ofPiece_ne {piece : Tokens} (supported : ofPiece piece ≠ .unsupported) :
    IsWord piece := by
  unfold ofPiece at supported
  split at supported
  · exact ⟨_, rfl⟩
  · exact absurd rfl supported

/-- The word of an item that fields support. -/
def word? : FieldItem → Option String
  | .skip => some "skip"
  | .traverse => some "traverse"
  | .unsupported => none

theorem ofPiece_eq_iff {item : FieldItem} {word : String} (spelled : item.word? = some word)
    {piece : Tokens} : ofPiece piece = item ↔ piece = [.plain word] := by
  constructor
  · rintro rfl
    have supported : ofPiece piece ≠ .unsupported := by
      intro unsupported
      rw [unsupported] at spelled
      cases spelled
    obtain ⟨name, rfl⟩ := isWord_of_ofPiece_ne supported
    rw [ofPiece_word] at spelled
    split at spelled
    · rename_i skip
      cases spelled
      rw [skip]
      rfl
    · split at spelled
      · rename_i traverse
        cases spelled
        rw [traverse]
        rfl
      · cases spelled
  · rintro rfl
    cases item with
    | skip =>
      cases spelled
      rfl
    | traverse =>
      cases spelled
      rfl
    | unsupported => cases spelled

/-- An item stands for a word that is this item. -/
def Fits (item : FieldItem) (piece : Tokens) : Prop := IsWord piece ∧ item = ofPiece piece

/-- Items that fit pieces are those that the pieces are. -/
theorem eq_map_of_fits {items : List FieldItem} {pieces : List Tokens}
    (each : List.Forall₂ Fits items pieces) : items = pieces.map ofPiece := by
  have same : List.Forall₂ (· = ·) items (pieces.map ofPiece) :=
    List.forall₂_map_right_iff.mpr (each.imp fun _ _ fit => fit.2)
  rwa [List.forall₂_eq_eq_eq] at same

theorem fits_map_of_words {pieces : List Tokens} (words : ∀ piece ∈ pieces, IsWord piece) :
    List.Forall₂ Fits (pieces.map ofPiece) pieces :=
  List.forall₂_map_left_iff.mpr (List.forall₂_same.mpr fun piece member =>
    ⟨words piece member, rfl⟩)

theorem takesPieces :
    TakesPieces (fun path => return ofPath path) Fits (· ≠ .unsupported) where
  unbroken := by
    rintro found piece ⟨⟨name, rfl⟩, -⟩
    exact Token.unbroken_word name
  takes := by
    rintro found piece later reading ⟨⟨name, rfl⟩, rfl⟩ yields border
    cases yields with
    | next first more =>
    cases more
    obtain ⟨after, path, remaining⟩ := Attribute.itemPath_of_front first border.not_separator
    exact ⟨after, bind_eq_ok_iff.mpr ⟨_, _, path, rfl⟩, remaining⟩
  taken := by
    intro found reading after read supported
    obtain ⟨path, between, path, rest⟩ := bind_eq_ok_iff.mp read
    cases rest
    obtain ⟨name, rfl⟩ := eq_of_ofPath_ne supported
    have first := Attribute.front_of_itemPath path rfl
    exact ⟨[.word name], ⟨⟨name, rfl⟩, rfl⟩, .next first (.none _)⟩

end FieldItem

/-! ### Flags -/

namespace FieldFlags

/-- The flags after more items, if none of these is at fault. -/
def after (flags : FieldFlags) (items : List FieldItem) : FieldFlags :=
  ⟨flags.skip || items.contains .skip, flags.traverse || items.contains .traverse⟩

/-- The flags do not exclude each other. -/
def Exclusive (flags : FieldFlags) : Prop := ¬(flags.skip = true ∧ flags.traverse = true)

variable (flags : FieldFlags) (items others : List FieldItem)

theorem after_nil : flags.after [] = flags := by
  simp only [after, List.contains_nil, Bool.or_false]

theorem after_append : flags.after (items ++ others) = (flags.after items).after others := by
  simp only [after, List.contains_eq_mem, List.mem_append, Bool.decide_or, Bool.or_assoc]

variable {flags items}

theorem Exclusive.of_after (exclusive : (flags.after items).Exclusive) : flags.Exclusive := by
  rintro ⟨skip, traverse⟩
  refine exclusive ⟨?_, ?_⟩
  · rw [after, skip, Bool.true_or]
  · rw [after, traverse, Bool.true_or]

end FieldFlags

namespace FieldItem

variable {flags flags' : FieldFlags} {items : List FieldItem} {item : FieldItem}
  {error : AttributeError}

/-- One more item is at fault if it is none of the two, or if both flags are set with it. -/
theorem take_eq (flags : FieldFlags) (item : FieldItem) :
    take flags item =
      if item = .unsupported then .error .unsupportedFieldItem
      else if (flags.after [item]).skip && (flags.after [item]).traverse then
        .error .conflictingFlags
      else .ok (flags.after [item]) := by
  cases item <;> rfl

theorem take_eq_ok_iff :
    take flags item = .ok flags' ↔
      item ≠ .unsupported ∧ flags' = flags.after [item] ∧ flags'.Exclusive := by
  rw [take_eq]
  split
  · rename_i unsupported
    exact ⟨nofun, fun ⟨supported, _⟩ => absurd unsupported supported⟩
  · rename_i supported
    split
    · rename_i both
      rw [Bool.and_eq_true] at both
      refine ⟨nofun, ?_⟩
      rintro ⟨-, rfl, exclusive⟩
      exact absurd both exclusive
    · rename_i notBoth
      rw [Bool.and_eq_true] at notBoth
      constructor
      · intro taken
        cases taken
        exact ⟨supported, rfl, notBoth⟩
      · rintro ⟨-, rfl, -⟩
        rfl

theorem foldlM_take_eq_ok_iff (exclusive : flags.Exclusive) :
    items.foldlM take flags = .ok flags' ↔
      .unsupported ∉ items ∧ flags' = flags.after items ∧ flags'.Exclusive := by
  induction items generalizing flags with
  | nil =>
    rw [List.foldlM_nil, FieldFlags.after_nil]
    constructor
    · intro same
      cases same
      exact ⟨List.not_mem_nil, rfl, exclusive⟩
    · rintro ⟨-, rfl, -⟩
      rfl
  | cons item rest inductionHypothesis =>
    rw [List.foldlM_cons, List.mem_cons, not_or, ← List.singleton_append,
      FieldFlags.after_append]
    constructor
    · intro folded
      obtain ⟨middle, taken, folded⟩ := exists_ok_of_bind folded
      obtain ⟨supported, rfl, between⟩ := take_eq_ok_iff.mp taken
      obtain ⟨others, same, last⟩ := (inductionHypothesis between).mp folded
      exact ⟨⟨supported.symm, others⟩, same, last⟩
    · rintro ⟨⟨supported, others⟩, rfl, last⟩
      -- What is set stays set, so flags before the last exclude each other if these do.
      have between : (flags.after [item]).Exclusive := last.of_after
      rw [take_eq_ok_iff.mpr ⟨Ne.symm supported, rfl, between⟩]
      exact (inductionHypothesis between).mpr ⟨others, rfl, last⟩

theorem take_eq_error_iff :
    take flags item = .error error ↔
      item = .unsupported ∧ error = .unsupportedFieldItem ∨
        item ≠ .unsupported ∧ ¬(flags.after [item]).Exclusive ∧ error = .conflictingFlags := by
  rw [take_eq, FieldFlags.Exclusive, not_not, ← Bool.and_eq_true]
  split
  · rename_i unsupported
    rw [Except.error.injEq]
    constructor
    · rintro rfl
      exact .inl ⟨unsupported, rfl⟩
    · rintro (⟨-, rfl⟩ | ⟨supported, -⟩)
      · rfl
      · exact absurd unsupported supported
  · rename_i supported
    split
    · rename_i both
      rw [Except.error.injEq]
      constructor
      · rintro rfl
        exact .inr ⟨supported, both, rfl⟩
      · rintro (⟨unsupported, -⟩ | ⟨-, -, rfl⟩)
        · exact absurd unsupported supported
        · rfl
    · rename_i notBoth
      refine ⟨nofun, ?_⟩
      rintro (⟨unsupported, -⟩ | ⟨-, both, -⟩)
      · exact absurd unsupported supported
      · exact absurd both notBoth

/-- Of several items the first one at fault decides. -/
theorem foldlM_take_eq_error_iff (exclusive : flags.Exclusive) :
    items.foldlM take flags = .error error ↔
      ∃ before item after, items = before ++ item :: after ∧ .unsupported ∉ before ∧
        (flags.after before).Exclusive ∧
          (item = .unsupported ∧ error = .unsupportedFieldItem ∨
            item ≠ .unsupported ∧ ¬(flags.after (before ++ [item])).Exclusive ∧
              error = .conflictingFlags) := by
  rw [Attribute.foldlM_eq_error_iff]
  constructor
  · rintro ⟨before, item, after, state, split, folded, failed⟩
    obtain ⟨supported, rfl, between⟩ := (foldlM_take_eq_ok_iff exclusive).mp folded
    rw [take_eq_error_iff, ← FieldFlags.after_append] at failed
    exact ⟨before, item, after, split, supported, between, failed⟩
  · rintro ⟨before, item, after, split, supported, between, failed⟩
    rw [FieldFlags.after_append, ← take_eq_error_iff] at failed
    exact ⟨before, item, after, _, split,
      (foldlM_take_eq_ok_iff exclusive).mpr ⟨supported, rfl, between⟩, failed⟩

variable {pieces : List Tokens}

theorem not_mem_map_ofPiece_iff :
    .unsupported ∉ pieces.map ofPiece ↔
      ∀ piece ∈ pieces, piece = [.plain "skip"] ∨ piece = [.plain "traverse"] := by
  rw [List.mem_map]
  constructor
  · intro supported piece member
    cases item : ofPiece piece with
    | skip => exact .inl ((ofPiece_eq_iff rfl).mp item)
    | traverse => exact .inr ((ofPiece_eq_iff rfl).mp item)
    | unsupported => exact absurd ⟨piece, member, item⟩ supported
  · rintro documented ⟨piece, member, unsupported⟩
    rcases documented piece member with rfl | rfl <;> cases unsupported

theorem contains_map_ofPiece_iff {word : String} (spelled : item.word? = some word) :
    (pieces.map ofPiece).contains item = true ↔ [.plain word] ∈ pieces := by
  simp only [List.contains_iff_mem, List.mem_map, ofPiece_eq_iff spelled, exists_eq_right]

theorem skip_after_map_iff :
    (FieldFlags.after ⟨false, false⟩ (pieces.map ofPiece)).skip = true ↔
      [.plain "skip"] ∈ pieces := by
  rw [FieldFlags.after, Bool.false_or]
  exact contains_map_ofPiece_iff rfl

theorem traverse_after_map_iff :
    (FieldFlags.after ⟨false, false⟩ (pieces.map ofPiece)).traverse = true ↔
      [.plain "traverse"] ∈ pieces := by
  rw [FieldFlags.after, Bool.false_or]
  exact contains_map_ofPiece_iff rfl

end FieldItem

/-! ### Flags of fields -/

/-- The piece is one of the two words that fields may hold. -/
def FieldPiece (piece : Tokens) : Prop := piece = [.plain "skip"] ∨ piece = [.plain "traverse"]

/-- Both words are among the pieces. -/
def Conflicting (pieces : List Tokens) : Prop :=
  [.plain "skip"] ∈ pieces ∧ [.plain "traverse"] ∈ pieces

/-- The flags are those that pieces give: the pieces are the two words, of which not both occur,
and each flag is set where its word is among them. -/
structure FieldFlags.GivenBy (flags : FieldFlags) (pieces : List Tokens) : Prop where
  documented : ∀ piece ∈ pieces, FieldPiece piece
  consistent : ¬Conflicting pieces
  skip : flags.skip = true ↔ [.plain "skip"] ∈ pieces
  traverse : flags.traverse = true ↔ [.plain "traverse"] ∈ pieces

/-- Flags do not depend on the order of pieces, nor on how often they occur. -/
theorem FieldFlags.GivenBy.congr {flags : FieldFlags} {pieces pieces' : List Tokens}
    (given : flags.GivenBy pieces) (same : ∀ piece, piece ∈ pieces ↔ piece ∈ pieces') :
    flags.GivenBy pieces' where
  documented piece member := given.documented piece ((same piece).mpr member)
  consistent both := given.consistent ⟨(same _).mpr both.1, (same _).mpr both.2⟩
  skip := given.skip.trans (same _)
  traverse := given.traverse.trans (same _)

section Fields

variable {attributes : List Attribute} {pieces : List Tokens} {flags : FieldFlags}
  {error : AttributeError}

theorem exclusive_start : FieldFlags.Exclusive ⟨false, false⟩ := nofun

theorem exclusive_after_iff :
    (FieldFlags.after ⟨false, false⟩ (pieces.map FieldItem.ofPiece)).Exclusive ↔
      ¬Conflicting pieces := by
  rw [FieldFlags.Exclusive, FieldItem.skip_after_map_iff, FieldItem.traverse_after_map_iff,
    Conflicting]

theorem exists_givenBy_iff :
    (∃ flags : FieldFlags, flags.GivenBy pieces) ↔
      (∀ piece ∈ pieces, FieldPiece piece) ∧ ¬Conflicting pieces := by
  constructor
  · rintro ⟨flags, given⟩
    exact ⟨given.documented, given.consistent⟩
  · rintro ⟨documented, consistent⟩
    exact ⟨.after ⟨false, false⟩ (pieces.map FieldItem.ofPiece), documented, consistent,
      FieldItem.skip_after_map_iff, FieldItem.traverse_after_map_iff⟩

/-- Where all pieces are words, it is these that are taken one after the other. -/
theorem fieldFlagsOf_of_words (listing : Listing attributes pieces)
    (words : ∀ piece ∈ pieces, FieldItem.IsWord piece) :
    fieldFlagsOf attributes =
      (pieces.map FieldItem.ofPiece).foldlM FieldItem.take ⟨false, false⟩ :=
  Attribute.foldItems_of_listing FieldItem.takesPieces listing (FieldItem.fits_map_of_words words)

/-- A field is accepted if its steering attributes hold nothing but the two words, and not both of
them; its flags are those that the words give. -/
theorem fieldFlagsOf_eq_ok_iff :
    fieldFlagsOf attributes = .ok flags ↔
      ∃ pieces, Listing attributes pieces ∧ flags.GivenBy pieces := by
  constructor
  · intro read
    obtain ⟨pieces, found, listing, each, folded⟩ :=
      Attribute.listing_of_foldItems FieldItem.takesPieces
        (fun _ _ _ taken => (FieldItem.take_eq_ok_iff.mp taken).1) read
    obtain rfl := FieldItem.eq_map_of_fits each
    obtain ⟨supported, rfl, exclusive⟩ :=
      (FieldItem.foldlM_take_eq_ok_iff exclusive_start).mp folded
    exact ⟨pieces, listing, FieldItem.not_mem_map_ofPiece_iff.mp supported,
      exclusive_after_iff.mp exclusive, FieldItem.skip_after_map_iff,
      FieldItem.traverse_after_map_iff⟩
  · rintro ⟨pieces, listing, given⟩
    have words : ∀ piece ∈ pieces, FieldItem.IsWord piece := by
      intro piece member
      rcases given.documented piece member with rfl | rfl <;> exact ⟨_, rfl⟩
    have skip := Bool.eq_iff_iff.mpr (given.skip.trans FieldItem.skip_after_map_iff.symm)
    have traverse :=
      Bool.eq_iff_iff.mpr (given.traverse.trans FieldItem.traverse_after_map_iff.symm)
    have same : flags = FieldFlags.after ⟨false, false⟩ (pieces.map FieldItem.ofPiece) :=
      congrArg₂ FieldFlags.mk skip traverse
    rw [fieldFlagsOf_of_words listing words, FieldItem.foldlM_take_eq_ok_iff exclusive_start]
    exact ⟨FieldItem.not_mem_map_ofPiece_iff.mpr given.documented, same,
      same ▸ exclusive_after_iff.mpr given.consistent⟩

/-- The first piece at fault is neither of the two words, or it is one of them and the other came
before. -/
def FirstFault (pieces : List Tokens) (error : AttributeError) : Prop :=
  ∃ before piece after, pieces = before ++ piece :: after ∧
    (∀ other ∈ before, FieldPiece other) ∧ ¬Conflicting before ∧
      (¬FieldPiece piece ∧ error = .unsupportedFieldItem ∨
        FieldPiece piece ∧ Conflicting (before ++ [piece]) ∧ error = .conflictingFlags)

/-- Where all pieces are words, the first of them at fault decides. -/
theorem fieldFlagsOf_eq_error_iff (listing : Listing attributes pieces)
    (words : ∀ piece ∈ pieces, FieldItem.IsWord piece) :
    fieldFlagsOf attributes = .error error ↔ FirstFault pieces error := by
  have unsupported (piece : Tokens) :
      FieldItem.ofPiece piece = .unsupported ↔ ¬FieldPiece piece := by
    have only := @FieldItem.not_mem_map_ofPiece_iff [piece]
    rw [List.map_singleton, List.mem_singleton, List.forall_mem_singleton] at only
    exact (not_iff_comm.mp ((not_congr eq_comm).trans only)).symm
  rw [fieldFlagsOf_of_words listing words, FieldItem.foldlM_take_eq_error_iff exclusive_start]
  constructor
  · rintro ⟨before, item, after, split, supported, exclusive, failed⟩
    obtain ⟨front, back, rfl, rfl, tail⟩ := List.map_eq_append_iff.mp split
    obtain ⟨piece, rest, rfl, rfl, rfl⟩ := List.map_eq_cons_iff.mp tail
    rw [← List.map_singleton, ← List.map_append, exclusive_after_iff, not_not, unsupported,
      ne_eq, unsupported, not_not] at failed
    exact ⟨front, piece, rest, rfl, FieldItem.not_mem_map_ofPiece_iff.mp supported,
      exclusive_after_iff.mp exclusive, failed⟩
  · rintro ⟨front, piece, rest, rfl, documented, consistent, failed⟩
    refine ⟨front.map FieldItem.ofPiece, FieldItem.ofPiece piece, rest.map FieldItem.ofPiece,
      by rw [List.map_append, List.map_cons], FieldItem.not_mem_map_ofPiece_iff.mpr documented,
      exclusive_after_iff.mpr consistent, ?_⟩
    rw [← List.map_singleton, ← List.map_append, exclusive_after_iff, not_not, unsupported,
      ne_eq, unsupported, not_not]
    exact failed

/-- Only which pieces there are matters to the flags of a field. -/
theorem fieldFlagsOf_congr {attributes' : List Attribute} {pieces' : List Tokens}
    (listing : Listing attributes pieces) (listing' : Listing attributes' pieces')
    (same : ∀ piece, piece ∈ pieces ↔ piece ∈ pieces') :
    fieldFlagsOf attributes = .ok flags ↔ fieldFlagsOf attributes' = .ok flags := by
  rw [fieldFlagsOf_eq_ok_iff, fieldFlagsOf_eq_ok_iff]
  constructor
  · rintro ⟨own, listed, given⟩
    cases listed.unique listing
    exact ⟨pieces', listing', given.congr same⟩
  · rintro ⟨own, listed, given⟩
    cases listed.unique listing'
    exact ⟨pieces, listing, given.congr fun piece => (same piece).symm⟩

end Fields

end Fieldwise
