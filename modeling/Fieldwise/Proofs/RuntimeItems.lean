/-
This file proves which path of the runtime a declaration gives. Each item of its attributes is the
word `crate`, an equals sign and a string literal that holds a path. The last such path counts,
and without any the default does.
-/

import Fieldwise.Proofs.Listings
import Fieldwise.Proofs.Writing

namespace Fieldwise

open Reader
open Token (front Yields)
open Attribute (Listing TakesPieces)

/-- The piece gives a path of the runtime: the word `crate`, an equals sign and a string literal
that holds the path. -/
def RuntimePiece (piece : Tokens) (path : Path) : Prop :=
  ∃ joint literal text, piece = [.plain "crate", .mark '=' joint, .literal literal] ∧
    Text.unquoted? literal = some (text, "") ∧ Path.ofText text = .ok path

/-! ### Items -/

namespace ContainerItem

/-- An item stands for `crate`, an equals sign and a string literal of its text and suffix. -/
inductive Fits : ContainerItem → Tokens → Prop
  | runtime {joint : Bool} {literal text suffix : String}
      (quoted : Text.unquoted? literal = some (text, suffix)) :
      Fits (.runtime text suffix) [.plain "crate", .mark '=' joint, .literal literal]

theorem Fits.unbroken {item : ContainerItem} {piece : Tokens} (fits : Fits item piece) :
    Token.Unbroken piece := by
  obtain ⟨quoted⟩ := fits
  refine ⟨List.cons_ne_nil _ _, fun joint member => ?_⟩
  simp [Token.plain] at member

theorem takesPieces : TakesPieces read Fits (· ≠ .unsupported) where
  unbroken := Fits.unbroken
  takes := by
    rintro found piece later reading ⟨quoted⟩ yields border
    cases yields with
    | @next _ afterWord _ _ _ first more =>
    cases more with
    | next second more =>
    cases more with
    | next third more =>
    cases more
    have single : Lookahead.mark "::" afterWord = false := by
      rw [Lookahead.mark, second]
      rfl
    obtain ⟨between, path, rfl⟩ := Attribute.itemPath_of_front first single
    obtain ⟨after, value, remaining⟩ := Attribute.itemText_of_front second third quoted
    refine ⟨after, bind_eq_ok_iff.mpr ⟨_, _, path, ?_⟩, remaining⟩
    exact bind_eq_ok_iff.mpr ⟨_, _, value, rfl⟩
  taken := by
    intro found reading after taken supported
    obtain ⟨path, between, path, rest⟩ := bind_eq_ok_iff.mp taken
    unfold read at rest
    split at rest
    · rename_i single
      obtain ⟨value, last, value, rest⟩ := bind_eq_ok_iff.mp rest
      cases rest
      have first := Attribute.front_of_itemPath path (beq_iff_eq.mp single)
      obtain ⟨joint, later, literal, second, third, quoted⟩ := Attribute.front_of_itemText value
      exact ⟨_, .runtime quoted, .next first (.next second (.next third (.none _)))⟩
    · cases rest
      exact absurd rfl supported

/-- The item is the text of a path, without a suffix. -/
def Gives (item : ContainerItem) (path : Path) : Prop :=
  ∃ text, item = .runtime text "" ∧ Path.ofText text = .ok path

variable {item : ContainerItem} {items : List ContainerItem} {start path : Path}
  {piece : Tokens} {pieces : List Tokens} {paths : List Path}

/-- The path that an item gives replaces any that came before. -/
theorem take_eq_ok_iff : take start item = .ok path ↔ item.Gives path := by
  cases item with
  | unsupported => exact ⟨nofun, fun ⟨_, same, _⟩ => nomatch same⟩
  | runtime text suffix =>
    unfold take
    dsimp only
    cases read : Path.ofText text with
    | error error =>
      refine ⟨nofun, ?_⟩
      rintro ⟨_, same, read'⟩
      cases same
      rw [read] at read'
      cases read'
    | ok own =>
      dsimp only
      split
      · rename_i empty
        rw [String.isEmpty_iff] at empty
        subst empty
        constructor
        · intro same
          cases same
          exact ⟨text, rfl, read⟩
        · rintro ⟨_, same, read'⟩
          cases same
          rw [read] at read'
          cases read'
          rfl
      · rename_i more
        refine ⟨nofun, ?_⟩
        rintro ⟨_, same, -⟩
        cases same
        exact absurd rfl more

/-- Of several paths the last one counts. -/
theorem foldlM_take_eq_ok_iff :
    items.foldlM take start = .ok path ↔
      ∃ paths, List.Forall₂ Gives items paths ∧ path = paths.getLast?.getD start := by
  induction items generalizing start with
  | nil =>
    constructor
    · intro same
      cases same
      exact ⟨[], .nil, rfl⟩
    · rintro ⟨paths, each, rfl⟩
      cases each
      rfl
  | cons item rest inductionHypothesis =>
    rw [List.foldlM_cons]
    constructor
    · intro folded
      obtain ⟨own, taken, folded⟩ := exists_ok_of_bind folded
      obtain ⟨paths, each, rfl⟩ := inductionHypothesis.mp folded
      refine ⟨own :: paths, .cons (take_eq_ok_iff.mp taken) each, ?_⟩
      rw [List.getLast?_cons, Option.getD_some]
    · rintro ⟨paths, each, rfl⟩
      obtain ⟨own, others, gives, further, rfl⟩ := List.forall₂_cons_left_iff.mp each
      rw [take_eq_ok_iff.mpr gives]
      exact inductionHypothesis.mpr ⟨others, further, by rw [List.getLast?_cons, Option.getD_some]⟩

/-- A piece gives a path as soon as the item that it stands for does. -/
theorem runtimePiece_iff : RuntimePiece piece path ↔ ∃ item, Fits item piece ∧ item.Gives path := by
  constructor
  · rintro ⟨joint, literal, text, rfl, quoted, read⟩
    exact ⟨_, .runtime quoted, text, rfl, read⟩
  · rintro ⟨item, ⟨quoted⟩, text, same, read⟩
    cases same
    exact ⟨_, _, _, rfl, quoted, read⟩

theorem forall₂_runtimePiece_iff :
    List.Forall₂ RuntimePiece pieces paths ↔
      ∃ items, List.Forall₂ Fits items pieces ∧ List.Forall₂ Gives items paths := by
  constructor
  · intro each
    induction each with
    | nil => exact ⟨[], .nil, .nil⟩
    | cons first _ inductionHypothesis =>
      obtain ⟨item, fits, gives⟩ := runtimePiece_iff.mp first
      obtain ⟨items, eachFits, eachGives⟩ := inductionHypothesis
      exact ⟨item :: items, .cons fits eachFits, .cons gives eachGives⟩
  · rintro ⟨items, eachFits, eachGives⟩
    induction eachFits generalizing paths with
    | nil =>
      cases eachGives
      exact .nil
    | cons fits _ inductionHypothesis =>
      cases eachGives with
      | cons gives eachGives =>
        exact .cons (runtimePiece_iff.mpr ⟨_, fits, gives⟩) (inductionHypothesis eachGives)

end ContainerItem

/-! ### The runtime of a declaration -/

/-- All members of a list have a partner exactly if some list pairs up with it. -/
theorem exists_forall₂_iff {A B : Type} {relation : A → B → Prop} {members : List A} :
    (∃ partners, List.Forall₂ relation members partners) ↔
      ∀ member ∈ members, ∃ partner, relation member partner := by
  induction members with
  | nil => exact ⟨fun _ _ member => absurd member List.not_mem_nil, fun _ => ⟨[], .nil⟩⟩
  | cons first rest inductionHypothesis =>
    rw [List.forall_mem_cons, ← inductionHypothesis]
    constructor
    · rintro ⟨_, each⟩
      cases each with
      | cons own others => exact ⟨⟨_, own⟩, _, others⟩
    · rintro ⟨⟨partner, own⟩, partners, others⟩
      exact ⟨partner :: partners, .cons own others⟩

/-- The path is the last that the pieces give, or the default where there are none. -/
def RuntimeGivenBy (path : Path) (pieces : List Tokens) : Prop :=
  ∃ paths, List.Forall₂ RuntimePiece pieces paths ∧ path = paths.getLast?.getD defaultRuntime

theorem exists_runtimeGivenBy_iff {pieces : List Tokens} :
    (∃ path, RuntimeGivenBy path pieces) ↔ ∀ piece ∈ pieces, ∃ path, RuntimePiece piece path := by
  rw [← exists_forall₂_iff]
  constructor
  · rintro ⟨_, paths, each, -⟩
    exact ⟨paths, each⟩
  · rintro ⟨paths, each⟩
    exact ⟨_, paths, each, rfl⟩

/-- The runtime is accepted if the steering attributes hold nothing but paths of the runtime. -/
theorem runtimeOf_eq_ok_iff {attributes : List Attribute} {path : Path} :
    runtimeOf attributes = .ok path ↔
      ∃ pieces, Listing attributes pieces ∧ RuntimeGivenBy path pieces := by
  constructor
  · intro read
    obtain ⟨pieces, found, listing, fits, folded⟩ :=
      Attribute.listing_of_foldItems ContainerItem.takesPieces (fun _ _ _ taken => by
        rintro rfl
        cases taken) read
    obtain ⟨paths, gives, rfl⟩ := ContainerItem.foldlM_take_eq_ok_iff.mp folded
    exact ⟨pieces, listing, paths,
      ContainerItem.forall₂_runtimePiece_iff.mpr ⟨found, fits, gives⟩, rfl⟩
  · rintro ⟨pieces, listing, paths, each, rfl⟩
    obtain ⟨items, fits, gives⟩ := ContainerItem.forall₂_runtimePiece_iff.mp each
    rw [runtimeOf, Attribute.foldItems_of_listing ContainerItem.takesPieces listing fits]
    exact ContainerItem.foldlM_take_eq_ok_iff.mpr ⟨paths, gives, rfl⟩

/-- Only the pieces and their order matter to the runtime. -/
theorem runtimeOf_congr {attributes attributes' : List Attribute} {pieces : List Tokens}
    {path : Path} (listing : Listing attributes pieces) (listing' : Listing attributes' pieces) :
    runtimeOf attributes = .ok path ↔ runtimeOf attributes' = .ok path := by
  rw [runtimeOf_eq_ok_iff, runtimeOf_eq_ok_iff]
  constructor
  · rintro ⟨own, listed, given⟩
    cases listed.unique listing
    exact ⟨pieces, listing', given⟩
  · rintro ⟨own, listed, given⟩
    cases listed.unique listing'
    exact ⟨pieces, listing, given⟩

end Fieldwise
