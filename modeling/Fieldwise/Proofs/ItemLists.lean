/-
This file says what the items in an attribute are, apart from how they are read: the tokens of a
list in pieces, none of them empty, with a comma between each two and perhaps one more at the end.
Invisible groups are looked through, so a list is what a run shows of itself, one token after the
other. Both are determined: a run shows one list down to its end, and a list has one row of pieces.
-/

import Fieldwise.Aggregate.Attributes

namespace Fieldwise

/-! ### What a run shows -/

namespace Token

/-- A run shows some tokens, one after the other, and leaves the rest of it. -/
inductive Yields : Tokens → Tokens → Tokens → Prop
  | none (tokens : Tokens) : Yields tokens [] tokens
  | next {tokens later shown last : Tokens} {token : Token}
      (first : front tokens = token :: later) (more : Yields later shown last) :
      Yields tokens (token :: shown) last

variable {tokens later last shown shown' : Tokens} {token : Token}

namespace Yields

theorem append (first : Yields tokens shown later) (second : Yields later shown' last) :
    Yields tokens (shown ++ shown') last := by
  induction first with
  | none => exact second
  | next first _ inductionHypothesis => exact .next first (inductionHypothesis second)

theorem exists_of_append (yields : Yields tokens (shown ++ shown') last) :
    ∃ later, Yields tokens shown later ∧ Yields later shown' last := by
  induction shown generalizing tokens with
  | nil => exact ⟨tokens, .none tokens, yields⟩
  | cons token shown inductionHypothesis =>
    cases yields with
    | next first more =>
      obtain ⟨later, front, back⟩ := inductionHypothesis more
      exact ⟨later, .next first front, back⟩

/-- What a run shows down to its end is determined. -/
theorem unique (first : Yields tokens shown []) (second : Yields tokens shown' []) :
    shown = shown' := by
  induction shown generalizing tokens shown' with
  | nil =>
    cases first
    cases second with
    | none => rfl
    | next empty _ => cases empty
  | cons token shown inductionHypothesis =>
    cases first with
    | next front more =>
      cases second with
      | none => cases front
      | next front' more' =>
        rw [front] at front'
        cases front'
        rw [inductionHypothesis more more']

theorem eq_nil_iff (yields : Yields tokens shown []) : tokens = [] ↔ shown = [] := by
  cases yields with
  | none => exact ⟨fun _ => rfl, fun _ => rfl⟩
  | next first _ =>
    refine ⟨?_, nofun⟩
    rintro rfl
    cases first

end Yields

/-- A run without invisible groups shows itself. -/
theorem yields_self (visible : ∀ token ∈ tokens, token.reveal = [token]) :
    Yields tokens tokens [] := by
  induction tokens with
  | nil => exact .none []
  | cons token rest inductionHypothesis =>
    rw [List.forall_mem_cons] at visible
    have first : front (token :: rest) = token :: rest := by
      rw [front, visible.1]
      rfl
    exact .next first (inductionHypothesis visible.2)

/-! ### Counting what is shown -/

theorem countAll_append (first second : Tokens) :
    countAll (first ++ second) = countAll first + countAll second := by
  induction first with
  | nil => rw [List.nil_append, countAll, Nat.zero_add]
  | cons token rest inductionHypothesis =>
    rw [List.cons_append, countAll, countAll, inductionHypothesis, Nat.add_assoc]

mutual

theorem countAll_reveal (token : Token) : countAll token.reveal = token.count := by
  match token with
  | .group .invisible content => exact countAll_front content
  | .group .parenthesis content => rfl
  | .group .bracket content => rfl
  | .group .brace content => rfl
  | .word name => rfl
  | .mark character joint => rfl
  | .literal text => rfl

/-- Looking through groups loses no token. -/
theorem countAll_front (tokens : List Token) : countAll (front tokens) = countAll tokens := by
  match tokens with
  | [] => rfl
  | token :: rest =>
    have own := countAll_reveal token
    have others := countAll_front rest
    rw [front, countAll, ← own, ← others]
    cases token.reveal with
    | nil => exact (Nat.zero_add _).symm
    | cons first more =>
      dsimp only
      rw [countAll, countAll, countAll_append, others, Nat.add_assoc]

end

mutual

theorem count_pos_of_reveal (token : Token) {first : Token} {more : List Token}
    (shown : token.reveal = first :: more) : 0 < first.count := by
  match token with
  | .group .invisible content => exact count_pos_of_front content shown
  | .group .parenthesis content => cases shown; exact Nat.succ_pos _
  | .group .bracket content => cases shown; exact Nat.succ_pos _
  | .group .brace content => cases shown; exact Nat.succ_pos _
  | .word name => cases shown; exact Nat.one_pos
  | .mark character joint => cases shown; exact Nat.one_pos
  | .literal text => cases shown; exact Nat.one_pos

/-- What a run shows is no invisible group, so it counts. -/
theorem count_pos_of_front (tokens : List Token) {first : Token} {more : List Token}
    (shown : front tokens = first :: more) : 0 < first.count := by
  match tokens with
  | [] => cases shown
  | token :: rest =>
    rw [front] at shown
    cases revealed : token.reveal with
    | nil =>
      rw [revealed] at shown
      exact count_pos_of_front rest shown
    | cons own others =>
      rw [revealed] at shown
      cases shown
      exact count_pos_of_reveal token revealed

end

theorem Yields.length_le (yields : Yields tokens shown later) :
    countAll later + shown.length ≤ countAll tokens := by
  induction yields with
  | none => exact Nat.le_refl _
  | @next tokens later shown last token first more inductionHypothesis =>
    have counted := countAll_front tokens
    have positive := count_pos_of_front tokens first
    rw [first, countAll] at counted
    rw [List.length_cons]
    omega

/-! ### Pieces -/

/-- A piece of a list holds something, and no comma. -/
def Unbroken (piece : Tokens) : Prop := piece ≠ [] ∧ ∀ joint, .mark ',' joint ∉ piece

theorem unbroken_word (name : Identifier) : Unbroken [.word name] :=
  ⟨List.cons_ne_nil _ _, fun _ member => nomatch List.mem_singleton.mp member⟩

/-- The pieces of a list: they stand in order, with a comma between each two of them and perhaps
one more after the last. -/
inductive Pieces : Tokens → List Tokens → Prop
  | none : Pieces [] []
  | last {piece : Tokens} (unbroken : Unbroken piece) : Pieces piece [piece]
  | more {piece rest : Tokens} {joint : Bool} {pieces : List Tokens} (unbroken : Unbroken piece)
      (others : Pieces rest pieces) :
      Pieces (piece ++ .mark ',' joint :: rest) (piece :: pieces)

theorem eq_of_append_comma {piece piece' rest rest' : Tokens} {joint joint' : Bool}
    (unbroken : ∀ joint, .mark ',' joint ∉ piece) (unbroken' : ∀ joint, .mark ',' joint ∉ piece')
    (same : piece ++ .mark ',' joint :: rest = piece' ++ .mark ',' joint' :: rest') :
    piece = piece' ∧ rest = rest' := by
  induction piece generalizing piece' with
  | nil =>
    cases piece' with
    | nil =>
      cases same
      exact ⟨rfl, rfl⟩
    | cons token piece' =>
      cases same
      exact absurd List.mem_cons_self (unbroken' joint)
  | cons token piece inductionHypothesis =>
    cases piece' with
    | nil =>
      cases same
      exact absurd List.mem_cons_self (unbroken joint')
    | cons token' piece' =>
      obtain ⟨rfl, tails⟩ := List.cons.inj same
      obtain ⟨rfl, rfl⟩ := inductionHypothesis
        (fun joint member => unbroken joint (List.mem_cons_of_mem _ member))
        (fun joint member => unbroken' joint (List.mem_cons_of_mem _ member)) tails
      exact ⟨rfl, rfl⟩

theorem Pieces.unique {pieces pieces' : List Tokens} (first : Pieces shown pieces)
    (second : Pieces shown' pieces') (same : shown = shown') : pieces = pieces' := by
  induction first generalizing shown' pieces' with
  | none =>
    cases second with
    | none => rfl
    | last unbroken => exact absurd same.symm unbroken.1
    | more unbroken _ => exact absurd same.symm (List.append_ne_nil_of_left_ne_nil unbroken.1 _)
  | last unbroken =>
    cases second with
    | none => exact absurd same unbroken.1
    | last _ => rw [same]
    | @more _ _ joint _ _ _ =>
      exact absurd (same ▸ List.mem_append_right _ List.mem_cons_self) (unbroken.2 joint)
  | @more _ _ joint _ unbroken _ inductionHypothesis =>
    cases second with
    | none => exact absurd same (List.append_ne_nil_of_left_ne_nil unbroken.1 _)
    | last unbroken' =>
      exact absurd (same ▸ List.mem_append_right _ List.mem_cons_self) (unbroken'.2 joint)
    | more unbroken' others =>
      obtain ⟨rfl, rests⟩ := eq_of_append_comma unbroken.2 unbroken'.2 same
      rw [inductionHypothesis others rests]

theorem Pieces.length_le {pieces : List Tokens} (list : Pieces shown pieces) :
    pieces.length ≤ shown.length := by
  induction list with
  | none => exact Nat.le_refl 0
  | last unbroken => exact List.length_pos_iff.mpr unbroken.1
  | more _ _ inductionHypothesis =>
    rw [List.length_append, List.length_cons, List.length_cons]
    omega

end Token

end Fieldwise
