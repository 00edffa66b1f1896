/-
This file says which angle brackets balance in a text. Openings and closings are counted in
every front of the text; a `>` right after `-` belongs to an arrow and is not counted. Looking
for the bracket that closes the open ones finds the first front with as many closings as
openings, and a text whose brackets match one another is read to its end.
-/

import Fieldwise.Text.Brackets
import Mathlib.Data.List.Infix

namespace Fieldwise.Text

/-! ### Counting brackets -/

/-- How many brackets are closed in a text, given the character before it. -/
def closings : Char → List Char → Nat
  | _, [] => 0
  | previous, character :: rest =>
    (if character = '>' ∧ previous ≠ '-' then 1 else 0) + closings character rest

/-- Of the brackets open before the text and those opened in it, one at least is open after
every front. -/
def StaysOpen (opened : Nat) (previous : Char) (text : List Char) : Prop :=
  ∀ front, front <+: text → closings previous front < opened + front.count '<'

variable {previous character : Char} {text rest inner : List Char} {depth : Nat}

theorem closings_append (previous : Char) (text rest : List Char) :
    closings previous (text ++ rest) =
      closings previous text + closings (text.getLast?.getD previous) rest := by
  induction text generalizing previous with
  | nil => rw [List.nil_append, closings, List.getLast?_nil, Option.getD_none, Nat.zero_add]
  | cons character tail inductionHypothesis =>
    rw [List.cons_append, closings, inductionHypothesis, closings, List.getLast?_cons,
      Option.getD_some, Nat.add_assoc]

/-- The character before a text matters only if it makes an arrow. -/
theorem closings_eq_of_ne {first second : Char} (firstNe : first ≠ '-') (secondNe : second ≠ '-')
    (text : List Char) : closings first text = closings second text := by
  cases text with
  | nil => rfl
  | cons character rest => simp only [closings, firstNe, secondNe, ne_eq, not_false_eq_true]

/-- An opening bracket before a text counts as a blank does. -/
theorem closings_opening (text : List Char) : closings '<' text = closings ' ' text :=
  closings_eq_of_ne (by decide) (by decide) text

theorem closings_eq_zero (absent : '>' ∉ text) : closings previous text = 0 := by
  induction text generalizing previous with
  | nil => rfl
  | cons character rest inductionHypothesis =>
    rw [List.mem_cons, not_or] at absent
    rw [closings, inductionHypothesis absent.2, if_neg fun closing => absent.1 closing.1.symm]

theorem StaysOpen.pos (opened : StaysOpen depth previous text) : 0 < depth :=
  opened [] List.nil_prefix

theorem staysOpen_cons_iff :
    StaysOpen depth previous (character :: text) ↔
      0 < depth ∧ ∀ front, front <+: text →
        (if character = '>' ∧ previous ≠ '-' then 1 else 0) + closings character front <
          depth + (character :: front).count '<' := by
  constructor
  · intro opened
    exact ⟨opened.pos, fun front isFront =>
      opened (character :: front) (List.cons_prefix_cons.mpr ⟨rfl, isFront⟩)⟩
  · rintro ⟨positive, after⟩ front isFront
    rcases List.prefix_cons_iff.mp isFront with rfl | ⟨tail, rfl, isTail⟩
    · exact positive
    · exact after tail isTail

theorem staysOpen_cons_opening :
    StaysOpen depth previous ('<' :: text) ↔ 0 < depth ∧ StaysOpen (depth + 1) '<' text := by
  rw [staysOpen_cons_iff]
  refine and_congr_right fun _ => forall₂_congr fun front _ => ?_
  rw [if_neg (by simp), List.count_cons_self]
  omega

theorem staysOpen_cons_closing (closing : previous ≠ '-') :
    StaysOpen depth previous ('>' :: text) ↔ 1 < depth ∧ StaysOpen (depth - 1) '>' text := by
  rw [staysOpen_cons_iff]
  constructor
  · rintro ⟨positive, after⟩
    have first := after [] List.nil_prefix
    rw [if_pos ⟨rfl, closing⟩, List.count_cons_of_ne (by decide)] at first
    refine ⟨first, fun front isFront => ?_⟩
    have next := after front isFront
    rw [if_pos ⟨rfl, closing⟩, List.count_cons_of_ne (by decide)] at next
    omega
  · rintro ⟨several, after⟩
    refine ⟨by omega, fun front isFront => ?_⟩
    have next := after front isFront
    rw [if_pos ⟨rfl, closing⟩, List.count_cons_of_ne (by decide)]
    omega

theorem staysOpen_cons_other (notOpening : character ≠ '<')
    (notClosing : ¬(character = '>' ∧ previous ≠ '-')) :
    StaysOpen depth previous (character :: text) ↔
      0 < depth ∧ StaysOpen depth character text := by
  rw [staysOpen_cons_iff]
  refine and_congr_right fun _ => forall₂_congr fun front _ => ?_
  rw [if_neg notClosing, List.count_cons_of_ne notOpening, Nat.zero_add]

/-! ### Looking for the balance -/

/-- The text begins with an inner part and the `>` that closes the open brackets: after the
inner part all of them are closed for the first time. -/
def Closes (depth : Nat) (previous : Char) (text inner : List Char) : Prop :=
  ∃ after, text = inner ++ '>' :: after ∧ StaysOpen depth previous inner ∧
    closings previous (inner ++ ['>']) = depth + inner.count '<'

theorem closes_cons_opening (positive : 0 < depth) :
    Closes depth previous ('<' :: rest) inner ↔
      ∃ tail, Closes (depth + 1) '<' rest tail ∧ '<' :: tail = inner := by
  constructor
  · rintro ⟨after, parts, opened, balanced⟩
    cases inner with
    | nil => cases parts
    | cons first tail =>
      cases parts
      rw [List.cons_append, closings, if_neg (by simp), List.count_cons_self] at balanced
      exact ⟨tail, ⟨after, rfl, (staysOpen_cons_opening.mp opened).2, by omega⟩, rfl⟩
  · rintro ⟨tail, ⟨after, rfl, opened, balanced⟩, rfl⟩
    refine ⟨after, rfl, staysOpen_cons_opening.mpr ⟨positive, opened⟩, ?_⟩
    rw [List.cons_append, closings, if_neg (by simp), List.count_cons_self]
    omega

theorem closes_cons_last (closing : previous ≠ '-') (last : depth = 1) :
    Closes depth previous ('>' :: rest) inner ↔ [] = inner := by
  subst last
  constructor
  · rintro ⟨after, parts, opened, -⟩
    cases inner with
    | nil => rfl
    | cons first tail =>
      cases parts
      exact absurd ((staysOpen_cons_closing closing).mp opened).1 (Nat.lt_irrefl 1)
  · rintro rfl
    refine ⟨rest, rfl, fun front isFront => ?_, ?_⟩
    · rw [List.prefix_nil.mp isFront]
      exact Nat.one_pos
    · rw [List.nil_append, closings, if_pos ⟨rfl, closing⟩]
      rfl

theorem closes_cons_closing (closing : previous ≠ '-') (several : 1 < depth) :
    Closes depth previous ('>' :: rest) inner ↔
      ∃ tail, Closes (depth - 1) '>' rest tail ∧ '>' :: tail = inner := by
  constructor
  · rintro ⟨after, parts, opened, balanced⟩
    cases inner with
    | nil =>
      rw [List.nil_append, closings, if_pos ⟨rfl, closing⟩, List.count_nil] at balanced
      exact absurd balanced (by rw [closings]; omega)
    | cons first tail =>
      cases parts
      rw [List.cons_append, closings, if_pos ⟨rfl, closing⟩,
        List.count_cons_of_ne (by decide)] at balanced
      exact ⟨tail, ⟨after, rfl, ((staysOpen_cons_closing closing).mp opened).2, by omega⟩, rfl⟩
  · rintro ⟨tail, ⟨after, rfl, opened, balanced⟩, rfl⟩
    refine ⟨after, rfl, (staysOpen_cons_closing closing).mpr ⟨several, opened⟩, ?_⟩
    rw [List.cons_append, closings, if_pos ⟨rfl, closing⟩, List.count_cons_of_ne (by decide)]
    omega

theorem closes_cons_other (positive : 0 < depth) (notOpening : character ≠ '<')
    (notClosing : ¬(character = '>' ∧ previous ≠ '-')) :
    Closes depth previous (character :: rest) inner ↔
      ∃ tail, Closes depth character rest tail ∧ character :: tail = inner := by
  constructor
  · rintro ⟨after, parts, opened, balanced⟩
    cases inner with
    | nil =>
      cases parts
      rw [List.nil_append, closings, if_neg notClosing, closings, List.count_nil] at balanced
      omega
    | cons first tail =>
      cases parts
      rw [List.cons_append, closings, if_neg notClosing, List.count_cons_of_ne notOpening,
        Nat.zero_add] at balanced
      exact ⟨tail, ⟨after, rfl, ((staysOpen_cons_other notOpening notClosing).mp opened).2,
        balanced⟩, rfl⟩
  · rintro ⟨tail, ⟨after, rfl, opened, balanced⟩, rfl⟩
    refine ⟨after, rfl, (staysOpen_cons_other notOpening notClosing).mpr ⟨positive, opened⟩, ?_⟩
    rw [List.cons_append, closings, if_neg notClosing, List.count_cons_of_ne notOpening,
      Nat.zero_add]
    exact balanced

/-- Looking for the balance finds what closes the open brackets, and nothing else. -/
theorem upToBalance_eq_some_iff (positive : 0 < depth) :
    upToBalance depth previous text = some inner ↔ Closes depth previous text inner := by
  induction text generalizing depth previous inner with
  | nil => simp [upToBalance, Closes]
  | cons character rest inductionHypothesis =>
    -- The cases are those of the scan; only the last of the open brackets ends it.
    by_cases opening : character = '<'
    · subst opening
      rw [upToBalance, if_pos rfl, Option.map_eq_some_iff, closes_cons_opening positive]
      exact exists_congr fun tail => and_congr_left' (inductionHypothesis (Nat.succ_pos depth))
    rw [upToBalance, if_neg opening]
    by_cases closing : character = '>' ∧ previous ≠ '-'
    · rw [if_pos closing]
      obtain ⟨rfl, notArrow⟩ := closing
      by_cases last : depth ≤ 1
      · rw [if_pos last, closes_cons_last notArrow (by omega), Option.some_inj]
      · rw [if_neg last, Option.map_eq_some_iff, closes_cons_closing notArrow (by omega)]
        exact exists_congr fun tail => and_congr_left' (inductionHypothesis (by omega))
    · rw [if_neg closing, Option.map_eq_some_iff, closes_cons_other positive opening closing]
      exact exists_congr fun tail => and_congr_left' (inductionHypothesis positive)

/-! ### Matched brackets -/

/-- Every bracket in the text is opened before it is closed and closed in the end, and what
follows the text is no arrow begun in it. -/
structure Matched (text : List Char) : Prop where
  covered : ∀ front, front <+: text → closings ' ' front ≤ front.count '<'
  even : closings ' ' text = text.count '<'
  ended : text.getLast? ≠ some '-'

instance (text : List Char) : Decidable (Matched text) :=
  decidable_of_iff ((∀ front ∈ text.inits, closings ' ' front ≤ front.count '<') ∧
      closings ' ' text = text.count '<' ∧ text.getLast? ≠ some '-')
    ⟨fun ⟨covered, even, ended⟩ =>
      ⟨fun front isFront => covered front ((List.mem_inits front text).mpr isFront), even, ended⟩,
    fun ⟨covered, even, ended⟩ =>
      ⟨fun front member => covered front ((List.mem_inits front text).mp member), even, ended⟩⟩

namespace Matched

theorem nil : Matched [] where
  covered front isFront := by
    rw [List.prefix_nil.mp isFront]
    exact Nat.le_refl 0
  even := rfl
  ended := by simp

/-- What follows a matched text has its brackets counted on its own. -/
theorem closings_append_eq (matched : Matched text) (rest : List Char) :
    closings ' ' (text ++ rest) = text.count '<' + closings ' ' rest := by
  rw [closings_append, matched.even]
  refine congrArg _ (closings_eq_of_ne ?_ (by decide) rest)
  intro arrow
  cases last : text.getLast? with
  | none =>
    rw [last] at arrow
    exact absurd arrow (by decide)
  | some character =>
    rw [last, Option.getD_some] at arrow
    exact matched.ended (arrow ▸ last)

theorem append (matched : Matched text) (restMatched : Matched rest) :
    Matched (text ++ rest) where
  covered front isFront := by
    obtain ⟨after, parts⟩ := isFront
    -- A front ends within the first text, or it has all of it and a front of the second.
    rcases List.append_eq_append_iff.mp parts with ⟨tail, rfl, -⟩ | ⟨tail, rfl, rfl⟩
    · exact matched.covered front (List.prefix_append front tail)
    · rw [matched.closings_append_eq, List.count_append]
      exact Nat.add_le_add_left (restMatched.covered tail (List.prefix_append tail after)) _
  even := by rw [matched.closings_append_eq, restMatched.even, List.count_append]
  ended := by
    rw [List.getLast?_append]
    cases last : rest.getLast? with
    | none => exact matched.ended
    | some character =>
      rw [Option.some_or, ← last]
      exact restMatched.ended

theorem of_not_mem (noOpening : '<' ∉ text) (noClosing : '>' ∉ text)
    (ended : text.getLast? ≠ some '-') : Matched text where
  covered front isFront := by
    rw [closings_eq_zero fun member => noClosing (isFront.subset member)]
    exact Nat.zero_le _
  even := by rw [closings_eq_zero noClosing, List.count_eq_zero.mpr noOpening]
  ended := ended

theorem staysOpen (matched : Matched text) : StaysOpen 1 '<' text := by
  intro front isFront
  rw [closings_opening]
  exact Nat.lt_one_add_iff.mpr (matched.covered front isFront)

/-- A bracket after a matched text closes one opened before it. -/
theorem closes (matched : Matched text) (rest : List Char) :
    Closes 1 '<' (text ++ '>' :: rest) text := by
  refine ⟨rest, rfl, matched.staysOpen, ?_⟩
  rw [closings_opening, matched.closings_append_eq, closings, if_pos ⟨rfl, by decide⟩, closings,
    Nat.add_zero, Nat.add_comm]

theorem enclosed (matched : Matched text) : Matched ('<' :: (text ++ ['>'])) where
  covered front isFront := by
    rcases List.prefix_cons_iff.mp isFront with rfl | ⟨tail, rfl, isTail⟩
    · exact Nat.le_refl 0
    rw [closings, if_neg (by simp), Nat.zero_add, List.count_cons_self]
    rcases List.prefix_concat_iff.mp isTail with rfl | within
    · rw [closings_opening, matched.closings_append_eq, List.count_append]
      exact Nat.le_refl _
    · have opened := matched.staysOpen tail within
      omega
  even := by
    rw [closings, if_neg (by simp), Nat.zero_add, List.count_cons_self,
      closings_opening, matched.closings_append_eq, List.count_append]
    rfl
  ended := by rw [← List.cons_append, List.getLast?_concat]; decide

end Matched

/-! ### Names and their arguments -/

/-- The text of an argument list is found between its brackets: some part of it that is not
empty is followed by what closes the bracket before it. -/
def Found (text : List Char) : Prop :=
  ∃ inner, inner ≠ [] ∧ Closes 1 '<' (text ++ ['>']) inner

theorem Matched.found (matched : Matched text) (nonempty : text ≠ []) : Found text :=
  ⟨text, nonempty, matched.closes []⟩

variable {name : List Char}

theorem takeWhile_name {border : Char} (plain : border ∉ name) (rest : List Char) :
    (name ++ border :: rest).takeWhile (· ≠ border) = name := by
  rw [List.takeWhile_append_of_pos, List.takeWhile_cons_of_neg (by simp), List.append_nil]
  intro character member
  exact decide_eq_true fun same => plain (same ▸ member)

theorem dropWhile_name (plain : '<' ∉ name) (rest : List Char) :
    (name ++ '<' :: rest).dropWhile (· ≠ '<') = '<' :: rest := by
  rw [List.dropWhile_append_of_pos, List.dropWhile_cons_of_neg (by simp)]
  intro character member
  exact decide_eq_true fun opening => plain (opening ▸ member)

/-- The name before the first bracket is the base of the text. -/
theorem baseCharacters_name (nonempty : name ≠ []) (plain : '<' ∉ name) (rest : List Char) :
    baseCharacters (name ++ '<' :: rest) = name := by
  rw [baseCharacters, takeWhile_name plain, if_neg]
  rwa [List.isEmpty_iff]

/-- Behind a name, the arguments are what stands before the balance of the first bracket. -/
theorem argumentCharacters_name (nonempty : name ≠ []) (plain : '<' ∉ name) (rest : List Char) :
    argumentCharacters (name ++ '<' :: rest) = (upToBalance 1 '<' rest).getD [] := by
  rw [argumentCharacters, takeWhile_name plain, if_neg (by rwa [List.isEmpty_iff]),
    dropWhile_name plain]

/-- After a name, the argument list is not empty exactly if it is found. -/
theorem argumentCharacters_name_ne_nil_iff (nonempty : name ≠ []) (plain : '<' ∉ name) :
    argumentCharacters (name ++ '<' :: (text ++ ['>'])) ≠ [] ↔ Found text := by
  rw [argumentCharacters_name nonempty plain]
  constructor
  · intro notEmpty
    cases balance : upToBalance 1 '<' (text ++ ['>']) with
    | none =>
      rw [balance] at notEmpty
      exact absurd rfl notEmpty
    | some inner =>
      rw [balance] at notEmpty
      exact ⟨inner, notEmpty, (upToBalance_eq_some_iff Nat.one_pos).mp balance⟩
  · rintro ⟨inner, notEmpty, closes⟩
    rw [(upToBalance_eq_some_iff Nat.one_pos).mpr closes]
    exact notEmpty

end Fieldwise.Text
