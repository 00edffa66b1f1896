/-
This file says what the readers of attributes take from the front of a run, in terms of the tokens
that the run shows: a path of one word takes that word, and what stands after `crate` is a mark
and a string literal. From this it follows which items a list has as it is read.
-/

import Fieldwise.Proofs.ItemLists

namespace Fieldwise

open Token (front Yields)

variable {A B : Type} {reading after : Reading} {later : Tokens}

/-! ### Steps -/

namespace Reader

theorem bind_eq_ok_iff {first : Reader A} {next : A → Reader B} {result : B × Reading} :
    (first >>= next) reading = .ok result ↔
      ∃ middle between, first reading = .ok (middle, between) ∧ next middle between = .ok result := by
  show (first reading >>= fun pair => next pair.1 pair.2) = _ ↔ _
  cases first reading with
  | error error => exact ⟨nofun, fun ⟨_, _, found, _⟩ => nomatch found⟩
  | ok pair =>
    refine ⟨fun found => ⟨pair.1, pair.2, rfl, found⟩, ?_⟩
    rintro ⟨_, _, found, rest⟩
    cases found
    exact rest

theorem expected_ne_ok {wording : String} {result : A × Reading} :
    expected wording reading ≠ .ok result := by
  show (if reading.remaining.isEmpty then throw _ else throw _ : Reader A) reading ≠ _
  split <;> exact nofun

theorem anyWord_eq (reading : Reading) :
    anyWord reading =
      match front reading.remaining with
      | .word name :: rest => .ok (name, ⟨rest, reading.position + 1, .word name :: reading.written⟩)
      | _ => expected "expected ident" reading := by
  show (match front reading.remaining with
    | .word name :: rest => do
      advance 1 rest
      write [.word name]
      return name
    | _ => expected "expected ident" : Reader Identifier) reading = _
  rcases front reading.remaining with _ | ⟨_ | _ | _ | _, rest⟩ <;> rfl

theorem anyWord_of_front {name : Identifier} (first : front reading.remaining = .word name :: later) :
    ∃ after, anyWord reading = .ok (name, after) ∧ after.remaining = later := by
  rw [anyWord_eq, first]
  exact ⟨_, rfl, rfl⟩

theorem front_of_anyWord {name : Identifier} (found : anyWord reading = .ok (name, after)) :
    front reading.remaining = .word name :: after.remaining := by
  rw [anyWord_eq] at found
  split at found
  · rename_i first
    cases found
    exact first
  · exact absurd found expected_ne_ok

/-- An operator of one character is a mark, be it joint or not. -/
theorem marks_singleton_iff {character : Char} {tokens : Tokens} :
    Lookahead.marks [character] tokens = true ↔
      ∃ joint later, tokens = .mark character joint :: later := by
  constructor
  · intro marks
    match tokens with
    | .mark other joint :: later =>
      obtain rfl : other = character := beq_iff_eq.mp marks
      exact ⟨joint, later, rfl⟩
  · rintro ⟨joint, later, rfl⟩
    exact beq_self_eq_true character

theorem mark_eq (operator : String) (reading : Reading) :
    mark operator reading =
      (if Lookahead.marks operator.toList (front reading.remaining) then do
        advance operator.toList.length ((front reading.remaining).drop operator.toList.length)
        write (Token.operator operator.toList)
      else throw (.expected ("expected `" ++ operator ++ "`")) : Reader Unit) reading := rfl

variable {operator : String} {character : Char} (single : operator.toList = [character])

include single

theorem mark_of_front {joint : Bool}
    (first : front reading.remaining = .mark character joint :: later) :
    ∃ after, mark operator reading = .ok ((), after) ∧ after.remaining = later := by
  rw [mark_eq, single, first, if_pos (marks_singleton_iff.mpr ⟨joint, later, rfl⟩)]
  exact ⟨_, rfl, rfl⟩

theorem front_of_mark {result : Unit} (found : mark operator reading = .ok (result, after)) :
    ∃ joint, front reading.remaining = .mark character joint :: after.remaining := by
  rw [mark_eq, single] at found
  split at found
  · rename_i marks
    obtain ⟨joint, later, first⟩ := marks_singleton_iff.mp marks
    rw [first] at found
    cases found
    exact ⟨joint, first⟩
  · cases found

omit single

theorem optionalMark_eq (operator : String) (reading : Reading) :
    optionalMark operator reading =
      (if Lookahead.mark operator reading.remaining then do
        mark operator
        return true
      else return false : Reader Bool) reading := rfl

theorem optionalMark_of_absent (absent : Lookahead.mark operator reading.remaining = false) :
    optionalMark operator reading = .ok (false, reading) := by
  rw [optionalMark_eq, absent]
  rfl

theorem eq_of_optionalMark (absent : optionalMark operator reading = .ok (false, after)) :
    after = reading := by
  rw [optionalMark_eq] at absent
  split at absent
  · obtain ⟨_, _, _, rest⟩ := bind_eq_ok_iff.mp absent
    cases rest
  · cases absent
    rfl

end Reader

/-! ### Paths of items -/

theorem Path.single?_eq_some_iff {path : Path} {name : Identifier} :
    path.single? = some name ↔ path = ⟨false, [.mk name .none]⟩ := by
  constructor
  · intro single
    unfold single? at single
    split at single
    · rename_i unrooted only
      cases single
      obtain ⟨rooted, segments⟩ := path
      rw [show rooted = false from unrooted, show segments = _ from only]
    · cases single
  · rintro rfl
    rfl

namespace Attribute

open Reader

/-- The segments that are read after the first make the path longer. -/
theorem eq_or_length_lt_of_itemSegments {limit : Nat} {before segments : List Segment}
    (found : itemSegments limit before reading = .ok (segments, after)) :
    segments = before ∧ after = reading ∨ before.length < segments.length := by
  induction limit generalizing before reading with
  | zero =>
    cases found
    exact .inl ⟨rfl, rfl⟩
  | succ limit inductionHypothesis =>
    obtain ⟨seen, between, mark, rest⟩ := bind_eq_ok_iff.mp found
    cases seen with
    | false =>
      cases rest
      exact .inl ⟨rfl, eq_of_optionalMark mark⟩
    | true =>
      obtain ⟨next, _, _, more⟩ := bind_eq_ok_iff.mp rest
      right
      rcases inductionHypothesis more with ⟨rfl, -⟩ | longer
      · rw [List.length_append]
        exact Nat.lt_succ_self _
      · rw [List.length_append] at longer
        exact Nat.lt_of_succ_lt longer

/-- A word that no `::` follows is the path of an item. -/
theorem itemPath_of_front {name : Identifier}
    (first : front reading.remaining = .word name :: later)
    (single : Lookahead.mark "::" later = false) :
    ∃ after, itemPath reading = .ok (⟨false, [.mk name .none]⟩, after) ∧
      after.remaining = later := by
  obtain ⟨after, word, rfl⟩ := anyWord_of_front first
  refine ⟨after, ?_, rfl⟩
  have unrooted : Lookahead.mark "::" reading.remaining = false := by
    rw [Lookahead.mark, first]
    rfl
  have seen : Lookahead.anyWord reading.remaining = true := by
    rw [Lookahead.anyWord, Lookahead.wordThat, first]
  refine bind_eq_ok_iff.mpr ⟨_, _, optionalMark_of_absent unrooted, ?_⟩
  refine bind_eq_ok_iff.mpr ⟨_, _, rfl, ?_⟩
  rw [if_pos seen]
  refine bind_eq_ok_iff.mpr ⟨_, _, word, ?_⟩
  refine bind_eq_ok_iff.mpr ⟨_, _, rfl, ?_⟩
  refine bind_eq_ok_iff.mpr ⟨_, _, ?_, rfl⟩
  exact bind_eq_ok_iff.mpr ⟨_, _, optionalMark_of_absent single, rfl⟩

/-- A path that is a single word takes that word and nothing else. -/
theorem front_of_itemPath {path : Path} {name : Identifier}
    (found : itemPath reading = .ok (path, after)) (single : path.single? = some name) :
    front reading.remaining = .word name :: after.remaining := by
  obtain ⟨rooted, start, mark, rest⟩ := bind_eq_ok_iff.mp found
  obtain ⟨seen, same, looked, rest⟩ := bind_eq_ok_iff.mp rest
  cases looked
  split at rest
  · obtain ⟨first, between, word, rest⟩ := bind_eq_ok_iff.mp rest
    obtain ⟨_, _, got, rest⟩ := bind_eq_ok_iff.mp rest
    cases got
    obtain ⟨segments, last, more, rest⟩ := bind_eq_ok_iff.mp rest
    cases rest
    cases Path.single?_eq_some_iff.mp single
    rcases eq_or_length_lt_of_itemSegments more with ⟨only, rfl⟩ | longer
    · cases only
      rw [eq_of_optionalMark mark] at word
      exact front_of_anyWord word
    · exact absurd longer (Nat.lt_irrefl _)
  · -- Where no word comes first, all that is left is to say what should stand there.
    obtain ⟨_, _, -, rest⟩ := bind_eq_ok_iff.mp rest
    split at rest
    · exact absurd rest expected_ne_ok
    · obtain ⟨_, _, -, rest⟩ := bind_eq_ok_iff.mp rest
      split at rest <;> exact absurd rest expected_ne_ok

/-! ### Texts of items -/

/-- A text that starts with a digit is no string literal. -/
theorem unquoted?_eq_none_of_digit {text : String}
    (digit : (text.toList.head?.map Char.isDigit).getD false = true) :
    Text.unquoted? text = none := by
  unfold Text.unquoted?
  cases characters : text.toList with
  | nil => rfl
  | cons first rest =>
    rw [characters] at digit
    dsimp only
    split
    · rename_i same
      cases same
      exact absurd (show '"'.isDigit = true from digit) (by decide)
    · rename_i same
      cases same
      exact absurd (show 'r'.isDigit = true from digit) (by decide)
    · rfl

theorem literal_of_front {text : String} (first : front reading.remaining = .literal text :: later) :
    ∃ after, literal reading = .ok (text, after) ∧ after.remaining = later := by
  refine ⟨⟨later, reading.position + 1, .literal text :: reading.written⟩, ?_, rfl⟩
  refine bind_eq_ok_iff.mpr ⟨_, _, rfl, ?_⟩
  rw [first]
  rfl

/-- Of the literals, only a string literal has a text between quotes. -/
theorem front_of_literal (seen : Lookahead.literal reading.remaining = true) {text : String}
    (found : literal reading = .ok (text, after)) {value : String × String}
    (quoted : Text.unquoted? text = some value) :
    front reading.remaining = .literal text :: after.remaining := by
  obtain ⟨_, _, got, rest⟩ := bind_eq_ok_iff.mp found
  cases got
  unfold Lookahead.literal at seen
  split at seen
  · rename_i first
    rw [first] at rest
    cases rest
    exact first
  · -- The words `true` and `false` are literals without quotes.
    rename_i name later first
    rw [first] at rest
    have truth : name = .plain "true" ∨ name = .plain "false" := by simpa using seen
    rcases truth with rfl | rfl
    · obtain ⟨_, _, -, rest⟩ := bind_eq_ok_iff.mp rest
      cases rest
      cases quoted
    · obtain ⟨_, _, -, rest⟩ := bind_eq_ok_iff.mp rest
      cases rest
      cases quoted
  · -- After a minus sign only a number is a literal.
    rename_i joint later first
    rw [first] at rest
    split at seen
    · rename_i second
      simp only [second] at rest
      cases rest
      rw [unquoted?_eq_none_of_digit seen] at quoted
      cases quoted
    · cases seen
  · cases seen

/-- The text after `=` is that of a string literal. -/
theorem itemText_of_front {joint : Bool} {last : Tokens} {text : String} {value : String × String}
    (first : front reading.remaining = .mark '=' joint :: later)
    (second : front later = .literal text :: last) (quoted : Text.unquoted? text = some value) :
    ∃ after, itemText reading = .ok (value, after) ∧ after.remaining = last := by
  obtain ⟨between, mark, rfl⟩ := mark_of_front (show "=".toList = ['='] from rfl) first
  obtain ⟨after, literal, rfl⟩ := literal_of_front second
  have seen : Lookahead.literal between.remaining = true := by
    rw [Lookahead.literal, second]
  refine ⟨after, ?_, rfl⟩
  refine bind_eq_ok_iff.mpr ⟨_, _, mark, ?_⟩
  refine bind_eq_ok_iff.mpr ⟨_, _, rfl, ?_⟩
  refine bind_eq_ok_iff.mpr ⟨_, _, rfl, ?_⟩
  rw [if_pos seen]
  refine bind_eq_ok_iff.mpr ⟨_, _, literal, ?_⟩
  rw [quoted]
  rfl

theorem front_of_itemText {value : String × String}
    (found : itemText reading = .ok (value, after)) :
    ∃ joint later text, front reading.remaining = .mark '=' joint :: later ∧
      front later = .literal text :: after.remaining ∧ Text.unquoted? text = some value := by
  obtain ⟨_, between, mark, rest⟩ := bind_eq_ok_iff.mp found
  obtain ⟨joint, first⟩ := front_of_mark rfl mark
  obtain ⟨_, _, got, rest⟩ := bind_eq_ok_iff.mp rest
  cases got
  obtain ⟨seen, _, looked, rest⟩ := bind_eq_ok_iff.mp rest
  cases looked
  split at rest
  · rename_i seen
    obtain ⟨text, last, literal, rest⟩ := bind_eq_ok_iff.mp rest
    cases quoted : Text.unquoted? text with
    | none =>
      rw [quoted] at rest
      cases rest
    | some own =>
      rw [quoted] at rest
      cases rest
      exact ⟨joint, _, text, first, front_of_literal seen literal quoted, quoted⟩
  · obtain ⟨_, _, -, rest⟩ := bind_eq_ok_iff.mp rest
    exact absurd rest expected_ne_ok

end Attribute

end Fieldwise
