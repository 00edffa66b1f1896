/-
This file says what the bracket scanner finds in a text, whatever the text. A text is cut at its
first `<` and at the first position after it up to which as many brackets are closed as opened.
The functions on characters are compared with a scan that can go wrong: it counts the open
brackets in an unsigned counter and cuts the text at offsets in bytes. Its counter is at least
one whenever a bracket is closed, and it only cuts next to a bracket, so it never goes wrong.
-/

import Fieldwise.Proofs.Brackets
import Mathlib.Data.List.TakeWhile
import Mathlib.Order.Bounds.Basic

namespace Fieldwise.Text

variable {text name rest inner : List Char} {depth : Nat} {previous : Char}

/-! ### Positions of brackets -/

/-- A bracket is opened at the position. -/
def OpensAt (text : List Char) (position : Nat) : Prop := text[position]? = some '<'

/-- A bracket is closed at the position: a `>` stands there, and not right after `-`. -/
def ClosesAt (text : List Char) (position : Nat) : Prop :=
  text[position]? = some '>' ∧ (position = 0 ∨ text[position - 1]? ≠ some '-')

instance (text : List Char) : DecidablePred (OpensAt text) :=
  fun position => inferInstanceAs (Decidable (text[position]? = some '<'))

instance (text : List Char) : DecidablePred (ClosesAt text) :=
  fun _ => inferInstanceAs (Decidable (_ ∧ _))

/-- From the first position to the last, as many brackets are closed as opened. -/
def EvenBetween (text : List Char) (first last : Nat) : Prop :=
  (List.range' first (last + 1 - first)).countP (ClosesAt text) =
    (List.range' first (last + 1 - first)).countP (OpensAt text)

/-- The first bracket of the text is opened at the position. -/
def FirstOpening (text : List Char) (opening : Nat) : Prop :=
  IsLeast {position | OpensAt text position} opening

/-- The bracket opened at a position is balanced at another: of all positions after it this is
the first up to which as many brackets are closed as opened. -/
def BalancedAt (text : List Char) (opening closing : Nat) : Prop :=
  IsLeast {position | opening < position ∧ position < text.length ∧
    EvenBetween text opening position} closing

theorem countP_opensAt (before run after : List Char) :
    (List.range' before.length run.length).countP (OpensAt (before ++ (run ++ after))) =
      run.count '<' := by
  induction run generalizing before with
  | nil => rfl
  | cons character rest inductionHypothesis =>
    have later := inductionHypothesis (before ++ [character])
    rw [List.length_append, List.length_singleton, List.append_assoc, List.singleton_append,
      ← List.cons_append] at later
    have here : OpensAt (before ++ (character :: rest ++ after)) before.length ↔
        (character == '<') = true := by
      simp [OpensAt]
    rw [List.length_cons, List.range'_succ, List.countP_cons, List.count_cons, later]
    simp only [decide_eq_true_eq, here]

theorem countP_closesAt (before run after : List Char) :
    (List.range' before.length run.length).countP (ClosesAt (before ++ (run ++ after))) =
      closings (before.getLast?.getD ' ') run := by
  induction run generalizing before with
  | nil => rfl
  | cons character rest inductionHypothesis =>
    have later := inductionHypothesis (before ++ [character])
    rw [List.length_append, List.length_singleton, List.append_assoc, List.singleton_append,
      ← List.cons_append, List.getLast?_concat, Option.getD_some] at later
    have here : ClosesAt (before ++ (character :: rest ++ after)) before.length ↔
        character = '>' ∧ before.getLast?.getD ' ' ≠ '-' := by
      rcases List.eq_nil_or_concat before with rfl | ⟨front, last, rfl⟩
      · simp [ClosesAt]
      · simp [ClosesAt]
    rw [List.length_cons, List.range'_succ, List.countP_cons, closings, later, Nat.add_comm]
    simp only [decide_eq_true_eq, here]

/-- Between an opened bracket and a later position the brackets are even if all those opened
after it and the bracket itself are closed. -/
theorem evenBetween_iff (name rest : List Char) {length : Nat} (within : length < rest.length) :
    EvenBetween (name ++ '<' :: rest) name.length (name.length + 1 + length) ↔
      closings '<' (rest.take (length + 1)) = 1 + (rest.take (length + 1)).count '<' := by
  have parts : name ++ '<' :: rest =
      name ++ ('<' :: rest.take (length + 1) ++ rest.drop (length + 1)) := by
    rw [List.cons_append, List.take_append_drop]
  have size : name.length + 1 + length + 1 - name.length =
      ('<' :: rest.take (length + 1)).length := by
    rw [List.length_cons, List.length_take]
    omega
  rw [EvenBetween, size, parts, countP_closesAt, countP_opensAt, closings, if_neg (by simp),
    Nat.zero_add, List.count_cons_self, Nat.add_comm 1]

/-! ### The first balance -/

/-- Wherever the brackets are even after a front, there is a first such front, which the scan
finds. -/
theorem exists_closes_of_front (positive : 0 < depth) {front : List Char}
    (isFront : front <+: text) (even : closings previous front = depth + front.count '<') :
    ∃ inner, Closes depth previous text inner := by
  induction text generalizing depth previous front with
  | nil =>
    rw [List.prefix_nil.mp isFront, closings, List.count_nil] at even
    omega
  | cons character rest inductionHypothesis =>
    rcases List.prefix_cons_iff.mp isFront with rfl | ⟨tail, rfl, isTail⟩
    · rw [closings, List.count_nil] at even
      omega
    rw [closings] at even
    by_cases opening : character = '<'
    · subst opening
      rw [if_neg (by simp), List.count_cons_self] at even
      have evenAfter : closings '<' tail = depth + 1 + tail.count '<' := by omega
      obtain ⟨inner, closes⟩ := inductionHypothesis (Nat.succ_pos depth) isTail evenAfter
      exact ⟨_, (closes_cons_opening positive).mpr ⟨inner, closes, rfl⟩⟩
    rw [List.count_cons_of_ne opening] at even
    by_cases closing : character = '>' ∧ previous ≠ '-'
    · rw [if_pos closing] at even
      obtain ⟨rfl, notArrow⟩ := closing
      by_cases last : depth = 1
      · exact ⟨[], (closes_cons_last notArrow last).mpr rfl⟩
      · have evenAfter : closings '>' tail = depth - 1 + tail.count '<' := by omega
        obtain ⟨inner, closes⟩ := inductionHypothesis (by omega) isTail evenAfter
        exact ⟨_, (closes_cons_closing notArrow (by omega)).mpr ⟨inner, closes, rfl⟩⟩
    · rw [if_neg closing, Nat.zero_add] at even
      obtain ⟨inner, closes⟩ := inductionHypothesis positive isTail even
      exact ⟨_, (closes_cons_other positive opening closing).mpr ⟨inner, closes, rfl⟩⟩

/-- The bracket after a name is balanced where the part that it opens ends. -/
theorem Closes.balancedAt (closes : Closes 1 '<' rest inner) (name : List Char) :
    BalancedAt (name ++ '<' :: rest) name.length (name.length + 1 + inner.length) := by
  obtain ⟨after, rfl, opened, even⟩ := closes
  refine ⟨⟨by omega, by simp; omega, ?_⟩, ?_⟩
  · rw [evenBetween_iff name _ (by simp), List.take_length_add_append]
    show closings '<' (inner ++ ['>']) = 1 + (inner ++ ['>']).count '<'
    rw [even, List.count_append]
    rfl
  · rintro position ⟨later, -, evenThere⟩
    by_contra earlier
    -- A front that ends within the part leaves a bracket open.
    obtain ⟨length, rfl⟩ := Nat.exists_eq_add_of_lt later
    rw [Nat.add_right_comm, evenBetween_iff name _ (by simp; omega),
      List.take_append_of_le_length (by omega)] at evenThere
    have open' := opened _ (List.take_prefix (length + 1) inner)
    omega

theorem balancedAt_iff {closing : Nat} :
    BalancedAt (name ++ '<' :: rest) name.length closing ↔
      ∃ inner, Closes 1 '<' rest inner ∧ closing = name.length + 1 + inner.length := by
  constructor
  · intro balanced
    obtain ⟨later, within, even⟩ := balanced.1
    obtain ⟨length, rfl⟩ := Nat.exists_eq_add_of_lt later
    rw [Nat.add_right_comm] at even
    rw [List.length_append, List.length_cons] at within
    obtain ⟨inner, closes⟩ := exists_closes_of_front Nat.one_pos (List.take_prefix _ _)
      ((evenBetween_iff name rest (by omega)).mp even)
    exact ⟨inner, closes, balanced.unique (closes.balancedAt name)⟩
  · rintro ⟨inner, closes, rfl⟩
    exact closes.balancedAt name

/-- What stands between brackets that balance has only matched brackets. -/
theorem Closes.matched (closes : Closes 1 '<' rest inner) : Matched inner := by
  obtain ⟨after, -, opened, even⟩ := closes
  have covered (front : List Char) (isFront : front <+: inner) :
      closings ' ' front ≤ front.count '<' := by
    rw [← closings_opening]
    exact Nat.lt_one_add_iff.mp (opened front isFront)
  have all := covered inner (List.prefix_refl inner)
  rw [closings_append, closings_opening, closings, closings] at even
  -- The last bracket counts, so it does not stand right after `-`.
  split at even
  · rename_i closing
    refine ⟨covered, by omega, fun arrow => closing.2 ?_⟩
    rw [arrow]
    rfl
  · omega

/-! ### Texts that are cut at a bracket -/

/-- A text with a first bracket is what stands before it, the bracket and the rest. -/
theorem FirstOpening.exists_parts {opening : Nat} (first : FirstOpening text opening) :
    ∃ name rest, text = name ++ '<' :: rest ∧ name.length = opening ∧ '<' ∉ name := by
  obtain ⟨within, opens⟩ := List.getElem?_eq_some_iff.mp first.1
  refine ⟨text.take opening, text.drop (opening + 1), ?_, ?_, fun member => ?_⟩
  · rw [← opens, ← List.drop_eq_getElem_cons within, List.take_append_drop]
  · rw [List.length_take]
    omega
  · obtain ⟨earlier, bound, found⟩ := List.mem_iff_getElem.mp member
    rw [List.length_take] at bound
    rw [List.getElem_take] at found
    have later := first.2 (List.getElem?_eq_some_iff.mpr ⟨by omega, found⟩)
    omega

theorem firstOpening_name (plain : '<' ∉ name) (rest : List Char) :
    FirstOpening (name ++ '<' :: rest) name.length := by
  refine ⟨by simp [OpensAt], fun opening opens => ?_⟩
  by_contra earlier
  rw [Set.mem_ofPred_eq, OpensAt, List.getElem?_append_left (by omega)] at opens
  exact plain (List.mem_of_getElem? opens)

/-- A text with no bracket but perhaps one at its front is all name. -/
theorem characters_of_unopened (front : ∀ opening, FirstOpening text opening → opening = 0) :
    baseCharacters text = text ∧ argumentCharacters text = [] := by
  by_cases member : '<' ∈ text
  · obtain ⟨name, rest, rfl, plain⟩ := List.eq_append_cons_of_mem member
    obtain rfl := List.length_eq_zero_iff.mp (front _ (firstOpening_name plain rest))
    exact ⟨rfl, rfl⟩
  · have all : text.takeWhile (· ≠ '<') = text :=
      List.takeWhile_eq_self_iff.mpr fun character among =>
        decide_eq_true fun opening => member (opening ▸ among)
    have none : text.dropWhile (· ≠ '<') = [] := by
      have parts := @List.takeWhile_append_dropWhile _ (· ≠ '<') text
      rwa [all, List.append_right_eq_self] at parts
    refine ⟨?_, ?_⟩
    · rw [baseCharacters, all, ite_self]
    · rw [argumentCharacters, none, ite_self]

/-- Arguments that are not empty stand behind a name, up to the balance of a bracket. -/
theorem exists_closes_of_argumentCharacters (found : argumentCharacters text ≠ []) :
    ∃ name rest, text = name ++ '<' :: rest ∧ baseCharacters text = name ∧
      Closes 1 '<' rest (argumentCharacters text) := by
  by_cases member : '<' ∈ text
  · obtain ⟨name, rest, rfl, plain⟩ := List.eq_append_cons_of_mem member
    by_cases nonempty : name = []
    · subst nonempty
      exact absurd rfl found
    refine ⟨name, rest, rfl, baseCharacters_name nonempty plain rest, ?_⟩
    rw [argumentCharacters_name nonempty plain] at found ⊢
    cases balance : upToBalance 1 '<' rest with
    | none =>
      rw [balance] at found
      exact absurd rfl found
    | some inner => exact (upToBalance_eq_some_iff Nat.one_pos).mp balance
  · have unopened : ∀ opening, FirstOpening text opening → opening = 0 :=
      fun opening first => absurd (List.mem_of_getElem? first.1) member
    exact absurd (characters_of_unopened unopened).2 found

/-! ### A scan that can go wrong -/

/-- How a scan can go wrong. -/
inductive ScanFault where
  /-- More brackets are closed than were opened. -/
  | uncounted
  /-- A text is cut inside a character. -/
  | misplaced
deriving DecidableEq, Repr

/-- How many bytes the characters take. -/
def bytes (text : List Char) : Nat := (String.ofList text).utf8ByteSize

theorem bytes_cons (character : Char) (text : List Char) :
    bytes (character :: text) = character.utf8Size + bytes text := by
  rw [bytes, String.ofList_cons, String.utf8ByteSize_append, String.utf8ByteSize_singleton, bytes]

/-- The part of a text between two offsets, counted in bytes. -/
def cut (text : String) (start stop : Nat) : Except ScanFault String :=
  if placed : start ≤ stop ∧ String.Pos.Raw.IsValid text ⟨start⟩ ∧
      String.Pos.Raw.IsValid text ⟨stop⟩ then
    .ok (text.extract ⟨⟨start⟩, placed.2.1⟩ ⟨⟨stop⟩, placed.2.2⟩)
  else .error .misplaced

/-- The offset of the first `<`. -/
def openingOffset? : List Char → Option Nat
  | [] => none
  | character :: rest =>
    if character = '<' then some 0 else (openingOffset? rest).map (character.utf8Size + ·)

/-- The offset of the `>` at which the counter of open brackets comes to zero, given the counter,
the character before the text and the offset of the text. -/
def closingOffset (depth : Nat) (previous : Option Char) (offset : Nat) :
    List Char → Except ScanFault (Option Nat)
  | [] => .ok none
  | character :: rest =>
    if character = '<' then
      closingOffset (depth + 1) (some character) (offset + character.utf8Size) rest
    else if character = '>' ∧ previous ≠ some '-' then
      if depth = 0 then .error .uncounted
      else if depth = 1 then .ok (some offset)
      else closingOffset (depth - 1) (some character) (offset + character.utf8Size) rest
    else closingOffset depth (some character) (offset + character.utf8Size) rest

/-- The text without its argument list, cut off at an offset. -/
def cutBase (text : String) : Except ScanFault String :=
  match openingOffset? text.toList with
  | none => .ok text
  | some opening => if 0 < opening then cut text 0 opening else .ok text

/-- The text of the argument list after the `<` at an offset. -/
def cutAfter (text : String) (opening : Nat) : Except ScanFault String := do
  let scanned ← cut text opening text.utf8ByteSize
  match ← closingOffset 0 none 0 scanned.toList with
  | none => return ""
  | some closing => cut text (opening + 1) (opening + closing)

/-- The text of the argument list, cut out between two offsets. -/
def cutArguments (text : String) : Except ScanFault String :=
  match openingOffset? text.toList with
  | none => .ok ""
  | some opening => if 0 < opening then cutAfter text opening else .ok ""

/-- A text is cut between characters without fault. -/
theorem cut_eq {whole : String} {before middle after : List Char}
    (parts : whole.toList = before ++ (middle ++ after)) :
    cut whole (bytes before) (bytes before + bytes middle) = .ok (String.ofList middle) := by
  have joined : whole = String.ofList before ++ (String.ofList middle ++ String.ofList after) := by
    rw [← String.ofList_append, ← String.ofList_append, ← parts, String.ofList_toList]
  have starts : String.Pos.Raw.IsValid whole ⟨bytes before⟩ :=
    String.Pos.Raw.isValid_iff_exists_append.mpr ⟨_, _, joined, rfl⟩
  have stops : String.Pos.Raw.IsValid whole ⟨bytes before + bytes middle⟩ := by
    refine String.Pos.Raw.isValid_iff_exists_append.mpr
      ⟨_, _, joined.trans String.append_assoc.symm, ?_⟩
    rw [String.Pos.Raw.ext_iff, String.byteIdx_rawEndPos, String.utf8ByteSize_append]
    rfl
  rw [cut, dif_pos ⟨Nat.le_add_right _ _, starts, stops⟩]
  refine congrArg Except.ok (String.toByteArray_inj.mp ?_)
  rw [String.toByteArray_extract]
  subst joined
  rw [String.toByteArray_append, String.toByteArray_append]
  have front : bytes before = (String.ofList before).toByteArray.size :=
    String.size_toByteArray.symm
  have shifted := @ByteArray.extract_append_size_add' (String.ofList before).toByteArray
    ((String.ofList middle).toByteArray ++ (String.ofList after).toByteArray) 0 (bytes middle)
    (bytes before) front
  exact shifted.trans (ByteArray.extract_append_eq_left String.size_toByteArray.symm)

theorem openingOffset?_name (plain : '<' ∉ name) (rest : List Char) :
    openingOffset? (name ++ '<' :: rest) = some (bytes name) := by
  induction name with
  | nil => rfl
  | cons character tail inductionHypothesis =>
    rw [List.mem_cons, not_or] at plain
    rw [List.cons_append, openingOffset?, if_neg (Ne.symm plain.1), inductionHypothesis plain.2,
      bytes_cons]
    rfl

theorem openingOffset?_of_not_mem (plain : '<' ∉ text) : openingOffset? text = none := by
  induction text with
  | nil => rfl
  | cons character tail inductionHypothesis =>
    rw [List.mem_cons, not_or] at plain
    rw [openingOffset?, if_neg (Ne.symm plain.1), inductionHypothesis plain.2]
    rfl

/-- While a bracket is open the counter is at least one, and it comes to zero at the balance. -/
theorem closingOffset_eq (positive : 0 < depth) (offset : Nat) :
    closingOffset depth (some previous) offset text =
      .ok ((upToBalance depth previous text).map fun inner => offset + bytes inner) := by
  induction text generalizing depth previous offset with
  | nil => rfl
  | cons character rest inductionHypothesis =>
    -- A longer part ends later by the bytes of its first character.
    have moved (found : Option (List Char)) :
        found.map (fun inner => offset + character.utf8Size + bytes inner) =
          (found.map (character :: ·)).map fun inner => offset + bytes inner := by
      rw [Option.map_map]
      refine congrArg (Option.map · found) (funext fun inner => ?_)
      rw [Function.comp_apply, bytes_cons, Nat.add_assoc]
    rw [closingOffset, upToBalance]
    by_cases opening : character = '<'
    · rw [if_pos opening, if_pos opening, inductionHypothesis (Nat.succ_pos depth), moved]
    rw [if_neg opening, if_neg opening]
    by_cases closing : character = '>' ∧ previous ≠ '-'
    · rw [if_pos ⟨closing.1, fun arrow => closing.2 (Option.some.inj arrow)⟩, if_pos closing]
      rw [if_neg (Nat.pos_iff_ne_zero.mp positive)]
      by_cases last : depth = 1
      · rw [if_pos last, if_pos (Nat.le_of_eq last)]
        rfl
      · rw [if_neg last, if_neg (by omega), inductionHypothesis (by omega), moved]
    · rw [if_neg fun arrow => closing ⟨arrow.1, fun same => arrow.2 (congrArg some same)⟩,
        if_neg closing, inductionHypothesis positive, moved]

theorem bytes_append (first second : List Char) :
    bytes (first ++ second) = bytes first + bytes second := by
  rw [bytes, String.ofList_append, String.utf8ByteSize_append, bytes, bytes]

theorem bytes_toList (text : String) : bytes text.toList = text.utf8ByteSize := by
  rw [bytes, String.ofList_toList]

theorem bytes_pos (nonempty : text ≠ []) : 0 < bytes text := by
  cases text with
  | nil => exact absurd rfl nonempty
  | cons first tail =>
    rw [bytes_cons]
    exact Nat.add_pos_left first.utf8Size_pos _

/-- Behind a name, the arguments are cut out between characters, and the brackets before them are
counted without fault. -/
theorem cutAfter_eq {text : String} (parts : text.toList = name ++ '<' :: rest) :
    cutAfter text (bytes name) = .ok (String.ofList ((upToBalance 1 '<' rest).getD [])) := by
  have scanned : cut text (bytes name) text.utf8ByteSize = .ok (String.ofList ('<' :: rest)) := by
    rw [← bytes_toList, parts, bytes_append]
    exact @cut_eq text name ('<' :: rest) [] (by rw [parts, List.append_nil])
  have closing : closingOffset 0 none 0 (String.ofList ('<' :: rest)).toList =
      .ok ((upToBalance 1 '<' rest).map fun inner => 1 + bytes inner) := by
    rw [String.toList_ofList, closingOffset, if_pos rfl, closingOffset_eq Nat.one_pos]
    rfl
  show (cut text (bytes name) text.utf8ByteSize >>= fun scanned =>
    closingOffset 0 none 0 scanned.toList >>= fun closing => _) = _
  rw [scanned]
  show (closingOffset 0 none 0 (String.ofList ('<' :: rest)).toList >>= fun closing => _) = _
  rw [closing]
  cases balance : upToBalance 1 '<' rest with
  | none => rfl
  | some inner =>
    obtain ⟨after, rfl, -⟩ := (upToBalance_eq_some_iff Nat.one_pos).mp balance
    show cut text (bytes name + 1) (bytes name + (1 + bytes inner)) = .ok (String.ofList inner)
    have front : bytes (name ++ ['<']) = bytes name + 1 := bytes_append name ['<']
    rw [← Nat.add_assoc, ← front]
    exact @cut_eq text (name ++ ['<']) inner ('>' :: after) (by rw [parts, List.append_assoc]; rfl)

/-- The name is cut off between characters. -/
theorem cutBase_eq (text : String) : cutBase text = .ok (baseName text) := by
  rw [cutBase, baseName]
  by_cases member : '<' ∈ text.toList
  · obtain ⟨name, rest, parts, plain⟩ := List.eq_append_cons_of_mem member
    rw [parts, openingOffset?_name plain]
    by_cases nonempty : name = []
    · subst nonempty
      show Except.ok text = .ok (String.ofList ([] ++ '<' :: rest))
      rw [← parts, String.ofList_toList]
    · have whole := @cut_eq text [] name _ parts
      rw [show bytes [] = 0 from rfl, Nat.zero_add] at whole
      rw [baseCharacters_name nonempty plain]
      exact (if_pos (bytes_pos nonempty)).trans whole
  · have unopened : ∀ opening, FirstOpening text.toList opening → opening = 0 :=
      fun opening first => absurd (List.mem_of_getElem? first.1) member
    rw [openingOffset?_of_not_mem member, (characters_of_unopened unopened).1,
      String.ofList_toList]

/-- The arguments are cut out without fault. -/
theorem cutArguments_eq (text : String) : cutArguments text = .ok (argumentText text) := by
  rw [cutArguments, argumentText]
  by_cases member : '<' ∈ text.toList
  · obtain ⟨name, rest, parts, plain⟩ := List.eq_append_cons_of_mem member
    rw [parts, openingOffset?_name plain]
    by_cases nonempty : name = []
    · subst nonempty
      rfl
    · rw [argumentCharacters_name nonempty plain]
      exact (if_pos (bytes_pos nonempty)).trans (cutAfter_eq parts)
  · have unopened : ∀ opening, FirstOpening text.toList opening → opening = 0 :=
      fun opening first => absurd (List.mem_of_getElem? first.1) member
    rw [openingOffset?_of_not_mem member, (characters_of_unopened unopened).2]

/-! ### The law of the scanner -/

/-- A text is cut at its first `<`, if something stands before it, and its arguments end where
that bracket is balanced for the first time; the cuts stand between characters, and no bracket
is closed that was not opened. What is found goes on from the name in the text, and its brackets
match. -/
theorem cuts_at_balance (text : String) :
    cutBase text = .ok (baseName text) ∧ cutArguments text = .ok (argumentText text) ∧
      (∀ opening, 0 < opening → FirstOpening text.toList opening →
        (baseName text).toList = text.toList.take opening ∧
        (∀ closing, BalancedAt text.toList opening closing →
          (argumentText text).toList = (text.toList.take closing).drop (opening + 1)) ∧
        ((∀ closing, ¬BalancedAt text.toList opening closing) → argumentText text = "")) ∧
      ((∀ opening, FirstOpening text.toList opening → opening = 0) →
        baseName text = text ∧ argumentText text = "") ∧
      (argumentText text ≠ "" →
        (baseName text ++ "<" ++ argumentText text ++ ">").toList <+: text.toList ∧
          Matched (argumentText text).toList) := by
  refine ⟨cutBase_eq text, cutArguments_eq text, fun opening positive first => ?_,
    fun unopened => ?_, fun found => ?_⟩
  · obtain ⟨name, rest, parts, rfl, plain⟩ := first.exists_parts
    have nonempty : name ≠ [] := List.length_pos_iff.mp positive
    rw [baseName, argumentText, String.toList_ofList, String.toList_ofList, parts,
      baseCharacters_name nonempty plain, argumentCharacters_name nonempty plain]
    refine ⟨List.take_left.symm, fun closing balanced => ?_, fun unbalanced => ?_⟩
    · obtain ⟨inner, closes, rfl⟩ := balancedAt_iff.mp balanced
      rw [(upToBalance_eq_some_iff Nat.one_pos).mpr closes, Option.getD_some]
      obtain ⟨after, rfl, -⟩ := closes
      have front : (name ++ ['<'] ++ inner).length = name.length + 1 + inner.length := by
        rw [List.length_append, List.length_append, List.length_singleton]
      have parts : name ++ '<' :: (inner ++ '>' :: after) =
          name ++ ['<'] ++ inner ++ '>' :: after := by simp
      rw [parts, ← front, List.take_left]
      exact (List.drop_left' (by simp)).symm
    · cases balance : upToBalance 1 '<' rest with
      | none => rfl
      | some inner =>
        have closes := (upToBalance_eq_some_iff Nat.one_pos).mp balance
        exact absurd (closes.balancedAt name) (unbalanced _)
  · have whole := characters_of_unopened unopened
    rw [baseName, argumentText, whole.1, whole.2, String.ofList_toList]
    exact ⟨rfl, rfl⟩
  · have nonempty : argumentCharacters text.toList ≠ [] := fun nothing =>
      found (by rw [argumentText, nothing])
    obtain ⟨name, rest, parts, base, closes⟩ := exists_closes_of_argumentCharacters nonempty
    rw [baseName, argumentText, base, String.toList_ofList]
    refine ⟨?_, closes.matched⟩
    generalize argumentCharacters text.toList = inner at closes ⊢
    obtain ⟨after, rfl, -⟩ := closes
    refine ⟨after, ?_⟩
    rw [parts]
    simp

/-- A text with letters of several bytes, an arrow and more brackets than balance. -/
def manyBytes : String := "Été<fn(ß) -> u8, Vec<é>> x>"

/-- The scan passes the arrow and stops at the bracket that balances the first one. -/
theorem cuts_at_balance_manyBytes :
    0 < 3 ∧ FirstOpening manyBytes.toList 3 ∧ BalancedAt manyBytes.toList 3 23 ∧
      (baseName manyBytes).toList = manyBytes.toList.take 3 ∧
      (argumentText manyBytes).toList = (manyBytes.toList.take 23).drop (3 + 1) ∧
      argumentText manyBytes ≠ "" ∧ Matched (argumentText manyBytes).toList := by
  have parts : manyBytes.toList = "Été".toList ++ '<' :: "fn(ß) -> u8, Vec<é>> x>".toList := by
    decide
  have first : FirstOpening manyBytes.toList 3 := by
    rw [parts]
    exact firstOpening_name (by decide) _
  have balanced : BalancedAt manyBytes.toList 3 23 := by
    rw [parts]
    exact balancedAt_iff.mpr ⟨"fn(ß) -> u8, Vec<é>".toList,
      (upToBalance_eq_some_iff Nat.one_pos).mp (by decide), by decide⟩
  have found : argumentText manyBytes ≠ "" := by decide
  obtain ⟨-, -, cuts, -, whole⟩ := cuts_at_balance manyBytes
  obtain ⟨base, arguments, -⟩ := cuts 3 (by decide) first
  exact ⟨by decide, first, balanced, base, arguments 23 balanced, found, (whole found).2⟩

end Fieldwise.Text
