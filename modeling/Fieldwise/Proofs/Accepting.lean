/-
This file says when a reader accepts the front of a run, where it does not matter which of several
results it gives. A reader that consists of parts accepts what its parts accept one after the
other; in a group it accepts what it accepts entirely, and in a loop, items with commas between
them.
-/

import Fieldwise.Proofs.Taking

namespace Fieldwise

namespace Token

/-- A list of so many items has commas between them. -/
theorem length_le_countAll_commaSeparated (items : List Tokens) :
    items.length ≤ countAll (commaSeparated items) + 1 := by
  induction items with
  | nil => exact Nat.zero_le _
  | cons item rest inductionHypothesis =>
    cases rest with
    | nil => exact Nat.le_add_left _ _
    | cons next others =>
      have single : countAll [comma] = 1 := rfl
      rw [commaSeparated] at inductionHypothesis ⊢
      rw [separated, countAll_append, countAll_append, single, List.length_cons]
      omega

/-- What may stand after an item of a list with commas: nothing, or a comma. -/
inductive EndsItem : Tokens → Prop
  | ended : EndsItem []
  | comma (rest : Tokens) : EndsItem (comma :: rest)

end Token

open Token (front EndsItem)

namespace Reader

variable {A B : Type} {tokens later rest : Tokens}

/-- Where the tokens remain to be read, the reader gives a result with the property and leaves the
rest. -/
def Accepts (reader : Reader A) (tokens : Tokens) (property : A → Prop) (rest : Tokens) : Prop :=
  ∀ reading : Reading, reading.remaining = tokens →
    ∃ result after, reader reading = .ok (result, after) ∧ property result ∧ after.remaining = rest

/-- The reader accepts the tokens, whatever it gives. -/
abbrev Passes (reader : Reader A) (tokens rest : Tokens) : Prop :=
  reader.Accepts tokens (fun _ => True) rest

theorem takes_iff_accepts {reader : Reader A} {result : A} :
    reader.Takes tokens result rest ↔ reader.Accepts tokens (· = result) rest := by
  refine ⟨fun taken reading remains => ?_, fun accepted reading remains => ?_⟩
  · obtain ⟨after, found, left⟩ := taken reading remains
    exact ⟨result, after, found, rfl, left⟩
  · obtain ⟨_, after, found, rfl, left⟩ := accepted reading remains
    exact ⟨after, found, left⟩

/-! ### One after the other -/

section

variable {first : Reader A} {next : A → Reader B} {middle : A} {result : B} {given : A → Prop}
  {property weaker : B → Prop}

theorem Accepts.imp {reader : Reader B} (accepted : reader.Accepts tokens property rest)
    (implies : ∀ result, property result → weaker result) : reader.Accepts tokens weaker rest := by
  intro reading remains
  obtain ⟨result, after, found, holds, left⟩ := accepted reading remains
  exact ⟨result, after, found, implies result holds, left⟩

theorem Accepts.passes {reader : Reader B} (accepted : reader.Accepts tokens property rest) :
    reader.Passes tokens rest :=
  accepted.imp fun _ _ => trivial

theorem Takes.accepts (taken : Takes first tokens middle rest) (holds : given middle) :
    first.Accepts tokens given rest :=
  (takes_iff_accepts.mp taken).imp fun _ same => same ▸ holds

theorem Takes.passes (taken : Takes first tokens middle rest) : first.Passes tokens rest :=
  taken.accepts trivial

/-- What a reader accepts has what holds of all that it gives. -/
theorem OnlyGives.of_accepts {reader : Reader B} {always : Tokens → Prop}
    (only : reader.OnlyGives tokens fun _ rest => always rest)
    (accepted : reader.Accepts tokens property rest) : always rest := by
  obtain ⟨result, after, found, -, rfl⟩ := accepted ⟨tokens, 0, []⟩ rfl
  exact only _ rfl result after found

theorem accepts_pure (holds : property result) :
    (pure result : Reader B).Accepts tokens property tokens :=
  (takes_pure result tokens).accepts holds

theorem Accepts.bind (accepted : first.Accepts tokens given later)
    (more : ∀ middle, given middle → (next middle).Accepts later property rest) :
    (first >>= next).Accepts tokens property rest := by
  intro reading remains
  obtain ⟨middle, between, found, holds, left⟩ := accepted reading remains
  obtain ⟨result, after, found', holds', left'⟩ := more middle holds between left
  exact ⟨result, after, bind_eq_ok_iff.mpr ⟨middle, between, found, found'⟩, holds', left'⟩

theorem Takes.accepts_bind (taken : Takes first tokens middle later)
    (more : (next middle).Accepts later property rest) :
    (first >>= next).Accepts tokens property rest :=
  (taken.accepts rfl : first.Accepts tokens (· = middle) later).bind fun _ same => same ▸ more

theorem Accepts.discard (accepted : first.Accepts tokens given rest) :
    Takes (discard first) tokens () rest := by
  refine takes_iff_accepts.mpr ?_
  show (first >>= fun _ => pure ()).Accepts _ _ _
  exact accepted.bind fun _ _ => accepts_pure rfl

/-- A reader without a result takes what it accepts. -/
theorem Accepts.takes {reader : Reader Unit} (accepted : reader.Passes tokens rest) :
    Takes reader tokens () rest :=
  takes_iff_accepts.mpr (accepted.imp fun _ _ => rfl)

/-- What is captured has the results that it has otherwise, whatever was written. -/
theorem Accepts.capture (accepted : first.Accepts tokens given rest) :
    (capture first).Accepts tokens (fun captured => given captured.1) rest := by
  intro reading remains
  obtain ⟨result, between, found, holds, left⟩ :=
    accepted { reading with written := [] } remains
  refine ⟨(result, between.written.reverse), { between with written := reading.written }, ?_,
    holds, left⟩
  rw [Reader.capture, found]

/-- What is captured may be left out. -/
theorem Accepts.capture_result (accepted : first.Accepts tokens given rest) :
    (Reader.capture first >>= fun captured => pure captured.1).Accepts tokens given rest :=
  accepted.capture.bind fun _ holds => accepts_pure holds

theorem Accepts.captured {reader : Reader Unit} (accepted : reader.Passes tokens rest) :
    reader.captured.Passes tokens rest :=
  accepted.capture.bind fun _ _ => accepts_pure trivial

/-- What is peeked at is not taken. -/
theorem takes_peeking {reader : Reader B} (taken : Takes reader tokens result rest) :
    Takes (peeking reader) tokens (some result) tokens := by
  intro reading remains
  obtain ⟨after, found, -⟩ := taken reading remains
  refine ⟨reading, ?_, remains⟩
  rw [peeking, found]

theorem takes_write (written tokens : Tokens) : Takes (write written) tokens () tokens := by
  rintro reading rfl
  exact ⟨_, rfl, rfl⟩

theorem accepts_get {next : Reading → Reader B}
    (accepted : ∀ reading : Reading, reading.remaining = tokens →
      (next reading).Accepts tokens property rest) :
    (get >>= next).Accepts tokens property rest :=
  fun reading remains => accepted reading remains reading remains

theorem Accepts.verbatimIf {test : A → Bool} (accepted : first.Accepts tokens given rest) :
    (verbatimIf test first).Accepts tokens given rest := by
  refine accepts_get fun before _ => accepted.capture.bind ?_
  rintro ⟨result, written⟩ holds
  dsimp only
  split
  · exact accepts_get fun _ _ => (takes_write _ _).accepts_bind (accepts_pure holds)
  · exact (takes_write _ _).accepts_bind (accepts_pure holds)

variable {test : Lookahead} {yes no : Reader B}

theorem Accepts.of_sees (seen : test tokens = true) (accepted : yes.Accepts tokens property rest) :
    (sees test >>= fun seen => if seen = true then yes else no).Accepts tokens property rest := by
  refine (takes_sees test tokens).accepts_bind ?_
  rw [seen]
  exact accepted

theorem Accepts.of_not_sees (unseen : test tokens = false)
    (accepted : no.Accepts tokens property rest) :
    (sees test >>= fun seen => if seen = true then yes else no).Accepts tokens property rest := by
  refine (takes_sees test tokens).accepts_bind ?_
  rw [unseen]
  exact accepted

theorem Accepts.of_true {condition : Prop} [Decidable condition] (holds : condition)
    (accepted : yes.Accepts tokens property rest) :
    (if condition then yes else no).Accepts tokens property rest := by
  rwa [if_pos holds]

/-- What comes next is not looked at for more than one reason, and it is not what is looked for. -/
theorem Accepts.of_not_both (reason : Bool) (unseen : test tokens = false)
    (accepted : no.Accepts tokens property rest) :
    (sees test >>= fun seen => if (reason && seen) = true then yes else no).Accepts tokens property
      rest := by
  refine (takes_sees test tokens).accepts_bind ?_
  rw [unseen, Bool.and_false]
  exact accepted

theorem Takes.of_not_both {result : B} (reason : Bool) (unseen : test tokens = false)
    (taken : Takes no tokens result rest) :
    Takes (sees test >>= fun seen => if (reason && seen) = true then yes else no) tokens result
      rest :=
  takes_iff_accepts.mpr ((takes_iff_accepts.mp taken).of_not_both reason unseen)

end

/-! ### Words and marks -/

theorem word_plain (text : String) (rest : Tokens) :
    Lookahead.word text (.word (.plain text) :: rest) = true :=
  beq_self_eq_true (Identifier.plain text)

theorem takes_word (text : String) (rest : Tokens) :
    Takes (word text) (.word (.plain text) :: rest) () rest :=
  .of_sees (word_plain text rest) (takes_anyWord _ rest).discard

theorem takes_optionalWord (text : String) (rest : Tokens) :
    Takes (optionalWord text) (.word (.plain text) :: rest) true rest :=
  .of_sees (word_plain text rest) ((takes_anyWord _ rest).discard.bind (takes_pure _ _))

theorem takes_optionalWord_of_absent {text : String}
    (absent : Lookahead.word text tokens = false) :
    Takes (optionalWord text) tokens false tokens :=
  .of_not_sees absent (takes_pure _ _)

theorem takes_optionalMark {operator : String} {character : Char}
    (single : operator.toList = [character]) (joint : Bool) (rest : Tokens) :
    Takes (optionalMark operator) (.mark character joint :: rest) true rest := by
  refine .of_sees ?_ ((takes_mark single joint rest).bind (takes_pure _ _))
  rw [Lookahead.mark, single]
  exact beq_self_eq_true character

/-! ### Runs of tokens -/

/-- What a reader accepts entirely is read as the whole of a run. -/
theorem Accepts.exists_whole {reader : Reader B} {property : B → Prop}
    (accepted : reader.Accepts tokens property []) :
    ∃ result, reader.whole tokens = .ok result ∧ property result := by
  obtain ⟨result, after, found, holds, left⟩ := accepted ⟨tokens, 0, []⟩ rfl
  have complete : (do
      let result ← reader
      if ← hasLeftOver then throw (.leftOver .invisible)
      return result : Reader B) ⟨tokens, 0, []⟩ = .ok (result, after) := by
    refine bind_eq_ok_iff.mpr ⟨_, _, found, ?_⟩
    refine bind_eq_ok_iff.mpr ⟨false, after, ?_, rfl⟩
    refine bind_eq_ok_iff.mpr ⟨_, _, rfl, ?_⟩
    rw [left]
    rfl
  refine ⟨result, ?_, holds⟩
  rw [whole, complete]
  rfl

theorem Takes.whole {reader : Reader B} {result : B} (taken : Takes reader tokens result []) :
    reader.whole tokens = .ok result := by
  obtain ⟨_, found, rfl⟩ := (takes_iff_accepts.mp taken).exists_whole
  exact found

/-! ### Groups -/

/-- Where only the tokens remain and nothing has been written, the reader reads them to their end and
gives a result with the property. -/
def ReadsAlone (reader : Reader B) (tokens : Tokens) (property : B → Prop) : Prop :=
  ∀ position, ∃ result after,
    reader ⟨tokens, position, []⟩ = .ok (result, after) ∧ property result ∧ after.remaining = []

theorem Accepts.readsAlone {reader : Reader B} {property : B → Prop}
    (accepted : reader.Accepts tokens property []) : reader.ReadsAlone tokens property :=
  fun position => accepted ⟨tokens, position, []⟩ rfl

/-- What a reader reads alone it accepts in a visible group. -/
theorem ReadsAlone.enclosed {delimiter : Delimiter} (visible : delimiter ≠ .invisible)
    {inner : Reader B} {content : Tokens} {property : B → Prop}
    (alone : inner.ReadsAlone content property) (rest : Tokens) :
    (group delimiter inner).Accepts (.group delimiter content :: rest) property rest := by
  rintro ⟨_, position, written⟩ rfl
  obtain ⟨result, ⟨_, _, within⟩, found, holds, rfl⟩ := alone (position + 1)
  refine ⟨result, ⟨rest, position + (Token.group delimiter content).count,
    .group delimiter within.reverse :: written⟩, ?_, holds, rfl⟩
  cases delimiter with
  | invisible => exact absurd rfl visible
  | _ =>
    refine bind_eq_ok_iff.mpr ⟨_, _, rfl, ?_⟩
    refine bind_eq_ok_iff.mpr ⟨_, _, rfl, ?_⟩
    refine bind_eq_ok_iff.mpr ⟨_, _, found, ?_⟩
    rfl

/-- What a reader accepts entirely it accepts in a visible group. -/
theorem Accepts.enclosed {delimiter : Delimiter} (visible : delimiter ≠ .invisible)
    {inner : Reader B} {content : Tokens} {property : B → Prop}
    (accepted : inner.Accepts content property []) (rest : Tokens) :
    (group delimiter inner).Accepts (.group delimiter content :: rest) property rest :=
  accepted.readsAlone.enclosed visible rest

theorem Takes.enclosed {delimiter : Delimiter} (visible : delimiter ≠ .invisible)
    {inner : Reader B} {content : Tokens} {result : B} (taken : Takes inner content result [])
    (rest : Tokens) : Takes (group delimiter inner) (.group delimiter content :: rest) result rest :=
  takes_iff_accepts.mpr ((takes_iff_accepts.mp taken).enclosed visible rest)

/-! ### Loops -/

section

variable {step : Reader Bool} {bound : Nat} {items : List Tokens} {trailing : Bool}

theorem takes_loopAtMost_last (last : Takes step tokens false rest) :
    Takes (loopAtMost (bound + 1) step) tokens () rest :=
  last.bind (takes_pure _ _)

theorem takes_loopAtMost_again (again : Takes step tokens true later)
    (more : Takes (loopAtMost bound step) later () rest) :
    Takes (loopAtMost (bound + 1) step) tokens () rest :=
  again.bind more

theorem takes_loop_last (last : Takes step tokens false rest) :
    Takes (loop step) tokens () rest :=
  takes_get fun _ _ => takes_loopAtMost_last last

/-- A loop takes items with commas between them, and perhaps a comma after the last, if each of its
steps takes an item with the comma after it. -/
theorem takes_loopAtMost_commaSeparated (enough : items.length < bound)
    (filled : trailing = true → items ≠ []) (ended : Takes step rest false rest)
    (last : ∀ item ∈ items, Takes step (item ++ rest) false rest)
    (again : ∀ item ∈ items, ∀ later, Takes step (item ++ Token.comma :: later) true later) :
    Takes (loopAtMost bound step)
      (Token.commaSeparated items ++ ((if trailing then [Token.comma] else []) ++ rest)) () rest := by
  induction items generalizing bound with
  | nil =>
    obtain ⟨bound, rfl⟩ := Nat.exists_eq_add_one_of_ne_zero (Nat.ne_of_gt enough)
    cases trailing with
    | true => exact absurd rfl (filled rfl)
    | false => exact takes_loopAtMost_last ended
  | cons item more inductionHypothesis =>
    obtain ⟨bound, rfl⟩ := Nat.exists_eq_add_one_of_ne_zero (Nat.ne_of_gt (Nat.zero_lt_of_lt enough))
    rw [List.forall_mem_cons] at last again
    cases more with
    | nil =>
      cases trailing with
      | true =>
        obtain ⟨bound, rfl⟩ :=
          Nat.exists_eq_add_one_of_ne_zero (Nat.ne_of_gt (Nat.lt_of_succ_lt_succ enough))
        exact takes_loopAtMost_again (again.1 rest) (takes_loopAtMost_last ended)
      | false => exact takes_loopAtMost_last last.1
    | cons next others =>
      have remaining := inductionHypothesis (Nat.lt_of_succ_lt_succ enough)
        (fun _ => List.cons_ne_nil _ _) last.2 again.2
      rw [Token.commaSeparated, Token.separated, List.append_assoc, List.append_assoc]
      exact takes_loopAtMost_again (again.1 _) remaining

theorem takes_loop_commaSeparated (trailing : Bool) (filled : trailing = true → items ≠ [])
    (ended : Takes step rest false rest)
    (last : ∀ item ∈ items, Takes step (item ++ rest) false rest)
    (again : ∀ item ∈ items, ∀ later, Takes step (item ++ Token.comma :: later) true later) :
    Takes (loop step)
      (Token.commaSeparated items ++ ((if trailing then [Token.comma] else []) ++ rest)) () rest := by
  refine takes_get fun reading remains => ?_
  rw [remains]
  refine takes_loopAtMost_commaSeparated ?_ filled ended last again
  have enough := Token.length_le_countAll_commaSeparated items
  rw [Token.countAll_append]
  omega

/-- Items are read with commas between them where none follows the last. -/
theorem takes_loop_items (ended : Takes step rest false rest)
    (last : ∀ item ∈ items, Takes step (item ++ rest) false rest)
    (again : ∀ item ∈ items, ∀ later, Takes step (item ++ Token.comma :: later) true later) :
    Takes (loop step) (Token.commaSeparated items ++ rest) () rest :=
  takes_loop_commaSeparated false nofun ended last again

/-- Items with commas between them, and perhaps after the last, are read one after the other up to
the end of a group. -/
theorem takes_terminated {item : Reader Unit} (trailing : Bool)
    (filled : trailing = true → items ≠ []) (nonempty : ∀ tokens ∈ items, tokens ≠ [])
    (each : ∀ tokens ∈ items, ∀ rest, EndsItem rest → Takes item (tokens ++ rest) () rest) :
    Takes (terminated "," item)
      (Token.commaSeparated items ++ if trailing then [Token.comma] else []) () [] := by
  have unended (tokens : Tokens) (member : tokens ∈ items) (rest : Tokens) :
      Lookahead.atEnd (tokens ++ rest) = false := by
    rw [Lookahead.atEnd, List.isEmpty_eq_false_iff, ne_eq, List.append_eq_nil_iff]
    exact fun empty => nonempty tokens member empty.1
  rw [← List.append_nil (if trailing then [Token.comma] else [])]
  refine takes_loop_commaSeparated trailing filled (.of_sees rfl (takes_pure _ _)) ?_ ?_
  · intro tokens member
    refine .of_not_sees (unended tokens member _) ((each tokens member _ .ended).bind ?_)
    exact .of_sees rfl (takes_pure _ _)
  · intro tokens member rest
    refine .of_not_sees (unended tokens member _) ((each tokens member _ (.comma rest)).bind ?_)
    exact .of_not_sees rfl ((takes_mark rfl false rest).bind (takes_pure _ _))

theorem takes_terminated_commaSeparated {item : Reader Unit}
    (nonempty : ∀ tokens ∈ items, tokens ≠ [])
    (each : ∀ tokens ∈ items, ∀ rest, EndsItem rest → Takes item (tokens ++ rest) () rest) :
    Takes (terminated "," item) (Token.commaSeparated items) () [] := by
  have taken := takes_terminated false nofun nonempty each
  rwa [if_neg Bool.false_ne_true, List.append_nil] at taken

end

end Reader

end Fieldwise
