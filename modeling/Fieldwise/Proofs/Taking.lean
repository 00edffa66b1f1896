/-
This file says what readers do with a run of tokens, whatever was read before it and whatever they
have written. A reader takes the front of a run if it gives a result there and leaves the rest of
the run; whether it does follows from the parts that it is made of. Of a run that a reader may not
take at all, it is said which results it can give.
-/

import Fieldwise.Proofs.ItemReaders

namespace Fieldwise

open Token (front)

namespace Reader

variable {A B : Type} {tokens later rest : Tokens}

/-! ### Taking tokens -/

/-- Where the tokens remain to be read, the reader gives the result and leaves the rest. -/
def Takes (reader : Reader A) (tokens : Tokens) (result : A) (rest : Tokens) : Prop :=
  ∀ reading : Reading, reading.remaining = tokens →
    ∃ after, reader reading = .ok (result, after) ∧ after.remaining = rest

theorem takes_pure (result : A) (tokens : Tokens) :
    Takes (pure result) tokens result tokens :=
  fun reading remains => ⟨reading, rfl, remains⟩

section

variable {first : Reader A} {next : A → Reader B} {middle : A} {result : B}

theorem Takes.bind (taken : Takes first tokens middle later)
    (more : Takes (next middle) later result rest) :
    Takes (first >>= next) tokens result rest := by
  intro reading remains
  obtain ⟨between, found, left⟩ := taken reading remains
  obtain ⟨after, found', left'⟩ := more between left
  exact ⟨after, bind_eq_ok_iff.mpr ⟨middle, between, found, found'⟩, left'⟩

/-- What is captured does not matter where the rest of the reader does not depend on it. -/
theorem Takes.capture_bind {next : A × Tokens → Reader B} (taken : Takes first tokens middle later)
    (more : ∀ written, Takes (next (middle, written)) later result rest) :
    Takes (capture first >>= next) tokens result rest := by
  intro reading remains
  obtain ⟨between, found, left⟩ := taken { reading with written := [] } remains
  obtain ⟨after, found', left'⟩ :=
    more between.written.reverse { between with written := reading.written } left
  refine ⟨after, bind_eq_ok_iff.mpr ⟨_, _, ?_, found'⟩, left'⟩
  rw [capture, found]

theorem Takes.discard (taken : Takes first tokens middle rest) :
    Takes (discard first) tokens () rest := by
  intro reading remains
  obtain ⟨after, found, left⟩ := taken reading remains
  refine ⟨after, ?_, left⟩
  show (first >>= fun _ => pure ()) reading = _
  exact bind_eq_ok_iff.mpr ⟨_, _, found, rfl⟩

theorem takes_get {next : Reading → Reader B}
    (taken : ∀ reading : Reading, reading.remaining = tokens →
      Takes (next reading) tokens result rest) :
    Takes (get >>= next) tokens result rest :=
  fun reading remains => taken reading remains reading remains

theorem takes_sees (test : Lookahead) (tokens : Tokens) :
    Takes (sees test) tokens (test tokens) tokens := by
  rintro reading rfl
  exact ⟨reading, rfl, rfl⟩

variable {test : Lookahead} {yes no : Reader B}

theorem Takes.of_sees (seen : test tokens = true) (taken : Takes yes tokens result rest) :
    Takes (sees test >>= fun seen => if seen = true then yes else no) tokens result rest := by
  refine (takes_sees test tokens).bind ?_
  rw [seen]
  exact taken

theorem Takes.of_not_sees (unseen : test tokens = false) (taken : Takes no tokens result rest) :
    Takes (sees test >>= fun seen => if seen = true then yes else no) tokens result rest := by
  refine (takes_sees test tokens).bind ?_
  rw [unseen]
  exact taken

end

/-! ### Taking single tokens and groups -/

theorem takes_anyWord (name : Identifier) (rest : Tokens) :
    Takes anyWord (.word name :: rest) name rest := by
  rintro reading remains
  have first : front reading.remaining = .word name :: rest := by rw [remains]; rfl
  exact anyWord_of_front first

theorem takes_name {name : Identifier} (free : name.isKeyword = false) (rest : Tokens) :
    Takes Reader.name (.word name :: rest) name rest := by
  rintro reading remains
  obtain ⟨after, found, left⟩ := takes_anyWord name rest reading remains
  refine ⟨after, bind_eq_ok_iff.mpr ⟨_, _, rfl, ?_⟩, left⟩
  rw [remains]
  show (if name.isKeyword = true then throw _ else anyWord : Reader Identifier) reading = _
  rw [free]
  exact found

theorem takes_lifetime (name : Identifier) (rest : Tokens) :
    Takes Reader.lifetime (.mark Token.apostrophe true :: .word name :: rest) name rest := by
  rintro reading remains
  refine ⟨⟨rest, reading.position + 2, (Token.lifetime name).reverse ++ reading.written⟩, ?_, rfl⟩
  refine bind_eq_ok_iff.mpr ⟨_, _, rfl, ?_⟩
  rw [remains]
  rfl

theorem takes_mark {operator : String} {character : Char}
    (single : operator.toList = [character]) (joint : Bool) (rest : Tokens) :
    Takes (mark operator) (.mark character joint :: rest) () rest := by
  rintro reading remains
  have first : front reading.remaining = .mark character joint :: rest := by rw [remains]; rfl
  exact mark_of_front single first

theorem takes_separator (rest : Tokens) :
    Takes (mark "::") (Token.pathSeparator ++ rest) () rest := by
  rintro reading remains
  rw [mark_eq, remains]
  exact ⟨_, rfl, rfl⟩

theorem takes_optionalSeparator (rest : Tokens) :
    Takes (optionalMark "::") (Token.pathSeparator ++ rest) true rest :=
  .of_sees rfl ((takes_separator rest).bind (takes_pure _ _))

theorem takes_optionalMark_of_absent {operator : String}
    (absent : Lookahead.mark operator tokens = false) :
    Takes (optionalMark operator) tokens false tokens :=
  .of_not_sees absent (takes_pure _ _)

/-! ### Results that can be given -/

/-- Where the tokens remain to be read, the reader gives only results, and leaves only tokens, with
the property. -/
def OnlyGives (reader : Reader A) (tokens : Tokens) (property : A → Tokens → Prop) : Prop :=
  ∀ reading : Reading, reading.remaining = tokens →
    ∀ result after, reader reading = .ok (result, after) → property result after.remaining

section

variable {first : Reader A} {next : A → Reader B} {middle : A} {given : A → Tokens → Prop}
  {property : B → Tokens → Prop}

theorem onlyGives_of_forall {reader : Reader B} (holds : ∀ result rest, property result rest) :
    OnlyGives reader tokens property :=
  fun _ _ result after _ => holds result after.remaining

theorem Takes.onlyGives (taken : Takes first tokens middle rest) (holds : given middle rest) :
    OnlyGives first tokens given := by
  intro reading remains result after found
  obtain ⟨_, found', rfl⟩ := taken reading remains
  cases found'.symm.trans found
  exact holds

/-- What a reader takes has every property of what it gives. -/
theorem OnlyGives.of_takes (only : OnlyGives first tokens given)
    (taken : Takes first tokens middle rest) : given middle rest := by
  obtain ⟨after, found, rfl⟩ := taken ⟨tokens, 0, []⟩ rfl
  exact only _ rfl _ _ found

theorem onlyGives_pure {result : B} (holds : property result tokens) :
    OnlyGives (pure result) tokens property :=
  (takes_pure result tokens).onlyGives holds

theorem onlyGives_expected (wording : String) (tokens : Tokens) :
    OnlyGives (expected wording) tokens property :=
  fun _ _ _ _ found => absurd found expected_ne_ok

theorem onlyGives_throw (error : SyntaxError) (tokens : Tokens) :
    OnlyGives (throw error) tokens property :=
  fun _ _ _ _ => nofun

theorem OnlyGives.bind (only : OnlyGives first tokens given)
    (more : ∀ middle later, given middle later → OnlyGives (next middle) later property) :
    OnlyGives (first >>= next) tokens property := by
  intro reading remains result after found
  obtain ⟨middle, between, found, rest⟩ := bind_eq_ok_iff.mp found
  exact more middle _ (only reading remains _ _ found) between rfl _ _ rest

theorem OnlyGives.imp {reader : Reader A} {weaker : A → Tokens → Prop}
    (only : OnlyGives reader tokens given)
    (implies : ∀ result rest, given result rest → weaker result rest) :
    OnlyGives reader tokens weaker :=
  fun reading remains _ _ found => implies _ _ (only reading remains _ _ found)

/-- Where the first reader gives nothing, nothing is given. -/
theorem OnlyGives.bind_of_none (none : OnlyGives first tokens fun _ _ => False) :
    OnlyGives (first >>= next) tokens property :=
  none.bind fun _ _ impossible => impossible.elim

/-- Whatever the first reader gives and leaves. -/
theorem onlyGives_bind (more : ∀ middle later, OnlyGives (next middle) later property) :
    OnlyGives (first >>= next) tokens property :=
  OnlyGives.bind (onlyGives_of_forall fun _ _ => trivial) fun middle later _ => more middle later

theorem OnlyGives.bind_of_takes (only : OnlyGives (next middle) later property)
    (taken : Takes first tokens middle later) : OnlyGives (first >>= next) tokens property := by
  have determined : OnlyGives first tokens fun result rest => result = middle ∧ rest = later :=
    taken.onlyGives ⟨rfl, rfl⟩
  refine determined.bind ?_
  rintro _ _ ⟨rfl, rfl⟩
  exact only

theorem OnlyGives.capture (only : OnlyGives first tokens given) :
    OnlyGives (capture first) tokens fun captured rest => given captured.1 rest := by
  intro reading remains result after found
  unfold Reader.capture at found
  split at found
  · rename_i within
    cases found
    have holds := only { reading with written := [] } remains _ _ within
    exact holds
  · cases found

theorem onlyGives_get {next : Reading → Reader B}
    (only : ∀ reading : Reading, reading.remaining = tokens →
      OnlyGives (next reading) tokens property) :
    OnlyGives (get >>= next) tokens property :=
  fun reading remains => only reading remains reading remains

/-- What is written does not matter for what is given. -/
theorem OnlyGives.verbatimIf {given : A → Prop} {test : A → Bool}
    (only : OnlyGives first tokens fun result _ => given result) :
    OnlyGives (verbatimIf test first) tokens fun result _ => given result := by
  refine onlyGives_get fun before _ => only.capture.bind fun captured later holds => ?_
  dsimp only
  split
  · exact onlyGives_bind fun _ _ => onlyGives_bind fun _ _ => onlyGives_pure holds
  · exact onlyGives_bind fun _ _ => onlyGives_pure holds

variable {test : Lookahead} {yes no : Reader B}

theorem onlyGives_ite {condition : Prop} [Decidable condition]
    (ifTrue : condition → OnlyGives yes tokens property)
    (ifFalse : ¬ condition → OnlyGives no tokens property) :
    OnlyGives (if condition then yes else no) tokens property := by
  split
  · exact ifTrue ‹_›
  · exact ifFalse ‹_›

/-- Each way is gone only where its test lets it. -/
theorem onlyGives_sees
    (ifSeen : test tokens = true → OnlyGives yes tokens property)
    (ifUnseen : test tokens = false → OnlyGives no tokens property) :
    OnlyGives (sees test >>= fun seen => if seen = true then yes else no) tokens property := by
  refine OnlyGives.bind_of_takes ?_ (takes_sees test tokens)
  cases seen : test tokens with
  | true => exact ifSeen seen
  | false => exact ifUnseen seen

theorem OnlyGives.of_not_sees (unseen : test tokens = false) (only : OnlyGives no tokens property) :
    OnlyGives (sees test >>= fun seen => if seen = true then yes else no) tokens property :=
  onlyGives_sees (fun seen => nomatch unseen.symm.trans seen) fun _ => only

theorem OnlyGives.of_sees (seen : test tokens = true) (only : OnlyGives yes tokens property) :
    OnlyGives (sees test >>= fun seen => if seen = true then yes else no) tokens property :=
  onlyGives_sees (fun _ => only) fun unseen => nomatch unseen.symm.trans seen

end

theorem onlyGives_set {next : PUnit → Reader B} {property : B → Tokens → Prop} {reading : Reading}
    (only : OnlyGives (next ⟨⟩) reading.remaining property) :
    OnlyGives (set reading >>= next) tokens property :=
  fun _ _ => only reading rfl

/-- A group gives what the reader of its content gives. -/
theorem onlyGives_group {inner : Reader B} {delimiter : Delimiter} {given : B → Prop}
    (within : ∀ content later,
      (if delimiter == .invisible then tokens else front tokens) =
        .group delimiter content :: later →
      OnlyGives inner content fun result _ => given result) :
    OnlyGives (group delimiter inner) tokens fun result _ => given result := by
  refine onlyGives_get fun reading remains => ?_
  rw [remains]
  dsimp only
  split
  · rename_i opened content later shown
    split
    · rename_i same
      obtain rfl : opened = delimiter := beq_iff_eq.mp same
      refine onlyGives_set ((within content later shown).bind fun result _ holds => ?_)
      refine onlyGives_bind fun leftOver _ => ?_
      split
      · exact (onlyGives_throw _ _).bind_of_none
      · exact onlyGives_bind fun _ _ => onlyGives_bind fun _ _ => onlyGives_pure holds
    · exact onlyGives_expected _ _
  · exact onlyGives_expected _ _

end Reader

end Fieldwise
