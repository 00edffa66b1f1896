/-
This file proves that expansion is all or nothing. A declaration gives errors exactly if it
cannot be scanned or if one of its diagnostics is fatal, and then it gives every fatal
diagnostic and no note. Else it gives items, and these leave out nothing: every candidate has
its items among them, or no generator supports its type and no attribute asked for it.

The bridge between the two is that a diagnostic is fatal exactly if it is not a note. This needs
where a diagnostic comes from, as a problem can be fatal without an error, and it is the only
thing here that depends on how generators report failures.
-/

import Fieldwise.Proofs.Entries
import Fieldwise.Proofs.Hygiene

namespace Fieldwise

/-! ### Fatal diagnostics -/

theorem Diagnostic.isFatal_iff {diagnostic : Diagnostic} :
    diagnostic.isFatal = true ↔
      diagnostic.severity = .error ∨ diagnostic.problem.isNothing = true :=
  Bool.or_eq_true_iff.trans (or_congr beq_iff_eq Iff.rfl)

/-- The errors among diagnostics, by whether one of the diagnostics is fatal. -/
theorem fatalAmong_eq (diagnostics : List Diagnostic) :
    fatalAmong diagnostics =
      if diagnostics.any (·.isFatal) then some (diagnostics.filter (·.isFatal)) else none := by
  unfold fatalAmong
  cases fatal : diagnostics.filter (·.isFatal) with
  | nil =>
    have nowhere : ¬diagnostics.any (·.isFatal) := by
      rw [List.any_eq_true]
      rintro ⟨diagnostic, member, isFatal⟩
      exact List.filter_eq_nil_iff.mp fatal diagnostic member isFatal
    rw [if_neg nowhere]
  | cons first rest =>
    have member : first ∈ diagnostics.filter (·.isFatal) := fatal ▸ List.mem_cons_self
    obtain ⟨among, isFatal⟩ := List.mem_filter.mp member
    rw [if_pos (List.any_eq_true.mpr ⟨first, among, isFatal⟩)]

/-- What is said of an aggregate is fatal, unless it is a note. -/
theorem Registry.Cause.isFatal_iff {registry : Registry} {aggregate : Aggregate}
    {diagnostic : Diagnostic} (cause : registry.Cause aggregate diagnostic) :
    diagnostic.isFatal = true ↔ diagnostic.severity ≠ .note := by
  rw [Diagnostic.isFatal_iff]
  cases cause with
  | unresolved =>
    rw [severity_unsupported]
    cases aggregate.selection with
    | explicit => simp
    | auto => exact ⟨fun fatal => fatal.elim nofun nofun, fun other => absurd rfl other⟩
  | failed _ located => simp [located.severity]
  | nothing => exact ⟨fun _ => nofun, fun _ => .inr rfl⟩

/-! ### Emitted items -/

/-- The items of every definition stand before the last block, and its function stands in this
block. -/
theorem emit_eq_of_mem (aggregate : Aggregate) {definitions : List Definition}
    {definition : Definition} (member : definition ∈ definitions) :
    ∃ before group, emit aggregate definitions = before ++ [.braced group] ∧
      definition.itemTokens aggregate <:+: before ∧
        definition.accessorTokens aggregate <:+: group := by
  have nonempty : ¬definitions.isEmpty := by
    rw [List.isEmpty_iff]
    exact List.ne_nil_of_mem member
  refine ⟨_, (definitions.map (·.accessorTokens aggregate)).flatten,
    by rw [emit, if_neg nonempty], ?_, ?_⟩
  · have items : definition.itemTokens aggregate <:+:
        (definitions.map (·.itemTokens aggregate)).flatten :=
      List.infix_of_mem_flatten (List.mem_map_of_mem member)
    -- What follows the items is the head of the block with the functions.
    simp only [List.append_assoc]
    exact items.trans (List.prefix_append _ _).isInfix
  · exact List.infix_of_mem_flatten (List.mem_map_of_mem member)

/-! ### Expansions -/

/-- What an expansion that fails says: the wording of each of its errors. -/
def Expansion.messages : Expansion → List String
  | .items _ => []
  | .errors diagnostics => diagnostics.map (·.problem.message)

namespace Registry

variable {registry : Registry} {written : WrittenDeclaration} {listener : Level}
  {aggregate : Aggregate}

theorem expand_of_unscanned {diagnostic : Diagnostic}
    (failed : Aggregate.ofWritten written = .error diagnostic) :
    (registry.expand written).result listener = .errors [diagnostic] := by
  rw [expand, failed]
  rfl

theorem expand_of_scanned (scanned : Aggregate.ofWritten written = .ok aggregate) :
    (registry.expand written).result listener =
      if ((registry.synthesize aggregate).result listener).isFatal then
        .errors (((registry.synthesize aggregate).result listener).diagnostics.filter (·.isFatal))
      else
        .items (emit aggregate ((registry.synthesize aggregate).result listener).definitions) := by
  rw [expand, scanned]
  dsimp only
  rw [Logged.result_bind, Logged.result_bind, fatalAmong_eq, ← Outcome.isFatal]
  by_cases fatal : ((registry.synthesize aggregate).result listener).isFatal = true
  · rw [if_pos fatal, if_pos fatal]
    rfl
  · rw [if_neg fatal, if_neg fatal]
    rfl

/-- What is given for an outcome that is fatal: the wording of every diagnostic but the notes, in
the order in which they arose. -/
structure Refused (aggregate : Aggregate) (outcome : Outcome) (expansion : Expansion) : Prop where
  errors : expansion = .errors (outcome.diagnostics.filter (·.isFatal))
  messages : expansion.messages =
    (outcome.diagnostics.filter (·.isFatal)).map (·.problem.message)
  notes : outcome.diagnostics.filter (! ·.isFatal) = outcome.withSeverity .note
  nothing : outcome.definitions = [] → expansion.messages.getLast? =
    some (Problem.noTraversalGenerated aggregate.name.spelling).message

/-- A candidate has its items among the tokens, or it is left alone. -/
inductive Settled (registry : Registry) (aggregate : Aggregate) (outcome : Outcome)
    (tokens : Tokens) (field : Field) : Entry → Prop
  /-- The items for the candidate and its function are among the tokens. -/
  | emitted {definition : Definition} {before group : Tokens}
      (defined : definition ∈ outcome.definitions) (about : definition.field = field.name)
      (split : tokens = before ++ [.braced group])
      (items : definition.itemTokens aggregate <:+: before)
      (accessor : definition.accessorTokens aggregate <:+: group) :
      Settled registry aggregate outcome tokens field (.ok definition)
  /-- No generator supports the type of the candidate, and no attribute asked for it. -/
  | leaf (noted : unsupported aggregate field ∈ outcome.diagnostics)
      (auto : aggregate.selection = .auto)
      (none : ∀ generator ∈ registry.generators, generator.supports field.shape = false) :
      Settled registry aggregate outcome tokens field (.error (unsupported aggregate field))

/-- What is given for an outcome that is not fatal: the items of all definitions, of which there
is one, with nothing said but that no generator supports the types of the other candidates. -/
structure Emitted (registry : Registry) (aggregate : Aggregate) (outcome : Outcome)
    (tokens : Tokens) : Prop where
  defined : outcome.definitions ≠ []
  notes : ∀ diagnostic ∈ outcome.diagnostics,
    diagnostic.severity = .note ∧ diagnostic.problem.isUnsupported = true
  items : tokens = emit aggregate outcome.definitions
  settled : List.Forall₂ (Settled registry aggregate outcome tokens) aggregate.candidates
    (registry.entries aggregate)

theorem refused_of_expand (locating : registry.LocatesFailures)
    (scanned : Aggregate.ofWritten written = .ok aggregate)
    (fatal : ((registry.synthesize aggregate).result listener).isFatal = true) :
    Refused aggregate ((registry.synthesize aggregate).result listener)
      ((registry.expand written).result listener) := by
  rw [expand_of_scanned scanned, if_pos fatal]
  refine ⟨rfl, rfl, ?_, fun none => ?_⟩
  · refine List.filter_congr fun diagnostic member => ?_
    have same := (cause_of_mem_synthesize locating member).isFatal_iff
    cases fatal : diagnostic.isFatal <;> simp_all
  · have account := account_synthesize locating aggregate listener
    rw [account.diagnostics, none]
    simp only [List.isEmpty_nil, if_true, Expansion.messages, List.filter_append, List.map_append]
    exact List.getLast?_concat

theorem severity_eq_note_of_harmless (locating : registry.LocatesFailures)
    (harmless : ¬((registry.synthesize aggregate).result listener).isFatal = true)
    {diagnostic : Diagnostic}
    (member : diagnostic ∈ ((registry.synthesize aggregate).result listener).diagnostics) :
    diagnostic.severity = .note := by
  by_contra other
  have fatal := (cause_of_mem_synthesize locating member).isFatal_iff.mpr other
  exact harmless (List.any_eq_true.mpr ⟨diagnostic, member, fatal⟩)

/-- Where nothing is said but notes, every entry is settled. -/
theorem settled_of_entered (locating : registry.LocatesFailures)
    (notes : ∀ diagnostic ∈ ((registry.synthesize aggregate).result listener).diagnostics,
      diagnostic.severity = .note) {field : Field} {entry : Entry}
    (member : entry ∈ registry.entries aggregate) (about : entry.IsAbout aggregate field)
    (entered : Entered aggregate field (registry.choice field.shape) entry) :
    Settled registry aggregate ((registry.synthesize aggregate).result listener)
      (emit aggregate ((registry.synthesize aggregate).result listener).definitions)
      field entry := by
  have account := account_synthesize locating aggregate listener
  cases entry with
  | ok definition =>
    have defined : definition ∈
        ((registry.synthesize aggregate).result listener).definitions := by
      rw [account.definitions]
      exact List.mem_filterMap.mpr ⟨_, member, rfl⟩
    obtain ⟨before, group, split, items, accessor⟩ := emit_eq_of_mem aggregate defined
    exact .emitted defined about.2 split items accessor
  | error diagnostic =>
    have said : diagnostic ∈ ((registry.synthesize aggregate).result listener).diagnostics := by
      rw [account.diagnostics]
      exact List.mem_append_left _ (List.mem_filterMap.mpr ⟨_, member, rfl⟩)
    have note := notes _ said
    rcases entered.cause locating with ⟨none, rfl⟩ | ⟨located, -⟩
    · have unsupported := List.find?_eq_none.mp (Option.map_eq_none_iff.mp none)
      exact .leaf said (severity_unsupported_eq_note_iff.mp note)
        fun generator among => by simpa using unsupported generator among
    · rw [located.severity] at note
      cases note

theorem emitted_of_expand (locating : registry.LocatesFailures)
    (harmless : ¬((registry.synthesize aggregate).result listener).isFatal = true) :
    Emitted registry aggregate ((registry.synthesize aggregate).result listener)
      (emit aggregate ((registry.synthesize aggregate).result listener).definitions) := by
  have account := account_synthesize locating aggregate listener
  have notes : ∀ diagnostic ∈ ((registry.synthesize aggregate).result listener).diagnostics,
      diagnostic.severity = .note :=
    fun _ member => severity_eq_note_of_harmless locating harmless member
  refine ⟨?_, ?_, rfl, ?_⟩
  · intro none
    have last : nothingGenerated aggregate ∈
        ((registry.synthesize aggregate).result listener).diagnostics := by
      rw [account.diagnostics, none]
      exact List.mem_append_right _ List.mem_cons_self
    exact absurd (notes _ last) nofun
  · intro diagnostic member
    obtain ⟨-, field, -, -, rfl⟩ := (account.note diagnostic member).mp (notes diagnostic member)
    exact ⟨notes _ member, rfl⟩
  · obtain ⟨sameLength, each⟩ := List.forall₂_iff_zip.mp account.entered
    refine List.forall₂_iff_zip.mpr ⟨sameLength, fun pair => ?_⟩
    obtain ⟨about, entered⟩ := each pair
    exact settled_of_entered locating notes (List.of_mem_zip pair).2 about entered

/-- Expansion is all or nothing, if the generators report failures as errors on the field. It
gives errors exactly if the declaration cannot be scanned or its outcome is fatal. What stands in
the way of a scan is the only error; else the errors are all diagnostics but the notes, and the
last is that there is no traversal, if there is none. What is given without errors are the items
of all definitions, and of every candidate that has none it is noted that no generator supports
its type. -/
theorem expand_all_or_nothing {registry : Registry} (locating : registry.LocatesFailures)
    (written : WrittenDeclaration) (listener : Level) :
    ((∃ errors, (registry.expand written).result listener = .errors errors) ↔
      (∃ diagnostic, Aggregate.ofWritten written = .error diagnostic) ∨
      ∃ aggregate, Aggregate.ofWritten written = .ok aggregate ∧
        ((registry.synthesize aggregate).result listener).isFatal = true) ∧
    (∀ diagnostic, Aggregate.ofWritten written = .error diagnostic →
      (registry.expand written).result listener = .errors [diagnostic]) ∧
    (∀ aggregate errors, Aggregate.ofWritten written = .ok aggregate →
      (registry.expand written).result listener = .errors errors →
        Refused aggregate ((registry.synthesize aggregate).result listener)
          ((registry.expand written).result listener)) ∧
    ∀ aggregate tokens, Aggregate.ofWritten written = .ok aggregate →
      (registry.expand written).result listener = .items tokens →
        Emitted registry aggregate ((registry.synthesize aggregate).result listener) tokens := by
  refine ⟨?_, fun _ => expand_of_unscanned, ?_, ?_⟩
  · cases scanned : Aggregate.ofWritten written with
    | error diagnostic => exact ⟨fun _ => .inl ⟨_, rfl⟩, fun _ => ⟨_, expand_of_unscanned scanned⟩⟩
    | ok aggregate =>
      rw [expand_of_scanned scanned]
      split <;> simp_all
  · intro aggregate errors scanned failed
    by_cases fatal : ((registry.synthesize aggregate).result listener).isFatal = true
    · exact refused_of_expand locating scanned fatal
    · rw [expand_of_scanned scanned, if_neg fatal] at failed
      cases failed
  · intro aggregate tokens scanned given
    by_cases fatal : ((registry.synthesize aggregate).result listener).isFatal = true
    · rw [expand_of_scanned scanned, if_pos fatal] at given
      cases given
    · rw [expand_of_scanned scanned, if_neg fatal] at given
      cases given
      exact emitted_of_expand locating fatal

/-- The aggregate of a text, with what comes of its declaration. -/
def expansionOfText (registry : Registry) (text : String) (listener : Level) :
    Option (WrittenDeclaration × Aggregate × Expansion) := do
  let tokens ← Tokens.ofText text
  let written ← (WrittenDeclaration.ofTokens tokens).toOption
  let aggregate ← (Aggregate.ofWritten written).toOption
  return (written, aggregate, (registry.expand written).result listener)

theorem scanned_of_expansionOfText {text : String} {expansion : Expansion}
    (read : registry.expansionOfText text listener = some (written, aggregate, expansion)) :
    Aggregate.ofWritten written = .ok aggregate ∧
      (registry.expand written).result listener = expansion := by
  obtain ⟨tokens, -, rest⟩ := Option.bind_eq_some_iff.mp read
  obtain ⟨declaration, -, rest⟩ := Option.bind_eq_some_iff.mp rest
  obtain ⟨scannedAggregate, scanned, found⟩ := Option.bind_eq_some_iff.mp rest
  cases found
  cases scan : Aggregate.ofWritten written with
  | error diagnostic =>
    rw [scan] at scanned
    cases scanned
  | ok other =>
    rw [scan] at scanned
    exact ⟨congrArg _ (Option.some.inj scanned), rfl⟩

/-- A basket gives the items for its list, and its label is left alone; where both fields that
were asked for fail, all errors are given together. -/
theorem expand_all_or_nothing_basket :
    builtin.LocatesFailures ∧
    (∃ written aggregate tokens,
      builtin.expansionOfText "struct Basket { label: String, items: Vec<i32> }" .info =
        some (written, aggregate, .items tokens) ∧
      Emitted builtin aggregate ((builtin.synthesize aggregate).result .info) tokens) ∧
    ∃ written aggregate errors,
      builtin.expansionOfText
          "struct Broken { #[undertow(traverse)] a: Rc<u8>, #[undertow(traverse)] b: Either<u8> }"
          .info =
        some (written, aggregate, .errors errors) ∧
      Refused aggregate ((builtin.synthesize aggregate).result .info) (.errors errors) ∧
      errors.map (·.problem.message) = [
        "no shape generator supports `Rc<u8>` (not a traversable container)",
        "`either` traverses type argument 1 of `Either<u8>`, which has none at that position",
        "no traversal generated for `Broken`: no field has a traversable shape"] := by
  refine ⟨builtin_locatesFailures, ?_, ?_⟩
  · have accepted : ((builtin.expansionOfText "struct Basket { label: String, items: Vec<i32> }"
        .info).bind fun found => found.2.2.items?).isSome := by decide +kernel
    obtain ⟨tokens, given⟩ := Option.isSome_iff_exists.mp accepted
    obtain ⟨⟨written, aggregate, expansion⟩, read, given⟩ := Option.bind_eq_some_iff.mp given
    cases expansion with
    | errors errors => cases given
    | items tokens =>
      obtain ⟨scanned, expanded⟩ := scanned_of_expansionOfText read
      obtain ⟨-, -, -, emitted⟩ := expand_all_or_nothing builtin_locatesFailures written .info
      exact ⟨written, aggregate, tokens, read, emitted aggregate tokens scanned expanded⟩
  · have rejected : (builtin.expansionOfText
        "struct Broken { #[undertow(traverse)] a: Rc<u8>, #[undertow(traverse)] b: Either<u8> }"
        .info).map (·.2.2.messages) = some [
        "no shape generator supports `Rc<u8>` (not a traversable container)",
        "`either` traverses type argument 1 of `Either<u8>`, which has none at that position",
        "no traversal generated for `Broken`: no field has a traversable shape"] := by
      decide +kernel
    obtain ⟨⟨written, aggregate, expansion⟩, read, messages⟩ := Option.map_eq_some_iff.mp rejected
    cases expansion with
    | items tokens => cases messages
    | errors errors =>
      obtain ⟨scanned, expanded⟩ := scanned_of_expansionOfText read
      obtain ⟨-, -, refused, -⟩ := expand_all_or_nothing builtin_locatesFailures written .info
      refine ⟨written, aggregate, errors, read, ?_, messages⟩
      rw [← expanded]
      exact refused aggregate errors scanned expanded

end Registry

end Fieldwise
