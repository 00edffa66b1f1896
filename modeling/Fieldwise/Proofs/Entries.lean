/-
This file proves that synthesis accounts for every candidate of an aggregate. A candidate is
entered once: as the definition of its traversal, or as a diagnostic that names it. The
definitions of an aggregate and its diagnostics are these entries told apart, each in the order
of the candidates; only an aggregate without any definition has one diagnostic more.

What is chosen for a candidate, a generator and a focus, depends on the candidate's type alone.
An earlier candidate only matters where it has a definition and the two would share the name of
the generated type; one that has none leaves no trace in the entries of the others.
-/

import Fieldwise.Proofs.Results
import Fieldwise.Proofs.Writing
import Mathlib.Data.List.Forall2

namespace Fieldwise

/-! ### Problems -/

/-- Whether the problem is that no generator supports a type. -/
def Problem.isUnsupported : Problem → Bool
  | .unsupportedShape _ _ => true
  | _ => false

/-- Whether the problem is that an aggregate has no traversal at all. -/
def Problem.isNothing : Problem → Bool
  | .noTraversalGenerated _ => true
  | _ => false

/-- The diagnostic is an error that names the field of the aggregate. -/
structure Diagnostic.ErrorOn (diagnostic : Diagnostic) (aggregate : Aggregate) (field : Field) :
    Prop where
  severity : diagnostic.severity = .error
  aggregate : diagnostic.aggregate = aggregate.name.spelling
  field : diagnostic.field = some field.name.display

theorem Problem.errorOn_located (problem : Problem) (aggregate : Aggregate) (field : Field) :
    (problem.located aggregate field).ErrorOn aggregate field :=
  ⟨rfl, rfl, rfl⟩

/-! ### Failures of generators -/

/-- What a generator reports when it cannot write a body. -/
def Generator.Reports (generator : Generator) (aggregate : Aggregate) (field : Field)
    (diagnostic : Diagnostic) : Prop :=
  ∃ context, generator.synthesize field aggregate context = .error diagnostic

namespace Registry

/-- The generators report failures as errors on the field that they were asked for. -/
def LocatesFailures (registry : Registry) : Prop :=
  ∀ generator ∈ registry.generators, ∀ aggregate field diagnostic,
    generator.Reports aggregate field diagnostic → diagnostic.ErrorOn aggregate field

/-- The generators report failures of their own: that no generator supports a type, or that an
aggregate has no traversal, is for synthesis to say. -/
def ReportsOwnFailures (registry : Registry) : Prop :=
  ∀ generator ∈ registry.generators, ∀ aggregate field diagnostic,
    generator.Reports aggregate field diagnostic →
      diagnostic.problem.isUnsupported = false ∧ diagnostic.problem.isNothing = false

end Registry

namespace Generator

variable {aggregate : Aggregate} {field : Field} {context : Context} {diagnostic : Diagnostic}

/-- The diagnostic is a problem of a generator, located on the field. -/
def OwnFailure (aggregate : Aggregate) (field : Field) (diagnostic : Diagnostic) : Prop :=
  ∃ problem : Problem, problem.isUnsupported = false ∧ problem.isNothing = false ∧
    diagnostic = problem.located aggregate field

/-- Where the plan fails with a problem of the generator, or does not fail, writing fails with a
problem of the generator only. -/
theorem ownFailure_of_write {name : String} {plan : Except Problem Plan}
    (own : ∀ problem, plan = .error problem →
      problem.isUnsupported = false ∧ problem.isNothing = false)
    (failed : write name field aggregate context plan = .error diagnostic) :
    OwnFailure aggregate field diagnostic := by
  cases plan with
  | error problem =>
    obtain ⟨noShape, noTraversal⟩ := own problem rfl
    unfold write Reconstruction.around at failed
    split at failed <;> cases failed
    · exact ⟨problem, noShape, noTraversal, rfl⟩
    · exact ⟨_, rfl, rfl, rfl⟩
  | ok plan =>
    by_cases declared : (aggregate.field? field.name).isSome
    · rw [write_eq name declared] at failed
      split at failed
      · cases failed
      · cases failed
        exact ⟨_, rfl, rfl, rfl⟩
    · have around : Reconstruction.around aggregate field =
          .error (.reconstructionMismatch aggregate.name.spelling field.name.display) :=
        dif_neg declared
      unfold write at failed
      rw [around] at failed
      cases failed
      exact ⟨_, rfl, rfl, rfl⟩

/-- A failure stays the same when a success is turned into another. -/
theorem eq_error_of_map {A B : Type} {attempt : Except Diagnostic A} {function : A → B}
    (failed : attempt.map function = .error diagnostic) : attempt = .error diagnostic := by
  cases attempt with
  | error other => exact congrArg _ (Except.error.inj failed)
  | ok value => cases failed

theorem ownFailure_of_mem_builtin {generator : Generator} (builtIn : generator ∈ builtin)
    (failed : generator.Reports aggregate field diagnostic) :
    OwnFailure aggregate field diagnostic := by
  obtain ⟨context, failed⟩ := failed
  obtain ⟨name, plan, writer, missing, -⟩ := exists_writer builtIn
  have own (problem : Problem) (refused : plan field.shape = .error problem) :
      problem.isUnsupported = false ∧ problem.isNothing = false := by
    rw [missing _ problem refused]
    exact ⟨rfl, rfl⟩
  cases writer with
  | plain synthesize_eq =>
    rw [synthesize_eq] at failed
    exact ownFailure_of_write own failed
  | collecting items synthesize_eq =>
    rw [synthesize_eq] at failed
    exact ownFailure_of_write own (eq_error_of_map failed)

end Generator

namespace Registry

theorem builtin_locatesFailures : builtin.LocatesFailures := by
  intro generator builtIn aggregate field diagnostic failed
  obtain ⟨problem, -, -, rfl⟩ := Generator.ownFailure_of_mem_builtin builtIn failed
  exact problem.errorOn_located aggregate field

theorem builtin_reportsOwnFailures : builtin.ReportsOwnFailures := by
  intro generator builtIn aggregate field diagnostic failed
  obtain ⟨problem, noShape, noTraversal, rfl⟩ := Generator.ownFailure_of_mem_builtin builtIn failed
  exact ⟨noShape, noTraversal⟩

end Registry

/-! ### What an entry can be -/

/-- The entry is about a field of an aggregate: a definition of the traversal over it, or a
diagnostic that names it. -/
def Entry.IsAbout (aggregate : Aggregate) (field : Field) : Entry → Prop
  | .ok definition => definition.target = aggregate.name ∧ definition.field = field.name
  | .error diagnostic =>
    diagnostic.aggregate = aggregate.name.spelling ∧ diagnostic.field = some field.name.display

namespace Registry

/-- What is chosen for a type: the first generator that supports it, with the focus that this
generator traverses, if the type has it. -/
def choice (registry : Registry) (shape : TypeExpression) :
    Option (Generator × Option TypeExpression) :=
  (registry.generators.find? (·.supports shape)).map fun generator =>
    (generator, generator.focusOf? shape)

variable {registry : Registry} {aggregate : Aggregate} {field : Field} {listener : Level}

/-- What a field is entered as, by what is chosen for its type. -/
inductive Entered (aggregate : Aggregate) (field : Field) :
    Option (Generator × Option TypeExpression) → Entry → Prop
  /-- No generator supports the type. -/
  | unresolved : Entered aggregate field none (.error (unsupported aggregate field))
  /-- The type lacks the focus. -/
  | unfocused {generator : Generator} :
      Entered aggregate field (some (generator, none))
        (.error (missingFocus generator aggregate field))
  /-- The generator fails. -/
  | refused {generator : Generator} {focus : TypeExpression} {diagnostic : Diagnostic}
      (failed : generator.synthesize field aggregate ⟨aggregate.runtime, focus⟩ =
        .error diagnostic) :
      Entered aggregate field (some (generator, some focus)) (.error diagnostic)
  /-- The name of the generated type is taken. -/
  | clashing {generator : Generator} {focus : TypeExpression} {body : Fragment}
      {earlier : Definition}
      (written : generator.synthesize field aggregate ⟨aggregate.runtime, focus⟩ = .ok body)
      (taken : earlier.structureName = Definition.structureNameFor aggregate.name field.name) :
      Entered aggregate field (some (generator, some focus))
        (.error (Problem.located (.malformedDeclaration (clashReason earlier.field field.name
          (Definition.structureNameFor aggregate.name field.name))) aggregate field))
  /-- The generator writes a body. -/
  | defined {generator : Generator} {focus : TypeExpression} {body : Fragment}
      (written : generator.synthesize field aggregate ⟨aggregate.runtime, focus⟩ = .ok body) :
      Entered aggregate field (some (generator, some focus))
        (.ok (definitionOf generator aggregate field focus body))

theorem entered_entryAfter (registry : Registry) (aggregate : Aggregate)
    (kept : List Definition) (field : Field) :
    Entered aggregate field (registry.choice field.shape)
      (registry.entryAfter aggregate kept field) := by
  unfold choice entryAfter fieldResult
  cases registry.generators.find? (·.supports field.shape) with
  | none => exact .unresolved
  | some generator =>
    dsimp only [Option.map_some]
    cases generator.focusOf? field.shape with
    | none => exact .unfocused
    | some focus =>
      dsimp only
      cases written : generator.synthesize field aggregate ⟨aggregate.runtime, focus⟩ with
      | error diagnostic => exact .refused written
      | ok body =>
        dsimp only [Except.map]
        cases clash : nameClash aggregate field kept
            (definitionOf generator aggregate field focus body) with
        | none => exact .defined written
        | some diagnostic =>
          obtain ⟨earlier, found, rfl⟩ := Option.map_eq_some_iff.mp clash
          have taken := List.find?_some found
          exact .clashing written (beq_iff_eq.mp taken)

theorem mem_of_choice {shape : TypeExpression} {generator : Generator}
    {focus : Option TypeExpression} (chosen : registry.choice shape = some (generator, focus)) :
    generator ∈ registry.generators := by
  obtain ⟨found, search, same⟩ := Option.map_eq_some_iff.mp chosen
  cases same
  exact List.mem_of_find?_eq_some search

/-- A diagnostic that a field is entered as says that no generator supports the field's type, or
it is an error on the field. -/
theorem Entered.cause (locating : registry.LocatesFailures) {diagnostic : Diagnostic}
    (entered : Entered aggregate field (registry.choice field.shape) (.error diagnostic)) :
    (registry.choice field.shape = none ∧ diagnostic = unsupported aggregate field) ∨
      (diagnostic.ErrorOn aggregate field ∧ (registry.ReportsOwnFailures →
        diagnostic.problem.isUnsupported = false ∧ diagnostic.problem.isNothing = false)) := by
  generalize chosen : registry.choice field.shape = choice at entered
  cases entered with
  | unresolved => exact .inl ⟨rfl, rfl⟩
  | unfocused => exact .inr ⟨Problem.errorOn_located _ _ _, fun _ => ⟨rfl, rfl⟩⟩
  | refused failed =>
    exact .inr ⟨locating _ (mem_of_choice chosen) _ _ _ ⟨_, failed⟩,
      fun own => own _ (mem_of_choice chosen) _ _ _ ⟨_, failed⟩⟩
  | clashing => exact .inr ⟨Problem.errorOn_located _ _ _, fun _ => ⟨rfl, rfl⟩⟩

theorem Entered.isAbout (locating : registry.LocatesFailures) {entry : Entry}
    (entered : Entered aggregate field (registry.choice field.shape) entry) :
    entry.IsAbout aggregate field := by
  cases entry with
  | error diagnostic =>
    rcases entered.cause locating with ⟨-, rfl⟩ | ⟨located, -⟩
    · exact ⟨rfl, rfl⟩
    · exact ⟨located.aggregate, located.field⟩
  | ok definition =>
    generalize registry.choice field.shape = choice at entered
    cases entered with
    | defined => exact ⟨rfl, rfl⟩

/-! ### Lists of entries -/

variable {kept : List Definition} {fields : List Field}

/-- What is true of each field and its entry, whatever was kept before, is true of them all, one
after the other. -/
theorem forall₂_entriesAfter {Holds : Field → Entry → Prop}
    (each : ∀ kept field, Holds field (registry.entryAfter aggregate kept field)) :
    List.Forall₂ Holds fields (registry.entriesAfter aggregate kept fields) := by
  induction fields generalizing kept with
  | nil => exact .nil
  | cons field rest inductionHypothesis => exact .cons (each kept field) inductionHypothesis

theorem length_entriesAfter :
    (registry.entriesAfter aggregate kept fields).length = fields.length := by
  induction fields generalizing kept with
  | nil => rfl
  | cons field rest inductionHypothesis => exact congrArg (· + 1) inductionHypothesis

/-- A field that is entered as a diagnostic leaves no trace in the entries of the others. -/
theorem eraseIdx_entriesAfter {before after : List Field} {failing : Field}
    {diagnostic : Diagnostic}
    (failed : (registry.entriesAfter aggregate kept (before ++ failing :: after))[before.length]? =
      some (.error diagnostic)) :
    (registry.entriesAfter aggregate kept (before ++ failing :: after)).eraseIdx before.length =
      registry.entriesAfter aggregate kept (before ++ after) := by
  induction before generalizing kept with
  | nil =>
    have entered : registry.entryAfter aggregate kept failing = .error diagnostic :=
      Option.some.inj failed
    show registry.entriesAfter aggregate
      (kept ++ (registry.entryAfter aggregate kept failing).definition?.toList) after = _
    rw [entered]
    exact congrArg (registry.entriesAfter aggregate · after) (List.append_nil kept)
  | cons field rest inductionHypothesis => exact congrArg _ (inductionHypothesis failed)

/-- The entries are told apart without loss. -/
theorem length_definitions_add_length_diagnostics (entries : List Entry) :
    (entries.filterMap Entry.definition?).length + (entries.filterMap Entry.diagnostic?).length =
      entries.length := by
  induction entries with
  | nil => rfl
  | cons entry rest inductionHypothesis =>
    cases entry <;>
      simp only [List.filterMap_cons, Entry.definition?, Entry.diagnostic?, List.length_cons] <;>
      omega

/-! ### Causes of diagnostics -/

/-- Why an aggregate has a diagnostic. -/
inductive Cause (registry : Registry) (aggregate : Aggregate) : Diagnostic → Prop
  /-- No generator supports the type of a candidate. -/
  | unresolved {field : Field} (candidate : field ∈ aggregate.candidates)
      (none : registry.choice field.shape = none) :
      Cause registry aggregate (unsupported aggregate field)
  /-- There is another error on a candidate. -/
  | failed {field : Field} {diagnostic : Diagnostic} (candidate : field ∈ aggregate.candidates)
      (located : diagnostic.ErrorOn aggregate field)
      (own : registry.ReportsOwnFailures →
        diagnostic.problem.isUnsupported = false ∧ diagnostic.problem.isNothing = false) :
      Cause registry aggregate diagnostic
  /-- There is no definition. -/
  | nothing : Cause registry aggregate (nothingGenerated aggregate)

theorem cause_of_mem_entries (locating : registry.LocatesFailures) {diagnostic : Diagnostic}
    (member : diagnostic ∈ (registry.entries aggregate).filterMap Entry.diagnostic?) :
    diagnostic.field.isSome ∧ (registry.ReportsOwnFailures → diagnostic.problem.isNothing = false) ∧
      Cause registry aggregate diagnostic := by
  obtain ⟨entry, among, found⟩ := List.mem_filterMap.mp member
  obtain ⟨field, candidate, kept, same⟩ := mem_entriesAfter among
  have entered := registry.entered_entryAfter aggregate kept field
  rw [← same, Entry.eq_error_of_diagnostic? found] at entered
  rcases entered.cause locating with ⟨none, rfl⟩ | ⟨located, own⟩
  · exact ⟨rfl, fun _ => rfl, .unresolved candidate none⟩
  · exact ⟨by rw [located.field]; rfl, fun kinds => (own kinds).2, .failed candidate located own⟩

/-! ### Severities -/

theorem severity_unsupported (aggregate : Aggregate) (field : Field) :
    (unsupported aggregate field).severity =
      match aggregate.selection with
      | .explicit => .error
      | .auto => .note := rfl

theorem severity_unsupported_eq_note_iff {field : Field} :
    (unsupported aggregate field).severity = .note ↔ aggregate.selection = .auto := by
  rw [severity_unsupported]
  cases aggregate.selection <;> simp

namespace Cause

variable {diagnostic : Diagnostic} (cause : Cause registry aggregate diagnostic)

include cause

theorem note_iff :
    diagnostic.severity = .note ↔
      aggregate.selection = .auto ∧ ∃ field ∈ aggregate.candidates,
        registry.choice field.shape = none ∧ diagnostic = unsupported aggregate field := by
  constructor
  · intro note
    cases cause with
    | unresolved candidate none =>
      exact ⟨severity_unsupported_eq_note_iff.mp note, _, candidate, none, rfl⟩
    | failed _ located =>
      rw [located.severity] at note
      cases note
    | nothing => cases note
  · rintro ⟨auto, field, -, -, rfl⟩
    exact severity_unsupported_eq_note_iff.mpr auto

theorem warning_iff : diagnostic.severity = .warning ↔ diagnostic = nothingGenerated aggregate := by
  constructor
  · intro warning
    cases cause with
    | unresolved =>
      rw [severity_unsupported] at warning
      split at warning <;> cases warning
    | failed _ located =>
      rw [located.severity] at warning
      cases warning
    | nothing => rfl
  · rintro rfl
    rfl

/-- Where generators report failures of their own only, the severity follows from the problem. -/
theorem severity_eq (own : registry.ReportsOwnFailures) :
    diagnostic.severity =
      if diagnostic.problem.isUnsupported ∧ aggregate.selection = .auto then .note
      else if diagnostic.problem.isNothing then .warning
      else .error := by
  cases cause with
  | unresolved =>
    rw [severity_unsupported]
    cases aggregate.selection <;> rfl
  | failed _ located kinds =>
    obtain ⟨noShape, noTraversal⟩ := kinds own
    simp [located.severity, noShape, noTraversal]
  | nothing => rfl

end Cause

/-! ### Accounts -/

/-- What an outcome says of the candidates of its aggregate. -/
structure Account (registry : Registry) (aggregate : Aggregate) (outcome : Outcome) : Prop where
  /-- Each candidate, in declared order, has one entry, which is about it and is decided by what
  is chosen for its type. -/
  entered : List.Forall₂ (fun field entry => entry.IsAbout aggregate field ∧
    Entered aggregate field (registry.choice field.shape) entry)
      aggregate.candidates (registry.entries aggregate)
  definitions : outcome.definitions = (registry.entries aggregate).filterMap Entry.definition?
  diagnostics : outcome.diagnostics = (registry.entries aggregate).filterMap Entry.diagnostic? ++
    if outcome.definitions.isEmpty then [nothingGenerated aggregate] else []
  count : outcome.definitions.length + outcome.diagnostics.length =
    aggregate.candidates.length + if outcome.definitions.isEmpty then 1 else 0
  /-- That there is no definition is the only thing that is said of no field. -/
  nameless : outcome.diagnostics.filter (·.field.isNone) =
    if outcome.definitions.isEmpty then [nothingGenerated aggregate] else []
  note : ∀ diagnostic ∈ outcome.diagnostics, diagnostic.severity = .note ↔
    aggregate.selection = .auto ∧ ∃ field ∈ aggregate.candidates,
      registry.choice field.shape = none ∧ diagnostic = unsupported aggregate field
  warning : ∀ diagnostic ∈ outcome.diagnostics, diagnostic.severity = .warning ↔
    diagnostic = nothingGenerated aggregate

/-- What the problems of an outcome's diagnostics say of its definitions and of severities. -/
structure Graded (aggregate : Aggregate) (outcome : Outcome) : Prop where
  nothing : outcome.diagnostics.filter (·.problem.isNothing) =
    if outcome.definitions.isEmpty then [nothingGenerated aggregate] else []
  severity : ∀ diagnostic ∈ outcome.diagnostics, diagnostic.severity =
    if diagnostic.problem.isUnsupported ∧ aggregate.selection = .auto then .note
    else if diagnostic.problem.isNothing then .warning
    else .error

/-- What is chosen for a type is what the registry resolves for it. -/
theorem choice_map_fst (registry : Registry) (shape : TypeExpression) (listener : Level) :
    (registry.choice shape).map (·.1) = (registry.resolve shape).result listener := by
  rw [resolve_result, choice, Option.map_map]
  exact Option.map_id'

/-- A test that only the diagnostic for no definition passes finds it exactly if there is no
definition. -/
theorem filter_diagnostics_eq {entered : List Diagnostic} {definitions : List Definition}
    {test : Diagnostic → Bool} (others : ∀ diagnostic ∈ entered, test diagnostic = false)
    (passes : test (nothingGenerated aggregate) = true) :
    (entered ++ if definitions.isEmpty then [nothingGenerated aggregate] else []).filter test =
      if definitions.isEmpty then [nothingGenerated aggregate] else [] := by
  have none : entered.filter test = [] :=
    List.filter_eq_nil_iff.mpr fun diagnostic member => by simp [others diagnostic member]
  rw [List.filter_append, none, List.nil_append]
  split
  · exact List.filter_cons_of_pos passes
  · rfl

theorem cause_of_mem_synthesize (locating : registry.LocatesFailures) {diagnostic : Diagnostic}
    (member : diagnostic ∈ ((registry.synthesize aggregate).result listener).diagnostics) :
    Cause registry aggregate diagnostic := by
  rw [synthesize_eq_entries] at member
  rcases List.mem_append.mp member with entered | last
  · exact (cause_of_mem_entries locating entered).2.2
  · split at last
    · rw [List.mem_singleton.mp last]
      exact .nothing
    · cases last

theorem length_synthesize (registry : Registry) (aggregate : Aggregate) (listener : Level) :
    ((registry.synthesize aggregate).result listener).definitions.length +
        ((registry.synthesize aggregate).result listener).diagnostics.length =
      aggregate.candidates.length +
        if ((registry.synthesize aggregate).result listener).definitions.isEmpty then 1 else 0 := by
  have candidates : (registry.entries aggregate).length = aggregate.candidates.length :=
    length_entriesAfter
  rw [synthesize_eq_entries, ← candidates, ← length_definitions_add_length_diagnostics,
    List.length_append, apply_ite List.length, List.length_singleton, List.length_nil,
    Nat.add_assoc]

theorem account_synthesize (locating : registry.LocatesFailures) (aggregate : Aggregate)
    (listener : Level) :
    Account registry aggregate ((registry.synthesize aggregate).result listener) where
  entered := forall₂_entriesAfter fun kept field =>
    have entered := registry.entered_entryAfter aggregate kept field
    ⟨entered.isAbout locating, entered⟩
  definitions := by rw [synthesize_eq_entries]
  diagnostics := by rw [synthesize_eq_entries]
  count := length_synthesize registry aggregate listener
  nameless := by
    rw [synthesize_eq_entries]
    exact filter_diagnostics_eq
      (fun diagnostic member => by simp [(cause_of_mem_entries locating member).1]) rfl
  note _ member := (cause_of_mem_synthesize locating member).note_iff
  warning _ member := (cause_of_mem_synthesize locating member).warning_iff

theorem graded_synthesize (locating : registry.LocatesFailures)
    (own : registry.ReportsOwnFailures) (aggregate : Aggregate) (listener : Level) :
    Graded aggregate ((registry.synthesize aggregate).result listener) where
  nothing := by
    rw [synthesize_eq_entries]
    exact filter_diagnostics_eq (fun _ member => (cause_of_mem_entries locating member).2.1 own) rfl
  severity _ member := (cause_of_mem_synthesize locating member).severity_eq own

/-- Synthesis accounts for every candidate of an aggregate, if the generators report failures as
errors on the field. The candidates have one entry each, in declared order: a definition of the
traversal over the candidate, or a diagnostic that names it. The outcome holds these entries and
nothing else, but that an aggregate without a definition is said to have none: once, at the end,
as a warning that names no field. A note says that no generator supports the type of a candidate
that was not asked for. If generators only report failures of their own, the severities follow
from the problems. And what becomes of a candidate does not depend on others that fail: what is
chosen for it is what the registry resolves for its type, and without a candidate that fails the
others have the entries that they have with it. -/
theorem accounts_for_every_candidate {registry : Registry} (locating : registry.LocatesFailures)
    (aggregate : Aggregate) (listener : Level) :
    Account registry aggregate ((registry.synthesize aggregate).result listener) ∧
    (registry.ReportsOwnFailures →
      Graded aggregate ((registry.synthesize aggregate).result listener)) ∧
    (∀ shape, (registry.choice shape).map (·.1) = (registry.resolve shape).result listener) ∧
    ∀ before failing after diagnostic, aggregate.candidates = before ++ failing :: after →
      (registry.entries aggregate)[before.length]? = some (.error diagnostic) →
        (registry.synthesizeFields aggregate (before ++ after) ([], [])).result listener =
          (((registry.entries aggregate).eraseIdx before.length).filterMap Entry.definition?,
            ((registry.entries aggregate).eraseIdx before.length).filterMap Entry.diagnostic?) := by
  refine ⟨account_synthesize locating aggregate listener,
    fun own => graded_synthesize locating own aggregate listener,
    fun shape => registry.choice_map_fst shape listener, ?_⟩
  intro before failing after diagnostic candidates failed
  rw [entries, candidates] at failed ⊢
  rw [eraseIdx_entriesAfter failed, synthesizeFields_result, foldl_account_eq]
  rfl

end Registry

/-! ### A structure with fields of all kinds -/

namespace Shelf

/-- A type with arguments. -/
def applied (name : String) (arguments : List WrittenType) : WrittenType :=
  .path false [.mk (.plain name) (.angled false (arguments.map .type) false)]

/-- A type without arguments. -/
def named (name : String) : WrittenType := .path false [.mk (.plain name) .none]

/-- A field with a name. -/
def field (name : String) (written : WrittenType) : Field := .ofType (.named (.plain name)) written

/-- A shelf has a number, which is no container, a lender whose type lacks an argument, cells
whose number does not stay in one piece in a body, and three lists, of which two have names that
do not differ in the name of a type. -/
def aggregate : Aggregate where
  name := .plain "Shelf"
  extent := none
  visibility := []
  generics := default
  style := .named
  fields := [
    field "number" (named "u64"),
    field "books" (applied "Vec" [named "String"]),
    field "lender" (applied "Either" [named "String"]),
    field "cells" (.array (named "u8")
      [.braced [.literal "1"], .mark '+' false, .literal "1"]),
    field "old_books" (applied "Vec" [named "String"]),
    field "old__books" (applied "Vec" [named "String"])]
  selection := .auto
  runtime := .ofNames true ["undertow"]

end Shelf

namespace Registry

/-- All candidates of a shelf are accounted for, two by definitions. -/
theorem accounts_for_every_candidate_shelf :
    builtin.LocatesFailures ∧ builtin.ReportsOwnFailures ∧
      Account builtin Shelf.aggregate ((builtin.synthesize Shelf.aggregate).result .info) ∧
      Graded Shelf.aggregate ((builtin.synthesize Shelf.aggregate).result .info) ∧
      (builtin.entries Shelf.aggregate).map (fun entry => entry.diagnostic?.map (·.severity)) =
        [some .note, none, some .error, some .error, none, some .error] := by
  obtain ⟨account, graded, -⟩ :=
    accounts_for_every_candidate builtin_locatesFailures Shelf.aggregate .info
  exact ⟨builtin_locatesFailures, builtin_reportsOwnFailures, account,
    graded builtin_reportsOwnFailures, by decide +kernel⟩

end Registry

end Fieldwise
