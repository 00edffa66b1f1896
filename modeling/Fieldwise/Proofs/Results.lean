/-
This file says what synthesis gives, whatever is listened to. The result for a field is found
in three steps: the first generator that supports its type, the focus that the generator
traverses, and the body that it writes. Each candidate of an aggregate is entered as its result,
or as a clash where the name of its type is taken. The result for the aggregate is its entries,
told apart into definitions and diagnostics, with one diagnostic more where there is no
definition.
-/

import Fieldwise.Expansion

namespace Fieldwise

/-! ### Work that reports events -/

namespace Logged

variable {Result Next : Type}

@[simp] theorem result_pure (result : Result) (listener : Level) :
    (pure result : Logged Result).result listener = result := rfl

@[simp] theorem result_bind (work : Logged Result) (next : Result → Logged Next)
    (listener : Level) :
    (work >>= next).result listener = (next (work.result listener)).result listener := rfl

end Logged

/-! ### Entries -/

/-- What a candidate is entered as: the definition of its traversal, or a diagnostic. -/
abbrev Entry := Except Diagnostic Definition

namespace Entry

/-- The definition, if the entry is one. -/
def definition? : Entry → Option Definition
  | .ok definition => some definition
  | .error _ => none

/-- The diagnostic, if the entry is one. -/
def diagnostic? : Entry → Option Diagnostic
  | .ok _ => none
  | .error diagnostic => some diagnostic

theorem eq_ok_of_definition? {entry : Entry} {definition : Definition}
    (found : entry.definition? = some definition) : entry = .ok definition := by
  cases entry with
  | ok other => exact congrArg _ (Option.some.inj found)
  | error _ => cases found

theorem eq_error_of_diagnostic? {entry : Entry} {diagnostic : Diagnostic}
    (found : entry.diagnostic? = some diagnostic) : entry = .error diagnostic := by
  cases entry with
  | ok _ => cases found
  | error other => exact congrArg _ (Option.some.inj found)

end Entry

namespace Registry

variable {registry : Registry} {aggregate : Aggregate} {field : Field} {listener : Level}

/-! ### Fields -/

/-- The generator for a type is the first that supports it. -/
theorem resolve_result (registry : Registry) (shape : TypeExpression) (listener : Level) :
    (registry.resolve shape).result listener =
      registry.generators.find? (·.supports shape) := by
  rw [← List.head?_filter, ← candidates, resolve]
  cases registry.candidates shape with
  | nil => rfl
  | cons chosen shadowed => cases shadowed <;> rfl

/-- The definition of the traversal that a body is for. -/
def definitionOf (generator : Generator) (aggregate : Aggregate) (field : Field)
    (focus : TypeExpression) (body : Fragment) : Definition where
  target := aggregate.name
  field := field.name
  generator := generator.name
  multiplicity := generator.multiplicity
  focus
  typeParameters := [Context.effect, Context.functionType]
  structureName := Definition.structureNameFor aggregate.name field.name
  accessor := Definition.accessorFor field.name
  body

/-- The traversal over a field, or why there is none. -/
def fieldResult (registry : Registry) (aggregate : Aggregate) (field : Field) :
    Except Diagnostic Definition :=
  match registry.generators.find? (·.supports field.shape) with
  | none => .error (unsupported aggregate field)
  | some generator =>
    match generator.focusOf? field.shape with
    | none => .error (missingFocus generator aggregate field)
    | some focus =>
      (generator.synthesize field aggregate ⟨aggregate.runtime, focus⟩).map
        (definitionOf generator aggregate field focus)

theorem synthesizeField_result (registry : Registry) (aggregate : Aggregate) (field : Field)
    (listener : Level) :
    (registry.synthesizeField aggregate field).result listener =
      registry.fieldResult aggregate field := by
  rw [synthesizeField, Logged.result_bind, resolve_result, fieldResult]
  cases registry.generators.find? (·.supports field.shape) with
  | none => rfl
  | some generator =>
    dsimp only
    rw [Logged.result_bind, synthesizeWith]
    cases generator.focusOf? field.shape with
    | none => rfl
    | some focus =>
      dsimp only
      cases generator.synthesize field aggregate ⟨aggregate.runtime, focus⟩ <;> rfl

/-- There is a traversal over a field exactly where the first generator that supports the field's
type finds its focus and writes a body. -/
theorem fieldResult_eq_ok_iff {definition : Definition} :
    registry.fieldResult aggregate field = .ok definition ↔
      ∃ generator focus body, registry.generators.find? (·.supports field.shape) = some generator ∧
        generator.focusOf? field.shape = some focus ∧
          generator.synthesize field aggregate ⟨aggregate.runtime, focus⟩ = .ok body ∧
            definition = definitionOf generator aggregate field focus body := by
  unfold fieldResult
  constructor
  · intro defined
    split at defined
    · cases defined
    rename_i generator found
    split at defined
    · cases defined
    rename_i focus focused
    cases written : generator.synthesize field aggregate ⟨aggregate.runtime, focus⟩ with
    | error diagnostic =>
      rw [written] at defined
      cases defined
    | ok body =>
      rw [written] at defined
      cases defined
      exact ⟨generator, focus, body, found, focused, written, rfl⟩
  · rintro ⟨generator, focus, body, found, focused, written, rfl⟩
    rw [found]
    dsimp only
    rw [focused]
    dsimp only
    rw [written]
    rfl

/-- A definition comes from a generator of the registry that supports the field's type. -/
theorem exists_of_fieldResult_eq_ok {definition : Definition}
    (defined : registry.fieldResult aggregate field = .ok definition) :
    ∃ generator ∈ registry.generators, generator.supports field.shape = true ∧
      ∃ focus body, generator.focusOf? field.shape = some focus ∧
        generator.synthesize field aggregate ⟨aggregate.runtime, focus⟩ = .ok body ∧
          definition = definitionOf generator aggregate field focus body := by
  obtain ⟨generator, focus, body, found, rest⟩ := fieldResult_eq_ok_iff.mp defined
  have supports : generator.supports field.shape = true := by simpa using List.find?_some found
  exact ⟨generator, List.mem_of_find?_eq_some found, supports, focus, body, rest⟩

/-! ### Aggregates -/

theorem synthesizeFields_result (registry : Registry) (aggregate : Aggregate)
    (fields : List Field) (before : List Definition × List Diagnostic) (listener : Level) :
    (registry.synthesizeFields aggregate fields before).result listener =
      fields.foldl (fun before field =>
        account aggregate field before (registry.fieldResult aggregate field)) before := by
  induction fields generalizing before with
  | nil => rfl
  | cons field rest inductionHypothesis =>
    rw [synthesizeFields, Logged.result_bind, synthesizeField_result, inductionHypothesis]
    rfl

/-! ### Accounts -/

/-- The entry of a field after definitions that were kept: its result, unless that is a
definition and one of those before has the name of its type. -/
def entryAfter (registry : Registry) (aggregate : Aggregate) (kept : List Definition)
    (field : Field) : Entry :=
  match registry.fieldResult aggregate field with
  | .error diagnostic => .error diagnostic
  | .ok definition =>
    match nameClash aggregate field kept definition with
    | some clash => .error clash
    | none => .ok definition

/-- The entries of fields, one after the other, after definitions that were kept. -/
def entriesAfter (registry : Registry) (aggregate : Aggregate) :
    List Definition → List Field → List Entry
  | _, [] => []
  | kept, field :: rest =>
    registry.entryAfter aggregate kept field ::
      registry.entriesAfter aggregate
        (kept ++ (registry.entryAfter aggregate kept field).definition?.toList) rest

/-- The entries of the candidates of an aggregate. -/
def entries (registry : Registry) (aggregate : Aggregate) : List Entry :=
  registry.entriesAfter aggregate [] aggregate.candidates

variable {kept : List Definition} {fields : List Field}

theorem entryAfter_eq_ok {definition : Definition}
    (entered : registry.entryAfter aggregate kept field = .ok definition) :
    registry.fieldResult aggregate field = .ok definition ∧
      nameClash aggregate field kept definition = none := by
  unfold entryAfter at entered
  split at entered
  · cases entered
  · rename_i defined
    split at entered <;> cases entered
    exact ⟨defined, by assumption⟩

theorem entryAfter_eq_error {diagnostic : Diagnostic}
    (entered : registry.entryAfter aggregate kept field = .error diagnostic) :
    registry.fieldResult aggregate field = .error diagnostic ∨
      ∃ definition, registry.fieldResult aggregate field = .ok definition ∧
        nameClash aggregate field kept definition = some diagnostic := by
  unfold entryAfter at entered
  split at entered
  · rename_i failed
    cases entered
    exact .inl failed
  · rename_i definition defined
    split at entered <;> cases entered
    exact .inr ⟨definition, defined, by assumption⟩

/-- Every entry is that of one of the fields, after some definitions. -/
theorem mem_entriesAfter {entry : Entry}
    (member : entry ∈ registry.entriesAfter aggregate kept fields) :
    ∃ field ∈ fields, ∃ before, entry = registry.entryAfter aggregate before field := by
  induction fields generalizing kept with
  | nil => exact absurd member List.not_mem_nil
  | cons field rest inductionHypothesis =>
    rcases List.mem_cons.mp member with rfl | later
    · exact ⟨field, List.mem_cons_self, kept, rfl⟩
    · obtain ⟨other, among, before, same⟩ := inductionHypothesis later
      exact ⟨other, List.mem_cons_of_mem field among, before, same⟩

/-- What a field adds to the definitions and the diagnostics before it is its entry. -/
theorem account_eq (registry : Registry) (aggregate : Aggregate) (field : Field)
    (before : List Definition × List Diagnostic) :
    account aggregate field before (registry.fieldResult aggregate field) =
      (before.1 ++ (registry.entryAfter aggregate before.1 field).definition?.toList,
        before.2 ++ (registry.entryAfter aggregate before.1 field).diagnostic?.toList) := by
  unfold entryAfter
  cases registry.fieldResult aggregate field with
  | error diagnostic =>
    show (before.1, before.2 ++ [diagnostic]) = (before.1 ++ [], before.2 ++ [diagnostic])
    rw [List.append_nil]
  | ok definition =>
    dsimp only [account]
    cases nameClash aggregate field before.1 definition with
    | some clash =>
      show (before.1, before.2 ++ [clash]) = (before.1 ++ [], before.2 ++ [clash])
      rw [List.append_nil]
    | none =>
      show (before.1 ++ [definition], before.2) = (before.1 ++ [definition], before.2 ++ [])
      rw [List.append_nil]

theorem foldl_account_eq (registry : Registry) (aggregate : Aggregate) (fields : List Field)
    (before : List Definition × List Diagnostic) :
    fields.foldl (fun before field =>
        account aggregate field before (registry.fieldResult aggregate field)) before =
      (before.1 ++ (registry.entriesAfter aggregate before.1 fields).filterMap Entry.definition?,
        before.2 ++
          (registry.entriesAfter aggregate before.1 fields).filterMap Entry.diagnostic?) := by
  induction fields generalizing before with
  | nil => simp only [List.foldl_nil, entriesAfter, List.filterMap_nil, List.append_nil]
  | cons field rest inductionHypothesis =>
    rw [List.foldl_cons, account_eq, inductionHypothesis, entriesAfter]
    cases registry.entryAfter aggregate before.1 field <;>
      simp only [Entry.definition?, Entry.diagnostic?, Option.toList_none, Option.toList_some,
        List.append_nil, List.append_assoc, List.singleton_append, List.filterMap_cons]

/-- What is found for the candidates of an aggregate, one after the other. -/
def tally (registry : Registry) (aggregate : Aggregate) : List Definition × List Diagnostic :=
  aggregate.candidates.foldl
    (fun before field => account aggregate field before (registry.fieldResult aggregate field))
    ([], [])

/-- The definitions and the diagnostics that are found are the entries told apart. -/
theorem tally_eq (registry : Registry) (aggregate : Aggregate) :
    registry.tally aggregate =
      ((registry.entries aggregate).filterMap Entry.definition?,
        (registry.entries aggregate).filterMap Entry.diagnostic?) :=
  foldl_account_eq registry aggregate aggregate.candidates ([], [])

/-- The outcome of an aggregate is the tally of its candidates, with one diagnostic more if there
is no definition. -/
theorem synthesize_result (registry : Registry) (aggregate : Aggregate) (listener : Level) :
    (registry.synthesize aggregate).result listener =
      ⟨aggregate.name, (registry.tally aggregate).1,
        if (registry.tally aggregate).1.isEmpty then
          (registry.tally aggregate).2 ++ [nothingGenerated aggregate]
        else (registry.tally aggregate).2⟩ := by
  rw [synthesize, Logged.result_bind, synthesizeFields_result]
  rfl

/-- The outcome of an aggregate is made of the entries of its candidates. -/
theorem synthesize_eq_entries (registry : Registry) (aggregate : Aggregate) (listener : Level) :
    (registry.synthesize aggregate).result listener =
      ⟨aggregate.name, (registry.entries aggregate).filterMap Entry.definition?,
        (registry.entries aggregate).filterMap Entry.diagnostic? ++
          if ((registry.entries aggregate).filterMap Entry.definition?).isEmpty then
            [nothingGenerated aggregate]
          else []⟩ := by
  rw [synthesize_result, tally_eq]
  split <;> simp only [List.append_nil]

/-- What is accounted for is a definition of a candidate, or a diagnostic of one. -/
structure Accounted (registry : Registry) (aggregate : Aggregate)
    (found : List Definition × List Diagnostic) : Prop where
  definitions : ∀ definition ∈ found.1, ∃ field ∈ aggregate.candidates,
    registry.fieldResult aggregate field = .ok definition
  diagnostics : ∀ diagnostic ∈ found.2, ∃ field ∈ aggregate.candidates,
    registry.fieldResult aggregate field = .error diagnostic ∨
      ∃ definition taken, registry.fieldResult aggregate field = .ok definition ∧
        nameClash aggregate field taken definition = some diagnostic

theorem accounted_tally (registry : Registry) (aggregate : Aggregate) :
    registry.Accounted aggregate (registry.tally aggregate) := by
  rw [tally_eq]
  constructor
  · intro definition member
    obtain ⟨entry, entryMember, found⟩ := List.mem_filterMap.mp member
    obtain ⟨field, candidate, kept, rfl⟩ := mem_entriesAfter entryMember
    exact ⟨field, candidate, (entryAfter_eq_ok (Entry.eq_ok_of_definition? found)).1⟩
  · intro diagnostic member
    obtain ⟨entry, entryMember, found⟩ := List.mem_filterMap.mp member
    obtain ⟨field, candidate, kept, rfl⟩ := mem_entriesAfter entryMember
    refine ⟨field, candidate, ?_⟩
    rcases entryAfter_eq_error (Entry.eq_error_of_diagnostic? found) with
      failed | ⟨definition, defined, clash⟩
    · exact .inl failed
    · exact .inr ⟨definition, kept, defined, clash⟩

/-! ### Declarations -/

/-- The items of a declaration that is expanded are those of all definitions found. -/
theorem exists_of_expand_eq_items {written : WrittenDeclaration} {items : Tokens}
    (expanded : (registry.expand written).result listener = .items items) :
    ∃ aggregate, Aggregate.ofWritten written = .ok aggregate ∧
      items = emit aggregate (registry.tally aggregate).1 := by
  unfold expand at expanded
  split at expanded
  · cases expanded
  · rename_i aggregate scanned
    refine ⟨aggregate, scanned, ?_⟩
    rw [Logged.result_bind, Logged.result_bind, synthesize_result] at expanded
    split at expanded
    · cases expanded
    · exact (Expansion.items.inj expanded).symm

end Registry

end Fieldwise
