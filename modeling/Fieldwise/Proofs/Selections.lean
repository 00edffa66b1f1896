/-
This file proves that the two ways of picking fields come to the same. In a declaration in which
no field has flags, some fields can be asked for, or all others can be skipped. The aggregates
that are scanned then differ in flags and in how fields are picked, but they have the same
candidates; so they have the same traversals and the same diagnostics, except that a type that no
generator supports is an error where the field was asked for, and else a note.
-/

import Fieldwise.Proofs.Flags

namespace Fieldwise

/-! ### Marks on fields -/

/-- The attribute that steers with a word. -/
def Attribute.steering (word : String) : Attribute :=
  ⟨.ofNames false ["undertow"], .list [.plain word]⟩

/-- Attributes that give a field its flags. -/
def FieldFlags.attributes (flags : FieldFlags) : List Attribute :=
  if flags.skip then [.steering "skip"] else if flags.traverse then [.steering "traverse"] else []

/-- A field with more attributes, those that give it flags. -/
def WrittenField.marked (flags : FieldFlags) (field : WrittenField) : WrittenField :=
  { field with attributes := field.attributes ++ flags.attributes }

namespace WrittenDeclaration

/-- The fields of a declaration; only structures have fields. -/
def fields (written : WrittenDeclaration) : List WrittenField :=
  match written.body with
  | .structure _ fields => fields
  | _ => []

theorem fields_eq {written : WrittenDeclaration} {style : FieldStyle} {fields : List WrittenField}
    (structured : written.body = .structure style fields) : written.fields = fields := by
  rw [WrittenDeclaration.fields.eq_def, structured]

/-- A declaration with a field is that of a structure. -/
theorem exists_body_eq {written : WrittenDeclaration} {index : Nat}
    (bound : index < written.fields.length) :
    ∃ style fields, written.body = .structure style fields := by
  unfold fields at bound
  split at bound
  · exact ⟨_, _, by assumption⟩
  · cases bound

/-- No attribute of a field steers traversals. -/
def Unsteered (written : WrittenDeclaration) : Prop :=
  ∀ field ∈ written.fields, ∀ given ∈ field.attributes, given.isSteering = false

instance (written : WrittenDeclaration) : Decidable written.Unsteered :=
  inferInstanceAs (Decidable (∀ field ∈ written.fields, ∀ given ∈ field.attributes, _))

/-- The declaration with attributes that give each field the flags for its place. -/
def marked (flags : Nat → FieldFlags) (written : WrittenDeclaration) : WrittenDeclaration :=
  { written with
    body :=
      match written.body with
      | .structure style fields =>
        .structure style (fields.zipIdx.map fun (field, index) => field.marked (flags index))
      | other => other }

end WrittenDeclaration

/-- The chosen fields are asked for. -/
def FieldFlags.asking (chosen : Nat → Bool) (index : Nat) : FieldFlags := ⟨false, chosen index⟩

/-- The fields that are not chosen are skipped. -/
def FieldFlags.sparing (chosen : Nat → Bool) (index : Nat) : FieldFlags := ⟨!chosen index, false⟩

/-! ### Scanning -/

theorem fieldFlagsOf_append {attributes : List Attribute}
    (unsteered : ∀ given ∈ attributes, given.isSteering = false)
    (others : List Attribute) : fieldFlagsOf (attributes ++ others) = fieldFlagsOf others := by
  have none : attributes.filter (·.isSteering) = [] :=
    List.filter_eq_nil_iff.mpr fun given member => by simp [unsteered given member]
  unfold fieldFlagsOf Attribute.foldItems
  rw [List.filter_append, none, List.nil_append]

/-- Flags that do not exclude each other are read back from their attributes. -/
theorem fieldFlagsOf_attributes {flags : FieldFlags}
    (consistent : ¬(flags.skip = true ∧ flags.traverse = true)) :
    fieldFlagsOf flags.attributes = .ok flags := by
  obtain ⟨skip, traverse⟩ := flags
  cases skip <;> cases traverse
  · rfl
  · rfl
  · rfl
  · exact absurd ⟨rfl, rfl⟩ consistent

namespace Aggregate

/-- A field as it is scanned at a place, with the flags that its attributes give. -/
def scannedField (index : Nat) (field : WrittenField) (flags : FieldFlags) : Field where
  name := (field.name.map FieldName.named).getD (.position index)
  shape := .ofWritten field.type
  written := field.type
  skip := flags.skip
  targeted := flags.traverse
  extent := some field.extent

/-- The fields of a structure as they are scanned, each with flags for its place. -/
def scannedFields (flags : Nat → FieldFlags) (start : Nat) (fields : List WrittenField) :
    List Field :=
  (fields.zipIdx start).map fun (field, index) => scannedField index field (flags index)

variable {flags : Nat → FieldFlags} {fields : List WrittenField}

theorem scanFields_marked
    (consistent : ∀ index, ¬((flags index).skip = true ∧ (flags index).traverse = true))
    (unsteered : ∀ field ∈ fields, ∀ given ∈ field.attributes, given.isSteering = false)
    (start : Nat) :
    scanFields start ((fields.zipIdx start).map fun (field, index) =>
      field.marked (flags index)) = .ok (scannedFields flags start fields) := by
  induction fields generalizing start with
  | nil => rfl
  | cons field rest inductionHypothesis =>
    rw [List.forall_mem_cons] at unsteered
    have read : scanField start (field.marked (flags start)) =
        .ok (scannedField start field (flags start)) := by
      rw [scanField, WrittenField.marked, fieldFlagsOf_append unsteered.1,
        fieldFlagsOf_attributes (consistent start)]
      rfl
    rw [List.zipIdx_cons, List.map_cons, scanFields, read, inductionHypothesis unsteered.2]
    rfl

/-- The aggregate that a structure declares, with a runtime and with scanned fields. -/
def ofFields (written : WrittenDeclaration) (style : FieldStyle) (runtime : Path)
    (fields : List Field) : Aggregate where
  name := written.name
  extent := some written.extent
  visibility := written.visibility
  generics := written.generics
  style
  fields
  selection := selectionOf fields
  runtime

theorem ofWritten_marked (flags : Nat → FieldFlags) {written : WrittenDeclaration}
    {style : FieldStyle} (structured : written.body = .structure style fields)
    (consistent : ∀ index, ¬((flags index).skip = true ∧ (flags index).traverse = true))
    (unsteered : written.Unsteered) :
    ofWritten (written.marked flags) =
      match runtimeOf written.attributes with
      | .error error => .error (malformed written.name error.message none)
      | .ok runtime => .ok (ofFields written style runtime (scannedFields flags 0 fields)) := by
  rw [WrittenDeclaration.Unsteered, WrittenDeclaration.fields_eq structured] at unsteered
  have scanned := scanFields_marked consistent unsteered 0
  unfold ofWritten WrittenDeclaration.marked
  rw [structured]
  dsimp only
  cases runtimeOf written.attributes with
  | error error => rfl
  | ok runtime =>
    dsimp only
    rw [scanned]
    rfl

/-! ### Two selections -/

/-- Without its flags, a field is scanned as if it had none. -/
theorem map_unflagged_scannedFields (flags : Nat → FieldFlags) (fields : List WrittenField) :
    (scannedFields flags 0 fields).map Field.unflagged =
      scannedFields (fun _ => ⟨false, false⟩) 0 fields :=
  List.map_map

/-- The fields that pass a test of their flags, without these. -/
theorem map_unflagged_filter {test : Field → Bool} {chosen : Nat → Bool}
    (tests : ∀ index field, test (scannedField index field (flags index)) = chosen index) :
    ((scannedFields flags 0 fields).filter test).map Field.unflagged =
      ((fields.zipIdx 0).filter fun each => chosen each.2).map fun (field, index) =>
        scannedField index field ⟨false, false⟩ := by
  have same : (test ∘ fun each : WrittenField × Nat =>
      scannedField each.2 each.1 (flags each.2)) = fun each => chosen each.2 :=
    funext fun each => tests each.2 each.1
  rw [scannedFields, List.filter_map, List.map_map, ← same]
  rfl

variable {chosen : Nat → Bool}

theorem selectionOf_asking (nonempty : ∃ index < fields.length, chosen index = true) :
    selectionOf (scannedFields (FieldFlags.asking chosen) 0 fields) = .explicit := by
  obtain ⟨index, bound, chosenIndex⟩ := nonempty
  have member : (fields[index], index) ∈ fields.zipIdx 0 :=
    List.mk_mem_zipIdx_iff_getElem?.mpr (List.getElem?_eq_getElem bound)
  exact if_pos (List.any_eq_true.mpr ⟨_, List.mem_map_of_mem member, chosenIndex⟩)

theorem selectionOf_sparing :
    selectionOf (scannedFields (FieldFlags.sparing chosen) 0 fields) = .auto := by
  refine if_neg fun asked => ?_
  obtain ⟨field, member, targeted⟩ := List.any_eq_true.mp asked
  obtain ⟨each, -, rfl⟩ := List.mem_map.mp member
  cases targeted

/-- The two aggregates are of one declaration, and the fields that the first is asked for are
those that the second is not told to skip. -/
structure SameSelection (first second : Aggregate) : Prop where
  explicit : first.selection = .explicit
  auto : second.selection = .auto
  aggregate : first.unflagged = second.unflagged
  candidates : first.candidates.map Field.unflagged = second.candidates.map .unflagged

theorem sameSelection_ofFields (written : WrittenDeclaration) (style : FieldStyle)
    (runtime : Path) (nonempty : ∃ index < fields.length, chosen index = true) :
    SameSelection (ofFields written style runtime (scannedFields (.asking chosen) 0 fields))
      (ofFields written style runtime (scannedFields (.sparing chosen) 0 fields)) where
  explicit := selectionOf_asking nonempty
  auto := selectionOf_sparing
  aggregate := by
    unfold unflagged ofFields
    dsimp only
    rw [map_unflagged_scannedFields, map_unflagged_scannedFields]
  candidates := by
    unfold candidates ofFields
    rw [selectionOf_asking nonempty, selectionOf_sparing]
    exact (map_unflagged_filter fun _ _ => rfl).trans
      (map_unflagged_filter fun index _ => Bool.not_not (chosen index)).symm

end Aggregate

/-! ### Two outcomes -/

namespace Diagnostic

/-- The second diagnostic is the first, or it says as a note what the first says as an error, that
no generator supports a type. -/
inductive Softened : Diagnostic → Diagnostic → Prop
  | same (diagnostic : Diagnostic) : Softened diagnostic diagnostic
  | unsupported {diagnostic : Diagnostic} (kind : diagnostic.problem.isUnsupported = true)
      (asked : diagnostic.severity = .error) :
      Softened diagnostic (diagnostic.withSeverity .note)

/-- The diagnostic, as a note if it says that no generator supports a type. -/
def softened (diagnostic : Diagnostic) : Diagnostic :=
  if diagnostic.problem.isUnsupported then diagnostic.withSeverity .note else diagnostic

theorem eq_map_softened {first second : List Diagnostic}
    (pairs : List.Forall₂ Softened first second)
    (asked : ∀ diagnostic ∈ first, diagnostic.problem.isUnsupported = true →
      diagnostic.severity = .error)
    (spared : ∀ diagnostic ∈ second, diagnostic.problem.isUnsupported = true →
      diagnostic.severity = .note) : second = first.map softened := by
  induction pairs with
  | nil => rfl
  | @cons diagnostic other rest others pair _ inductionHypothesis =>
    rw [List.forall_mem_cons] at asked spared
    rw [List.map_cons, ← inductionHypothesis asked.2 spared.2]
    refine congrArg (· :: others) ?_
    cases pair with
    | same =>
      by_cases kind : diagnostic.problem.isUnsupported = true
      · have error := asked.1 kind
        rw [spared.1 kind] at error
        cases error
      · rw [softened, if_neg kind]
    | unsupported kind _ => rw [softened, if_pos kind]

end Diagnostic

namespace Registry

variable {registry : Registry} {first second : Aggregate} {listener : Level}

/-- Without failures of that kind from generators, a diagnostic that no generator supports a type
is that of synthesis. -/
theorem exists_eq_unsupported (own : registry.ReportsOwnFailures) {aggregate : Aggregate}
    {diagnostic : Diagnostic}
    (member : diagnostic ∈ ((registry.synthesize aggregate).result listener).diagnostics)
    (kind : diagnostic.problem.isUnsupported = true) :
    ∃ field, diagnostic = unsupported aggregate field := by
  rw [synthesize_eq_entries] at member
  rcases List.mem_append.mp member with entered | last
  · obtain ⟨entry, among, found⟩ := List.mem_filterMap.mp entered
    obtain ⟨field, -, kept, same⟩ := mem_entriesAfter among
    have entered := registry.entered_entryAfter aggregate kept field
    rw [← same, Entry.eq_error_of_diagnostic? found] at entered
    generalize chosen : registry.choice field.shape = choice at entered
    cases entered with
    | unresolved => exact ⟨field, rfl⟩
    | unfocused => cases kind
    | refused failed =>
      rw [(own _ (mem_of_choice chosen) _ _ _ ⟨_, failed⟩).1] at kind
      cases kind
    | clashing => cases kind
  · split at last
    · rw [List.mem_singleton.mp last] at kind
      cases kind
    · cases last

/-- What is said as an error of a field that was asked for is said as a note of one that was
not. -/
theorem unsupported_eq_withSeverity (same : Aggregate.SameSelection first second)
    {field field' : Field} (sameField : field.unflagged = field'.unflagged) :
    unsupported second field' = (unsupported first field).withSeverity .note := by
  have unflagged (aggregate : Aggregate) (field : Field) :
      (unsupported aggregate field).withSeverity .note =
        (unsupported aggregate.unflagged field.unflagged).withSeverity .note := rfl
  have note : (unsupported second field').withSeverity .note = unsupported second field' := by
    unfold unsupported
    rw [same.auto]
    rfl
  rw [← note, unflagged second, unflagged first, same.aggregate, sameField]

/-- Diagnostics of entries that match are said with the severity of their selection. -/
theorem softened_of_matches (same : Aggregate.SameSelection first second)
    {entries entries' : List Entry}
    (paired : List.Forall₂ (registry.Matches first second) entries entries') :
    List.Forall₂ Diagnostic.Softened (entries.filterMap Entry.diagnostic?)
      (entries'.filterMap Entry.diagnostic?) := by
  induction paired with
  | nil => exact .nil
  | cons pair _ inductionHypothesis =>
    cases pair with
    | defined _ => exact inductionHypothesis
    | failed diagnostic => exact .cons (.same diagnostic) inductionHypothesis
    | @unresolved field field' sameField _ =>
      have error : (unsupported first field).severity = .error := by
        rw [severity_unsupported, same.explicit]
      refine .cons ?_ inductionHypothesis
      rw [unsupported_eq_withSeverity same sameField]
      exact .unsupported rfl error

theorem map_printed_of_matches {entries entries' : List Entry}
    (paired : List.Forall₂ (registry.Matches first second) entries entries') :
    (entries.filterMap Entry.definition?).map Definition.printed =
      (entries'.filterMap Entry.definition?).map .printed := by
  induction paired with
  | nil => rfl
  | cons pair _ inductionHypothesis =>
    cases pair with
    | defined same => exact congrArg₂ List.cons same inductionHypothesis
    | failed _ => exact inductionHypothesis
    | unresolved _ _ => exact inductionHypothesis

/-- The outcomes of the two selections: the same traversals, and the same diagnostics, of which
those that no generator supports a type are errors in the first and notes in the second. -/
structure Agree (registry : Registry) (first second : Outcome) : Prop where
  definitions : first.definitions.map Definition.printed = second.definitions.map .printed
  diagnostics : List.Forall₂ Diagnostic.Softened first.diagnostics second.diagnostics
  kinds : registry.ReportsOwnFailures →
    second.diagnostics = first.diagnostics.map Diagnostic.softened ∧
      (∀ diagnostic ∈ first.diagnostics, diagnostic.problem.isUnsupported = true →
        diagnostic.severity = .error) ∧
      ∀ diagnostic ∈ second.diagnostics, diagnostic.problem.isUnsupported = true →
        diagnostic.severity = .note

theorem agree_synthesize (ignoring : registry.IgnoresFlags)
    (same : Aggregate.SameSelection first second) (listener : Level) :
    registry.Agree ((registry.synthesize first).result listener)
      ((registry.synthesize second).result listener) := by
  have paired : List.Forall₂ (registry.Matches first second) (registry.entries first)
      (registry.entries second) :=
    matches_entriesAfter ignoring same.aggregate same.candidates rfl
  have definitions := map_printed_of_matches paired
  have diagnostics : List.Forall₂ Diagnostic.Softened
      ((registry.synthesize first).result listener).diagnostics
      ((registry.synthesize second).result listener).diagnostics := by
    have sameEnd : nothingGenerated first = nothingGenerated second := by
      have ends := congrArg nothingGenerated same.aggregate
      exact ends
    have sameEmpty : ((registry.entries first).filterMap Entry.definition?).isEmpty =
        ((registry.entries second).filterMap Entry.definition?).isEmpty := by
      rw [← List.isEmpty_map, definitions, List.isEmpty_map]
    rw [synthesize_eq_entries, synthesize_eq_entries, sameEnd, sameEmpty]
    exact List.rel_append (softened_of_matches same paired)
      (List.forall₂_same.mpr fun diagnostic _ => .same diagnostic)
  refine ⟨?_, diagnostics, fun own => ?_⟩
  · rw [synthesize_eq_entries, synthesize_eq_entries]
    exact definitions
  · have asked : ∀ diagnostic ∈ ((registry.synthesize first).result listener).diagnostics,
        diagnostic.problem.isUnsupported = true → diagnostic.severity = .error := by
      intro diagnostic member kind
      obtain ⟨field, rfl⟩ := exists_eq_unsupported own member kind
      rw [severity_unsupported, same.explicit]
    have spared : ∀ diagnostic ∈ ((registry.synthesize second).result listener).diagnostics,
        diagnostic.problem.isUnsupported = true → diagnostic.severity = .note := by
      intro diagnostic member kind
      obtain ⟨field, rfl⟩ := exists_eq_unsupported own member kind
      rw [severity_unsupported, same.auto]
    exact ⟨Diagnostic.eq_map_softened diagnostics asked spared, asked, spared⟩

/-- The results for a field whose type a generator supports are the same, whatever the flags of
the fields are. -/
theorem map_printed_synthesizeField (ignoring : registry.IgnoresFlags)
    (sameAggregate : first.unflagged = second.unflagged) {field field' : Field}
    (sameField : field.unflagged = field'.unflagged)
    (supported : ∃ generator ∈ registry.generators, generator.supports field.shape = true)
    (listener : Level) :
    ((registry.synthesizeField first field).result listener).map Definition.printed =
      ((registry.synthesizeField second field').result listener).map .printed := by
  rw [synthesizeField_result, synthesizeField_result]
  refine map_printed_fieldResult ignoring sameAggregate sameField ?_
  rw [choice, Option.isSome_map, List.find?_isSome]
  exact supported

/-- To ask for some fields and to skip all others is the same. In a declaration whose fields have
no flags, let some be chosen; then the declaration can be scanned with attributes that ask for the
chosen fields if it can be scanned with attributes that skip the others, and if so the outcomes
have the same definitions, with the same tokens, and the same diagnostics, except that it is an
error in the first and a note in the second that no generator supports the type of a field. This
is true of all registries whose generators do not look at flags, and the library's own do not.
With such generators the result for a field whose type is supported does not depend on flags. -/
theorem asked_and_spared_agree :
    builtin.IgnoresFlags ∧ ∀ registry : Registry, registry.IgnoresFlags →
      (∀ (written : WrittenDeclaration) (chosen : Nat → Bool) (listener : Level),
        written.Unsteered → (∃ index < written.fields.length, chosen index = true) →
          (∃ diagnostic, Aggregate.ofWritten (written.marked (.asking chosen)) = .error diagnostic ∧
            Aggregate.ofWritten (written.marked (.sparing chosen)) = .error diagnostic) ∨
          ∃ first second, Aggregate.ofWritten (written.marked (.asking chosen)) = .ok first ∧
            Aggregate.ofWritten (written.marked (.sparing chosen)) = .ok second ∧
              Aggregate.SameSelection first second ∧
                registry.Agree ((registry.synthesize first).result listener)
                  ((registry.synthesize second).result listener)) ∧
      ∀ (first second : Aggregate) (field field' : Field) (listener : Level),
        first.unflagged = second.unflagged → field.unflagged = field'.unflagged →
          (∃ generator ∈ registry.generators, generator.supports field.shape = true) →
            ((registry.synthesizeField first field).result listener).map Definition.printed =
              ((registry.synthesizeField second field').result listener).map .printed := by
  refine ⟨builtin_ignoresFlags, fun registry ignoring => ⟨?_, ?_⟩⟩
  · intro written chosen listener unsteered nonempty
    obtain ⟨index, bound, chosenIndex⟩ := nonempty
    obtain ⟨style, fields, structured⟩ := WrittenDeclaration.exists_body_eq bound
    rw [WrittenDeclaration.fields_eq structured] at bound
    have asked := Aggregate.ofWritten_marked (.asking chosen) structured
      (fun _ both => Bool.false_ne_true both.1) unsteered
    have spared := Aggregate.ofWritten_marked (.sparing chosen) structured
      (fun _ both => Bool.false_ne_true both.2) unsteered
    cases read : runtimeOf written.attributes with
    | error error =>
      rw [read] at asked spared
      exact .inl ⟨_, asked, spared⟩
    | ok runtime =>
      rw [read] at asked spared
      have same := Aggregate.sameSelection_ofFields written style runtime
        ⟨index, bound, chosenIndex⟩
      exact .inr ⟨_, _, asked, spared, same, agree_synthesize ignoring same listener⟩
  · intro first second field field' listener sameAggregate sameField supported
    exact map_printed_synthesizeField ignoring sameAggregate sameField supported listener

end Registry

/-! ### A structure without flags -/

namespace Shelf

/-- The declaration of a shelf with a number, books and a lender. -/
def declaration : WrittenDeclaration where
  attributes := []
  visibility := []
  name := .plain "Shelf"
  extent := ⟨1, 1⟩
  generics := default
  body := .structure .named [
    ⟨[], some (.plain "number"), named "u64", ⟨5, 5⟩⟩,
    ⟨[], some (.plain "books"), applied "Vec" [named "String"], ⟨9, 12⟩⟩,
    ⟨[], some (.plain "lender"), applied "Option" [named "String"], ⟨16, 19⟩⟩]

/-- The number and the books. -/
def chosen (index : Nat) : Bool := index < 2

/-- The severities of what is said of an aggregate, and the generators of its traversals. -/
def summary (aggregate : Aggregate) : List Severity × List String :=
  let outcome := (Registry.builtin.synthesize aggregate).result .info
  (outcome.diagnostics.map (·.severity), outcome.definitions.map (·.generator))

end Shelf

namespace Registry

/-- To ask for the number and the books of a shelf is to skip the lender: the books are
traversed, and that the number is not is an error only if it was asked for. -/
theorem asked_and_spared_agree_shelf :
    Shelf.declaration.Unsteered ∧
    (∃ index < Shelf.declaration.fields.length, Shelf.chosen index = true) ∧
    ∃ first second,
      Aggregate.ofWritten (Shelf.declaration.marked (.asking Shelf.chosen)) = .ok first ∧
      Aggregate.ofWritten (Shelf.declaration.marked (.sparing Shelf.chosen)) = .ok second ∧
      builtin.Agree ((builtin.synthesize first).result .info)
        ((builtin.synthesize second).result .info) ∧
      Shelf.summary first = ([.error], ["sequence"]) ∧
      Shelf.summary second = ([.note], ["sequence"]) := by
  have unsteered : Shelf.declaration.Unsteered := by decide
  have nonempty : ∃ index < Shelf.declaration.fields.length, Shelf.chosen index = true :=
    ⟨0, by decide, rfl⟩
  have asked : (Aggregate.ofWritten (Shelf.declaration.marked (.asking Shelf.chosen))).toOption.map
      Shelf.summary = some ([.error], ["sequence"]) := by
    decide +kernel
  have spared : (Aggregate.ofWritten
      (Shelf.declaration.marked (.sparing Shelf.chosen))).toOption.map Shelf.summary =
        some ([.note], ["sequence"]) := by
    decide +kernel
  obtain ⟨ignoring, agree⟩ := asked_and_spared_agree
  rcases (agree builtin ignoring).1 Shelf.declaration Shelf.chosen .info unsteered nonempty with
    ⟨diagnostic, failed, -⟩ | ⟨first, second, scanned, scanned', -, same⟩
  · rw [failed] at asked
    cases asked
  · rw [scanned] at asked
    rw [scanned'] at spared
    exact ⟨unsteered, nonempty, first, second, scanned, scanned', same, Option.some.inj asked,
      Option.some.inj spared⟩

end Registry

end Fieldwise
