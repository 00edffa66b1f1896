/-
This file proves that the names of generated items are unique. The name of the type that carries
a traversal is made from the Pascal form of the field's name, and the name of the function that
gives it from the snake form. The Pascal form follows from the snake form, so where the types have
different names the functions have different names too.

Of the candidates that could have a definition and share the Pascal form of their names, the first
one keeps its definition, whatever failed in between. Every later one finds exactly this
definition among those that were kept, and is entered as an error that names both fields.
-/

import Fieldwise.Proofs.Entries
import Mathlib.Data.List.Induction
import Mathlib.Data.List.Nodup

namespace Fieldwise

/-! ### Names made from the name of a field -/

/-- The Pascal form follows from the snake form. -/
theorem FieldName.pascal_eq_of_snake_eq {left right : FieldName} (same : left.snake = right.snake) :
    left.pascal = right.pascal := by
  rw [pascal, pascal, same]

namespace Definition

/-- Two fields give their types one name exactly when their names have one Pascal form. -/
theorem structureNameFor_eq_iff {aggregate : Identifier} {left right : FieldName} :
    structureNameFor aggregate left = structureNameFor aggregate right ↔
      left.pascal = right.pascal := by
  simp only [structureNameFor, Identifier.plain, Identifier.mk.injEq, true_and,
    String.append_left_inj, String.append_right_inj]

/-- Two fields give their functions one name exactly when their names have one snake form. -/
theorem accessorFor_eq_iff {left right : FieldName} :
    accessorFor left = accessorFor right ↔ left.snake = right.snake := by
  simp only [accessorFor, Identifier.plain, Identifier.mk.injEq, true_and, String.append_left_inj]

/-- The name of a generated type is longer than that of the aggregate. -/
theorem text_structureNameFor_ne (aggregate : Identifier) (field : FieldName) :
    (structureNameFor aggregate field).text ≠ aggregate.text := by
  intro same
  have lengths := congrArg String.length same
  have suffix : "Traversal".length = 9 := rfl
  simp only [structureNameFor, Identifier.plain, String.length_append, suffix] at lengths
  omega

/-- The definition is over the field and has the names that are made from the field's name. -/
structure NamedAfter (definition : Definition) (aggregate : Aggregate) (field : Field) : Prop where
  traversed : definition.field = field.name
  structureName : definition.structureName = structureNameFor aggregate.name field.name
  accessor : definition.accessor = accessorFor field.name

end Definition

namespace Registry

variable {registry : Registry} {aggregate : Aggregate} {field : Field} {fields : List Field}
  {definition : Definition}

theorem namedAfter_of_fieldResult (defined : registry.fieldResult aggregate field = .ok definition) :
    definition.NamedAfter aggregate field := by
  obtain ⟨_, -, -, _, _, -, -, rfl⟩ := exists_of_fieldResult_eq_ok defined
  exact ⟨rfl, rfl, rfl⟩

/-! ### Clashes -/

theorem nameClash_eq_none_iff {taken : List Definition} :
    nameClash aggregate field taken definition = none ↔
      ∀ earlier ∈ taken, earlier.structureName ≠ definition.structureName := by
  simp only [nameClash, Option.map_eq_none_iff, List.find?_eq_none, beq_iff_eq, ne_eq]

/-- Where no two definitions have one name, a clash is with the only one that has it. -/
theorem nameClash_of_mem (aggregate : Aggregate) (field : Field) {taken : List Definition}
    (distinct : (taken.map (·.structureName)).Nodup) {earlier : Definition}
    (member : earlier ∈ taken) (same : earlier.structureName = definition.structureName) :
    nameClash aggregate field taken definition =
      some (Problem.located (.malformedDeclaration
        (clashReason earlier.field definition.field definition.structureName)) aggregate field) := by
  unfold nameClash
  cases search : taken.find? (·.structureName == definition.structureName) with
  | none =>
    rw [List.find?_eq_none] at search
    exact absurd (beq_iff_eq.mpr same) (search earlier member)
  | some found =>
    have name : found.structureName = definition.structureName := by
      simpa using List.find?_some search
    rw [List.inj_on_of_nodup_map distinct (List.mem_of_find?_eq_some search) member
      (name.trans same.symm)]
    rfl

/-! ### Candidates one after the other -/

/-- What is found for fields, one after the other: definitions and diagnostics. -/
def found (registry : Registry) (aggregate : Aggregate) (listener : Level) (fields : List Field) :
    List Definition × List Diagnostic :=
  (registry.synthesizeFields aggregate fields ([], [])).result listener

variable (registry aggregate listener)

/-- One more field adds its result to what is found before it. -/
theorem found_append_singleton (fields : List Field) (field : Field) :
    registry.found aggregate listener (fields ++ [field]) =
      account aggregate field (registry.found aggregate listener fields)
        (registry.fieldResult aggregate field) := by
  rw [found, found, synthesizeFields_result, synthesizeFields_result, List.foldl_append]
  rfl

/-- More fields only add to what is found. -/
theorem prefix_found (fields others : List Field) :
    (registry.found aggregate listener fields).1 <+:
        (registry.found aggregate listener (fields ++ others)).1 ∧
      (registry.found aggregate listener fields).2 <+:
        (registry.found aggregate listener (fields ++ others)).2 := by
  rw [found, found, synthesizeFields_result, synthesizeFields_result, List.foldl_append,
    foldl_account_eq _ _ others]
  exact ⟨List.prefix_append _ _, List.prefix_append _ _⟩

/-- The outcome of an aggregate is what is found for its candidates, and perhaps the diagnostic
that there is nothing. -/
theorem found_candidates :
    ((registry.synthesize aggregate).result listener).definitions =
        (registry.found aggregate listener aggregate.candidates).1 ∧
      (registry.found aggregate listener aggregate.candidates).2 <+:
        ((registry.synthesize aggregate).result listener).diagnostics := by
  have same : registry.found aggregate listener aggregate.candidates = registry.tally aggregate :=
    synthesizeFields_result registry aggregate _ _ _
  rw [synthesize_result, same]
  refine ⟨rfl, ?_⟩
  dsimp only
  split
  · exact List.prefix_append _ _
  · exact List.prefix_rfl

variable {registry aggregate listener}

/-- A field that could have a definition keeps it if its name is free. -/
theorem found_of_free (defined : registry.fieldResult aggregate field = .ok definition)
    (free : ∀ earlier ∈ (registry.found aggregate listener fields).1,
      earlier.structureName ≠ definition.structureName) :
    registry.found aggregate listener (fields ++ [field]) =
      ((registry.found aggregate listener fields).1 ++ [definition],
        (registry.found aggregate listener fields).2) := by
  rw [found_append_singleton, defined, account, nameClash_eq_none_iff.mpr free]

/-- The definitions that are kept have different names for their types. -/
theorem nodup_found (registry : Registry) (aggregate : Aggregate) (listener : Level)
    (fields : List Field) :
    ((registry.found aggregate listener fields).1.map (·.structureName)).Nodup := by
  induction fields using List.reverseRecOn with
  | nil => exact List.nodup_nil
  | append_singleton fields field inductionHypothesis =>
    cases defined : registry.fieldResult aggregate field with
    | error diagnostic => rwa [found_append_singleton, defined]
    | ok definition =>
      cases clash : nameClash aggregate field (registry.found aggregate listener fields).1
          definition with
      | some diagnostic => rwa [found_append_singleton, defined, account, clash]
      | none =>
        have free := nameClash_eq_none_iff.mp clash
        rw [found_of_free defined free, List.map_append, List.map_singleton,
          List.nodup_append]
        refine ⟨inductionHypothesis, List.nodup_singleton _, ?_⟩
        rintro name member _ (_ | ⟨_, ⟨⟩⟩) same
        obtain ⟨earlier, among, rfl⟩ := List.mem_map.mp member
        exact free earlier among same

/-- A field that could have a definition is rejected if its name is taken, with an error that
names the field whose definition has the name. -/
theorem found_of_taken (defined : registry.fieldResult aggregate field = .ok definition)
    {earlier : Definition} (member : earlier ∈ (registry.found aggregate listener fields).1)
    (same : earlier.structureName = definition.structureName) :
    registry.found aggregate listener (fields ++ [field]) =
      ((registry.found aggregate listener fields).1,
        (registry.found aggregate listener fields).2 ++
          [Problem.located (.malformedDeclaration
            (clashReason earlier.field field.name definition.structureName)) aggregate field]) := by
  have clash := nameClash_of_mem aggregate field
    (nodup_found registry aggregate listener fields) member same
  rw [found_append_singleton, defined, account, clash, (namedAfter_of_fieldResult defined).traversed]

/-- The definition is the result for one of the fields, and its name was free when that field had
its turn. -/
def KeptAmong (registry : Registry) (aggregate : Aggregate) (listener : Level)
    (fields : List Field) (definition : Definition) : Prop :=
  ∃ before field after, fields = before ++ field :: after ∧
    registry.fieldResult aggregate field = .ok definition ∧
      ∀ earlier ∈ (registry.found aggregate listener before).1,
        earlier.structureName ≠ definition.structureName

theorem KeptAmong.append_singleton (among : registry.KeptAmong aggregate listener fields definition)
    (last : Field) : registry.KeptAmong aggregate listener (fields ++ [last]) definition := by
  obtain ⟨before, field, after, rfl, rest⟩ := among
  exact ⟨before, field, after ++ [last], by simp, rest⟩

theorem keptAmong_of_mem_found
    (member : definition ∈ (registry.found aggregate listener fields).1) :
    registry.KeptAmong aggregate listener fields definition := by
  induction fields using List.reverseRecOn with
  | nil => exact absurd member List.not_mem_nil
  | append_singleton fields last inductionHypothesis =>
    cases defined : registry.fieldResult aggregate last with
    | error diagnostic =>
      rw [found_append_singleton, defined] at member
      exact (inductionHypothesis member).append_singleton last
    | ok other =>
      cases clash : nameClash aggregate last (registry.found aggregate listener fields).1 other with
      | some diagnostic =>
        rw [found_append_singleton, defined, account, clash] at member
        exact (inductionHypothesis member).append_singleton last
      | none =>
        have free := nameClash_eq_none_iff.mp clash
        rw [found_of_free defined free] at member
        rcases List.mem_append.mp member with earlier | same
        · exact (inductionHypothesis earlier).append_singleton last
        · cases List.mem_singleton.mp same
          exact ⟨fields, last, [], rfl, defined, free⟩

/-- Of fields that could have a definition, one with the name of its type is kept. -/
theorem exists_mem_found (listener : Level) (member : field ∈ fields)
    (defined : registry.fieldResult aggregate field = .ok definition) :
    ∃ earlier ∈ (registry.found aggregate listener fields).1,
      earlier.structureName = definition.structureName := by
  obtain ⟨before, after, rfl⟩ := List.append_of_mem member
  rw [List.append_cons]
  have later := (registry.prefix_found aggregate listener (before ++ [field]) after).1
  by_cases taken : ∃ earlier ∈ (registry.found aggregate listener before).1,
      earlier.structureName = definition.structureName
  · obtain ⟨earlier, among, same⟩ := taken
    rw [found_of_taken defined among same] at later
    exact ⟨earlier, later.subset among, same⟩
  · push Not at taken
    rw [found_of_free defined taken] at later
    exact ⟨definition, later.subset (List.mem_append_right _ List.mem_cons_self), rfl⟩

/-! ### First fields -/

/-- None of the fields that could have a definition has a name with this Pascal form. -/
def Unclaimed (registry : Registry) (aggregate : Aggregate) (listener : Level)
    (fields : List Field) (form : String) : Prop :=
  ∀ field ∈ fields, ∀ definition,
    (registry.synthesizeField aggregate field).result listener = .ok definition →
      field.name.pascal ≠ form

/-- A name is free exactly if no field before could have a definition with it. So the first field
that could have one is decisive, also if others failed before. -/
theorem unclaimed_iff (registry : Registry) (aggregate : Aggregate) (listener : Level)
    (fields : List Field) (name : FieldName) :
    registry.Unclaimed aggregate listener fields name.pascal ↔
      ∀ earlier ∈ (registry.found aggregate listener fields).1,
        earlier.structureName ≠ Definition.structureNameFor aggregate.name name := by
  constructor
  · intro unclaimed earlier member
    obtain ⟨before, field, after, rfl, defined, -⟩ := keptAmong_of_mem_found member
    rw [(namedAfter_of_fieldResult defined).structureName, ne_eq,
      Definition.structureNameFor_eq_iff]
    exact unclaimed field (List.mem_append_right _ List.mem_cons_self) earlier
      ((synthesizeField_result ..).trans defined)
  · intro free field member definition defined same
    rw [synthesizeField_result] at defined
    obtain ⟨earlier, among, taken⟩ := exists_mem_found listener member defined
    rw [(namedAfter_of_fieldResult defined).structureName,
      Definition.structureNameFor_eq_iff.mpr same] at taken
    exact free earlier among taken

/-! ### Names in outcomes -/

/-- The names of generated items are unique. -/
structure UniqueNames (aggregate : Aggregate) (definitions : List Definition) : Prop where
  structures : (definitions.map (·.structureName)).Nodup
  accessors : (definitions.map (·.accessor)).Nodup
  /-- No generated type has the name of the aggregate, in whichever form either is written. -/
  own : ∀ definition ∈ definitions, definition.structureName.text ≠ aggregate.name.text

/-- What becomes of a field that could have a definition, after fields before it. -/
structure Admission (registry : Registry) (aggregate : Aggregate) (listener : Level)
    (before : List Field) (field : Field) (definition : Definition) : Prop where
  /-- Two types have one name exactly if the names of the fields have one Pascal form. -/
  pascal : ∀ earlier ∈ (registry.found aggregate listener before).1,
    earlier.structureName = definition.structureName ↔ earlier.field.pascal = field.name.pascal
  /-- The name of the type is taken exactly if the field is not the first with its form. -/
  taken : (∃ earlier ∈ (registry.found aggregate listener before).1,
      earlier.structureName = definition.structureName) ↔
    ¬registry.Unclaimed aggregate listener before field.name.pascal
  /-- The first field with its form keeps its definition. -/
  survives : registry.Unclaimed aggregate listener before field.name.pascal →
    registry.found aggregate listener (before ++ [field]) =
      ((registry.found aggregate listener before).1 ++ [definition],
        (registry.found aggregate listener before).2)
  /-- Any other field is rejected with an error that names the first one, whose definition was
  kept, itself and the name of the type. -/
  rejected : ∀ earlier ∈ (registry.found aggregate listener before).1,
    earlier.structureName = definition.structureName → ∃ diagnostic : Diagnostic,
      registry.found aggregate listener (before ++ [field]) =
        ((registry.found aggregate listener before).1,
          (registry.found aggregate listener before).2 ++ [diagnostic]) ∧
      diagnostic.ErrorOn aggregate field ∧
      diagnostic.problem = .malformedDeclaration
        (clashReason earlier.field field.name definition.structureName) ∧
      ∃ front first later, before = front ++ first :: later ∧ first.name = earlier.field ∧
        (registry.synthesizeField aggregate first).result listener = .ok earlier ∧
          registry.Unclaimed aggregate listener front first.name.pascal

theorem uniqueNames_found (registry : Registry) (aggregate : Aggregate) (listener : Level)
    (fields : List Field) :
    UniqueNames aggregate (registry.found aggregate listener fields).1 where
  structures := nodup_found registry aggregate listener fields
  accessors := by
    have structures := nodup_found registry aggregate listener fields
    rw [List.Nodup, List.pairwise_map] at structures ⊢
    refine structures.imp_of_mem fun {left right} leftMember rightMember different same => ?_
    obtain ⟨_, leftField, _, -, leftDefined, -⟩ := keptAmong_of_mem_found leftMember
    obtain ⟨_, rightField, _, -, rightDefined, -⟩ := keptAmong_of_mem_found rightMember
    have leftNames := namedAfter_of_fieldResult leftDefined
    have rightNames := namedAfter_of_fieldResult rightDefined
    rw [leftNames.accessor, rightNames.accessor, Definition.accessorFor_eq_iff] at same
    rw [leftNames.structureName, rightNames.structureName, ne_eq,
      Definition.structureNameFor_eq_iff] at different
    exact different (FieldName.pascal_eq_of_snake_eq same)
  own definition member := by
    obtain ⟨_, field, _, -, defined, -⟩ := keptAmong_of_mem_found member
    rw [(namedAfter_of_fieldResult defined).structureName]
    exact Definition.text_structureNameFor_ne aggregate.name field.name

theorem admission (defined : registry.fieldResult aggregate field = .ok definition)
    (before : List Field) : registry.Admission aggregate listener before field definition := by
  have names := namedAfter_of_fieldResult defined
  have unclaimed := unclaimed_iff registry aggregate listener before field.name
  rw [← names.structureName] at unclaimed
  refine ⟨fun earlier member => ?_, ?_, fun first => ?_, fun earlier member same => ?_⟩
  · obtain ⟨_, other, _, -, otherDefined, -⟩ := keptAmong_of_mem_found member
    have otherNames := namedAfter_of_fieldResult otherDefined
    rw [otherNames.structureName, otherNames.traversed, names.structureName,
      Definition.structureNameFor_eq_iff]
  · rw [unclaimed]
    push Not
    rfl
  · exact found_of_free defined (unclaimed.mp first)
  · refine ⟨_, found_of_taken defined member same, Problem.errorOn_located _ _ _, rfl, ?_⟩
    obtain ⟨front, first, later, split, firstDefined, free⟩ := keptAmong_of_mem_found member
    have firstNames := namedAfter_of_fieldResult firstDefined
    rw [firstNames.structureName] at free
    exact ⟨front, first, later, split, firstNames.traversed.symm,
      (synthesizeField_result ..).trans firstDefined,
      (unclaimed_iff registry aggregate listener front first.name).mpr free⟩

/-- The names of generated items are unique: no two definitions of an outcome have one name for
their types or for their functions, and no type has the name of the aggregate. The outcome holds
what is found for the candidates, one after the other, and nothing of it is lost on the way. Of
the candidates that could have a definition and whose names have one Pascal form, which are those
whose types would have one name, the first one keeps its definition; every other one is rejected
with an error on it that names the first one, itself and the name of the type. -/
theorem generated_names_unique (registry : Registry) (aggregate : Aggregate) (listener : Level) :
    UniqueNames aggregate ((registry.synthesize aggregate).result listener).definitions ∧
    ∀ before field after definition, aggregate.candidates = before ++ field :: after →
      (registry.synthesizeField aggregate field).result listener = .ok definition →
        registry.Admission aggregate listener before field definition ∧
        (registry.found aggregate listener (before ++ [field])).1 <+:
          ((registry.synthesize aggregate).result listener).definitions ∧
        (registry.found aggregate listener (before ++ [field])).2 <+:
          ((registry.synthesize aggregate).result listener).diagnostics := by
  obtain ⟨definitions, diagnostics⟩ := registry.found_candidates aggregate listener
  refine ⟨?_, fun before field after definition candidates defined => ?_⟩
  · rw [definitions]
    exact uniqueNames_found registry aggregate listener aggregate.candidates
  · rw [synthesizeField_result] at defined
    have parts := registry.prefix_found aggregate listener (before ++ [field]) after
    rw [List.append_cons] at candidates
    rw [← candidates] at parts
    rw [definitions]
    exact ⟨admission defined before, parts.1, parts.2.trans diagnostics⟩

end Registry

/-! ### A structure with two names of one form -/

namespace Shelf

/-- The books of a shelf by age, with a low line more in the second name. -/
def books (name : String) : Field := field name (applied "Option" [named "u8"])

/-- A shelf with books by age, between which stands a lender whose type lacks an argument. -/
def aged : Aggregate :=
  { aggregate with
    fields := [books "old_books", field "lender" (applied "Either" [named "u8"]),
      books "old__books"] }

end Shelf

namespace Registry

/-- The last books of a shelf could have a definition, but the first ones have the name of its
type, and keep it although the lender failed. -/
theorem generated_names_unique_shelf :
    UniqueNames Shelf.aged ((builtin.synthesize Shelf.aged).result .info).definitions ∧
    ((builtin.synthesizeField Shelf.aged (Shelf.books "old__books")).result .info).isOk ∧
    ∃ diagnostic ∈ ((builtin.synthesize Shelf.aged).result .info).diagnostics,
      diagnostic.ErrorOn Shelf.aged (Shelf.books "old__books") ∧
        diagnostic.problem.message = "malformed declaration: fields `old_books` and " ++
          "`old__books` both generate `ShelfOldBooksTraversal`; rename one or mark it " ++
            "`#[undertow(skip)]`" := by
  obtain ⟨unique, admitted⟩ := generated_names_unique builtin Shelf.aged .info
  have candidates : Shelf.aged.candidates =
      Shelf.aged.candidates.take 2 ++ Shelf.books "old__books" :: [] := rfl
  have written : ((builtin.synthesizeField Shelf.aged (Shelf.books "old__books")).result
      .info).isOk := by
    decide +kernel
  have kept : (builtin.found Shelf.aged .info (Shelf.aged.candidates.take 2)).1.map
      (fun definition => (definition.field.display, definition.structureName)) =
        [("old_books", .plain "ShelfOldBooksTraversal")] := by
    decide +kernel
  cases defined : (builtin.synthesizeField Shelf.aged (Shelf.books "old__books")).result .info with
  | error diagnostic =>
    rw [defined] at written
    cases written
  | ok definition =>
    obtain ⟨admission, -, later⟩ := admitted _ _ [] definition candidates defined
    have name : definition.structureName = .plain "ShelfOldBooksTraversal" :=
      (namedAfter_of_fieldResult
        ((synthesizeField_result ..).symm.trans defined)).structureName.trans (by decide +kernel)
    obtain ⟨earlier, only, pair⟩ := List.map_eq_singleton_iff.mp kept
    obtain ⟨display, structureName⟩ : earlier.field.display = "old_books" ∧
        earlier.structureName = .plain "ShelfOldBooksTraversal" := Prod.mk.inj pair
    have among : earlier ∈ (builtin.found Shelf.aged .info (Shelf.aged.candidates.take 2)).1 := by
      rw [only]
      exact List.mem_cons_self
    obtain ⟨diagnostic, entered, located, problem, -⟩ :=
      admission.rejected earlier among (structureName.trans name.symm)
    rw [entered] at later
    refine ⟨unique, rfl, diagnostic, later.subset (List.mem_append_right _ List.mem_cons_self),
      located, ?_⟩
    rw [problem, name]
    unfold Problem.message clashReason
    rw [display]
    decide +kernel

end Registry

end Fieldwise
