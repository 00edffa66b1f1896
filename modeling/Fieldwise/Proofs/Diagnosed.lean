/-
This file says which problems can be found with the library's own generators. What they write for a
field of a declaration is the inside of a block, so that every problem is about the declaration: no
generator supports a type, a type lacks the focus, or two generated names are the same. It is an
error of the generators where it is not so. That happens where a length does not stay in one piece,
a lifetime opens the type of the keys of a map, or a low line stands for the name of a field.
-/

import Fieldwise.Proofs.BodyBlocks
import Fieldwise.Proofs.DeclaredNames
import Fieldwise.Proofs.Derived
import Fieldwise.Proofs.Results
import Fieldwise.Written.Position

namespace Fieldwise

/-! ### What fits into bodies -/

/-- What a declaration gives to the body around a field can stand there: the grammar accepts the
types of the field, no field has a low line for a name, and the shape fits. -/
structure Aggregate.FitsBodies (aggregate : Aggregate) (field : Field) : Prop where
  types : field.TypesRead
  named : aggregate.hasLowLine = false
  shape : field.shape.fitsBodies = true

/-- So it can if the type of the field is made of names and arrays. -/
theorem Aggregate.fitsBodies_of_plain {aggregate : Aggregate} {field : Field} (plain : field.Plain)
    (named : aggregate.hasLowLine = false) : aggregate.FitsBodies field :=
  ⟨plain.typesRead, named, plain.shape.fitsBodies⟩

/-! ### What a generator refuses -/

namespace Generator

variable {field : Field} {aggregate : Aggregate} {context : Context} {diagnostic : Diagnostic}

/-- What is refused for a declared field is that its type has no plan, or that the body is not the
inside of a block. -/
theorem problem_of_write {name : String} {plan : Except Problem Plan}
    (declared : (aggregate.field? field.name).isSome)
    (refused : write name field aggregate context plan = .error diagnostic) :
    (∃ problem, plan = .error problem ∧ diagnostic = problem.located aggregate field) ∨
      ∃ message, diagnostic = Problem.located (.invalidFragment name message) aggregate field := by
  cases plan with
  | error problem =>
    have around : Reconstruction.around aggregate field =
        .ok ⟨aggregate, field, declared⟩ := dif_pos declared
    unfold write at refused
    rw [around] at refused
    cases refused
    exact .inl ⟨problem, rfl, rfl⟩
  | ok plan =>
    rw [write_eq name declared] at refused
    split at refused
    · cases refused
    · cases refused
      exact .inr ⟨_, rfl⟩

theorem Writer.problem_of_refused {generator : Generator} {name : String}
    {plan : TypeExpression → Except Problem Plan} (writer : generator.Writer name plan)
    (declared : (aggregate.field? field.name).isSome)
    (refused : generator.synthesize field aggregate context = .error diagnostic) :
    (∃ problem, plan field.shape = .error problem ∧ diagnostic = problem.located aggregate field) ∨
      ∃ message, diagnostic = Problem.located (.invalidFragment name message) aggregate field := by
  have unwritten : write name field aggregate context (plan field.shape) = .error diagnostic := by
    cases writer with
    | plain synthesize_eq => rwa [synthesize_eq] at refused
    | collecting items synthesize_eq =>
      rw [synthesize_eq] at refused
      cases attempt : write name field aggregate context (plan field.shape) with
      | ok unbound =>
        rw [attempt] at refused
        cases refused
      | error own =>
        rw [attempt] at refused
        cases refused
        rfl
  exact problem_of_write declared unwritten

end Generator

/-! ### Problems -/

/-- The problems that are about the declaration and not about generated code. -/
def Problem.IsDeclared : Problem → Prop
  | .unsupportedShape _ _ => True
  | .malformedDeclaration _ => True
  | .missingFocusArgument _ _ _ => True
  | .noTraversalGenerated _ => True
  | .reconstructionMismatch _ _ => False
  | .invalidFragment _ _ => False

namespace Registry

variable {aggregate : Aggregate} {field : Field} {diagnostic : Diagnostic}

theorem isSome_field? (among : field ∈ aggregate.fields) :
    (aggregate.field? field.name).isSome :=
  List.find?_isSome.mpr ⟨field, among, beq_self_eq_true field.name⟩

theorem mem_or_eq_nothingGenerated {found : List Definition × List Diagnostic}
    {diagnostic : Diagnostic}
    (member : diagnostic ∈
      if found.1.isEmpty then found.2 ++ [nothingGenerated aggregate] else found.2) :
    diagnostic ∈ found.2 ∨ diagnostic = nothingGenerated aggregate := by
  split at member
  · rcases List.mem_append.mp member with before | last
    · exact .inl before
    · exact .inr (List.mem_singleton.mp last)
  · exact .inl member

/-- The error of a field is about the declaration, or that of the generator that was chosen. -/
theorem exists_of_fieldResult_eq_error {registry : Registry}
    (failed : registry.fieldResult aggregate field = .error diagnostic) :
    diagnostic.problem.IsDeclared ∨ ∃ generator focus,
      registry.generators.find? (·.supports field.shape) = some generator ∧
        generator.focusOf? field.shape = some focus ∧
          generator.synthesize field aggregate ⟨aggregate.runtime, focus⟩ = .error diagnostic := by
  unfold fieldResult at failed
  cases chosen : registry.generators.find? (·.supports field.shape) with
  | none =>
    rw [chosen] at failed
    cases failed
    exact .inl trivial
  | some generator =>
    rw [chosen] at failed
    dsimp only at failed
    cases focused : generator.focusOf? field.shape with
    | none =>
      rw [focused] at failed
      cases failed
      exact .inl trivial
    | some focus =>
      rw [focused] at failed
      dsimp only at failed
      cases written : generator.synthesize field aggregate ⟨aggregate.runtime, focus⟩ with
      | ok fragment =>
        rw [written] at failed
        cases failed
      | error own =>
        rw [written] at failed
        cases failed
        exact .inr ⟨generator, focus, rfl, focused, written⟩

/-- The error of a candidate is about the declaration, or that its body is not the inside of a
block; no body is refused that a built-in generator writes as one. -/
theorem declared_or_refused (candidate : field ∈ aggregate.candidates)
    (failed : builtin.fieldResult aggregate field = .error diagnostic) :
    diagnostic.problem.IsDeclared ∨
      (∃ name message, diagnostic =
          Problem.located (.invalidFragment name message) aggregate field) ∧
        ∃ generator ∈ builtin.generators, generator.supports field.shape = true ∧
          ∃ focus, generator.focusOf? field.shape = some focus ∧
            ¬ generator.WritesBlock field aggregate ⟨aggregate.runtime, focus⟩ := by
  rcases exists_of_fieldResult_eq_error failed with
    about | ⟨generator, focus, chosen, focused, refused⟩
  · exact .inl about
  have builtIn := List.mem_of_find?_eq_some chosen
  have supported : generator.supports field.shape = true := by
    simpa using List.find?_some chosen
  obtain ⟨name, plan, writer, missing, -⟩ := Generator.exists_writer builtIn
  have declared := isSome_field? (List.mem_filter.mp candidate).1
  rcases writer.problem_of_refused declared refused with
    ⟨problem, unplanned, rfl⟩ | ⟨message, rfl⟩
  · rw [missing _ _ unplanned]
    exact .inl trivial
  · refine .inr ⟨⟨name, message, rfl⟩, generator, builtIn, supported, focus, focused, ?_⟩
    rintro ⟨body, -, -, -, -, fragment, made, -⟩
    cases made.symm.trans refused

section

variable {tokens : Tokens} {written : WrittenDeclaration} {listener : Level}
  (read : WrittenDeclaration.ofTokens tokens = .ok written)
  (scanned : Aggregate.ofWritten written = .ok aggregate)
  (default : aggregate.runtime = defaultRuntime)

include read scanned default

/-- What a built-in generator writes for a field is the inside of a block, if what it takes from
the declaration fits there. -/
theorem writesBlock_of_fitsBodies {generator : Generator} {focus : TypeExpression}
    (among : field ∈ aggregate.fields) (fits : aggregate.FitsBodies field)
    (builtIn : generator ∈ builtin.generators) (supported : generator.supports field.shape = true)
    (focused : generator.focusOf? field.shape = some focus) :
    generator.WritesBlock field aggregate ⟨aggregate.runtime, focus⟩ := by
  have ordinary := Aggregate.ordinary_of_scannedFrom
    (Aggregate.ofWritten_eq_ok_iff_scannedFrom.mp scanned)
    (WrittenDeclaration.ordinary_of_ofTokens read) fits.named
  have surroundings : Generator.Surroundings field aggregate ⟨aggregate.runtime, focus⟩ :=
    ⟨isSome_field? among, default, ordinary,
      Generator.readAsType_of_focusOf? fits.types.parts focused, fits.types⟩
  exact Generator.writesBlock_of_mem_builtin surroundings builtIn supported focused fits.shape

/-- A diagnostic that is not about the declaration is about a candidate that does not fit. -/
theorem declared_or_unfit
    (member : diagnostic ∈ ((builtin.synthesize aggregate).result listener).diagnostics) :
    diagnostic.problem.IsDeclared ∨
      ∃ field ∈ aggregate.candidates, ¬ aggregate.FitsBodies field ∧ ∃ name message,
        diagnostic = Problem.located (.invalidFragment name message) aggregate field := by
  rw [synthesize_result] at member
  rcases mem_or_eq_nothingGenerated member with tallied | rfl
  · obtain ⟨field, candidate, failed | ⟨definition, taken, -, clash⟩⟩ :=
      (accounted_tally builtin aggregate).diagnostics diagnostic tallied
    · rcases declared_or_refused candidate failed with
        about | ⟨refused, generator, builtIn, supported, focus, focused, unwritten⟩
      · exact .inl about
      · have among : field ∈ aggregate.fields := (List.mem_filter.mp candidate).1
        refine .inr ⟨field, candidate, fun fits => unwritten ?_, refused⟩
        exact writesBlock_of_fitsBodies read scanned default among fits builtIn supported focused
    · obtain ⟨earlier, -, rfl⟩ := Option.map_eq_some_iff.mp clash
      exact .inl trivial
  · exact .inl trivial

end

end Registry

namespace Directory

/-- A declaration of directories that hold directories. -/
def declaration : Tokens :=
  [.plain "struct", .plain "Directory",
    .braced ([.plain "entries", .colon, .plain "Vec"] ++ Code.angled [.plain "Directory"])]

/-- The declaration as it is read. -/
def written : WrittenDeclaration where
  attributes := []
  visibility := []
  name := .plain "Directory"
  extent := ⟨1, 1⟩
  generics := default
  body := .structure .named [⟨[], some (.plain "entries"), entriesType, ⟨5, 8⟩⟩]

/-- The field of the declaration. -/
def scannedEntries : Field := { entries with extent := some ⟨5, 8⟩ }

/-- The aggregate of the declaration. -/
def scanned : Aggregate := { aggregate with extent := some ⟨1, 1⟩, fields := [scannedEntries] }

theorem plain : scannedEntries.Plain where
  shape := by
    have directory : (TypeExpression.simple ⟨false, [.plain "Directory"]⟩).Plain :=
      .simple (.of_single (by decide))
    exact .parameterized (.of_single (by decide)) (List.forall_mem_singleton.mpr directory)
  printed := rfl

end Directory

namespace Registry

end Registry

end Fieldwise
