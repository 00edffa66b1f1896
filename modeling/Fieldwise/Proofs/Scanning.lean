/-
This file proves which declarations are scanned, and what is scanned of them: structures whose
attributes hold nothing but paths of the runtime, and on fields nothing but the words that fields
may hold. An aggregate says of each field which of the words its attributes hold, however they are
spread and repeated. A declaration that cannot be scanned has one error, that of the first fault.
-/

import Fieldwise.Proofs.FieldItems
import Fieldwise.Proofs.RuntimeItems
import Fieldwise.Proofs.Selections

namespace Fieldwise

open Attribute (Listing)

/-! ### What is scanned -/

/-- Scanned from a written field at a place, a field has its name or else the place as a name, its
type, and the flags that the pieces in its attributes give. -/
structure Field.ScannedFrom (scanned : Field) (field : WrittenField) (index : Nat) : Prop where
  name : scanned.name = (field.name.map FieldName.named).getD (.position index)
  shape : scanned.shape = .ofWritten field.type
  written : scanned.written = field.type
  extent : scanned.extent = some field.extent
  flags : ∃ pieces, Listing field.attributes pieces ∧
    FieldFlags.GivenBy ⟨scanned.skip, scanned.targeted⟩ pieces

/-- Scanned from a declaration, an aggregate has its fields in their order. It picks fields by
attribute as soon as one is asked for, and its runtime is the last that the declaration gives. -/
structure Aggregate.ScannedFrom (aggregate : Aggregate) (written : WrittenDeclaration) : Prop where
  name : aggregate.name = written.name
  extent : aggregate.extent = some written.extent
  visibility : aggregate.visibility = written.visibility
  generics : aggregate.generics = written.generics
  fields : ∃ fields, written.body = .structure aggregate.style fields ∧
    List.Forall₂ (fun each own => Field.ScannedFrom own each.1 each.2) fields.zipIdx
      aggregate.fields
  selection : aggregate.selection = .explicit ↔ ∃ field ∈ aggregate.fields, field.targeted = true
  runtime : ∃ pieces, Listing written.attributes pieces ∧ RuntimeGivenBy aggregate.runtime pieces

/-- The declaration is that of a structure, its attributes hold only paths of the runtime, and
those of each field only the two words, but not both of them. -/
def WrittenDeclaration.Documented (written : WrittenDeclaration) : Prop :=
  ∃ style fields, written.body = .structure style fields ∧
    (∃ pieces, Listing written.attributes pieces ∧
      ∀ piece ∈ pieces, ∃ path, RuntimePiece piece path) ∧
    ∀ field ∈ fields, ∃ pieces, Listing field.attributes pieces ∧
      (∀ piece ∈ pieces, FieldPiece piece) ∧ ¬Conflicting pieces

/-- Why and where a declaration cannot be scanned: it is not that of a structure, or its own
attributes have a fault, or else those of a field, of which the first one decides. -/
inductive WrittenDeclaration.Refused (written : WrittenDeclaration) : String → Option Extent → Prop
  | enumeration {keyword : Extent} (body : written.body = .enumeration keyword) :
      Refused written "traversals can only be derived for structs, not enums" (some keyword)
  | union {keyword : Extent} (body : written.body = .union keyword) :
      Refused written "traversals can only be derived for structs, not unions" (some keyword)
  | runtime {style : FieldStyle} {fields : List WrittenField} {error : AttributeError}
      (body : written.body = .structure style fields)
      (failed : runtimeOf written.attributes = .error error) :
      Refused written error.message none
  | field {style : FieldStyle} {before after : List WrittenField} {field : WrittenField}
      {runtime : Path} {error : AttributeError}
      (body : written.body = .structure style (before ++ field :: after))
      (read : runtimeOf written.attributes = .ok runtime)
      (accepted : ∀ other ∈ before, ∃ flags, fieldFlagsOf other.attributes = .ok flags)
      (failed : fieldFlagsOf field.attributes = .error error) :
      Refused written error.message none

/-! ### Regrouping -/

/-- The attributes of the two fields hold the same pieces, be it in another order, in other
attributes or more often. Else the fields are the same, apart from where they are written. -/
structure WrittenField.Regrouped (field other : WrittenField) : Prop where
  name : field.name = other.name
  type : field.type = other.type
  pieces : ∃ pieces pieces', Listing field.attributes pieces ∧ Listing other.attributes pieces' ∧
    ∀ piece, piece ∈ pieces ↔ piece ∈ pieces'

/-- The bodies of two declarations of which only the attributes of fields are regrouped. -/
inductive DeclarationBody.Regrouped : DeclarationBody → DeclarationBody → Prop
  | structure {style : FieldStyle} {fields others : List WrittenField}
      (each : List.Forall₂ WrittenField.Regrouped fields others) :
      Regrouped (.structure style fields) (.structure style others)
  | enumeration (keyword other : Extent) : Regrouped (.enumeration keyword) (.enumeration other)
  | union (keyword other : Extent) : Regrouped (.union keyword) (.union other)

/-- Two declarations of which only the attributes are regrouped. Of paths of the runtime the last
one counts, so these have to stay in order. -/
structure WrittenDeclaration.Regrouped (written other : WrittenDeclaration) : Prop where
  name : written.name = other.name
  visibility : written.visibility = other.visibility
  generics : written.generics = other.generics
  body : written.body.Regrouped other.body
  pieces : ∃ pieces, Listing written.attributes pieces ∧ Listing other.attributes pieces

/-- The field, without where it is written. -/
def Field.unplaced (field : Field) : Field := { field with extent := none }

/-- The aggregate, without where it is written. -/
def Aggregate.unplaced (aggregate : Aggregate) : Aggregate :=
  { aggregate with extent := none, fields := aggregate.fields.map .unplaced }

/-- Which fields are candidates does not depend on where these are written. -/
theorem Aggregate.candidates_unplaced (aggregate : Aggregate) :
    aggregate.unplaced.candidates = aggregate.candidates.map .unplaced := by
  unfold candidates unplaced
  rw [List.filter_map]
  rfl

/-! ### Fields -/

section Fields

variable {index start : Nat} {field : WrittenField} {fields : List WrittenField} {own : Field}
  {scanned : List Field} {error : AttributeError}

theorem Field.scannedFrom_iff :
    own.ScannedFrom field index ↔
      ∃ flags, fieldFlagsOf field.attributes = .ok flags ∧
        Aggregate.scannedField index field flags = own := by
  constructor
  · intro scans
    obtain ⟨name, shape, written, skip, targeted, extent⟩ := own
    obtain ⟨rfl, rfl, rfl, rfl, given⟩ := scans
    exact ⟨⟨skip, targeted⟩, fieldFlagsOf_eq_ok_iff.mpr given, rfl⟩
  · rintro ⟨flags, read, rfl⟩
    exact ⟨rfl, rfl, rfl, rfl, fieldFlagsOf_eq_ok_iff.mp read⟩

namespace Aggregate

theorem scanField_eq_ok_iff : scanField index field = .ok own ↔ own.ScannedFrom field index := by
  rw [Field.scannedFrom_iff, scanField]
  cases fieldFlagsOf field.attributes with
  | error error =>
    constructor
    · intro scans
      cases scans
    · rintro ⟨_, read, -⟩
      cases read
  | ok flags =>
    constructor
    · intro same
      exact ⟨flags, rfl, Except.ok.inj same⟩
    · rintro ⟨_, read, rfl⟩
      cases read
      rfl

theorem scanField_eq_error_iff :
    scanField index field = .error error ↔ fieldFlagsOf field.attributes = .error error := by
  rw [scanField]
  cases fieldFlagsOf field.attributes with
  | error own => rw [Except.map, Except.error.injEq, Except.error.injEq]
  | ok flags =>
    constructor
    · intro failed
      cases failed
    · intro failed
      cases failed

/-- Fields are scanned in their order, each at its place. -/
theorem scanFields_eq_ok_iff :
    scanFields start fields = .ok scanned ↔
      List.Forall₂ (fun each own => Field.ScannedFrom own each.1 each.2) (fields.zipIdx start)
        scanned := by
  induction fields generalizing start scanned with
  | nil =>
    rw [List.zipIdx_nil, List.forall₂_nil_left_iff]
    constructor
    · intro same
      cases same
      rfl
    · rintro rfl
      rfl
  | cons field rest inductionHypothesis =>
    rw [List.zipIdx_cons, scanFields]
    cases read : scanField start field with
    | error error =>
      constructor
      · intro scans
        cases scans
      · intro each
        obtain ⟨own, _, first, _, _⟩ := List.forall₂_cons_left_iff.mp each
        rw [scanField_eq_ok_iff.mpr first] at read
        cases read
    | ok own =>
      dsimp only
      constructor
      · intro scans
        cases further : scanFields (start + 1) rest with
        | error error =>
          rw [further] at scans
          cases scans
        | ok others =>
          rw [further] at scans
          cases scans
          exact .cons (scanField_eq_ok_iff.mp read) (inductionHypothesis.mp further)
      · intro each
        obtain ⟨_, others, first, further, rfl⟩ := List.forall₂_cons_left_iff.mp each
        rw [scanField_eq_ok_iff.mpr first] at read
        cases read
        rw [inductionHypothesis.mpr further]
        rfl

/-- Of several fields with faults the first one decides. -/
theorem scanFields_eq_error_iff :
    scanFields start fields = .error error ↔
      ∃ before field after, fields = before ++ field :: after ∧
        (∀ other ∈ before, ∃ flags, fieldFlagsOf other.attributes = .ok flags) ∧
          fieldFlagsOf field.attributes = .error error := by
  induction fields generalizing start with
  | nil =>
    refine ⟨nofun, ?_⟩
    rintro ⟨before, field, after, split, -, -⟩
    exact absurd split.symm (List.append_ne_nil_of_right_ne_nil _ (List.cons_ne_nil field after))
  | cons field rest inductionHypothesis =>
    rw [scanFields]
    cases read : scanField start field with
    | error own =>
      rw [scanField_eq_error_iff] at read
      constructor
      · intro same
        cases same
        exact ⟨[], field, rest, rfl, fun _ member => absurd member List.not_mem_nil, read⟩
      · rintro ⟨before, other, after, split, accepted, failed⟩
        cases before with
        | nil =>
          cases split
          rw [read] at failed
          cases failed
          rfl
        | cons first before =>
          cases split
          obtain ⟨flags, accepted⟩ := accepted _ List.mem_cons_self
          rw [read] at accepted
          cases accepted
    | ok own =>
      obtain ⟨flags, read, -⟩ := Field.scannedFrom_iff.mp (scanField_eq_ok_iff.mp read)
      dsimp only
      constructor
      · intro failed
        cases further : scanFields (start + 1) rest with
        | ok others =>
          rw [further] at failed
          cases failed
        | error error =>
          rw [further] at failed
          cases failed
          obtain ⟨before, other, after, rfl, accepted, failed⟩ := inductionHypothesis.mp further
          exact ⟨field :: before, other, after, rfl,
            List.forall_mem_cons.mpr ⟨⟨flags, read⟩, accepted⟩, failed⟩
      · rintro ⟨before, other, after, split, accepted, failed⟩
        cases before with
        | nil =>
          cases split
          rw [read] at failed
          cases failed
        | cons first before =>
          cases split
          rw [inductionHypothesis.mpr ⟨before, other, after, rfl,
            (List.forall_mem_cons.mp accepted).2, failed⟩]
          rfl

end Aggregate

end Fields

/-! ### Declarations -/

namespace Aggregate

variable {written other : WrittenDeclaration} {aggregate : Aggregate}

theorem ofWritten_eq_ok_iff :
    ofWritten written = .ok aggregate ↔
      ∃ style fields runtime scanned, written.body = .structure style fields ∧
        runtimeOf written.attributes = .ok runtime ∧ scanFields 0 fields = .ok scanned ∧
          aggregate = ofFields written style runtime scanned := by
  unfold ofWritten
  rcases written.body with ⟨style, fields⟩ | keyword | keyword
  · dsimp only
    constructor
    · intro scans
      split at scans
      · cases scans
      · rename_i runtime read
        split at scans
        · cases scans
        · rename_i scanned each
          cases scans
          exact ⟨style, fields, runtime, scanned, rfl, read, each, rfl⟩
    · rintro ⟨_, _, runtime, scanned, same, read, each, rfl⟩
      cases same
      rw [read]
      dsimp only
      rw [each]
      rfl
  · exact ⟨nofun, fun ⟨_, _, _, _, same, _⟩ => nomatch same⟩
  · exact ⟨nofun, fun ⟨_, _, _, _, same, _⟩ => nomatch same⟩

theorem selection_eq_of_explicit_iff {first second : Selection}
    (same : first = .explicit ↔ second = .explicit) : first = second := by
  cases first with
  | explicit => exact (same.mp rfl).symm
  | auto =>
    cases second with
    | explicit => exact same.mpr rfl
    | auto => rfl

theorem selectionOf_eq_explicit_iff {fields : List Field} :
    selectionOf fields = .explicit ↔ ∃ field ∈ fields, field.targeted = true := by
  unfold selectionOf
  rw [← List.any_eq_true]
  cases fields.any (·.targeted) with
  | false => exact ⟨nofun, nofun⟩
  | true => exact ⟨fun _ => rfl, fun _ => rfl⟩

/-- What is scanned of a declaration is determined by what its attributes hold. -/
theorem ofWritten_eq_ok_iff_scannedFrom :
    ofWritten written = .ok aggregate ↔ aggregate.ScannedFrom written := by
  rw [ofWritten_eq_ok_iff]
  constructor
  · rintro ⟨style, fields, runtime, scanned, body, read, each, rfl⟩
    exact ⟨rfl, rfl, rfl, rfl, ⟨fields, body, scanFields_eq_ok_iff.mp each⟩,
      selectionOf_eq_explicit_iff, runtimeOf_eq_ok_iff.mp read⟩
  · intro scans
    obtain ⟨fields, body, each⟩ := scans.fields
    obtain ⟨name, extent, visibility, generics, style, scanned, selection, runtime⟩ := aggregate
    have same : selection = selectionOf scanned :=
      selection_eq_of_explicit_iff (scans.selection.trans selectionOf_eq_explicit_iff.symm)
    obtain ⟨rfl, rfl, rfl, rfl, -, -, given⟩ := scans
    exact ⟨style, fields, runtime, scanned, body, runtimeOf_eq_ok_iff.mpr given,
      scanFields_eq_ok_iff.mpr each, by rw [same]; rfl⟩

/-- The documented declarations are those that are scanned. -/
theorem exists_ofWritten_iff :
    (∃ aggregate, ofWritten written = .ok aggregate) ↔ written.Documented := by
  constructor
  · rintro ⟨aggregate, scans⟩
    obtain ⟨style, fields, runtime, scanned, body, read, each, -⟩ := ofWritten_eq_ok_iff.mp scans
    obtain ⟨pieces, listing, given⟩ := runtimeOf_eq_ok_iff.mp read
    refine ⟨style, fields, body, ⟨pieces, listing, exists_runtimeGivenBy_iff.mp ⟨_, given⟩⟩, ?_⟩
    have accepted := exists_forall₂_iff.mp ⟨scanned, scanFields_eq_ok_iff.mp each⟩
    intro field member
    rw [← List.zipIdx_map_fst 0 fields] at member
    obtain ⟨each, among, rfl⟩ := List.mem_map.mp member
    obtain ⟨own, scans⟩ := accepted each among
    obtain ⟨pieces, listing, given⟩ := scans.flags
    exact ⟨pieces, listing, exists_givenBy_iff.mp ⟨_, given⟩⟩
  · rintro ⟨style, fields, body, ⟨pieces, listing, runtimes⟩, documented⟩
    obtain ⟨runtime, given⟩ := exists_runtimeGivenBy_iff.mpr runtimes
    have accepted : ∀ each ∈ fields.zipIdx, ∃ own : Field, own.ScannedFrom each.1 each.2 := by
      intro each member
      have among : each.1 ∈ fields.zipIdx.map Prod.fst := List.mem_map_of_mem member
      rw [List.zipIdx_map_fst] at among
      obtain ⟨pieces, listing, held⟩ := documented each.1 among
      obtain ⟨flags, given⟩ := exists_givenBy_iff.mpr held
      have read := fieldFlagsOf_eq_ok_iff.mpr ⟨pieces, listing, given⟩
      exact ⟨_, Field.scannedFrom_iff.mpr ⟨flags, read, rfl⟩⟩
    obtain ⟨scanned, each⟩ := exists_forall₂_iff.mpr accepted
    exact ⟨_, ofWritten_eq_ok_iff.mpr ⟨style, fields, runtime, scanned, body,
      runtimeOf_eq_ok_iff.mpr ⟨pieces, listing, given⟩, scanFields_eq_ok_iff.mpr each, rfl⟩⟩

namespace ScannedFrom

variable (scans : aggregate.ScannedFrom written)

include scans

theorem exclusive : ∀ field ∈ aggregate.fields, ¬(field.skip = true ∧ field.targeted = true) := by
  obtain ⟨fields, -, each⟩ := scans.fields
  intro own member
  obtain ⟨field, scanned⟩ := exists_forall₂_iff.mp ⟨_, List.Forall₂.flip each⟩ own member
  obtain ⟨pieces, -, given⟩ := scanned.flags
  rintro ⟨skip, targeted⟩
  exact given.consistent ⟨given.skip.mp skip, given.traverse.mp targeted⟩

theorem skip_of_mem_candidates : ∀ field ∈ aggregate.candidates, field.skip = false := by
  intro field member
  obtain ⟨among, candidate⟩ := List.mem_filter.mp member
  unfold isCandidate at candidate
  split at candidate
  · rwa [Bool.not_eq_true'] at candidate
  · exact Bool.eq_false_iff.mpr fun skip => scans.exclusive field among ⟨skip, candidate⟩

end ScannedFrom

theorem ofWritten_of_refused {reason : String} {extent : Option Extent}
    (refused : written.Refused reason extent) :
    ofWritten written = .error (malformed written.name reason extent) := by
  unfold ofWritten
  cases refused with
  | enumeration body => rw [body]
  | union body => rw [body]
  | runtime body failed =>
    rw [body]
    dsimp only
    rw [failed]
  | @field _ before after field _ error body read accepted failed =>
    have each : scanFields 0 (before ++ field :: after) = .error error :=
      scanFields_eq_error_iff.mpr ⟨before, field, after, rfl, accepted, failed⟩
    rw [body]
    dsimp only
    rw [read]
    dsimp only
    rw [each]

/-- A declaration that cannot be scanned has a single error, which names it. -/
theorem ofWritten_eq_error_iff {diagnostic : Diagnostic} :
    ofWritten written = .error diagnostic ↔
      ∃ reason extent, written.Refused reason extent ∧
        diagnostic = malformed written.name reason extent := by
  constructor
  · intro failed
    have refused : ∃ reason extent, written.Refused reason extent := by
      rcases body : written.body with ⟨style, fields⟩ | keyword | keyword
      · cases read : runtimeOf written.attributes with
        | error error => exact ⟨_, _, .runtime body read⟩
        | ok runtime =>
          cases each : scanFields 0 fields with
          | error error =>
            obtain ⟨before, field, after, rfl, accepted, fault⟩ := scanFields_eq_error_iff.mp each
            exact ⟨_, _, .field body read accepted fault⟩
          | ok scanned =>
            have scans := ofWritten_eq_ok_iff.mpr
              ⟨style, fields, runtime, scanned, body, read, each, rfl⟩
            rw [scans] at failed
            cases failed
      · exact ⟨_, _, .enumeration body⟩
      · exact ⟨_, _, .union body⟩
    obtain ⟨reason, extent, refused⟩ := refused
    rw [ofWritten_of_refused refused] at failed
    exact ⟨reason, extent, refused, (Except.error.inj failed).symm⟩
  · rintro ⟨reason, extent, refused, rfl⟩
    exact ofWritten_of_refused refused

/-! ### Regrouped declarations -/

section Regrouping

variable {index start : Nat} {field field' : WrittenField} {fields others rest : List WrittenField}

theorem toOption_eq_of_iff {Failure A : Type} {first second : Except Failure A}
    (same : ∀ value, first = .ok value ↔ second = .ok value) :
    first.toOption = second.toOption := by
  cases first with
  | ok value => rw [(same value).mp rfl]
  | error failure =>
    cases second with
    | ok value => exact nomatch (same value).mpr rfl
    | error failure' => rfl

theorem toOption_scanField :
    (scanField index field).toOption =
      (fieldFlagsOf field.attributes).toOption.map (scannedField index field) := by
  unfold scanField
  cases fieldFlagsOf field.attributes <;> rfl

theorem unplaced_scanField (same : field.Regrouped field') :
    (scanField index field).toOption.map Field.unplaced =
      (scanField index field').toOption.map .unplaced := by
  obtain ⟨pieces, pieces', listing, listing', among⟩ := same.pieces
  have flags : (fieldFlagsOf field.attributes).toOption =
      (fieldFlagsOf field'.attributes).toOption :=
    toOption_eq_of_iff fun _ => fieldFlagsOf_congr listing listing' among
  have scanned : Field.unplaced ∘ scannedField index field =
      Field.unplaced ∘ scannedField index field' := by
    funext flags
    simp only [Function.comp_apply, Field.unplaced, scannedField, same.name, same.type]
  rw [toOption_scanField, toOption_scanField, Option.map_map, Option.map_map, flags, scanned]

theorem unplaced_scanFields_cons :
    (scanFields start (field :: rest)).toOption.map (List.map .unplaced) =
      ((scanField start field).toOption.map Field.unplaced).bind fun own =>
        ((scanFields (start + 1) rest).toOption.map (List.map .unplaced)).map (own :: ·) := by
  rw [scanFields]
  cases scanField start field with
  | error error => rfl
  | ok own => cases scanFields (start + 1) rest <;> rfl

theorem unplaced_scanFields (each : List.Forall₂ WrittenField.Regrouped fields others) :
    (scanFields start fields).toOption.map (List.map Field.unplaced) =
      (scanFields start others).toOption.map (List.map .unplaced) := by
  induction each generalizing start with
  | nil => rfl
  | cons same _ inductionHypothesis =>
    rw [unplaced_scanFields_cons, unplaced_scanFields_cons, unplaced_scanField same,
      inductionHypothesis]

theorem unplaced_ofFields (style : FieldStyle) (runtime : Path) (scanned : List Field) :
    (ofFields written style runtime scanned).unplaced =
      { ofFields written style runtime (scanned.map .unplaced) with extent := none } := by
  have selection : selectionOf (scanned.map .unplaced) = selectionOf scanned := by
    unfold selectionOf
    rw [List.any_map]
    rfl
  unfold unplaced ofFields
  rw [selection]

theorem unplaced_ofWritten {style : FieldStyle} (body : written.body = .structure style fields) :
    (ofWritten written).toOption.map unplaced =
      (runtimeOf written.attributes).toOption.bind fun runtime =>
        ((scanFields 0 fields).toOption.map (List.map .unplaced)).map fun scanned =>
          { ofFields written style runtime scanned with extent := none } := by
  unfold ofWritten
  rw [body]
  dsimp only
  cases runtimeOf written.attributes with
  | error error => rfl
  | ok runtime =>
    dsimp only
    cases scanFields 0 fields with
    | error error => rfl
    | ok scanned => exact congrArg some (unplaced_ofFields style runtime scanned)

theorem ofWritten_regrouped (same : written.Regrouped other) :
    (ofWritten written).toOption.map unplaced = (ofWritten other).toOption.map unplaced := by
  obtain ⟨pieces, listing, listing'⟩ := same.pieces
  have runtimes : (runtimeOf written.attributes).toOption = (runtimeOf other.attributes).toOption :=
    toOption_eq_of_iff fun _ => runtimeOf_congr listing listing'
  -- Both declare a structure, or neither does; then both are refused, at different places.
  have bodies := same.body
  generalize body : written.body = own, body' : other.body = its at bodies
  obtain each | _ | _ := bodies
  · rw [unplaced_ofWritten body, unplaced_ofWritten body', runtimes, unplaced_scanFields each]
    unfold ofFields
    rw [same.name, same.visibility, same.generics]
  · unfold ofWritten
    rw [body, body']
    rfl
  · unfold ofWritten
    rw [body, body']
    rfl

end Regrouping

/-- Exactly the documented declarations are scanned, and exactly what their attributes hold is
scanned of them. No field is both skipped and asked for, and none that is skipped is a candidate.
It makes no difference how attributes are grouped, nor how often and in which order a field's
words occur. A declaration that cannot be scanned has a single error that names it; in a field
whose pieces are words, the first one at fault decides. -/
theorem scans_exactly_documented (written : WrittenDeclaration) :
    ((∃ aggregate, ofWritten written = .ok aggregate) ↔ written.Documented) ∧
    (∀ aggregate, ofWritten written = .ok aggregate ↔ aggregate.ScannedFrom written) ∧
    (∀ aggregate, ofWritten written = .ok aggregate →
      (∀ field ∈ aggregate.fields, ¬(field.skip = true ∧ field.targeted = true)) ∧
        ∀ field ∈ aggregate.candidates, field.skip = false) ∧
    (∀ other, written.Regrouped other →
      (ofWritten written).toOption.map unplaced = (ofWritten other).toOption.map unplaced) ∧
    (∀ diagnostic, ofWritten written = .error diagnostic ↔
      ∃ reason extent, written.Refused reason extent ∧
        diagnostic = malformed written.name reason extent) ∧
    ∀ field ∈ written.fields, ∀ pieces error, Listing field.attributes pieces →
      (∀ piece ∈ pieces, FieldItem.IsWord piece) →
        (fieldFlagsOf field.attributes = .error error ↔ FirstFault pieces error) := by
  refine ⟨exists_ofWritten_iff, fun _ => ofWritten_eq_ok_iff_scannedFrom, ?_,
    fun _ => ofWritten_regrouped, fun _ => ofWritten_eq_error_iff, ?_⟩
  · intro aggregate scanned
    have scans := ofWritten_eq_ok_iff_scannedFrom.mp scanned
    exact ⟨scans.exclusive, scans.skip_of_mem_candidates⟩
  · intro field _ pieces error listing words
    exact fieldFlagsOf_eq_error_iff listing words

end Aggregate

/-! ### A structure with attributes -/

namespace Shelf

/-- The item that gives the path of a runtime. -/
def runtimeItem : Tokens := [.plain "crate", .mark '=' false, .literal "\"library::undertow\""]

/-- The attribute that holds this item. -/
def runtimeAttribute : Attribute := ⟨.ofNames false ["undertow"], .list runtimeItem⟩

/-- An attribute that has nothing to do with traversals. -/
def otherAttribute : Attribute := ⟨.ofNames false ["doc"], .value⟩

/-- The word of an attribute twice, with a comma at the end. -/
def repeated (word : String) : Attribute :=
  ⟨.ofNames false ["undertow"], .list [.plain word, Token.comma, .plain word, Token.comma]⟩

/-- The declaration of a shelf with attributes on it and on its books. -/
def annotated (own books : List Attribute) : WrittenDeclaration :=
  { declaration with
    attributes := own
    body := .structure .named [
      ⟨[], some (.plain "number"), named "u64", ⟨12, 12⟩⟩,
      ⟨books, some (.plain "books"), applied "Vec" [named "String"], ⟨21, 24⟩⟩,
      ⟨[.steering "skip"], some (.plain "lender"), applied "Option" [named "String"], ⟨33, 36⟩⟩] }

/-- The word stands once in the attributes of the books. -/
def once : WrittenDeclaration := annotated [runtimeAttribute] [.steering "traverse"]

/-- The word stands three times in the attributes of the books, with others between them. -/
def often : WrittenDeclaration :=
  annotated [otherAttribute, runtimeAttribute]
    [repeated "traverse", otherAttribute, .steering "traverse"]

/-- The books are asked for, and then they are skipped. -/
def torn : WrittenDeclaration :=
  annotated [runtimeAttribute] [.steering "traverse", .steering "skip"]

/-- The names of the candidates, and the words of the path of the runtime. -/
def overview (aggregate : Aggregate) : List String × List Identifier :=
  (aggregate.candidates.map (·.name.display), aggregate.runtime.segments.map Segment.name)

theorem map_overview (found : Option Aggregate) :
    found.map overview = (found.map Aggregate.unplaced).map overview := by
  have same : overview ∘ Aggregate.unplaced = overview := by
    funext aggregate
    rw [Function.comp_apply]
    unfold overview
    rw [Aggregate.candidates_unplaced, List.map_map]
    rfl
  rw [Option.map_map, same]

variable {attributes : List Attribute} {pieces : List Tokens}

theorem listing_steering (word : String) (more : Listing attributes pieces) :
    Listing (.steering word :: attributes) ([.plain word] :: pieces) := by
  have shown : Token.Yields [.plain word] [.plain word] [] :=
    Token.yields_self (List.forall_mem_singleton.mpr rfl)
  exact .steering rfl rfl shown (.last (Token.unbroken_word _)) more

theorem listing_repeated (word : String) (more : Listing attributes pieces) :
    Listing (repeated word :: attributes) ([.plain word] :: [.plain word] :: pieces) := by
  have visible : ∀ token ∈ [.plain word, Token.comma, .plain word, Token.comma],
      token.reveal = [token] := by
    simp [Token.plain, Token.comma, Token.reveal]
  have twice : Token.Pieces [.plain word, Token.comma, .plain word, Token.comma]
      [[.plain word], [.plain word]] :=
    .more (Token.unbroken_word _) (.more (Token.unbroken_word _) .none)
  exact .steering rfl rfl (Token.yields_self visible) twice more

theorem listing_runtime : Listing [runtimeAttribute] [runtimeItem] := by
  have visible : ∀ token ∈ runtimeItem, token.reveal = [token] := by
    simp [runtimeItem, Token.plain, Token.reveal]
  have quoted : Text.unquoted? "\"library::undertow\"" = some ("library::undertow", "") := by
    decide +kernel
  have unbroken : Token.Unbroken runtimeItem := (ContainerItem.Fits.runtime quoted).unbroken
  exact .steering rfl rfl (Token.yields_self visible) (.last unbroken) .none

theorem regrouped : once.Regrouped often where
  name := rfl
  visibility := rfl
  generics := rfl
  body := by
    refine .structure (.cons ?_ (.cons ?_ (.cons ?_ .nil)))
    · exact ⟨rfl, rfl, [], [], .none, .none, fun _ => Iff.rfl⟩
    · refine ⟨rfl, rfl, _, _, listing_steering "traverse" .none, listing_repeated "traverse"
        (.unrelated rfl (listing_steering "traverse" .none)), fun piece => ?_⟩
      simp only [List.mem_cons, List.not_mem_nil, or_false, or_self]
    · exact ⟨rfl, rfl, _, _, listing_steering "skip" .none, listing_steering "skip" .none,
        fun _ => Iff.rfl⟩
  pieces := ⟨_, listing_runtime, .unrelated rfl listing_runtime⟩

end Shelf

namespace Aggregate

/-- However often the word stands in the attributes of the books, these are the only candidate. If
they are skipped as well, the declaration is refused. -/
theorem scans_exactly_documented_shelf :
    Shelf.once.Regrouped Shelf.often ∧
    (ofWritten Shelf.often).toOption.map Shelf.overview =
      some (["books"], [.plain "library", .plain "undertow"]) ∧
    ofWritten Shelf.torn = .error
      (malformed (.plain "Shelf") "a field cannot be both `skip` and `traverse`" none) := by
  obtain ⟨-, -, -, regrouped, -, -⟩ := scans_exactly_documented Shelf.once
  obtain ⟨-, -, -, -, refused, faults⟩ := scans_exactly_documented Shelf.torn
  have overview : (ofWritten Shelf.once).toOption.map Shelf.overview =
      some (["books"], [.plain "library", .plain "undertow"]) := by
    decide +kernel
  have fault : fieldFlagsOf [.steering "traverse", .steering "skip"] = .error .conflictingFlags := by
    have listing := Shelf.listing_steering "traverse" (Shelf.listing_steering "skip" .none)
    have words : ∀ piece ∈ [[.plain "traverse"], [.plain "skip"]], FieldItem.IsWord piece :=
      List.forall_mem_cons.mpr ⟨⟨_, rfl⟩, List.forall_mem_singleton.mpr ⟨_, rfl⟩⟩
    refine (faults _ (List.mem_cons_of_mem _ List.mem_cons_self) _ _ listing words).mpr ?_
    refine ⟨[[.plain "traverse"]], [.plain "skip"], [], rfl, ?_, ?_, .inr ⟨.inl rfl, ?_, rfl⟩⟩
    · exact List.forall_mem_singleton.mpr (.inr rfl)
    · rintro ⟨skip, -⟩
      simp [Token.plain, Identifier.plain] at skip
    · exact ⟨List.mem_cons_of_mem _ List.mem_cons_self, List.mem_cons_self⟩
  have body : Shelf.torn.body = .structure .named ([_] ++ _ :: [_]) := rfl
  have unflagged : fieldFlagsOf [] = .ok ⟨false, false⟩ := rfl
  have accepted : (runtimeOf Shelf.torn.attributes).isOk = true := by decide +kernel
  refine ⟨Shelf.regrouped, ?_, ?_⟩
  · have same := regrouped Shelf.often Shelf.regrouped
    rw [Shelf.map_overview, ← same, ← Shelf.map_overview]
    exact overview
  · cases read : runtimeOf Shelf.torn.attributes with
    | error error =>
      rw [read] at accepted
      cases accepted
    | ok runtime =>
      refine (refused _).mpr ⟨_, _, .field body read ?_ fault, rfl⟩
      exact List.forall_mem_singleton.mpr ⟨_, unflagged⟩

end Aggregate

end Fieldwise
