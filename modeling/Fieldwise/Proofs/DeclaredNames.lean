/-
This file says which names a declaration can have. Where a declaration is read, no keyword names it,
one of its parameters or one of its fields, except that a low line may stand for a field or for a
type. Fields in braces have names, and a declaration without delimiters has no fields.
-/

import Fieldwise.Grammar.Declaration
import Fieldwise.Proofs.CodeCalls
import Fieldwise.Proofs.Scanning

namespace Fieldwise

open Token (front)

/-! ### Names -/

namespace Reader

variable {tokens : Tokens}

theorem onlyGives_anyWord {name : Identifier} {rest : Tokens}
    (shown : front tokens = .word name :: rest) :
    OnlyGives anyWord tokens fun given _ => given = name := by
  refine onlyGives_get fun reading remains => ?_
  rw [remains, shown]
  exact onlyGives_bind fun _ _ => onlyGives_bind fun _ _ => onlyGives_pure rfl

theorem onlyGives_name_ordinary : OnlyGives name tokens fun given _ => given.isKeyword = false := by
  refine onlyGives_get fun reading remains => ?_
  rw [remains]
  split
  · rename_i name rest shown
    refine onlyGives_ite (fun _ => onlyGives_throw _ _) fun ordinary => ?_
    refine (onlyGives_anyWord shown).imp fun given _ same => ?_
    rw [same]
    exact Bool.eq_false_iff.mpr ordinary
  · exact onlyGives_expected _ _

/-- Where a low line comes next it is what is given. -/
theorem onlyGives_lowLine (seen : Lookahead.word "_" tokens = true) :
    OnlyGives anyWord tokens fun given _ => given = .plain "_" := by
  unfold Lookahead.word Lookahead.wordThat at seen
  split at seen
  · rename_i name rest shown
    rw [← beq_iff_eq.mp seen]
    exact onlyGives_anyWord shown
  · cases seen

end Reader

namespace Grammar

open Reader Lookahead

variable {recur : Recursion} {tokens : Tokens}

/-! ### Generic parameters -/

theorem onlyGives_parameterAfter (attributes : Tokens) :
    OnlyGives (parameterAfter recur attributes) tokens fun parameter _ => parameter.Ordinary := by
  refine onlyGives_sees (fun _ => ?_) fun _ => ?_
  · exact onlyGives_bind fun _ _ => onlyGives_bind fun _ _ => onlyGives_pure trivial
  refine onlyGives_sees (fun _ => ?_) fun _ => ?_
  · refine onlyGives_name_ordinary.bind fun _ _ ordinary => ?_
    exact onlyGives_bind fun _ _ => onlyGives_bind fun _ _ => onlyGives_pure (.inl ordinary)
  refine onlyGives_sees (fun _ => ?_) fun _ => onlyGives_expected _ _
  refine onlyGives_bind fun _ _ => onlyGives_name_ordinary.bind fun _ _ ordinary => ?_
  exact onlyGives_bind fun _ _ => onlyGives_bind fun _ _ => onlyGives_bind fun _ _ =>
    onlyGives_pure ordinary

theorem onlyGives_genericParameter :
    OnlyGives (genericParameter recur) tokens fun parameter _ => parameter.Ordinary := by
  refine onlyGives_bind fun _ _ => onlyGives_sees (fun seen => ?_) fun _ => ?_
  · exact (onlyGives_lowLine seen).bind fun _ _ same => onlyGives_pure (.inr same)
  · exact onlyGives_parameterAfter _

/-- Parameters are read one after the other, so the induction is on their bound. -/
theorem onlyGives_genericParametersUpTo (limit : Nat) {before : List GenericParameter}
    (ordinary : ∀ parameter ∈ before, parameter.Ordinary) :
    OnlyGives (genericParametersUpTo recur limit before) tokens
      fun given _ => ∀ parameter ∈ given.1, parameter.Ordinary := by
  induction limit generalizing before tokens with
  | zero => exact onlyGives_expected _ _
  | succ limit inductionHypothesis =>
    refine onlyGives_sees (fun _ => onlyGives_pure ordinary) fun _ => ?_
    refine onlyGives_genericParameter.bind fun parameter _ own => ?_
    have longer : ∀ other ∈ before ++ [parameter], other.Ordinary :=
      List.forall_mem_append.mpr ⟨ordinary, List.forall_mem_singleton.mpr own⟩
    refine onlyGives_sees (fun _ => onlyGives_pure longer) fun _ => ?_
    exact onlyGives_bind fun _ _ => inductionHypothesis longer

theorem onlyGives_genericParameters :
    OnlyGives (genericParameters recur) tokens
      fun given _ => ∀ parameter ∈ given.1, parameter.Ordinary := by
  refine onlyGives_sees (fun _ => ?_) fun _ => onlyGives_pure (List.forall_mem_nil _)
  refine onlyGives_bind fun _ _ => onlyGives_get fun _ _ => ?_
  refine (onlyGives_genericParametersUpTo _ (List.forall_mem_nil _)).bind fun _ _ ordinary => ?_
  exact onlyGives_bind fun _ _ => onlyGives_pure ordinary

end Grammar

/-! ### Fields -/

/-- The field has a name, which is no keyword but may be a low line. -/
def WrittenField.Labelled (field : WrittenField) : Prop :=
  ∃ label, field.name = some label ∧ (label.isKeyword = false ∨ label = .plain "_")

/-- Fields in braces are labelled, and without delimiters there are none. -/
def FieldStyle.Allows : FieldStyle → List WrittenField → Prop
  | .named, fields => ∀ field ∈ fields, field.Labelled
  | .tuple, _ => True
  | .unit, fields => fields = []

/-- No keyword names what is declared or one of its parameters, and its fields are those that its
style allows. -/
structure WrittenDeclaration.Ordinary (written : WrittenDeclaration) : Prop where
  named : written.name.isKeyword = false
  parameters : ∀ parameter ∈ written.generics.parameters, parameter.Ordinary
  allowed : ∀ style fields, written.body = .structure style fields → style.Allows fields

namespace Grammar

open Reader Lookahead

variable {recur : Recursion} {tokens : Tokens}

theorem onlyGives_fieldName :
    OnlyGives fieldName tokens fun given _ =>
      given.1.isKeyword = false ∨ given.1 = .plain "_" := by
  refine onlyGives_sees (fun seen => ?_) fun _ => ?_
  · exact (onlyGives_lowLine seen).bind fun _ _ same => onlyGives_pure (.inr same)
  · exact onlyGives_name_ordinary.bind fun _ _ ordinary => onlyGives_pure (.inl ordinary)

theorem onlyGives_namedWrittenField :
    OnlyGives (namedWrittenField recur) tokens fun field _ => field.Labelled := by
  refine onlyGives_bind fun _ _ => onlyGives_bind fun _ _ => ?_
  refine onlyGives_fieldName.bind fun given _ own => ?_
  refine onlyGives_bind fun _ _ => onlyGives_bind fun located _ => ?_
  exact onlyGives_pure ⟨given.1, rfl, own⟩

/-- Fields are read one after the other, so the induction is on their bound. -/
theorem onlyGives_fieldsUpTo {field : Reader WrittenField} {given : WrittenField → Prop}
    (each : ∀ tokens, OnlyGives field tokens fun own _ => given own) (limit : Nat)
    {before : List WrittenField} (first : ∀ own ∈ before, given own) :
    OnlyGives (fieldsUpTo field limit before) tokens fun all _ => ∀ own ∈ all, given own := by
  induction limit generalizing before tokens with
  | zero => exact onlyGives_pure first
  | succ limit inductionHypothesis =>
    refine onlyGives_sees (fun _ => onlyGives_pure first) fun _ => ?_
    refine (each _).bind fun next _ own => ?_
    have longer : ∀ other ∈ before ++ [next], given other :=
      List.forall_mem_append.mpr ⟨first, List.forall_mem_singleton.mpr own⟩
    refine onlyGives_sees (fun _ => onlyGives_pure longer) fun _ => ?_
    exact onlyGives_bind fun _ _ => inductionHypothesis longer

theorem onlyGives_structureParts :
    OnlyGives (structureParts recur) tokens fun parts _ =>
      ∀ style fields, parts.1 = .structure style fields → style.Allows fields := by
  refine onlyGives_bind fun clause _ => onlyGives_bind fun listed _ => ?_
  split
  · refine onlyGives_bind fun fields _ => onlyGives_bind fun _ _ => onlyGives_bind fun _ _ => ?_
    exact onlyGives_pure fun _ _ same => by cases same; exact trivial
  refine onlyGives_sees (fun _ => ?_) fun _ => ?_
  · have each : ∀ tokens, OnlyGives (fields .brace (namedWrittenField recur)) tokens
        fun all _ => ∀ field ∈ all, field.Labelled :=
      fun _ => onlyGives_group fun _ _ _ => onlyGives_get fun _ _ =>
        onlyGives_fieldsUpTo (fun _ => onlyGives_namedWrittenField) _ (List.forall_mem_nil _)
    refine (each _).bind fun all _ labelled => ?_
    exact onlyGives_pure fun _ _ same => by cases same; exact labelled
  · refine onlyGives_bind fun _ _ => ?_
    exact onlyGives_pure fun _ _ same => by cases same; rfl

theorem onlyGives_located {A : Type} {reader : Reader A} {given : A → Prop}
    (only : OnlyGives reader tokens fun result _ => given result) :
    OnlyGives (located reader) tokens fun result _ => given result.1 :=
  onlyGives_get fun _ remains => by
    subst remains
    exact only.bind fun _ _ own => onlyGives_get fun _ _ => onlyGives_pure own

theorem onlyGives_declaration :
    OnlyGives (declaration recur) tokens fun written _ => written.Ordinary := by
  refine onlyGives_bind fun attributes _ => onlyGives_bind fun visibility _ => ?_
  refine onlyGives_bind fun isStructure _ => onlyGives_bind fun isEnumeration _ =>
    onlyGives_bind fun isUnion _ => ?_
  dsimp only
  refine onlyGives_ite (fun _ => (onlyGives_expected _ _).bind_of_none) fun _ => ?_
  refine onlyGives_bind fun keyword _ => ?_
  refine (onlyGives_located onlyGives_name_ordinary).bind fun declared _ named => ?_
  refine onlyGives_genericParameters.bind fun generics _ parameters => ?_
  refine onlyGives_ite (fun _ => ?_) fun _ => onlyGives_bind fun clause _ => ?_
  · exact onlyGives_structureParts.bind fun parts _ allowed =>
      onlyGives_pure ⟨named, parameters, allowed⟩
  -- What is not a structure has no fields here.
  refine onlyGives_ite (fun _ => ?_) fun _ => ?_
  · exact onlyGives_bind fun _ _ => onlyGives_pure ⟨named, parameters, nofun⟩
  · exact onlyGives_bind fun _ _ => onlyGives_pure ⟨named, parameters, nofun⟩

end Grammar

/-- What is given for a whole run of tokens has every property of what the reader gives. -/
theorem Reader.OnlyGives.of_whole {A : Type} {reader : Reader A} {tokens : Tokens}
    {given : A → Prop} (only : OnlyGives reader tokens fun result _ => given result) {result : A}
    (found : whole reader tokens = .ok result) : given result := by
  have complete : OnlyGives (do
      let result ← reader
      if ← hasLeftOver then throw (.leftOver .invisible)
      return result) tokens fun result _ => given result :=
    only.bind fun _ _ own => onlyGives_bind fun _ _ =>
      onlyGives_ite (fun _ => (onlyGives_throw _ _).bind_of_none) fun _ => onlyGives_pure own
  unfold whole at found
  dsimp only at found
  generalize run : (do
      let result ← reader
      if ← hasLeftOver then throw (.leftOver .invisible)
      return result : Reader A) ⟨tokens, 0, []⟩ = outcome at found
  cases outcome with
  | error failure => cases found
  | ok given =>
    cases found
    exact complete _ rfl _ _ run

/-- The names of a declaration that is read are ordinary. -/
theorem WrittenDeclaration.ordinary_of_ofTokens {tokens : Tokens} {written : WrittenDeclaration}
    (read : ofTokens tokens = .ok written) : written.Ordinary :=
  Grammar.onlyGives_declaration.of_whole read

/-! ### Aggregates -/

namespace Aggregate

variable {aggregate : Aggregate}

/-- Whether one of the fields has a low line for a name. -/
def hasLowLine (aggregate : Aggregate) : Bool :=
  aggregate.fields.any (·.name == .named (.plain "_"))

/-- What is scanned of ordinary names is ordinary if no field has a low line for a name. -/
theorem ordinary_of_scannedFrom {written : WrittenDeclaration}
    (scanned : aggregate.ScannedFrom written) (ordinary : written.Ordinary)
    (named : aggregate.hasLowLine = false) : aggregate.Ordinary := by
  obtain ⟨fields, body, each⟩ := scanned.fields
  have allowed := ordinary.allowed _ _ body
  refine ⟨scanned.name ▸ ordinary.named, scanned.generics ▸ ordinary.parameters,
    fun style field among => ?_, fun style => ?_⟩
  · rw [style] at allowed
    have labelled : ∀ placed ∈ fields.zipIdx, placed.1.Labelled :=
      fun placed member => allowed placed.1 (List.fst_mem_of_mem_zipIdx member)
    obtain ⟨⟨own, place⟩, ⟨label, same, outcome⟩, scans⟩ := exists_forall₂_iff.mp
      ⟨_, List.Forall₂.flip ((List.forall₂_and_left _ _).mpr ⟨labelled, each⟩)⟩ field among
    have name : field.name = .named label := by
      rw [scans.name, same]
      rfl
    refine ⟨label, name, outcome.resolve_right fun lowLine => ?_⟩
    rw [lowLine] at name
    have found : aggregate.hasLowLine = true :=
      List.any_eq_true.mpr ⟨field, among, beq_iff_eq.mpr name⟩
    exact nomatch named.symm.trans found
  · rw [style] at allowed
    obtain rfl : fields = [] := allowed
    exact List.forall₂_nil_left_iff.mp each

end Aggregate

end Fieldwise
