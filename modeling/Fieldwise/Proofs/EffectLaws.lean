/-
This file proves that every capability is a lawful applicative functor. Functions are applied inside
an effect like functions, a plain value changes nothing but the value of an effect that it is joined
to, and the grouping of three effects makes no difference.

The cases are only looked at where all evidence is kept: there three effects have the evidence of
those that failed, and two groupings of it are the same as evidence is lawful. Effects that stop at
the first failure are effects of that sort, with evidence of which the first piece counts alone, and
laws go over to all effects that are converted to lawful ones without loss.
-/

import Fieldwise.Proofs.Conversion
import Fieldwise.Proofs.Delegation
import Fieldwise.Proofs.EvidenceLaws

namespace Fieldwise

variable {F G : Type → Type} {A B C D : Type}

namespace Capability

/-! ### Lawful capabilities -/

/-- The laws of an applicative functor. -/
structure Lawful (capability : Capability F) : Prop extends capability.MapLaws where
  map_id : ∀ {A : Type} (effect : F A), capability.map effect (fun value => value) = effect
  map2_pure_left : ∀ {A B C : Type} (value : A) (effect : F B) (function : A → B → C),
    capability.map2 (capability.pure value) effect function =
      capability.map effect (function value)
  map2_pure_right : ∀ {A B C : Type} (effect : F A) (value : B) (function : A → B → C),
    capability.map2 effect (capability.pure value) function =
      capability.map effect fun first => function first value
  map_map2 : ∀ {A B C D : Type} (first : F A) (second : F B) (function : A → B → C)
    (next : C → D), capability.map (capability.map2 first second function) next =
      capability.map2 first second fun left right => next (function left right)
  /-- Three effects are joined to the same in both groupings, if the same is made of their three
  values. -/
  map2_assoc : ∀ {A B C D Front Back : Type} (first : F A) (second : F B) (third : F C)
    (front : A → B → Front) (whole : Front → C → D) (back : B → C → Back) (whole' : A → Back → D),
    (∀ left middle right, whole (front left middle) right = whole' left (back middle right)) →
      capability.map2 (capability.map2 first second front) third whole =
        capability.map2 first (capability.map2 second third back) whole'

variable {capability : Capability F}

namespace Lawful

variable (lawful : capability.Lawful)

include lawful

/-- A function inside the first of two effects may be applied where they are joined. -/
theorem map2_map_left (first : F A) (second : F B) (function : A → C) (join : C → B → D) :
    capability.map2 (capability.map first function) second join =
      capability.map2 first second fun left right => join (function left) right := by
  -- The function is applied where a plain value is joined, and that value goes with the second
  -- effect as well as with the first.
  rw [← lawful.map2_pure_right first () fun left _ => function left,
    lawful.map2_assoc first _ second _ join (fun _ right => right)
      (fun left right => join (function left) right) fun _ _ _ => rfl,
    lawful.map2_pure_left, lawful.map_id]

end Lawful

/-- The operations of a capability as those of the standard class. -/
@[reducible] def applicative (capability : Capability F) : Applicative F where
  pure := capability.pure
  map function effect := capability.map effect function
  seq functions effect := capability.map2 functions (effect ()) fun function value => function value

/-- A capability that obeys the laws is a lawful applicative functor as the standard library has
it. -/
theorem Lawful.lawfulApplicative (lawful : capability.Lawful) :
    @LawfulApplicative F capability.applicative :=
  letI := capability.applicative
  { map_const := rfl
    id_map := lawful.map_id
    comp_map := fun first next effect => (lawful.map_map effect first next).symm
    seqLeft_eq := fun _ _ => rfl
    seqRight_eq := fun _ _ => rfl
    pure_seq := fun function effect => lawful.map2_pure_left function effect _
    map_pure := fun function value => lawful.map_pure value function
    seq_pure := fun functions value => lawful.map2_pure_right functions value _
    seq_assoc := fun effect functions next => by
      show capability.map2 next (capability.map2 functions effect _) _ =
        capability.map2 (capability.map2 (capability.map next _) functions _) effect _
      rw [lawful.map2_map_left]
      exact (lawful.map2_assoc next functions effect (fun left right => left ∘ right)
        (fun function value => function value) (fun function value => function value)
        (fun function value => function value) fun _ _ _ => rfl).symm }

end Capability

/-! ### Laws along conversions -/

/-- Effects that are converted without loss to those of a lawful capability obey the laws too. -/
theorem Conversion.lawful {first : Capability F} {second : Capability G}
    (conversion : Conversion first second)
    (lossless : ∀ A : Type, Function.Injective (conversion.convert (A := A)))
    (lawful : second.Lawful) : first.Lawful where
  map_pure value function := lossless _ <| by
    rw [conversion.map, conversion.pure, lawful.map_pure, conversion.pure]
  map_map effect function next := lossless _ <| by
    rw [conversion.map, conversion.map, lawful.map_map, conversion.map]
  map_id effect := lossless _ <| by
    rw [conversion.map, lawful.map_id]
  map2_pure_left value effect function := lossless _ <| by
    rw [conversion.map2, conversion.pure, lawful.map2_pure_left, conversion.map]
  map2_pure_right effect value function := lossless _ <| by
    rw [conversion.map2, conversion.pure, lawful.map2_pure_right, conversion.map]
  map_map2 left right function next := lossless _ <| by
    rw [conversion.map, conversion.map2, lawful.map_map2, conversion.map2]
  map2_assoc left middle right front whole back whole' same := lossless _ <| by
    rw [conversion.map2, conversion.map2, lawful.map2_assoc _ _ _ front whole back whole' same,
      conversion.map2, conversion.map2]

/-- An error becomes evidence of which the first piece counts alone. -/
def Conversion.resultToValidated (E : Type) :
    Conversion (.result E) (.validated (Earliest E)) where
  convert result := (Validated.ofResult result).mapInvalid .mk
  pure _ := rfl
  map effect _ := by cases effect <;> rfl
  map2 effect other _ := by cases effect <;> cases other <;> rfl

theorem Conversion.resultToValidated_injective (E A : Type) :
    Function.Injective ((resultToValidated E).convert (A := A)) := by
  rintro (error | value) (other | other) same <;> cases same <;> rfl

namespace Capability

/-! ### The capabilities of the library -/

theorem lawful_identity : identity.Lawful where
  toMapLaws := BuiltIn.identity.mapLaws
  map_id _ := rfl
  map2_pure_left _ _ _ := rfl
  map2_pure_right _ _ _ := rfl
  map_map2 _ _ _ _ := rfl
  map2_assoc first second third _ _ _ _ same := same first second third

/-- Three validated values have the evidence of those that are not valid, in their order. -/
theorem joinValidated_assoc {E Front Back : Type} [Combine E] [LawfulCombine E]
    (first : Validated E A) (second : Validated E B) (third : Validated E C)
    {front : A → B → Front} {whole : Front → C → D} {back : B → C → Back} {whole' : A → Back → D}
    (same : ∀ left middle right,
      whole (front left middle) right = whole' left (back middle right)) :
    joinValidated (joinValidated first second front) third whole =
      joinValidated first (joinValidated second third back) whole' := by
  match first, second, third with
  | .valid left, .valid middle, .valid right =>
    exact congrArg Validated.valid (same left middle right)
  | .invalid before, .invalid between, .invalid after =>
    exact congrArg Validated.invalid (LawfulCombine.combine_assoc before between after)
  | .invalid _, .invalid _, .valid _ | .invalid _, .valid _, .invalid _
  | .valid _, .invalid _, .invalid _ | .invalid _, .valid _, .valid _
  | .valid _, .invalid _, .valid _ | .valid _, .valid _, .invalid _ => rfl

theorem lawful_validated (E : Type) [Combine E] [LawfulCombine E] : (validated E).Lawful where
  toMapLaws := (BuiltIn.validated E).mapLaws
  map_id effect := by cases effect <;> rfl
  map2_pure_left _ effect _ := by cases effect <;> rfl
  map2_pure_right effect _ _ := by cases effect <;> rfl
  map_map2 first second _ _ := by cases first <;> cases second <;> rfl
  map2_assoc first second third _ _ _ _ same := joinValidated_assoc first second third same

theorem lawful_result (E : Type) : (result E).Lawful :=
  (Conversion.resultToValidated E).lawful (Conversion.resultToValidated_injective E)
    (lawful_validated (Earliest E))

theorem lawful_either (L : Type) : (either L).Lawful :=
  (Conversion.eitherToResult L).lawful
    (fun _ => Function.LeftInverse.injective Conversion.ofResult_toResult) (lawful_result L)

theorem lawful_option : option.Lawful :=
  (Conversion.optionToResult ()).lawful
    (fun _ => Function.LeftInverse.injective (Conversion.toOption_elim ())) (lawful_result Unit)

theorem lawful_constant (M : Type) [CombineEmpty M] [LawfulCombineEmpty M] :
    (constant M).Lawful where
  toMapLaws := (BuiltIn.constant M).mapLaws
  map_id _ := rfl
  map2_pure_left _ effect _ := LawfulCombineEmpty.empty_combine effect
  map2_pure_right effect _ _ := LawfulCombineEmpty.combine_empty effect
  map_map2 _ _ _ _ := rfl
  map2_assoc first second third _ _ _ _ _ := LawfulCombine.combine_assoc first second third

/-! ### Laws of effects and laws of evidence -/

/-- Values without content, in whichever way they are joined. -/
def joinUnits (_ _ : Unit) : Unit := ()

theorem lawfulCombine_of_validated {E : Type} [Combine E] (lawful : (validated E).Lawful) :
    LawfulCombine E where
  combine_assoc first second third := by
    have regrouped := lawful.map2_assoc (.invalid first) (.invalid second) (.invalid third)
      joinUnits joinUnits joinUnits joinUnits fun _ _ _ => rfl
    exact Validated.invalid.inj regrouped

theorem lawfulCombineEmpty_of_constant {M : Type} [CombineEmpty M]
    (lawful : (constant M).Lawful) : LawfulCombineEmpty M where
  combine_assoc first second third :=
    lawful.map2_assoc first second third joinUnits joinUnits joinUnits joinUnits fun _ _ _ => rfl
  empty_combine evidence := lawful.map2_pure_left () evidence joinUnits
  combine_empty evidence := lawful.map2_pure_right evidence () joinUnits

/-- Every capability of the library is a lawful applicative functor: functions inside an effect are
applied one after the other and do nothing if they do nothing, a plain value only takes part in the
value that is made, and it makes no difference in which grouping three effects are joined. Effects
with evidence are lawful exactly if their evidence is: where values carry on beside it, if grouping
it makes no difference, and where it stands alone, if the evidence of a plain value also adds
nothing. -/
theorem effects_join_lawfully :
    identity.Lawful ∧ option.Lawful ∧ (∀ E, (result E).Lawful) ∧ (∀ L, (either L).Lawful) ∧
    (∀ (E : Type) [Combine E], (validated E).Lawful ↔ LawfulCombine E) ∧
    (∀ (M : Type) [CombineEmpty M], (constant M).Lawful ↔ LawfulCombineEmpty M) ∧
    ∀ {F : Type → Type} {capability : Capability F}, capability.Lawful →
      @LawfulApplicative F capability.applicative := by
  refine ⟨lawful_identity, lawful_option, lawful_result, lawful_either, fun E _ => ?_,
    fun M _ => ?_, Lawful.lawfulApplicative⟩
  · exact ⟨lawfulCombine_of_validated, fun _ => lawful_validated E⟩
  · exact ⟨lawfulCombineEmpty_of_constant, fun _ => lawful_constant M⟩

/-- Values validated with texts as evidence are lawful: two refusals around a valid number are joined
to one text, also if the number goes with the second one first. -/
theorem effects_join_lawfully_texts :
    LawfulCombine String ∧ (validated String).Lawful ∧
      @LawfulApplicative (Validated String) (validated String).applicative ∧
      (validated String).map2 (.invalid "no name, ")
          ((validated String).map2 (.valid 1) (.invalid "no age") Prod.mk)
          (fun name pair => ((name, pair.1), pair.2)) =
        (.invalid "no name, no age" : Validated String ((String × Nat) × Nat)) := by
  obtain ⟨-, -, -, -, lawful_iff, -, standard⟩ := effects_join_lawfully
  have lawful : (validated String).Lawful := (lawful_iff String).mpr inferInstance
  have regrouped := lawful.map2_assoc (A := String) (B := Nat) (C := Nat) (.invalid "no name, ")
    (.valid 1) (.invalid "no age") Prod.mk Prod.mk Prod.mk
    (fun name pair => ((name, pair.1), pair.2)) fun _ _ _ => rfl
  exact ⟨inferInstance, lawful, standard lawful, regrouped.symm.trans (by decide)⟩

end Capability

end Fieldwise
