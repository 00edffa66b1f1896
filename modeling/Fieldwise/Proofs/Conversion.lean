/-
This file says how the effects of one capability are converted to those of another. A
conversion goes along with all three operations, so it makes no difference whether the
effects of the function are converted or the effect of the whole run. The capabilities that
stop at the first failure are converted to each other by the conversions of their values, and
so is the one that keeps all evidence to the one that keeps none.
-/

import Fieldwise.Proofs.Simulation

namespace Fieldwise

variable {F G : Type → Type} {S A : Type}

/-- A map from the effects of one capability to those of another that goes along with all
operations. -/
structure Conversion (first : Capability F) (second : Capability G) where
  convert : {A : Type} → F A → G A
  pure : ∀ {A : Type} (value : A), convert (first.pure value) = second.pure value
  map : ∀ {A B : Type} (effect : F A) (function : A → B),
    convert (first.map effect function) = second.map (convert effect) function
  map2 : ∀ {A B C : Type} (effect : F A) (other : F B) (function : A → B → C),
    convert (first.map2 effect other function) =
      second.map2 (convert effect) (convert other) function

namespace Conversion

variable {first : Capability F} {second : Capability G} (conversion : Conversion first second)

/-- An effect is related to what it is converted to. -/
def simulation : Simulation first second where
  Related effect other := conversion.convert effect = other
  pure := conversion.pure
  map {_ _ left right} function related := by
    rw [conversion.map, related]
  map2 {_ _ _ left right left' right'} function related related' := by
    rw [conversion.map2, related, related']

/-- The effect of a run, converted, is the effect of the run with a converted function. -/
theorem convert_modifyEach {traversal : Traversal S A} (uniform : traversal.Uniform)
    (function : A → F A) (source : S) :
    conversion.convert (traversal.modifyEach first function source) =
      traversal.modifyEach second (fun value => conversion.convert (function value)) source :=
  uniform.related conversion.simulation (fun _ => rfl) source

/-- Where effects can be taken back, a run is one in the other effects, taken back. -/
theorem modifyEach_eq_back {traversal : Traversal S A} (uniform : traversal.Uniform)
    {back : {A : Type} → G A → F A}
    (inverse : ∀ {A : Type} (effect : F A), back (conversion.convert effect) = effect)
    (function : A → F A) (source : S) :
    traversal.modifyEach first function source =
      back (traversal.modifyEach second (fun value => conversion.convert (function value))
        source) := by
  rw [← conversion.convert_modifyEach uniform, inverse]

/-! ### Failing effects -/

/-- An error becomes a left value. -/
def resultToEither (E : Type) : Conversion (.result E) (.either E) where
  convert := Either.ofResult
  pure _ := rfl
  map effect _ := by cases effect <;> rfl
  map2 effect other _ := by cases effect <;> cases other <;> rfl

/-- A left value becomes an error. -/
def eitherToResult (L : Type) : Conversion (.either L) (.result L) where
  convert := Either.toResult
  pure _ := rfl
  map effect _ := by cases effect <;> rfl
  map2 effect other _ := by cases effect <;> cases other <;> rfl

/-- An error is forgotten. -/
def resultToOption (E : Type) : Conversion (.result E) .option where
  convert := Except.toOption
  pure _ := rfl
  map effect _ := by cases effect <;> rfl
  map2 effect other _ := by cases effect <;> cases other <;> rfl

/-- A left value is forgotten. -/
def eitherToOption (L : Type) : Conversion (.either L) .option where
  convert := Either.right?
  pure _ := rfl
  map effect _ := by cases effect <;> rfl
  map2 effect other _ := by cases effect <;> cases other <;> rfl

/-- A missing value becomes an error, the same one wherever a value is missing. -/
def optionToResult {E : Type} (reason : E) : Conversion .option (.result E) where
  convert effect := effect.elim (.error reason) .ok
  pure _ := rfl
  map effect _ := by cases effect <;> rfl
  map2 effect other _ := by cases effect <;> cases other <;> rfl

/-- A result made of an either is made into that either. -/
theorem ofResult_toResult {L A : Type} (either : Either L A) :
    Either.ofResult either.toResult = either := by
  cases either <;> rfl

/-- A result made of an optional value is made into that optional value. -/
theorem toOption_elim {E A : Type} (reason : E) (option : Option A) :
    (option.elim (Except.error reason) .ok).toOption = option := by
  cases option <;> rfl

/-- All evidence is forgotten. -/
def validatedToOption (E : Type) [Combine E] : Conversion (.validated E) .option where
  convert effect := effect.toResult.toOption
  pure _ := rfl
  map effect _ := by cases effect <;> rfl
  map2 effect other _ := by cases effect <;> cases other <;> rfl

end Conversion

end Fieldwise
