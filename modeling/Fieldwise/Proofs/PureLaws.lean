/-
This file says which capabilities treat a plain value as an effect that does nothing:
applying a function to a plain value inside the effect gives the plain result, and so does
joining two plain values. The capabilities that come with the library all do, the one of
evidence alone as soon as its evidence is put together lawfully.
-/

import Fieldwise.Capability

namespace Fieldwise

/-! ### Lawful evidence -/

/-- Putting evidence together does not depend on how the pieces are grouped. -/
class LawfulCombine (A : Type) [Combine A] : Prop where
  combine_assoc : ∀ first second third : A,
    combine (combine first second) third = combine first (combine second third)

/-- Beyond that, the evidence that says nothing adds nothing on either side. -/
class LawfulCombineEmpty (A : Type) [CombineEmpty A] : Prop extends LawfulCombine A where
  empty_combine : ∀ evidence : A, combine CombineEmpty.empty evidence = evidence
  combine_empty : ∀ evidence : A, combine evidence CombineEmpty.empty = evidence

instance {A : Type} : LawfulCombineEmpty (List A) where
  combine_assoc := List.append_assoc
  empty_combine := List.nil_append
  combine_empty := List.append_nil

/-! ### Plain values inside effects -/

namespace Capability

/-- Plain values stay plain when a function is applied to them and when they are joined. -/
structure PureLaws {F : Type → Type} (capability : Capability F) : Prop where
  map_pure : ∀ {A B : Type} (value : A) (function : A → B),
    capability.map (capability.pure value) function = capability.pure (function value)
  map2_pure : ∀ {A B C : Type} (first : A) (second : B) (function : A → B → C),
    capability.map2 (capability.pure first) (capability.pure second) function =
      capability.pure (function first second)

/-- The capabilities that come with the library, where the evidence that stands alone in an
effect is lawful. -/
inductive BuiltIn : {F : Type → Type} → Capability F → Prop
  | identity : BuiltIn .identity
  | option : BuiltIn .option
  | result (E : Type) : BuiltIn (.result E)
  | either (L : Type) : BuiltIn (.either L)
  | validated (E : Type) [Combine E] : BuiltIn (.validated E)
  | constant (M : Type) [CombineEmpty M] [LawfulCombineEmpty M] : BuiltIn (.constant M)

/-- Evidence alone: plain values carry the evidence that says nothing, so joining two of
them is putting that evidence together with itself. -/
theorem constant_pureLaws (M : Type) [CombineEmpty M] [LawfulCombineEmpty M] :
    (constant M).PureLaws where
  map_pure _ _ := rfl
  map2_pure _ _ _ := LawfulCombineEmpty.empty_combine _

theorem BuiltIn.pureLaws {F : Type → Type} {capability : Capability F}
    (builtIn : capability.BuiltIn) : capability.PureLaws := by
  cases builtIn with
  | identity => exact ⟨fun _ _ => rfl, fun _ _ _ => rfl⟩
  | option => exact ⟨fun _ _ => rfl, fun _ _ _ => rfl⟩
  | result E => exact ⟨fun _ _ => rfl, fun _ _ _ => rfl⟩
  | either L => exact ⟨fun _ _ => rfl, fun _ _ _ => rfl⟩
  | validated E => exact ⟨fun _ _ => rfl, fun _ _ _ => rfl⟩
  | constant M => exact constant_pureLaws M

end Capability

end Fieldwise
