/-
This file proves what taking an aggregate apart and putting it together again does to its
value. Where no two fields share a name, every field has a local name of its own, so each
slot of the rebuilt value holds the part it held before, except that of the target, which
holds the replacement. With the target's own part as the replacement nothing changes.
-/

import Fieldwise.Body.Meaning

namespace Fieldwise

/-- No two fields of the aggregate have one name, whether it is written with `r#` or not.
The language refuses structures of any other kind. -/
def Aggregate.DistinctNames (aggregate : Aggregate) : Prop :=
  (aggregate.fields.map fun field => field.name.display).Nodup

instance (aggregate : Aggregate) : Decidable aggregate.DistinctNames :=
  inferInstanceAs (Decidable (List.Nodup _))

/-! ### Local names -/

/-- Two fields have one local name exactly when they have one name. -/
theorem FieldName.binding_eq_iff {left right : FieldName} :
    left.binding = right.binding ↔ left.display = right.display := by
  simp only [binding, Identifier.plain, Identifier.mk.injEq, true_and]
  exact String.append_right_inj "__field_"

/-- Where no two fields share a name, no two share a local name. -/
theorem Aggregate.DistinctNames.nodup_map_binding {aggregate : Aggregate}
    (distinct : aggregate.DistinctNames) :
    (aggregate.fields.map fun field => field.name.binding).Nodup := by
  have displays : aggregate.fields.Pairwise fun left right =>
      left.name.display ≠ right.name.display := List.pairwise_map.mp distinct
  rw [List.nodup_iff_pairwise_ne, List.pairwise_map]
  exact displays.imp fun different same => different (FieldName.binding_eq_iff.mp same)

theorem Aggregate.DistinctNames.nodup_bindings {rebuild : Reconstruction}
    (distinct : rebuild.aggregate.DistinctNames) :
    (rebuild.bindings.map (·.2)).Nodup := by
  rw [Reconstruction.bindings, List.map_map]
  exact distinct.nodup_map_binding

/-- In a list that joins distinct keys to values, every key is found with its value. -/
theorem lookup_zip_getElem {Key Part : Type} [DecidableEq Key] {keys : List Key}
    {parts : List Part} (distinct : keys.Nodup) {index : Nat} (inKeys : index < keys.length)
    (inParts : index < parts.length) :
    (keys.zip parts).lookup keys[index] = some parts[index] := by
  induction keys generalizing parts index with
  | nil => cases inKeys
  | cons key rest inductionHypothesis =>
    obtain ⟨fresh, distinctRest⟩ := List.nodup_cons.mp distinct
    cases parts with
    | nil => cases inParts
    | cons part parts =>
      cases index with
      | zero => rw [List.zip_cons_cons, List.getElem_cons_zero, List.lookup_cons_self]; rfl
      | succ index =>
        have inRest : index < rest.length := Nat.lt_of_succ_lt_succ inKeys
        have different : (rest[index] == key) = false := by
          rw [beq_eq_false_iff_ne]
          exact fun same => fresh (same ▸ List.getElem_mem inRest)
        rw [List.zip_cons_cons, List.getElem_cons_succ, List.lookup_cons, different,
          List.getElem_cons_succ]
        exact inductionHypothesis distinctRest inRest (Nat.lt_of_succ_lt_succ inParts)

/-! ### Slots -/

namespace Reconstruction

variable {rebuild : Reconstruction} {source : Value} {values : List (Identifier × Value)}

/-- A value can be taken apart exactly when it holds one part for each field; the parts are
bound to the local names in declared order. -/
theorem bind_eq_some_iff :
    rebuild.bind source = some values ↔
      ∃ parts, source = .tree .record parts ∧
        parts.length = rebuild.aggregate.fields.length ∧
          values = (rebuild.bindings.map (·.2)).zip parts := by
  constructor
  · intro bound
    unfold bind at bound
    split at bound
    · rename_i parts
      split at bound
      · rename_i fits
        exact ⟨parts, rfl, fits, (Option.some.inj bound).symm⟩
      · cases bound
    · cases bound
  · rintro ⟨parts, rfl, fits, rfl⟩
    simp only [bind, if_pos fits]

/-- The local name of each field holds the part at the field's place. -/
theorem lookup_binding (distinct : rebuild.aggregate.DistinctNames) {parts : List Value}
    {index : Nat} (inFields : index < rebuild.aggregate.fields.length)
    (inParts : index < parts.length) :
    ((rebuild.bindings.map (·.2)).zip parts).lookup
        rebuild.aggregate.fields[index].name.binding = some parts[index] := by
  have inNames : index < (rebuild.bindings.map (·.2)).length := by
    simpa [bindings] using inFields
  have name : (rebuild.bindings.map (·.2))[index] =
      rebuild.aggregate.fields[index].name.binding := by
    simp [bindings]
  rw [← name]
  exact lookup_zip_getElem distinct.nodup_bindings inNames inParts

/-- The rebuilt value keeps the part of every field but the target, whose slot holds the
replacement. -/
theorem build_eq (distinct : rebuild.aggregate.DistinctNames) {parts : List Value}
    (fits : parts.length = rebuild.aggregate.fields.length) (replacement : Value) :
    rebuild.build ((rebuild.bindings.map (·.2)).zip parts) replacement =
      .tree .record (List.zipWith
        (fun field part => if field.name = rebuild.target.name then replacement else part)
        rebuild.aggregate.fields parts) := by
  rw [build, slots, List.map_map]
  refine congrArg (Value.tree .record) (List.ext_getElem ?_ fun index inFields inParts => ?_)
  · rw [List.length_map, List.length_zipWith, fits, Nat.min_self]
  · rw [List.length_map] at inFields
    have held := lookup_binding distinct inFields (fits ▸ inFields)
    rw [List.getElem_map, List.getElem_zipWith, Function.comp_apply, slotOf]
    by_cases same : rebuild.aggregate.fields[index].name = rebuild.target.name
    · rw [if_pos same, if_pos same, fill]
    · rw [if_neg same, if_neg same, fill, held, Option.getD_some]

/-- With the target's own part in its slot, the rebuilt value is the one that was taken
apart. -/
theorem build_lookup (distinct : rebuild.aggregate.DistinctNames)
    (bound : rebuild.bind source = some values) {part : Value}
    (found : values.lookup rebuild.binding = some part) :
    rebuild.build values part = source := by
  obtain ⟨parts, rfl, fits, rfl⟩ := bind_eq_some_iff.mp bound
  rw [build_eq distinct fits]
  refine congrArg (Value.tree .record) (List.ext_getElem ?_ fun index _ inParts => ?_)
  · rw [List.length_zipWith, fits, Nat.min_self]
  · have inFields : index < rebuild.aggregate.fields.length := fits ▸ inParts
    rw [List.getElem_zipWith]
    split
    · rename_i same
      have held := lookup_binding distinct inFields inParts
      rw [same] at held
      exact Option.some.inj (found.symm.trans held)
    · rfl

end Reconstruction

end Fieldwise
