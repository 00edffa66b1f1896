/-
This file says what a body that loops over its target yields. If the effect of the whole run
carries a value, the effect of every call carries one, and the value of the run is the source
with a new target in the place of the old one: what is gathered of the values that the calls
gave. For entries each of these values stands with the key of the entry that it was made for.
-/

import Fieldwise.Proofs.Carried
import Fieldwise.Proofs.Collecting

namespace Fieldwise

/-! ### Written bodies -/

/-- A generator writes a body for a field of a structure whose fields have distinct names. -/
def Generator.Writes (generator : Generator) (body : Body) : Prop :=
  body.rebuild.aggregate.DistinctNames ∧ ∃ field context fragment,
    generator.synthesize field body.rebuild.aggregate context = .ok fragment ∧
      fragment.body = .planned body

/-- As soon as its tokens form a block, the body around a plan that is made of the type of the
field is written. -/
theorem Generator.Writer.writes {generator : Generator} {name : String}
    {plan : TypeExpression → Except Problem Plan} (writer : generator.Writer name plan)
    {body : Body} (distinct : body.rebuild.aggregate.DistinctNames)
    (made : plan body.rebuild.target.shape = .ok body.plan) (block : body.tokens.asBlock.isOk) :
    generator.Writes body := by
  obtain ⟨fragment, written, planned⟩ := writer.exists_written body made block
  exact ⟨distinct, _, _, fragment, written, planned⟩

namespace Reconstruction

variable {rebuild : Reconstruction} {replacement source result : Value}
  {values : List (Identifier × Value)}

/-- A value with the replacement in the slot of the target. Every other field has the part that
it had. -/
def Replaces (rebuild : Reconstruction) (replacement source result : Value) : Prop :=
  ∃ parts, source = .tree .record parts ∧ parts.length = rebuild.aggregate.fields.length ∧
    result = .tree .record (List.zipWith
      (fun field part => if field.name = rebuild.target.name then replacement else part)
      rebuild.aggregate.fields parts)

theorem replaces_build (distinct : rebuild.aggregate.DistinctNames)
    (bound : rebuild.bind source = some values) (replacement : Value) :
    rebuild.Replaces replacement source (rebuild.build values replacement) := by
  obtain ⟨parts, rfl, fits, rfl⟩ := bind_eq_some_iff.mp bound
  exact ⟨parts, rfl, fits, build_eq distinct fits replacement⟩

end Reconstruction

/-! ### Plans -/

variable {F : Type → Type} {State : Type} {capability : Capability F}
  {carried : (A : Type) → F A → Option A} (carries : capability.Carries carried)
  {function : Value → State → F Value × State} {state : State} {source target result : Value}

include carries

theorem Capability.Carries.exists_of_mapEffect {A B : Type} {function : A → B}
    {run : F A × State} {result : B}
    (held : carried B (Traverse.mapEffect capability function run).1 = some result) :
    ∃ value, carried A run.1 = some value ∧ function value = result := by
  rwa [Traverse.mapEffect, carries.carried_map, Option.map_eq_some_iff] at held

namespace Plan

variable {build : Value → Value}

theorem exists_gave_of_runElements {gathering : Gathering} {items : List Value}
    (found : gathering.elements? target = some items)
    (yielded : carried Value
      (runElements capability function source target build gathering state).1 = some result) :
    ∃ given, Gave carried function items state given ∧
      result = build (gathering.finish target items.length given) := by
  rw [runElements, found] at yielded
  cases items with
  | nil =>
    have kept := Gathering.finish_elements found
    exact ⟨[], .nil state, kept.symm ▸ carries.eq_of_pure yielded⟩
  | cons item rest =>
    obtain ⟨given, held, rfl⟩ := carries.exists_of_mapEffect yielded
    exact ⟨given, carries.gave_of_traverseList held, rfl⟩

theorem exists_gave_of_runEntries {pairs : List (Value × Value)}
    (found : target.mapEntries? = some pairs)
    (yielded : carried Value
      (runEntries capability function source target build state).1 = some result) :
    ∃ given, Gave carried function (pairs.map (·.2)) state given ∧
      result = build (target.mapLike ((pairs.map (·.1)).zip given)) := by
  rw [runEntries, found] at yielded
  cases pairs with
  | nil =>
    have kept := Value.mapLike_mapEntries found
    exact ⟨[], .nil state, kept.symm ▸ carries.eq_of_pure yielded⟩
  | cons pair rest =>
    obtain ⟨entries, held, rfl⟩ := carries.exists_of_mapEffect yielded
    obtain ⟨given, gave, rfl⟩ := carries.exists_gave_of_collect_nil held
    refine ⟨given, gave.map, ?_⟩
    rw [List.zip, List.zipWith_map_left]

end Plan

/-! ### Bodies -/

namespace Body

variable {body : Body} (distinct : body.rebuild.aggregate.DistinctNames)
  (held : body.target? source = some target)

include distinct held

theorem exists_gave_of_elements {gathering : Gathering}
    (plan : body.plan = .loop .elements gathering) {items : List Value}
    (found : gathering.elements? target = some items)
    (yielded : carried Value (body.run capability function source state).1 = some result) :
    ∃ given, Gave carried function items state given ∧
      body.rebuild.Replaces (gathering.finish target items.length given) source result := by
  obtain ⟨values, bound, lookup⟩ := target?_eq_some_iff.mp held
  rw [run_of_lookup capability function state bound lookup, plan] at yielded
  obtain ⟨given, gave, rfl⟩ := Plan.exists_gave_of_runElements carries found yielded
  exact ⟨given, gave, Reconstruction.replaces_build distinct bound _⟩

theorem exists_gave_of_entries {key : TypeExpression} {gathering : Gathering}
    (plan : body.plan = .loop (.entries key) gathering) {pairs : List (Value × Value)}
    (found : target.mapEntries? = some pairs)
    (yielded : carried Value (body.run capability function source state).1 = some result) :
    ∃ given, Gave carried function (pairs.map (·.2)) state given ∧
      body.rebuild.Replaces (target.mapLike ((pairs.map (·.1)).zip given)) source result := by
  obtain ⟨values, bound, lookup⟩ := target?_eq_some_iff.mp held
  rw [run_of_lookup capability function state bound lookup, plan] at yielded
  obtain ⟨given, gave, rfl⟩ := Plan.exists_gave_of_runEntries carries found yielded
  exact ⟨given, gave, Reconstruction.replaces_build distinct bound _⟩

end Body

end Fieldwise
