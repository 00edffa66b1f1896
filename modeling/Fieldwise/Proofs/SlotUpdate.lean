/-
This file proves that taking an aggregate apart and putting it together again updates one
slot. In the code, the pattern and the expression list the same fields in the same order, and
on every way through a body the value of every field but the target is used once. In the
values, the part of the target is replaced and all other parts are kept.
-/

import Fieldwise.Proofs.ControlFlow
import Fieldwise.Proofs.Derived

namespace Fieldwise.Reconstruction

/-- Taking an aggregate apart and putting it together again updates the slot at the place and
keeps all others. -/
structure UpdatesSlot (rebuild : Reconstruction) (place : Nat) : Prop where
  inFields : place < rebuild.aggregate.fields.length
  /-- The place is that of the target, and of no other field. -/
  only : ∀ other, (inside : other < rebuild.aggregate.fields.length) →
    (rebuild.aggregate.fields[other].name = rebuild.target.name ↔ other = place)
  /-- The pattern lists the fields in declared order, each with its own local name. -/
  pattern : ∀ source, rebuild.destructureTokens source =
    [.plain "let"] ++ rebuild.aggregate.listing (fun field => [.word field.name.binding]) ++
      [.equals, .word source, .semicolon]
  /-- The expression lists the fields in declared order, the target with the replacement and
  every other one with its own local name. -/
  expression : ∀ replacement, rebuild.tokens replacement =
    rebuild.aggregate.listing fun field =>
      if field.name = rebuild.target.name then replacement else [.word field.name.binding]
  /-- A value with one part for each field can be taken apart; each part is then bound to the
  local name of its field. -/
  bound : ∀ parts : List Value, parts.length = rebuild.aggregate.fields.length →
    ∃ values, rebuild.bind (.tree .record parts) = some values ∧
      ∀ other, (inside : other < rebuild.aggregate.fields.length) →
        values.lookup rebuild.aggregate.fields[other].name.binding = parts[other]?
  /-- The value that is put together is the one that was taken apart with the replacement at
  the place. -/
  replaced : ∀ parts values, rebuild.bind (.tree .record parts) = some values →
    ∀ replacement, rebuild.build values replacement = .tree .record (parts.set place replacement)
  /-- With the target's own value at the place it is the value that was taken apart. -/
  unchanged : ∀ source values own, rebuild.bind source = some values →
    values.lookup rebuild.binding = some own → rebuild.build values own = source
  /-- After taking the aggregate apart, a body uses the value of every field but the target once
  on every way through it. -/
  used : ∀ body : Body, body.rebuild = rebuild →
    body.tokens = body.destructureTokens ++ body.flow.tokens ∧
      ∀ way, body.flow.Way way → ∀ field ∈ rebuild.aggregate.fields,
        field.name ≠ rebuild.target.name → (Piece.joined way).Uses field.name.binding 1

variable {rebuild : Reconstruction}

/-- The local name of a field is listed once. -/
theorem count_localNames (distinct : rebuild.aggregate.DistinctNames)
    (listed : rebuild.aggregate.style ≠ .unit) {field : Field}
    (member : field ∈ rebuild.aggregate.fields) :
    rebuild.localNames.count field.name.binding = 1 := by
  have once := List.count_eq_one_of_mem distinct.nodup_map_binding (List.mem_map_of_mem member)
  rw [localNames]
  cases style : rebuild.aggregate.style with
  | named => exact once
  | tuple => exact once
  | unit => exact absurd style listed

theorem exists_updatesSlot (distinct : rebuild.aggregate.DistinctNames)
    (listed : rebuild.aggregate.style ≠ .unit) : ∃ place, rebuild.UpdatesSlot place := by
  obtain ⟨place, inFields, only⟩ := exists_index distinct
  refine ⟨place, inFields, only, rebuild.destructureTokens_eq, rebuild.tokens_eq,
    fun parts fits => ⟨_, bind_eq_some_iff.mpr ⟨parts, rfl, fits, rfl⟩, fun other inside => ?_⟩,
    fun parts values bound replacement => ?_, fun _ _ _ bound found => ?_, ?_⟩
  · rw [lookup_binding distinct inside (fits ▸ inside), List.getElem?_eq_getElem]
  · obtain ⟨_, ⟨⟩, fits, rfl⟩ := bind_eq_some_iff.mp bound
    exact build_eq_set distinct fits only replacement
  · exact build_lookup distinct bound found
  · rintro body rfl
    refine ⟨body.tokens_eq_flow, fun way through field member other => ?_⟩
    have different : field.name.binding ≠ body.rebuild.binding :=
      fun same => other ((name_eq_target_iff distinct member).mpr same)
    have uses := through.uses (Body.uses_flow field.name.foreign_binding different)
    rwa [count_localNames distinct listed member] at uses

/-- For a structure whose fields have distinct names, the local names of the fields differ from
one another and from all others in a body, and a reconstruction around any of the fields updates
its slot and no other. Around a field that the structure does not have there is none. -/
theorem updates_one_slot (aggregate : Aggregate) (distinct : aggregate.DistinctNames)
    (listed : aggregate.style ≠ .unit) :
    (aggregate.fields.map fun field => field.name.binding).Nodup ∧
    (∀ field ∈ aggregate.fields, field.name.binding ∉ Body.locals) ∧
    ∀ target : Field,
      ((∃ field ∈ aggregate.fields, field.name = target.name) →
        ∃ rebuild, around aggregate target = .ok rebuild ∧ rebuild.aggregate = aggregate ∧
          rebuild.target = target ∧ ∃ place, rebuild.UpdatesSlot place) ∧
      ((∀ field ∈ aggregate.fields, field.name ≠ target.name) →
        around aggregate target =
          .error (.reconstructionMismatch aggregate.name.spelling target.name.display)) := by
  refine ⟨distinct.nodup_map_binding, fun field _ => field.name.binding_not_mem_locals,
    fun target => ⟨fun ⟨field, member, same⟩ => ?_, around_eq_error⟩⟩
  have declared : (aggregate.field? target.name).isSome :=
    List.find?_isSome.mpr ⟨field, member, beq_iff_eq.mpr same⟩
  exact ⟨⟨aggregate, target, declared⟩, dif_pos declared, rfl, rfl,
    exists_updatesSlot distinct listed⟩

/-- The slot of the directories inside a directory is updated, and the label is kept. -/
theorem updates_one_slot_directory :
    Directory.aggregate.DistinctNames ∧ Directory.aggregate.style ≠ .unit ∧
      (∃ field ∈ Directory.aggregate.fields, field.name = Directory.entries.name) ∧
      ∃ rebuild, around Directory.aggregate Directory.entries = .ok rebuild ∧
        rebuild.aggregate = Directory.aggregate ∧ rebuild.target = Directory.entries ∧
          ∃ place, rebuild.UpdatesSlot place :=
  have distinct : Directory.aggregate.DistinctNames := by decide
  have listed : Directory.aggregate.style ≠ .unit := by decide
  have declared : ∃ field ∈ Directory.aggregate.fields, field.name = Directory.entries.name :=
    ⟨Directory.entries, by simp [Directory.aggregate], rfl⟩
  ⟨distinct, listed, declared,
    ((updates_one_slot Directory.aggregate distinct listed).2.2 Directory.entries).1 declared⟩

end Fieldwise.Reconstruction
