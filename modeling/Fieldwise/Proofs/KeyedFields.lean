/-
This file proves what becomes of maps and sets inside effects. The entries of a map are taken
out in order, each value is replaced by what its call gave, and the entries are collected again.
As the keys are still those of a map, collecting them neither drops an entry nor puts one in the
place of another. A set has no keys besides its elements, so equal values become one: the new
set is the image of the old one, which is as large only if the calls gave different values.
-/

import Fieldwise.Proofs.Coherence
import Fieldwise.Proofs.Yielding

namespace Fieldwise

variable {F : Type → Type} {State : Type} {capability : Capability F}
  {carried : (A : Type) → F A → Option A} {body : Body} {source target : Value}
  {function : Value → State → F Value × State} {state : State} {result : Value}

/-! ### Maps -/

/-- A key of a map with replaced values is found with the value in its place. -/
theorem lookup_zip_keys {pairs : List (Value × Value)} (distinct : (pairs.map (·.1)).Nodup)
    {given : List Value} (fits : given.length = pairs.length) {place : Nat}
    (inside : place < pairs.length) :
    ((pairs.map (·.1)).zip given).lookup pairs[place].1 = given[place]? := by
  have inKeys : place < (pairs.map (·.1)).length := by rwa [List.length_map]
  have inGiven : place < given.length := fits ▸ inside
  have key : pairs[place].1 = (pairs.map (·.1))[place] := (List.getElem_map _).symm
  rw [key, lookup_zip_getElem distinct inKeys inGiven, List.getElem?_eq_getElem inGiven]

/-- The new map has the keys of the old one, each with what the call on its value gave. -/
theorem Generator.Writes.exists_entries (writes : Generator.map.Writes body)
    (held : body.target? source = some target) {pairs : List (Value × Value)}
    (found : target.mapEntries? = some pairs) (carries : capability.Carries carried)
    (yielded : carried Value (body.run capability function source state).1 = some result) :
    ∃ label entries, target = .tree label (pairs.map Value.entry) ∧
      body.rebuild.Replaces (.tree label (entries.map Value.entry)) source result ∧
      (Value.tree label (entries.map Value.entry)).mapEntries? = some entries ∧
      entries.map (·.1) = pairs.map (·.1) ∧
      ∀ place, (inside : place < pairs.length) →
        entries.lookup pairs[place].1 = carried Value (function pairs[place].2
          (stateAfter function ((pairs.take place).map (·.2)) state)).1 := by
  obtain ⟨distinct, _, _, _, written, planned⟩ := writes
  obtain ⟨key, plan⟩ := Generator.exists_plan_of_map written planned
  obtain ⟨given, gave, replaced⟩ :=
    Body.exists_gave_of_entries carries distinct held plan found yielded
  have fits : given.length = pairs.length := gave.length_eq.trans (List.length_map _)
  have keys : ((pairs.map (·.1)).zip given).map (·.1) = pairs.map (·.1) :=
    List.map_fst_zip (by rw [List.length_map, fits])
  obtain ⟨label, old, new, entries⟩ := Value.exists_label_mapLike found keys
  rw [new] at replaced entries
  refine ⟨label, _, old, replaced, entries, keys, fun place inside => ?_⟩
  have inValues : place < (pairs.map (·.2)).length := by rwa [List.length_map]
  have call := gave.carried_getElem inValues
  rw [List.getElem_map, ← List.map_take] at call
  rw [lookup_zip_keys (Value.nodup_keys found) fits inside, call]

/-! ### Sets -/

/-- The new set has what the calls gave as its elements, and nothing else. -/
theorem Generator.Writes.exists_image (writes : Generator.set.Writes body)
    (held : body.target? source = some target) {parts : List Value}
    (found : target.setElements? = some parts) (carries : capability.Carries carried)
    (yielded : carried Value (body.run capability function source state).1 = some result) :
    ∃ label image given, target = .tree label parts ∧
      body.rebuild.Replaces (.tree label image) source result ∧
      (Value.tree label image).setElements? = some image ∧
      Gave carried function parts state given ∧
      (∀ value, value ∈ image ↔ value ∈ given) ∧ image.length ≤ parts.length ∧
      (given.Nodup → image.length = parts.length) := by
  obtain ⟨distinct, _, _, _, written, planned⟩ := writes
  have plan := Generator.plan_of_set written planned
  have elements : Gathering.declared.elements? target = some parts := found
  obtain ⟨given, gave, replaced⟩ :=
    Body.exists_gave_of_elements carries distinct held plan elements yielded
  obtain ⟨label, image, old, new, again, once, members⟩ := Value.exists_parts_setLike found given
  rw [Gathering.finish, new] at replaced
  rw [new] at again
  refine ⟨label, image, given, old, replaced, again, gave, members, ?_, fun different => ?_⟩
  · have among : image ⊆ given := fun value member => (members value).mp member
    rw [← gave.length_eq]
    exact (List.subperm_of_subset once among).length_le
  · rw [← gave.length_eq]
    exact ((List.perm_ext_iff_of_nodup once different).mpr members).length_eq

/-- Maps keep their keys, and sets become the image. Whenever the run of a body that is written
for a map yields a value, the new map is of the same kind and has exactly the keys of the old one,
each with the value that the function gave for what it held before; the call is made in the state
that the calls on the entries before it leave behind. Whenever the run of a body that is written
for a set yields a value, the elements of the new set are exactly what the function gave for those
of the old one, so they are no more than these, and as many if it gave different values. All other
fields keep their values. -/
theorem maps_keep_keys_and_sets_become_images :
    (∀ {body : Body}, Generator.map.Writes body →
      ∀ {source target : Value} {pairs : List (Value × Value)},
        body.target? source = some target → target.mapEntries? = some pairs →
      ∀ {F : Type → Type} {capability : Capability F} {carried : (A : Type) → F A → Option A},
        capability.Carries carried →
      ∀ {State : Type} (function : Value → State → F Value × State) (state : State) (result : Value),
        carried Value (body.run capability function source state).1 = some result →
          ∃ label entries, target = .tree label (pairs.map Value.entry) ∧
            body.rebuild.Replaces (.tree label (entries.map Value.entry)) source result ∧
            (Value.tree label (entries.map Value.entry)).mapEntries? = some entries ∧
            entries.map (·.1) = pairs.map (·.1) ∧
            ∀ place, (inside : place < pairs.length) →
              entries.lookup pairs[place].1 = carried Value (function pairs[place].2
                (stateAfter function ((pairs.take place).map (·.2)) state)).1) ∧
    (∀ {body : Body}, Generator.set.Writes body →
      ∀ {source target : Value} {parts : List Value},
        body.target? source = some target → target.setElements? = some parts →
      ∀ {F : Type → Type} {capability : Capability F} {carried : (A : Type) → F A → Option A},
        capability.Carries carried →
      ∀ {State : Type} (function : Value → State → F Value × State) (state : State) (result : Value),
        carried Value (body.run capability function source state).1 = some result →
          ∃ label image given, target = .tree label parts ∧
            body.rebuild.Replaces (.tree label image) source result ∧
            (Value.tree label image).setElements? = some image ∧
            Gave carried function parts state given ∧
            (∀ value, value ∈ image ↔ value ∈ given) ∧ image.length ≤ parts.length ∧
            (given.Nodup → image.length = parts.length)) := by
  refine ⟨?_, ?_⟩
  · intro body writes source target pairs held found F capability carried carries State function
      state result yielded
    exact writes.exists_entries held found carries yielded
  · intro body writes source target parts held found F capability carried carries State function
      state result yielded
    exact writes.exists_image held found carries yielded

/-! ### Maps and sets of a glossary -/

namespace Glossary

theorem map_writes : Generator.map.Writes meaningsBody := by
  have block : meaningsBody.tokens.asBlock.isOk := by decide +kernel
  exact Generator.map_writer.writes distinct rfl block

theorem set_writes : Generator.set.Writes languagesBody := by
  have block : languagesBody.tokens.asBlock.isOk := by decide +kernel
  exact Generator.set_writer.writes distinct rfl block

/-- The glossary with its meanings numbered. -/
def numbered : Value :=
  .tree .record [.tree .hashedMap [Value.entry (.text "pomme", .list [.text "apple", .integer 1]),
    Value.entry (.text "poire", .list [.text "pear", .integer 2])],
    .tree .orderedSet [.text "Dutch", .text "English", .text "French"]]

/-- The glossary with one language. -/
def merged : Value :=
  .tree .record [.tree .hashedMap (pairs.map Value.entry), .tree .orderedSet [.text "German"]]

end Glossary

/-- The meanings of two words are numbered, and each word keeps its own. Three languages become
one when the function gives the same for all of them. -/
theorem maps_keep_keys_and_sets_become_images_glossary :
    (∃ entries : List (Value × Value), entries.map (·.1) = [.text "pomme", .text "poire"] ∧
      entries.lookup (.text "poire") = some (.list [.text "pear", .integer 2]) ∧
      Glossary.meaningsBody.rebuild.Replaces (.tree .hashedMap (entries.map Value.entry))
        Glossary.value Glossary.numbered) ∧
    ∃ image, image.length ≤ 3 ∧ Glossary.languagesBody.rebuild.Replaces (.tree .orderedSet image)
      Glossary.value Glossary.merged := by
  obtain ⟨maps, sets⟩ := maps_keep_keys_and_sets_become_images
  refine ⟨?_, ?_⟩
  · have held : Glossary.meaningsBody.target? Glossary.value =
        some (.tree .hashedMap (Glossary.pairs.map Value.entry)) := by decide +kernel
    have found : (Value.tree .hashedMap (Glossary.pairs.map Value.entry)).mapEntries? =
        some Glossary.pairs := by decide +kernel
    have yielded : (Glossary.meaningsBody.run .option
        (fun value count => (some (.list [value, .integer count]), count + 1))
        Glossary.value 1).1 = some Glossary.numbered := by decide +kernel
    obtain ⟨label, entries, kind, replaced, -, keys, values⟩ :=
      maps Glossary.map_writes held found .option _ 1 Glossary.numbered yielded
    cases kind
    exact ⟨entries, keys, values 1 (by decide), replaced⟩
  · have held : Glossary.languagesBody.target? Glossary.value =
        some (.tree .orderedSet [.text "Dutch", .text "English", .text "French"]) := by
      decide +kernel
    have found : (Value.tree .orderedSet
        [.text "Dutch", .text "English", .text "French"]).setElements? =
        some [.text "Dutch", .text "English", .text "French"] := by decide +kernel
    have yielded : (Glossary.languagesBody.run (.validated (List Value))
        (fun _ count => (.valid (.text "German"), count + 1)) Glossary.value 0).1 =
        .valid Glossary.merged := by decide +kernel
    obtain ⟨label, image, given, kind, replaced, -, -, -, fewer, -⟩ :=
      sets Glossary.set_writes held found (.validated (List Value)) _ 0 Glossary.merged
        (congrArg (fun effect => effect.toResult.toOption) yielded)
    cases kind
    exact ⟨image, fewer, replaced⟩

end Fieldwise
