/-
This file proves that the operations of a derived traversal agree with one another. All of them
are one run inside different effects: modifying is the run in no effect, and what is read and
counted is evidence. So the operations agree once it is known what a source focuses on after it
has been modified. A body replaces the focused values of its target and puts the new target in
the place of the old one, from where the next run takes it; and one traversal inside another
modifies by modifying each focused value.
-/

import Fieldwise.Proofs.Replacing
import Fieldwise.Proofs.Slots

namespace Fieldwise

/-! ### Rebuilt sources -/

/-- The rebuilt source is taken apart into the replacement and what was there before, so putting
another replacement in forgets the first one. -/
theorem Reconstruction.exists_bind_build {rebuild : Reconstruction}
    (distinct : rebuild.aggregate.DistinctNames) {source : Value}
    {values : List (Identifier × Value)} (bound : rebuild.bind source = some values)
    (replacement : Value) :
    ∃ values', rebuild.bind (rebuild.build values replacement) = some values' ∧
      values'.lookup rebuild.binding = some replacement ∧
      ∀ other, rebuild.build values' other = rebuild.build values other := by
  obtain ⟨parts, rfl, fits, rfl⟩ := bind_eq_some_iff.mp bound
  obtain ⟨place, inFields, only⟩ := exists_index distinct
  have fits' : (parts.set place replacement).length = rebuild.aggregate.fields.length := by
    rw [List.length_set, fits]
  rw [build_eq_set distinct fits only]
  refine ⟨_, bind_eq_some_iff.mpr ⟨_, rfl, fits', rfl⟩, ?_, fun other => ?_⟩
  · have held := lookup_binding distinct inFields (fits' ▸ inFields)
    rwa [(only place inFields).mpr rfl, List.getElem_set_self] at held
  · rw [build_eq_set distinct fits' only, build_eq_set distinct fits only, List.set_set]

namespace Body

variable {body : Body} {source target : Value}

/-- In no effect a body replaces the focused values of its target. -/
theorem run_plainly {State : Type} (distinct : body.rebuild.aggregate.DistinctNames)
    {values : List (Identifier × Value)} (bound : body.rebuild.bind source = some values)
    (found : values.lookup body.rebuild.binding = some target) (function : Value → Value)
    (state : State) :
    body.run .identity (plainly function) source state =
      (body.rebuild.build values (body.plan.replace function target), state) := by
  have rebuilt := Reconstruction.build_lookup distinct bound found
  rw [run_of_lookup _ _ _ bound found, Plan.run_plainly rebuilt]

variable (distinct : body.rebuild.aggregate.DistinctNames) (name : String)

theorem modify_of_target?_eq_none (absent : body.target? source = none)
    (function : Value → Value) : (body.traversal name).modify source function = source :=
  congrArg Prod.fst (run_of_target?_eq_none .identity (plainly function) () absent)

include distinct

/-- After a source was modified its target is the old one with the focused values replaced. -/
theorem target?_modify (held : body.target? source = some target) (function : Value → Value) :
    body.target? ((body.traversal name).modify source function) =
      some (body.plan.replace function target) := by
  obtain ⟨values, bound, found⟩ := target?_eq_some_iff.mp held
  have modified : (body.traversal name).modify source function = _ :=
    congrArg Prod.fst (run_plainly distinct bound found function ())
  obtain ⟨values', bound', found', -⟩ := Reconstruction.exists_bind_build distinct bound
    (body.plan.replace function target)
  rw [modified]
  exact target?_eq_some_iff.mpr ⟨values', bound', found'⟩

theorem focused_modify (keeps : body.plan.KeepsPlaces) (source : Value)
    (function : Value → Value) :
    body.focused ((body.traversal name).modify source function) =
      (body.focused source).map function := by
  cases held : body.target? source with
  | none => rw [modify_of_target?_eq_none name held, focused_of_target?_eq_none held, List.map_nil]
  | some target =>
    rw [focused_of_target? (target?_modify distinct name held function), focused_of_target? held,
      Plan.focused_replace keeps]

theorem modify_modify (source : Value) (function next : Value → Value) :
    (body.traversal name).modify ((body.traversal name).modify source function) next =
      (body.traversal name).modify source (next ∘ function) := by
  cases held : body.target? source with
  | none =>
    rw [modify_of_target?_eq_none name held, modify_of_target?_eq_none name held,
      modify_of_target?_eq_none name held]
  | some target =>
    obtain ⟨values, bound, found⟩ := target?_eq_some_iff.mp held
    have modified (function : Value → Value) : (body.traversal name).modify source function = _ :=
      congrArg Prod.fst (run_plainly distinct bound found function ())
    obtain ⟨values', bound', found', again⟩ := Reconstruction.exists_bind_build distinct bound
      (body.plan.replace function target)
    have modifiedAgain := congrArg Prod.fst (run_plainly distinct bound' found' next ())
    rw [modified, modified]
    refine modifiedAgain.trans ?_
    rw [again, Plan.replace_replace]

end Body

/-! ### Counting -/

/-- The tracking of evidence that has a unit for each value called on. -/
def Tracking.units (A State : Type) : Tracking (.constant (List Unit)) A State where
  Holds called _ result := List.length result.1 = called.length
  pure _ _ := rfl
  map _ held := held
  map2 {_ _ _ called called' _ first second} _ held held' := by
    show List.length (first.1 ++ second.1 : List Unit) = (called ++ called').length
    rw [List.length_append, List.length_append, held, held']

namespace Traversal

variable {S A B : Type} {traversal : Traversal S A} {focused : S → List A}

/-! ### Derived traversals -/

/-- One traversal inside another modifies each of the values that the outer one focuses on. -/
theorem modify_andThen (outer : Traversal S A) (inner : Traversal A B) (source : S)
    (function : B → B) :
    (outer.andThen inner).modify source function =
      outer.modify source fun value => inner.modify value function := rfl

theorem Derived.count_eq_length (derived : traversal.Derived focused) (source : S) :
    traversal.count source = (traversal.getAll source).length := by
  rw [derived.getAll_eq_focused]
  refine derived.holds (.units A Unit) ?_ source ()
  intro value state
  rfl

theorem Derived.modify_modify (derived : traversal.Derived focused) (source : S)
    (function next : A → A) :
    traversal.modify (traversal.modify source function) next =
      traversal.modify source (next ∘ function) := by
  induction derived with
  | written name builtIn distinct success planned =>
    rw [← aggregate_of_written builtIn success planned] at distinct
    exact Body.modify_modify distinct name source function next
  | ready ready A => exact ready.replace_replace function next source
  | andThen _ _ outerTwice innerTwice =>
    rw [modify_andThen, modify_andThen, modify_andThen, outerTwice]
    exact congrArg _ (funext fun value => innerTwice value function next)

/-- The derived traversals over containers that keep a place or a key for each element: no set
is on the way to the focused values. -/
inductive Positional : {S A : Type} → Traversal S A → (S → List A) → Prop
  /-- The traversal of a body that a built-in generator writes, but not that of sets. -/
  | written {generator : Generator} {field : Field} {aggregate : Aggregate} {context : Context}
      {fragment : Fragment} {body : Body} (name : String)
      (builtIn : generator ∈ Generator.builtin) (other : generator ≠ .set)
      (distinct : aggregate.DistinctNames)
      (success : generator.synthesize field aggregate context = .ok fragment)
      (planned : fragment.body = .planned body) : Positional (body.traversal name) body.focused
  /-- A ready instance on containers of any elements. -/
  | ready {Of : Type → Type} {traverse : Traverse Of} {elements : (A : Type) → Of A → List A}
      (ready : traverse.Ready elements) (A : Type) :
      Positional (traverse.traversal A) (elements A)
  /-- One such traversal inside another. -/
  | andThen {S A B : Type} {outer : Traversal S A} {inner : Traversal A B}
      {outerFocused : S → List A} {innerFocused : A → List B}
      (outerPositional : Positional outer outerFocused)
      (innerPositional : Positional inner innerFocused) :
      Positional (outer.andThen inner) fun source => (outerFocused source).flatMap innerFocused

theorem Positional.derived (positional : traversal.Positional focused) :
    traversal.Derived focused := by
  induction positional with
  | written name builtIn _ distinct success planned =>
    exact .written name builtIn distinct success planned
  | ready ready A => exact .ready ready A
  | andThen _ _ outerDerived innerDerived => exact .andThen outerDerived innerDerived

/-- After a source was modified it focuses on what the function gives on the focused values. -/
theorem Positional.focused_modify (positional : traversal.Positional focused) (source : S)
    (function : A → A) :
    focused (traversal.modify source function) = (focused source).map function := by
  induction positional with
  | written name builtIn other distinct success planned =>
    rw [← aggregate_of_written builtIn success planned] at distinct
    have keeps := Generator.keepsPlaces_of_mem_builtin builtIn other success planned
    exact Body.focused_modify distinct name keeps source function
  | ready ready A => exact ready.elements_replace function source
  | @andThen S A B outer inner outerFocused innerFocused _ _ outerModified innerModified =>
    dsimp only
    rw [modify_andThen, outerModified, List.flatMap_map, List.map_flatMap]
    exact congrArg (fun inside => (outerFocused source).flatMap inside)
      (funext fun value => innerModified value function)

/-! ### Coherent operations -/

/-- The operations of a traversal agree with one another. -/
structure Coherent (traversal : Traversal S A) : Prop where
  getAll_modify : ∀ source function,
    traversal.getAll (traversal.modify source function) = (traversal.getAll source).map function
  modify_modify : ∀ source function next,
    traversal.modify (traversal.modify source function) next =
      traversal.modify source (next ∘ function)
  count : ∀ source, traversal.count source = (traversal.getAll source).length
  getAll_setAll : ∀ source value,
    traversal.getAll (traversal.setAll source value) =
      List.replicate (traversal.count source) value
  setAll_setAll : ∀ source value last,
    traversal.setAll (traversal.setAll source value) last = traversal.setAll source last

theorem Positional.getAll_modify (positional : traversal.Positional focused) (source : S)
    (function : A → A) :
    traversal.getAll (traversal.modify source function) =
      (traversal.getAll source).map function := by
  rw [positional.derived.getAll_eq_focused, positional.derived.getAll_eq_focused,
    positional.focused_modify]

theorem Positional.coherent (positional : traversal.Positional focused) : traversal.Coherent where
  getAll_modify := positional.getAll_modify
  modify_modify := positional.derived.modify_modify
  count := positional.derived.count_eq_length
  getAll_setAll source value := by
    rw [setAll, positional.getAll_modify, positional.derived.count_eq_length, List.map_const']
  setAll_setAll source value last :=
    positional.derived.modify_modify source (fun _ => value) fun _ => last

/-- Modifying a map field leaves every key with the value that the function gives on the one it
had. -/
theorem exists_mapEntries_modify {body : Body} (distinct : body.rebuild.aggregate.DistinctNames)
    {key : TypeExpression} {gathering : Gathering}
    (plan : body.plan = .loop (.entries key) gathering) (name : String) {source target : Value}
    {pairs : List (Value × Value)} (held : body.target? source = some target)
    (found : target.mapEntries? = some pairs) (function : Value → Value) :
    ∃ target' pairs',
      body.target? ((body.traversal name).modify source function) = some target' ∧
      target'.mapEntries? = some pairs' ∧ pairs'.map (·.1) = pairs.map (·.1) ∧
      ∀ key, pairs'.lookup key = (pairs.lookup key).map function := by
  have modified := Body.target?_modify distinct name held function
  rw [plan, Plan.replace, found] at modified
  exact ⟨_, _, modified, Value.mapEntries_mapLike function found,
    Value.map_fst_replaceValues function pairs, Value.lookup_replaceValues function pairs⟩

/-- The operations of a derived traversal cohere. Where every element keeps a place or a key,
what is read after a source was modified is what was read before with the function applied,
modifying twice is modifying once with both functions, as many values are counted as are read,
and of two values that are put everywhere the last one stays. With sets on the way there may be
fewer elements afterwards, but two modifications are still one, and the count is still that of
what is read. In a map it is each key whose value is modified. -/
theorem operations_cohere :
    (∀ {S A : Type} {traversal : Traversal S A} {focused : S → List A},
      traversal.Positional focused → traversal.Coherent) ∧
    (∀ {S A : Type} {traversal : Traversal S A} {focused : S → List A},
      traversal.Derived focused → ∀ (source : S) (function next : A → A),
        traversal.modify (traversal.modify source function) next =
            traversal.modify source (next ∘ function) ∧
          traversal.count source = (traversal.getAll source).length) ∧
    (∀ (body : Body) (name : String) {key : TypeExpression} {gathering : Gathering},
      body.rebuild.aggregate.DistinctNames → body.plan = .loop (.entries key) gathering →
        ∀ {source target : Value} {pairs : List (Value × Value)},
          body.target? source = some target → target.mapEntries? = some pairs →
            ∀ function : Value → Value, ∃ target' pairs',
              body.target? ((body.traversal name).modify source function) = some target' ∧
              target'.mapEntries? = some pairs' ∧ pairs'.map (·.1) = pairs.map (·.1) ∧
              ∀ key, pairs'.lookup key = (pairs.lookup key).map function) := by
  refine ⟨fun positional => positional.coherent, ?_, ?_⟩
  · intro S A traversal focused derived source function next
    exact ⟨derived.modify_modify source function next, derived.count_eq_length source⟩
  · intro body name key gathering distinct plan source target pairs held found function
    exact exists_mapEntries_modify distinct plan name held found function

end Traversal

/-! ### A structure with a map and a set -/

namespace Glossary

/-- A type by its name. -/
def named (name : String) (arguments : Arguments) : WrittenType :=
  .path false [.mk (.plain name) arguments]

/-- The type of texts. -/
def text : WrittenType := named "String" .none

/-- The field with the meanings of words. -/
def meanings : Field :=
  .ofType (.named (.plain "meanings"))
    (named "HashMap" (.angled false [.type text, .type text] false))

/-- The field with the languages of a glossary. -/
def languages : Field :=
  .ofType (.named (.plain "languages")) (named "BTreeSet" (.angled false [.type text] false))

/-- A glossary gives words a meaning in some languages. -/
def aggregate : Aggregate where
  name := .plain "Glossary"
  extent := none
  visibility := []
  generics := default
  style := .named
  fields := [meanings, languages]
  selection := .auto
  runtime := .ofNames true ["undertow"]

/-- The body of the traversal over the meanings. -/
def meaningsBody : Body where
  context := ⟨aggregate.runtime, .ofWritten text⟩
  rebuild := ⟨aggregate, meanings, by decide⟩
  plan := .loop (.entries (.ofWritten text)) .declared

/-- The body of the traversal over the languages. -/
def languagesBody : Body where
  context := ⟨aggregate.runtime, .ofWritten text⟩
  rebuild := ⟨aggregate, languages, by decide⟩
  plan := .loop .elements .declared

theorem distinct : aggregate.DistinctNames := by decide

theorem derived (name : String) :
    (languagesBody.traversal name).Derived languagesBody.focused := by
  have block : languagesBody.tokens.asBlock.isOk := by decide +kernel
  obtain ⟨_, written, planned⟩ := Generator.set_writer.exists_written languagesBody rfl block
  exact .written name (by simp [Generator.builtin, Generator.shapes]) distinct written planned

/-- The meanings of a glossary as a value. -/
def pairs : List (Value × Value) :=
  [(.text "pomme", .text "apple"), (.text "poire", .text "pear")]

/-- A glossary of two words in three languages. -/
def value : Value :=
  .tree .record [.tree .hashedMap (pairs.map Value.entry),
    .tree .orderedSet [.text "Dutch", .text "English", .text "French"]]

end Glossary

theorem Directory.positional : traversal.Positional body.focused := by
  have other : Generator.sequence ≠ .set :=
    fun same => absurd (congrArg Generator.name same) (by decide)
  obtain ⟨_, written, planned⟩ := exists_written
  exact .written _ (by simp [Generator.builtin, Generator.shapes]) other (by decide) written planned

namespace Traversal

/-- All four directories two levels below become one and the same. The three languages of a
glossary become one of which a list is made then, and its words have new meanings. -/
theorem operations_cohere_glossary :
    (Directory.traversal.andThen Directory.traversal).getAll
        ((Directory.traversal.andThen Directory.traversal).setAll Directory.twice (.text "gone")) =
      List.replicate 4 (.text "gone") ∧
    ((Glossary.languagesBody.traversal "languages").modify
      ((Glossary.languagesBody.traversal "languages").modify Glossary.value
        fun _ => .text "German") fun language => .list [language]) =
      (Glossary.languagesBody.traversal "languages").modify Glossary.value
        (fun _ => .list [.text "German"]) ∧
    (Glossary.languagesBody.traversal "languages").count Glossary.value = 3 ∧
    Glossary.meaningsBody.rebuild.aggregate.DistinctNames ∧
    ∃ target pairs,
      Glossary.meaningsBody.target? ((Glossary.meaningsBody.traversal "meanings").modify
        Glossary.value fun meaning => .list [meaning]) = some target ∧
      target.mapEntries? = some pairs ∧
      pairs.lookup (.text "poire") = some (.list [.text "pear"]) := by
  obtain ⟨coherent, derived, entries⟩ := operations_cohere
  obtain ⟨twice, counted⟩ := derived (Glossary.derived "languages") Glossary.value
    (fun _ => .text "German") fun language => .list [language]
  have held : Glossary.meaningsBody.target? Glossary.value =
      some (.tree .hashedMap (Glossary.pairs.map Value.entry)) := by decide +kernel
  have found : (Value.tree .hashedMap (Glossary.pairs.map Value.entry)).mapEntries? =
      some Glossary.pairs := by decide +kernel
  obtain ⟨target, pairs, after, afterPairs, -, values⟩ := entries Glossary.meaningsBody "meanings"
    Glossary.distinct rfl held found fun meaning => .list [meaning]
  refine ⟨?_, twice, counted.trans rfl, Glossary.distinct, target, pairs, after, afterPairs, ?_⟩
  · exact (coherent (.andThen Directory.positional Directory.positional)).getAll_setAll
      Directory.twice (.text "gone")
  · rw [values]
    decide +kernel

end Traversal

end Fieldwise
