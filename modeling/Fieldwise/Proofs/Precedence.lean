/-
This file proves that the generator that was registered first wins, whatever is registered in which
order. A registration puts its generator at the end, so a history of registrations leaves what was
there as it was, with the new generators after it. The candidates for a type are the generators that
support it, in that order, and the first of them is the one that is found. What is registered later
is therefore only found for types that no generator supported before.

The same is true of the candidates of an aggregate. Of those for which a generator was found, with a
body or without one, generator and focus stay what they were; only fields whose types were not
supported can change, and clash with the others then.
-/

import Fieldwise.Proofs.Entries

namespace Fieldwise

variable {shape : TypeExpression} {generator : Generator} {generators : List Generator}

/-! ### Generators that support a type -/

namespace Generator

/-- These are the generators among others that support a type, in the order in which they are there;
every sublist of generators that do is part of this one. -/
structure Supporting (generators : List Generator) (shape : TypeExpression)
    (chosen : List Generator) : Prop where
  inOrder : chosen.Sublist generators
  supports : ∀ generator ∈ chosen, generator.supports shape = true
  complete : ∀ others : List Generator, others.Sublist generators →
    (∀ generator ∈ others, generator.supports shape = true) → others.Sublist chosen

/-- The generator is the first among others that supports a type. -/
def FirstSupporting (generators : List Generator) (shape : TypeExpression)
    (generator : Generator) : Prop :=
  ∃ earlier later, generators = earlier ++ generator :: later ∧
    generator.supports shape = true ∧ ∀ other ∈ earlier, other.supports shape = false

theorem supporting_filter (generators : List Generator) (shape : TypeExpression) :
    Supporting generators shape (generators.filter (·.supports shape)) where
  inOrder := List.filter_sublist
  supports _ member := (List.mem_filter.mp member).2
  complete others inOrder supports := by
    have kept : others.filter (·.supports shape) = others := List.filter_eq_self.mpr supports
    have filtered := inOrder.filter (·.supports shape)
    rwa [kept] at filtered

theorem find?_eq_some_iff_firstSupporting :
    generators.find? (·.supports shape) = some generator ↔
      FirstSupporting generators shape generator := by
  rw [List.find?_eq_some_iff_append]
  constructor
  · rintro ⟨supports, earlier, later, split, passed⟩
    exact ⟨earlier, later, split, supports, fun other member => by simpa using passed other member⟩
  · rintro ⟨earlier, later, split, supports, passed⟩
    exact ⟨supports, earlier, later, split, fun other member => by simp [passed other member]⟩

end Generator

/-- Whether the entry is the diagnostic that no generator supports the type. -/
def Entry.isUnsupported : Entry → Bool
  | .ok _ => false
  | .error diagnostic => diagnostic.problem.isUnsupported

open Generator (Supporting FirstSupporting)

namespace Registry

/-! ### Histories of registrations -/

theorem register_result (registry : Registry) (generator : Generator) (listener : Level) :
    (registry.register generator).result listener = ⟨registry.generators ++ [generator]⟩ := rfl

/-- The registry after a history of registrations. -/
def registered (registry : Registry) (listener : Level) (history : List Generator) : Registry :=
  (registry.registerAll history).result listener

/-- Whoever listens, a history puts its generators at the end, in its order. -/
theorem generators_registered (registry : Registry) (listener : Level) (history : List Generator) :
    (registry.registered listener history).generators = registry.generators ++ history := by
  induction history generalizing registry with
  | nil => exact (List.append_nil _).symm
  | cons generator rest inductionHypothesis =>
    show ((registry.register generator >>= fun next => next.registerAll rest).result
      listener).generators = _
    rw [Logged.result_bind, register_result, ← registered, inductionHypothesis,
      List.append_assoc, List.singleton_append]

variable {before after : Registry} {added : List Generator} {listener : Level}
  {aggregate : Aggregate} {field : Field}

theorem resolve_eq_head? (registry : Registry) (shape : TypeExpression) (listener : Level) :
    (registry.resolve shape).result listener = (registry.candidates shape).head? := by
  rw [resolve_result, candidates, List.head?_filter]

/-! ### Registries with more generators -/

section Extended

variable (extended : after.generators = before.generators ++ added)

include extended

theorem candidates_extended (shape : TypeExpression) :
    after.candidates shape = before.candidates shape ++ added.filter (·.supports shape) := by
  rw [candidates, candidates, extended, List.filter_append]

/-- More generators are asked only if none before them supports the type. -/
theorem find?_extended (shape : TypeExpression) :
    after.generators.find? (·.supports shape) =
      (before.generators.find? (·.supports shape)).or (added.find? (·.supports shape)) := by
  rw [extended, List.find?_append]

/-- What is chosen for a type stays chosen. -/
theorem choice_extended {chosen : Generator × Option TypeExpression}
    (found : before.choice shape = some chosen) : after.choice shape = some chosen := by
  obtain ⟨generator, search, focused⟩ := Option.map_eq_some_iff.mp found
  rw [choice, find?_extended extended, search, Option.some_or, Option.map_some, focused]

/-- A field for which something was chosen has the result that it had. -/
theorem fieldResult_extended {chosen : Generator × Option TypeExpression}
    (found : before.choice field.shape = some chosen) :
    after.fieldResult aggregate field = before.fieldResult aggregate field := by
  obtain ⟨generator, search, -⟩ := Option.map_eq_some_iff.mp found
  unfold fieldResult
  rw [find?_extended extended, search, Option.some_or]

end Extended

/-- For anything but an unsupported type something was chosen. -/
theorem Entered.exists_chosen {chosen : Option (Generator × Option TypeExpression)} {entry : Entry}
    (entered : Entered aggregate field chosen entry) (supported : entry.isUnsupported = false) :
    ∃ generator focus, chosen = some (generator, focus) := by
  cases entered with
  | unresolved => cases supported
  | _ => exact ⟨_, _, rfl⟩

/-! ### The first one wins -/

/-- Both registries find the same generator for a field and choose the same focus, if the type has
one for this generator, and so they give the same result. -/
structure ResolveAlike (before after : Registry) (aggregate : Aggregate) (field : Field)
    (listener : Level) : Prop where
  chosen : ∃ generator focus,
    (before.resolve field.shape).result listener = some generator ∧
    (after.resolve field.shape).result listener = some generator ∧
    before.choice field.shape = some (generator, focus) ∧
    after.choice field.shape = some (generator, focus)
  result : (after.synthesizeField aggregate field).result listener =
    (before.synthesizeField aggregate field).result listener

/-- A field for which something was chosen is resolved as it was. -/
theorem resolveAlike_of_extended (extended : after.generators = before.generators ++ added)
    {focus : Option TypeExpression} (chosen : before.choice field.shape = some (generator, focus))
    (listener : Level) : ResolveAlike before after aggregate field listener := by
  have chosenAgain := choice_extended extended chosen
  refine ⟨⟨generator, focus, ?_, ?_, chosen, chosenAgain⟩, ?_⟩
  · rw [← choice_map_fst, chosen, Option.map_some]
  · rw [← choice_map_fst, chosenAgain, Option.map_some]
  · rw [synthesizeField_result, synthesizeField_result, fieldResult_extended extended chosen]

/-- What a registry keeps of another one when generators are added. -/
structure GoesOn (before after : Registry) (added : List Generator) (listener : Level) : Prop where
  names : after.names = before.names ++ added.map (·.name)
  /-- Candidates only come after those that there were. -/
  candidates : ∀ shape, ∃ gained, after.candidates shape = before.candidates shape ++ gained ∧
    Supporting added shape gained
  /-- The generator that was found is found again. -/
  kept : ∀ shape generator, (before.resolve shape).result listener = some generator →
    (after.resolve shape).result listener = some generator
  /-- Where none was found, the first one that was added for it is. -/
  gained : ∀ shape, (before.resolve shape).result listener = none → ∀ generator,
    (after.resolve shape).result listener = some generator ↔ FirstSupporting added shape generator
  /-- The outcome for an aggregate was made of an entry for each candidate, and every candidate
  whose entry was a definition, or another diagnostic than that its type is not supported, is
  resolved as it was. -/
  fields : ∀ aggregate,
    (before.synthesize aggregate).result listener =
      ⟨aggregate.name, (before.entries aggregate).filterMap Entry.definition?,
        (before.entries aggregate).filterMap Entry.diagnostic? ++
          if ((before.entries aggregate).filterMap Entry.definition?).isEmpty then
            [nothingGenerated aggregate]
          else []⟩ ∧
    List.Forall₂ (fun field entry => entry.isUnsupported = false →
      ResolveAlike before after aggregate field listener)
        aggregate.candidates (before.entries aggregate)

theorem goesOn_of_extended (extended : after.generators = before.generators ++ added)
    (listener : Level) : GoesOn before after added listener where
  names := by
    rw [names, names, extended, List.map_append]
  candidates shape :=
    ⟨added.filter (·.supports shape), candidates_extended extended shape,
      Generator.supporting_filter added shape⟩
  kept shape generator found := by
    rw [resolve_result] at found ⊢
    rw [find?_extended extended, found, Option.some_or]
  gained shape missing generator := by
    rw [resolve_result] at missing ⊢
    rw [find?_extended extended, missing, Option.none_or,
      Generator.find?_eq_some_iff_firstSupporting]
  fields aggregate := by
    refine ⟨synthesize_eq_entries before aggregate listener,
      forall₂_entriesAfter fun kept field supported => ?_⟩
    obtain ⟨generator, focus, chosen⟩ :=
      (before.entered_entryAfter aggregate kept field).exists_chosen supported
    exact resolveAlike_of_extended extended chosen listener

/-- The first registered generator wins, over any history of registrations. The names of a registry
are those that it started with, followed by those of the history in its order. The candidates for a
type are the generators that support it, in this order, and the first of them is found. A registry
to which more generators are added goes on as it was: what was found is found again, candidates
only come at the end, and for a type without a generator the first one that was added for it is
found. So every candidate of an aggregate that had a definition, or a diagnostic that does not say
that its type is unsupported, is resolved to the same generator and focus. -/
theorem first_registered_wins (start : Registry) (history added : List Generator)
    (listener : Level) :
    (start.registered listener history).names = start.names ++ history.map (·.name) ∧
    (∀ shape, Supporting (start.generators ++ history) shape
      ((start.registered listener history).candidates shape)) ∧
    (∀ shape, ((start.registered listener history).resolve shape).result listener =
      ((start.registered listener history).candidates shape).head?) ∧
    GoesOn (start.registered listener history)
      ((start.registered listener history).registered listener added) added listener := by
  have generators := generators_registered start listener history
  refine ⟨?_, fun shape => ?_, fun shape => resolve_eq_head? _ shape listener, ?_⟩
  · rw [names, names, generators, List.map_append]
  · rw [candidates, generators]
    exact Generator.supporting_filter _ shape
  · exact goesOn_of_extended (generators_registered _ listener added) listener

end Registry

/-! ### A generator that takes everything -/

namespace Shelf

/-- A generator that takes every type and writes nothing. -/
def anything : Generator where
  name := "anything"
  supports _ := true
  focusIndex := 0
  multiplicity := .exactlyOne
  synthesize field aggregate _ :=
    .error ((Problem.malformedDeclaration "nothing is written").located aggregate field)

/-- The lender of a shelf, whose type lacks an argument. -/
def lender : Field := field "lender" (applied "Either" [named "String"])

end Shelf

namespace Registry

/-- A number has no generator until one is registered that takes everything. The lender, who has an
error although his type is supported, stays with the generator that was there before. -/
theorem first_registered_wins_shelf :
    (builtin.registered .info [Shelf.anything]).names = builtin.names ++ ["anything"] ∧
    (builtin.resolve (.ofWritten (Shelf.named "u64"))).result .info = none ∧
    ((builtin.registered .info [Shelf.anything]).resolve (.ofWritten (Shelf.named "u64"))).result
      .info = some Shelf.anything ∧
    ((builtin.entries Shelf.aggregate).map Entry.isUnsupported)[2]? = some false ∧
    ResolveAlike builtin (builtin.registered .info [Shelf.anything]) Shelf.aggregate Shelf.lender
      .info := by
  obtain ⟨-, -, -, goesOn⟩ := first_registered_wins builtin [] [Shelf.anything] .info
  have goesOn : GoesOn builtin (builtin.registered .info [Shelf.anything]) [Shelf.anything] .info :=
    goesOn
  have missing : (builtin.resolve (.ofWritten (Shelf.named "u64"))).result .info = none :=
    Option.isNone_iff_eq_none.mp (by decide +kernel)
  have supported : ((builtin.entries Shelf.aggregate).map Entry.isUnsupported)[2]? = some false := by
    decide +kernel
  have first : Generator.FirstSupporting [Shelf.anything] (.ofWritten (Shelf.named "u64"))
      Shelf.anything := ⟨[], [], rfl, rfl, nofun⟩
  refine ⟨goesOn.names, missing, (goesOn.gained _ missing _).mpr first, supported, ?_⟩
  obtain ⟨within, other⟩ := List.getElem?_eq_some_iff.mp supported
  rw [List.getElem_map] at other
  rw [List.length_map] at within
  exact (goesOn.fields Shelf.aggregate).2.get (by decide +kernel) within other

end Registry

end Fieldwise
