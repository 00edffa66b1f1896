/-
This file proves that listening does not interfere, and says exactly what is heard. Work is steady
if its result is the same for all listeners and each of them hears the events of its level among
all that are reported. Plain results and single reports are steady, and so is work that goes on
after steady work; so everything that is made of reports is, and synthesis with it.

Of each candidate, in declared order, at most three things are reported: that several generators
support its type, which generator was found for it, and that its body was written. At the end
comes the one event that counts what was found.
-/

import Fieldwise.Proofs.Results

namespace Fieldwise

/-! ### Steady work -/

namespace Logged

variable {Result Next : Type}

@[simp] theorem events_pure (result : Result) (listener : Level) :
    (pure result : Logged Result).events listener = [] := rfl

@[simp] theorem events_bind (work : Logged Result) (next : Result → Logged Next)
    (listener : Level) :
    (work >>= next).events listener =
      work.events listener ++ (next (work.result listener)).events listener := rfl

theorem events_report (event : Event) (listener : Level) :
    (report event).events listener = if listener.hears event.level then [event] else [] := rfl

/-- Nothing escapes who listens to all detail. -/
@[simp] theorem events_report_trace (event : Event) : (report event).events .trace = [event] := by
  rw [events_report]
  exact if_pos (decide_eq_true (Nat.zero_le _))

/-- The result does not depend on who listens, and who listens hears the events of its level among
all that there are. -/
structure Steady (work : Logged Result) : Prop where
  result : ∀ listener, work.result listener = work.result .trace
  events : ∀ listener, work.events listener =
    (work.events .trace).filter fun event => listener.hears event.level

theorem steady_pure (result : Result) : (pure result : Logged Result).Steady :=
  ⟨fun _ => rfl, fun _ => rfl⟩

theorem steady_report (event : Event) : (report event).Steady := by
  refine ⟨fun _ => rfl, fun listener => ?_⟩
  rw [events_report_trace, events_report, List.filter_cons, List.filter_nil]

/-- Work goes on in the same way for all listeners, so what they hear of it adds up. -/
theorem Steady.bind {work : Logged Result} {next : Result → Logged Next} (steady : work.Steady)
    (steadyNext : ∀ result, (next result).Steady) : (work >>= next).Steady := by
  refine ⟨fun listener => ?_, fun listener => ?_⟩
  · rw [result_bind, result_bind, steady.result listener, (steadyNext _).result listener]
  · rw [events_bind, events_bind, List.filter_append, steady.result listener,
      ← steady.events listener, ← (steadyNext _).events listener]

variable {work : Logged Result} (steady : work.Steady)

include steady

/-- Less detail is the same without the events of all detail. -/
theorem Steady.events_debug :
    work.events .debug = (work.events .trace).filter fun event => event.level != .trace := by
  rw [steady.events]
  refine List.filter_congr fun event _ => ?_
  cases event <;> rfl

/-- No event is of a level that those hear who do not listen to details. -/
theorem Steady.events_info : work.events .info = [] := by
  rw [steady.events, List.filter_eq_nil_iff]
  intro event _
  cases event <;> exact Bool.false_ne_true

end Logged

namespace Registry

open Logged

variable (registry : Registry) (aggregate : Aggregate)

theorem steady_resolve (shape : TypeExpression) : (registry.resolve shape).Steady := by
  unfold resolve
  split
  · exact steady_pure _
  · rename_i shadowed _
    cases shadowed with
    | nil => exact steady_pure _
    | cons _ _ => exact (steady_report _).bind fun _ => steady_pure _

theorem steady_synthesizeWith (generator : Generator) (field : Field) :
    (synthesizeWith generator aggregate field).Steady := by
  unfold synthesizeWith
  split
  · exact steady_pure _
  · split
    · exact steady_pure _
    · exact (steady_report _).bind fun _ => steady_pure _

theorem steady_synthesizeField (field : Field) :
    (registry.synthesizeField aggregate field).Steady := by
  refine (registry.steady_resolve field.shape).bind fun resolved => ?_
  cases resolved with
  | none => exact steady_pure _
  | some generator =>
    exact (steady_report _).bind fun _ => steady_synthesizeWith aggregate generator field

theorem steady_synthesizeFields (fields : List Field) (before : List Definition × List Diagnostic) :
    (registry.synthesizeFields aggregate fields before).Steady := by
  induction fields generalizing before with
  | nil => exact steady_pure before
  | cons field rest inductionHypothesis =>
    exact (registry.steady_synthesizeField aggregate field).bind fun _ => inductionHypothesis _

theorem steady_synthesize : (registry.synthesize aggregate).Steady :=
  (registry.steady_synthesizeFields aggregate aggregate.candidates ([], [])).bind fun _ =>
    (steady_report _).bind fun _ => steady_pure _

/-! ### What is reported of a candidate -/

/-- The event that several generators support a type, if they do. -/
def overlap? (shape : TypeExpression) : Option Event :=
  match registry.candidates shape with
  | chosen :: next :: rest =>
    some (.overlapping shape.display chosen.name ((next :: rest).map (·.name)))
  | _ => none

/-- The event that a generator was found for a field, if there is one. -/
def resolution? (field : Field) : Option Event :=
  (registry.candidates field.shape).head?.map fun chosen =>
    .resolved aggregate.name.spelling field.name.display chosen.name

/-- The event that the body of a field was written, if it was. -/
def writing? (field : Field) : Option Event :=
  (Entry.definition? (registry.fieldResult aggregate field)).map fun definition =>
    .written definition.generator definition.body.tokens.print

/-- What is reported of a candidate, in order. -/
def reports (field : Field) : List Event :=
  (registry.overlap? field.shape).toList ++ (registry.resolution? aggregate field).toList ++
    (registry.writing? aggregate field).toList

variable {registry aggregate} {shape : TypeExpression} {field : Field} {event : Event}

theorem overlap?_eq_some_iff :
    registry.overlap? shape = some event ↔
      2 ≤ (registry.candidates shape).length ∧
        ∃ chosen shadowed, registry.candidates shape = chosen :: shadowed ∧
          event = .overlapping shape.display chosen.name (shadowed.map (·.name)) := by
  unfold overlap?
  constructor
  · intro reported
    split at reported
    · rename_i chosen next rest candidates
      rw [candidates]
      exact ⟨by simp, chosen, next :: rest, rfl, (Option.some.inj reported).symm⟩
    · cases reported
  · rintro ⟨several, chosen, shadowed, candidates, rfl⟩
    rw [candidates] at several ⊢
    cases shadowed with
    | nil => exact absurd several (Nat.not_succ_le_self 1)
    | cons next rest => rfl

theorem resolution?_eq_some_iff :
    registry.resolution? aggregate field = some event ↔
      ∃ chosen shadowed, registry.candidates field.shape = chosen :: shadowed ∧
        event = .resolved aggregate.name.spelling field.name.display chosen.name := by
  unfold resolution?
  cases registry.candidates field.shape with
  | nil => simp
  | cons chosen shadowed =>
    simp only [List.head?_cons, Option.map_some, Option.some.injEq, List.cons.injEq]
    constructor
    · rintro rfl
      exact ⟨chosen, shadowed, ⟨rfl, rfl⟩, rfl⟩
    · rintro ⟨_, _, ⟨rfl, rfl⟩, rfl⟩
      rfl

theorem writing?_eq_some_iff :
    registry.writing? aggregate field = some event ↔
      ∃ chosen shadowed focus body, registry.candidates field.shape = chosen :: shadowed ∧
        chosen.focusOf? field.shape = some focus ∧
          chosen.synthesize field aggregate ⟨aggregate.runtime, focus⟩ = .ok body ∧
            event = .written chosen.name body.tokens.print := by
  unfold writing?
  rw [Option.map_eq_some_iff]
  constructor
  · rintro ⟨definition, defined, rfl⟩
    obtain ⟨chosen, focus, body, found, focused, written, rfl⟩ :=
      fieldResult_eq_ok_iff.mp (Entry.eq_ok_of_definition? defined)
    rw [← List.head?_filter, List.head?_eq_some_iff] at found
    obtain ⟨shadowed, candidates⟩ := found
    exact ⟨chosen, shadowed, focus, body, candidates, focused, written, rfl⟩
  · rintro ⟨chosen, shadowed, focus, body, candidates, focused, written, rfl⟩
    have found : registry.generators.find? (·.supports field.shape) = some chosen := by
      rw [← List.head?_filter, List.head?_eq_some_iff]
      exact ⟨shadowed, candidates⟩
    refine ⟨definitionOf chosen aggregate field focus body, ?_, rfl⟩
    rw [fieldResult_eq_ok_iff.mpr ⟨chosen, focus, body, found, focused, written, rfl⟩]
    rfl

/-! ### What is heard -/

theorem events_resolve (registry : Registry) (shape : TypeExpression) :
    (registry.resolve shape).events .trace = (registry.overlap? shape).toList := by
  unfold resolve overlap?
  match registry.candidates shape with
  | [] => rfl
  | [chosen] => rfl
  | chosen :: next :: rest => rfl

theorem events_synthesizeField (registry : Registry) (aggregate : Aggregate) (field : Field) :
    (registry.synthesizeField aggregate field).events .trace =
      registry.reports aggregate field := by
  rw [synthesizeField, events_bind, events_resolve, resolve_result, reports, List.append_assoc,
    resolution?, writing?, fieldResult, candidates, List.head?_filter]
  refine congrArg _ ?_
  cases registry.generators.find? (·.supports field.shape) with
  | none => rfl
  | some chosen =>
    dsimp only
    rw [events_bind, events_report_trace, synthesizeWith]
    refine congrArg _ ?_
    cases chosen.focusOf? field.shape with
    | none => rfl
    | some focus =>
      dsimp only
      cases chosen.synthesize field aggregate ⟨aggregate.runtime, focus⟩ <;> rfl

theorem events_synthesizeFields (registry : Registry) (aggregate : Aggregate)
    (fields : List Field) (before : List Definition × List Diagnostic) :
    (registry.synthesizeFields aggregate fields before).events .trace =
      fields.flatMap (registry.reports aggregate) := by
  induction fields generalizing before with
  | nil => rfl
  | cons field rest inductionHypothesis =>
    rw [synthesizeFields, events_bind, events_synthesizeField, inductionHypothesis,
      List.flatMap_cons]

/-! ### The log -/

/-- What is reported of a field: that several generators support its type, if they do, with the
first of them as the one that is chosen and the others, in order, as those in its shadow; that the
first one was found, if there is one; and that the body was written, if the focus was found and
the generator wrote it. -/
structure ExactReports (registry : Registry) (aggregate : Aggregate) (field : Field) : Prop where
  overlapping : ∀ event, registry.overlap? field.shape = some event ↔
    2 ≤ (registry.candidates field.shape).length ∧
      ∃ chosen shadowed, registry.candidates field.shape = chosen :: shadowed ∧
        event = .overlapping field.shape.display chosen.name (shadowed.map (·.name))
  resolved : ∀ event, registry.resolution? aggregate field = some event ↔
    ∃ chosen shadowed, registry.candidates field.shape = chosen :: shadowed ∧
      event = .resolved aggregate.name.spelling field.name.display chosen.name
  written : ∀ event, registry.writing? aggregate field = some event ↔
    ∃ chosen shadowed focus body, registry.candidates field.shape = chosen :: shadowed ∧
      chosen.focusOf? field.shape = some focus ∧
        chosen.synthesize field aggregate ⟨aggregate.runtime, focus⟩ = .ok body ∧
          event = .written chosen.name body.tokens.print

theorem exactReports (registry : Registry) (aggregate : Aggregate) (field : Field) :
    registry.ExactReports aggregate field where
  overlapping _ := overlap?_eq_some_iff
  resolved _ := resolution?_eq_some_iff
  written _ := writing?_eq_some_iff

/-- The last event counts what was found. -/
theorem events_synthesize (registry : Registry) (aggregate : Aggregate) :
    (registry.synthesize aggregate).events .trace =
      aggregate.candidates.flatMap (registry.reports aggregate) ++
        [.synthesized aggregate.name.spelling
          ((registry.synthesize aggregate).result .trace).definitions.length
          ((registry.synthesize aggregate).result .trace).diagnostics.length] := by
  rw [synthesize, events_bind, events_synthesizeFields]
  rfl

/-- Listening does not interfere, and the log is exact. The outcome is the same for all listeners,
and each of them hears the events of its level; so who listens to less detail hears all but the
bodies, and who listens to none hears nothing. In full the log holds the reports of the candidates
in declared order, and at the end the numbers of definitions and diagnostics of the outcome. -/
theorem log_exact (registry : Registry) (aggregate : Aggregate) :
    (∀ listener, (registry.synthesize aggregate).result listener =
      (registry.synthesize aggregate).result .trace) ∧
    (∀ listener, (registry.synthesize aggregate).events listener =
      ((registry.synthesize aggregate).events .trace).filter fun event =>
        listener.hears event.level) ∧
    (registry.synthesize aggregate).events .debug =
      ((registry.synthesize aggregate).events .trace).filter (fun event =>
        event.level != .trace) ∧
    (registry.synthesize aggregate).events .info = [] ∧
    (registry.synthesize aggregate).events .trace =
      aggregate.candidates.flatMap (fun field =>
        (registry.overlap? field.shape).toList ++ (registry.resolution? aggregate field).toList ++
          (registry.writing? aggregate field).toList) ++
      [.synthesized aggregate.name.spelling
        ((registry.synthesize aggregate).result .trace).definitions.length
        ((registry.synthesize aggregate).result .trace).diagnostics.length] ∧
    ∀ field, registry.ExactReports aggregate field := by
  have steady := registry.steady_synthesize aggregate
  exact ⟨steady.result, steady.events, steady.events_debug, steady.events_info,
    events_synthesize registry aggregate, exactReports registry aggregate⟩

end Registry

end Fieldwise
