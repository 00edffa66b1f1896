/-
This file says where built-in generators overlap, and that it does not matter which of them is
taken there. A type is supported by at most one generator with a plan of its own and by at most
one known container. Where both support it, they agree on what is traversed, and the traversals
that they write do the same with every value.
-/

import Fieldwise.Proofs.Delegation
import Fieldwise.Proofs.Dispatch
import Fieldwise.Proofs.Writing

namespace Fieldwise

/-- If no two members of a list that exclude each other pass a test, and each two of its members
do, then at most one passes it. -/
theorem length_filter_le_one {A : Type} {Excludes : A → A → Prop} {members : List A}
    {test : A → Bool} (pairwise : members.Pairwise Excludes)
    (alone : ∀ first second, test first = true → test second = true → ¬Excludes first second) :
    (members.filter test).length ≤ 1 := by
  have passing := pairwise.filter test
  cases found : members.filter test with
  | nil => exact Nat.zero_le 1
  | cons first rest =>
    cases rest with
    | nil => exact Nat.le_refl 1
    | cons second others =>
      rw [found] at passing
      have passes : ∀ member ∈ first :: second :: others, test member = true := by
        intro member among
        rw [← found] at among
        exact (List.mem_filter.mp among).2
      exact absurd ((List.pairwise_cons.mp passing).1 second List.mem_cons_self)
        (alone first second (passes first List.mem_cons_self)
          (passes second (List.mem_cons_of_mem first List.mem_cons_self)))

/-- Of a list with at most one member, any two members are equal. -/
theorem eq_of_length_le_one {A : Type} {members : List A} (few : members.length ≤ 1)
    {first second : A} (firstMember : first ∈ members) (secondMember : second ∈ members) :
    first = second := by
  obtain ⟨index, bound, rfl⟩ := List.getElem_of_mem firstMember
  obtain ⟨other, otherBound, rfl⟩ := List.getElem_of_mem secondMember
  congr 1
  omega

/-! ### Containers -/

/-- How many type arguments a container has. -/
def Container.arity : Container → Nat
  | .result => 2
  | .either => 2
  | .validated => 2
  | _ => 1

/-- A container is traversed in one of its arguments, and its instance takes the others, if there
are any. -/
theorem KnownContainer.arity_of_mem :
    ∀ known ∈ table, known.focusIndex < known.container.arity ∧
      known.takesOthers = (known.container.arity == 2) := by
  decide

/-- A type that has the arity of each known container that supports it. -/
def TypeExpression.OwnArity (shape : TypeExpression) : Prop :=
  ∀ known ∈ KnownContainer.table, Generator.supportsKnown known shape = true →
    shape.arguments.length = known.container.arity

namespace Generator

variable {generator other : Generator} {known : KnownContainer} {shape : TypeExpression}

/-- The instance gets all arguments but the focus. -/
theorem length_takenBy (row : known ∈ KnownContainer.table)
    (arity : shape.arguments.length = known.container.arity) :
    (takenBy known shape).length + 1 = known.container.arity := by
  obtain ⟨focused, others⟩ := KnownContainer.arity_of_mem known row
  unfold takenBy
  cases takes : known.takesOthers with
  | true =>
    have two := beq_iff_eq.mp (others.symm.trans takes)
    rw [if_pos rfl, List.length_eraseIdx_of_lt (arity ▸ focused), arity, two]
  | false =>
    have single : known.container.arity = 1 := by
      cases container : known.container <;> rw [takes, container] at others <;> first
        | rfl
        | exact absurd others (by decide)
    rw [if_neg Bool.false_ne_true, single]
    rfl

/-! ### At most one of a kind -/

theorem spelling_eq_baseName (supports : supportsKnown known shape = true) :
    known.spelling = Text.baseName (Text.withoutRoot shape.display) := by
  cases shape with
  | parameterized name arguments =>
    simp only [supportsKnown] at supports
    split at supports
    · cases supports
    split at supports
    · cases supports
    rw [Bool.and_eq_true, beq_iff_eq] at supports
    exact supports.1.symm
  | _ => cases supports

/-- No two rows of the table have one spelling. -/
theorem pairwise_table :
    KnownContainer.table.Pairwise fun first second => first.spelling ≠ second.spelling := by
  decide +kernel

theorem length_known_le_one (shape : TypeExpression) :
    (KnownContainer.table.filter (supportsKnown · shape)).length ≤ 1 :=
  length_filter_le_one pairwise_table fun _ _ first second different =>
    different ((spelling_eq_baseName first).trans (spelling_eq_baseName second).symm)

/-- No two generators that recognise a type by its name have a name in common. -/
theorem pairwise_spelled :
    spelled.Pairwise fun first second => ∀ name ∈ first.1, name ∉ second.1 := by
  decide +kernel

/-- The generators that recognise a type by its name are all but that of arrays. -/
theorem map_spelled :
    spelled.map (·.2) = [sequence, set, optional, either, validated, result, map] := rfl

theorem length_shapes_le_one (shape : TypeExpression) :
    (shapes.filter (·.supports shape)).length ≤ 1 := by
  cases shape with
  | array element length => exact Nat.le_refl 1
  | parameterized name arguments =>
    have skipped : shapes.filter (·.supports (.parameterized name arguments)) =
        (spelled.map (·.2)).filter (·.supports (.parameterized name arguments)) := by
      rw [shapes, map_spelled, List.filter_cons (x := sequence), List.filter_cons (x := sequence),
        List.filter_cons_of_neg (a := array) Bool.false_ne_true]
    have named : spelled.filter (fun row => row.2.supports (.parameterized name arguments)) =
        spelled.filter (fun row => row.1.contains name.relative) :=
      List.filter_congr (supports_of_mem_spelled name arguments)
    rw [skipped, List.filter_map, List.length_map]
    show (spelled.filter fun row => row.2.supports (.parameterized name arguments)).length ≤ 1
    rw [named]
    refine length_filter_le_one pairwise_spelled fun _ _ first second different => ?_
    exact different name.relative (List.contains_iff_mem.mp first) (List.contains_iff_mem.mp second)
  | simple name => exact Nat.zero_le 1
  | unanalysed written => exact Nat.zero_le 1

/-! ### Overlaps -/

/-- The generator writes out what the instance of the container does. -/
inductive Overlaps : Generator → Container → Prop
  | sequence : Overlaps sequence .vector
  | optional : Overlaps optional .option
  | either : Overlaps either .either
  | validated : Overlaps validated .validated
  | result : Overlaps result .result

/-- The names of generators are those of a type before its arguments. -/
theorem leading_of_mem_spelled :
    ∀ row ∈ spelled, ∀ name ∈ row.1,
      name.toList ≠ [] ∧ name.toList.head? ≠ some ':' ∧ '<' ∉ name.toList := by
  decide +kernel

/-- There is no known container among sets and maps. -/
theorem not_mem_setSpellings :
    ∀ known ∈ KnownContainer.table, known.spelling ∉ setSpellings ∧
      known.spelling ∉ mapSpellings := by
  decide +kernel

/-- A known container with one of the names of a generator is the one that it overlaps with. -/
theorem overlaps_of_mem_spelled :
    ∀ row ∈ spelled, ∀ known ∈ KnownContainer.table, known.spelling ∈ row.1 →
      Overlaps row.2 known.container := by
  have overlapping : ∀ {spellings : List String} {container : Container} {generator : Generator},
      (∀ known ∈ KnownContainer.table, known.spelling ∈ spellings → known.container = container) →
        Overlaps generator container → ∀ known ∈ KnownContainer.table,
          known.spelling ∈ spellings → Overlaps generator known.container := by
    intro spellings container generator same overlaps known row named
    rw [same known row named]
    exact overlaps
  simp only [spelled, List.forall_mem_cons]
  exact ⟨overlapping (by decide +kernel) .sequence,
    fun known row named => absurd named (not_mem_setSpellings known row).1,
    overlapping (by decide +kernel) .optional, overlapping (by decide +kernel) .either,
    overlapping (by decide +kernel) .validated, overlapping (by decide +kernel) .result,
    fun known row named => absurd named (not_mem_setSpellings known row).2,
    fun _ member => absurd member List.not_mem_nil⟩

/-- Where a generator with a plan of its own and a known container support one type, they
overlap. -/
theorem overlaps_of_supports (planned : generator ∈ shapes) (row : known ∈ KnownContainer.table)
    (supports : generator.supports shape = true) (recognised : supportsKnown known shape = true) :
    Overlaps generator known.container := by
  cases shape with
  | parameterized name arguments =>
    have recognises : generator ∈ spelled.map (·.2) := by
      rw [shapes, List.mem_cons, List.mem_cons] at planned
      rw [map_spelled, List.mem_cons]
      rcases planned with first | rfl | other
      · exact .inl first
      · cases supports
      · exact .inr other
    obtain ⟨recogniser, member, rfl⟩ := List.mem_map.mp recognises
    rw [supports_of_mem_spelled name arguments recogniser member, List.contains_iff_mem] at supports
    obtain ⟨nonempty, notColon, unbracketed⟩ :=
      leading_of_mem_spelled recogniser member name.relative supports
    have named := spelling_eq_of_supportsKnown ⟨nonempty, notColon, unbracketed⟩ recognised
    exact overlaps_of_mem_spelled recogniser member known row (named ▸ supports)
  | _ => cases recognised

/-- Generators that overlap traverse the same argument, and as many values. -/
theorem Overlaps.agrees (overlaps : Overlaps generator known.container)
    (row : known ∈ KnownContainer.table) :
    generator.focusIndex = known.focusIndex ∧ generator.multiplicity = known.multiplicity := by
  have rows : ∀ known ∈ KnownContainer.table,
      (known.container = .vector → 0 = known.focusIndex ∧ .zeroOrMore = known.multiplicity) ∧
      (known.container = .option → 0 = known.focusIndex ∧ .zeroOrOne = known.multiplicity) ∧
      (known.container = .either → 1 = known.focusIndex ∧ .zeroOrOne = known.multiplicity) ∧
      (known.container = .validated → 1 = known.focusIndex ∧ .zeroOrOne = known.multiplicity) ∧
      (known.container = .result → 0 = known.focusIndex ∧ .zeroOrOne = known.multiplicity) := by
    decide
  obtain ⟨vector, option, either, validated, result⟩ := rows known row
  generalize container : known.container = other at overlaps
  cases overlaps with
  | sequence => exact vector container
  | optional => exact option container
  | either => exact either container
  | validated => exact validated container
  | result => exact result container

/-- What a generator writes that overlaps with a container is the plan that its instance
follows. -/
theorem Overlaps.exists_plan {container : Container} (overlaps : Overlaps generator container)
    (field : Field) (aggregate : Aggregate) (context : Context) :
    ∃ plan : Plan, plan.WritesOut container ∧ generator.synthesize field aggregate context =
      write generator.name field aggregate context (.ok plan) := by
  cases overlaps with
  | sequence => exact ⟨_, .vector, rfl⟩
  | optional => exact ⟨_, .branches .option, rfl⟩
  | either => exact ⟨_, .branches (.either _), rfl⟩
  | validated => exact ⟨_, .branches (.validated _), rfl⟩
  | result => exact ⟨_, .branches .result, rfl⟩

/-! ### Generators that write alike -/

/-- The generators traverse the same argument of a type and as many values, and for a field of
the type, which has the arity of its container, they write equivalent bodies. -/
structure Alike (shape : TypeExpression) (first second : Generator) : Prop where
  focusIndex : first.focusIndex = second.focusIndex
  multiplicity : first.multiplicity = second.multiplicity
  equivalent : ∀ {field : Field} {aggregate : Aggregate} {context : Context}
    {fragment fragment' : Fragment}, field.shape = shape → shape.OwnArity →
      aggregate.DistinctNames → first.synthesize field aggregate context = .ok fragment →
        second.synthesize field aggregate context = .ok fragment' →
          ∃ body body', fragment.body = .planned body ∧ fragment'.body = .planned body' ∧
            body.Equivalent body'

theorem Alike.symm {first second : Generator} (alike : Alike shape first second) :
    Alike shape second first where
  focusIndex := alike.focusIndex.symm
  multiplicity := alike.multiplicity.symm
  equivalent sameShape own distinct written written' := by
    obtain ⟨body, body', planned, planned', equivalent⟩ :=
      alike.equivalent sameShape own distinct written' written
    exact ⟨body', body, planned', planned, equivalent.symm⟩

theorem Alike.refl (builtIn : generator ∈ builtin) : Alike shape generator generator where
  focusIndex := rfl
  multiplicity := rfl
  equivalent _ _ _ written written' := by
    obtain ⟨body, planned, -⟩ := planned_of_mem_builtin builtIn written
    rw [written] at written'
    cases written'
    exact ⟨body, body, planned, planned, .refl body⟩

theorem Overlaps.alike (overlaps : Overlaps generator known.container)
    (row : known ∈ KnownContainer.table) : Alike shape generator (ofKnown known) where
  focusIndex := (overlaps.agrees row).1
  multiplicity := (overlaps.agrees row).2
  equivalent {field aggregate context _ _} _ _ distinct written written' := by
    obtain ⟨plan, writesOut, plans⟩ := overlaps.exists_plan field aggregate context
    rw [plans] at written
    obtain ⟨declared, planned⟩ := body_of_write written
    obtain ⟨_, planned'⟩ := body_of_write written'
    exact ⟨_, _, planned, planned',
      Body.equivalent_withPlan ⟨context, ⟨aggregate, field, declared⟩, plan⟩ distinct writesOut
        (takenBy known field.shape)⟩

/-- Any two built-in generators that support a type write alike. -/
theorem alike_of_supports {first second : Generator} (firstBuiltIn : first ∈ builtin)
    (secondBuiltIn : second ∈ builtin) (firstSupports : first.supports shape = true)
    (secondSupports : second.supports shape = true) : Alike shape first second := by
  have plannedFirst := firstBuiltIn
  have plannedSecond := secondBuiltIn
  rw [builtin, List.mem_append, List.mem_map] at plannedFirst plannedSecond
  rcases plannedFirst with first | ⟨known, row, rfl⟩ <;>
    rcases plannedSecond with second | ⟨known', row', rfl⟩
  · have same := eq_of_length_le_one (length_shapes_le_one shape)
      (List.mem_filter.mpr ⟨first, firstSupports⟩) (List.mem_filter.mpr ⟨second, secondSupports⟩)
    rw [same]
    exact .refl secondBuiltIn
  · exact (overlaps_of_supports first row' firstSupports secondSupports).alike row'
  · exact ((overlaps_of_supports second row secondSupports firstSupports).alike row).symm
  · have same := eq_of_length_le_one (length_known_le_one shape)
      (List.mem_filter.mpr ⟨row, firstSupports⟩) (List.mem_filter.mpr ⟨row', secondSupports⟩)
    rw [same]
    exact .refl secondBuiltIn

theorem focusOf?_congr {first second : Generator}
    (same : first.focusIndex = second.focusIndex) :
    first.focusOf? shape = second.focusOf? shape := by
  cases shape <;> simp only [focusOf?, same]

end Generator

/-! ### Registries -/

namespace Registry

/-- The generators that support a type, those with plans of their own before those of known
containers. -/
theorem candidates_builtin (shape : TypeExpression) :
    builtin.candidates shape = Generator.shapes.filter (·.supports shape) ++
      (KnownContainer.table.filter (Generator.supportsKnown · shape)).map Generator.ofKnown := by
  show (Generator.shapes ++ KnownContainer.table.map Generator.ofKnown).filter _ = _
  rw [List.filter_append, List.filter_map]
  rfl

/-- Definitions of a field by built-in generators are of one traversal, in whichever order the
generators stand in the registry. -/
theorem equivalent_of_builtIn {registry registry' : Registry} {aggregate : Aggregate}
    {field : Field} {definition definition' : Definition}
    (builtIn : registry.generators ⊆ builtin.generators)
    (builtIn' : registry'.generators ⊆ builtin.generators) (own : field.shape.OwnArity)
    (distinct : aggregate.DistinctNames)
    (defined : registry.fieldResult aggregate field = .ok definition)
    (defined' : registry'.fieldResult aggregate field = .ok definition') :
    definition.focus = definition'.focus ∧ definition.multiplicity = definition'.multiplicity ∧
      ∃ body body', definition.body.body = .planned body ∧ definition'.body.body = .planned body' ∧
        body.Equivalent body' := by
  obtain ⟨generator, member, supports, focus, fragment, focused, written, rfl⟩ :=
    exists_of_fieldResult_eq_ok defined
  obtain ⟨generator', member', supports', focus', fragment', focused', written', rfl⟩ :=
    exists_of_fieldResult_eq_ok defined'
  have alike := Generator.alike_of_supports (builtIn member) (builtIn' member') supports supports'
  have sameFocus : focus = focus' := by
    rw [Generator.focusOf?_congr alike.focusIndex, focused'] at focused
    exact (Option.some.inj focused).symm
  subst sameFocus
  exact ⟨rfl, alike.multiplicity, alike.equivalent rfl own distinct written written'⟩

open Generator in
/-- Built-in generators that overlap are interchangeable. A type is supported by at most one
generator with a plan of its own and after it by at most one known container. Where both support
it, it is a vector, an optional value, either of two values, a validated value or a result, and
they traverse the same argument and as many values. For a field with the arity of the container
the traversals that they write focus on the same values, call any function on them in the same
way, and have the same effects in every capability that obeys the laws; the instance gets all
arguments that it takes. So the order of built-in generators never changes what the traversal of
a field does. -/
theorem overlapping_generators_alike (shape : TypeExpression) :
    (∃ (planned : List Generator) (rows : List KnownContainer),
      builtin.candidates shape = planned ++ rows.map ofKnown ∧ planned.Sublist shapes ∧
        rows.Sublist KnownContainer.table ∧ planned.length ≤ 1 ∧ rows.length ≤ 1) ∧
    (∀ generator ∈ shapes, ∀ known ∈ KnownContainer.table, generator.supports shape = true →
      (ofKnown known).supports shape = true →
        Overlaps generator known.container ∧ Alike shape generator (ofKnown known) ∧
          (shape.OwnArity → (takenBy known shape).length + 1 = known.container.arity)) ∧
    ∀ registry registry' : Registry, registry.generators ⊆ builtin.generators →
      registry'.generators ⊆ builtin.generators → ∀ aggregate field listener definition definition',
        field.shape = shape → shape.OwnArity → aggregate.DistinctNames →
          (registry.synthesizeField aggregate field).result listener = .ok definition →
            (registry'.synthesizeField aggregate field).result listener = .ok definition' →
              definition.focus = definition'.focus ∧
                definition.multiplicity = definition'.multiplicity ∧
                  ∃ body body', definition.body.body = .planned body ∧
                    definition'.body.body = .planned body' ∧ body.Equivalent body' := by
  refine ⟨⟨_, _, candidates_builtin shape, List.filter_sublist, List.filter_sublist,
    length_shapes_le_one shape, length_known_le_one shape⟩, ?_, ?_⟩
  · intro generator planned known row supports recognised
    have overlaps := overlaps_of_supports planned row supports recognised
    exact ⟨overlaps, overlaps.alike row, fun own => length_takenBy row (own known row recognised)⟩
  · rintro registry registry' builtIn builtIn' aggregate field listener definition definition' rfl
      own distinct defined defined'
    rw [synthesizeField_result] at defined defined'
    exact equivalent_of_builtIn builtIn builtIn' own distinct defined defined'

/-- The row of the table for vectors by their short name. -/
def vectorRow : KnownContainer := ⟨"Vec", .vector, .zeroOrMore, false, 0⟩

/-- What a registry of one generator gives for the directories in a directory. -/
def directoryEntry (generator : Generator) : Entry :=
  ((⟨[generator]⟩ : Registry).synthesizeField Directory.aggregate Directory.entries).result .info

open Generator in
/-- The directories in a directory are traversed by a loop, or by the instance of vectors where
only its generator stands in the registry; both do the same. -/
theorem overlapping_generators_alike_directory :
    vectorRow ∈ KnownContainer.table ∧ Directory.entries.shape.OwnArity ∧
    Directory.aggregate.DistinctNames ∧ Overlaps sequence .vector ∧
    ∃ definition definition', directoryEntry sequence = .ok definition ∧
      directoryEntry (ofKnown vectorRow) = .ok definition' ∧
        definition.generator = "sequence" ∧ definition'.generator = "Vec" ∧
          ∃ body body', definition.body.body = .planned body ∧
            definition'.body.body = .planned body' ∧ body.Equivalent body' := by
  have planned : sequence ∈ shapes := List.mem_cons_self
  have row : vectorRow ∈ KnownContainer.table := by decide
  have own : Directory.entries.shape.OwnArity := by
    unfold TypeExpression.OwnArity
    decide +kernel
  have distinct : Directory.aggregate.DistinctNames := by decide
  obtain ⟨-, overlapping, reordered⟩ := overlapping_generators_alike Directory.entries.shape
  have overlaps : Overlaps sequence .vector :=
    (overlapping sequence planned vectorRow row (by decide +kernel) (by decide +kernel)).1
  have loop : (directoryEntry sequence).definition?.map (·.generator) = some "sequence" := by
    decide +kernel
  have delegated : (directoryEntry (ofKnown vectorRow)).definition?.map (·.generator) =
      some "Vec" := by
    decide +kernel
  obtain ⟨definition, found, name⟩ := Option.map_eq_some_iff.mp loop
  obtain ⟨definition', found', name'⟩ := Option.map_eq_some_iff.mp delegated
  have defined := Entry.eq_ok_of_definition? found
  have defined' := Entry.eq_ok_of_definition? found'
  have builtIn : [sequence] ⊆ builtin.generators :=
    List.forall_mem_singleton.mpr (List.mem_append_left _ planned)
  have builtIn' : [ofKnown vectorRow] ⊆ builtin.generators :=
    List.forall_mem_singleton.mpr (List.mem_append_right _ (List.mem_map_of_mem row))
  exact ⟨row, own, distinct, overlaps, definition, definition', defined, defined', name, name',
    (reordered _ _ builtIn builtIn' _ _ _ _ _ rfl own distinct defined defined').2.2⟩

end Registry

end Fieldwise
