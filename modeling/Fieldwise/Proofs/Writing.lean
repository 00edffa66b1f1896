/-
This file says what the library's own generators write. Whichever of them writes a fragment
for a field of an aggregate, the fragment's body is a plan around that field: it takes that
aggregate apart, and it is written against the context that was given.
-/

import Fieldwise.Generator.Builtin

namespace Fieldwise

/-- Where a result goes on to another and the second is a success, so is the first. -/
theorem exists_ok_of_bind {Failure A B : Type} {attempt : Except Failure A}
    {next : A → Except Failure B} {result : B} (success : attempt >>= next = .ok result) :
    ∃ value, attempt = .ok value ∧ next value = .ok result := by
  cases attempt with
  | error failure => cases success
  | ok value => exact ⟨value, rfl, success⟩

theorem eq_ok_of_toOption {Failure A : Type} {result : Except Failure A} {value : A}
    (success : result.toOption = some value) : result = .ok value := by
  cases result with
  | error failure => cases success
  | ok inside => exact congrArg Except.ok (Option.some.inj success)

theorem Problem.eq_ok_of_locate {Result : Type} {aggregate : Aggregate} {field : Field}
    {attempt : Except Problem Result} {result : Result}
    (located : Problem.locate aggregate field attempt = .ok result) : attempt = .ok result := by
  cases attempt with
  | error problem => cases located
  | ok value => exact congrArg _ (Except.ok.inj located)

theorem Reconstruction.eq_of_around {aggregate : Aggregate} {field : Field}
    {rebuild : Reconstruction} (made : around aggregate field = .ok rebuild) :
    rebuild.aggregate = aggregate ∧ rebuild.target = field := by
  unfold around at made
  split at made
  · cases made
    exact ⟨rfl, rfl⟩
  · cases made

theorem Fragment.body_of_ofDraft {generator : String} {draft : Draft} {fragment : Fragment}
    (made : ofDraft generator draft = .ok fragment) : fragment.body = draft := by
  unfold ofDraft at made
  split at made
  · cases made
    rfl
  · cases made

/-- A new target has a place, or a key, for each element of the old one. Only elements that are
collected into the declared type, that of a set, may become fewer. -/
def Plan.KeepsPlaces : Plan → Prop
  | .loop .elements .declared => False
  | _ => True

namespace Generator

variable {field : Field} {aggregate : Aggregate} {context : Context} {fragment : Fragment}

/-- A fragment holds a plan around a field of an aggregate. -/
def Planned (field : Field) (aggregate : Aggregate) (context : Context)
    (fragment : Fragment) : Prop :=
  ∃ body : Body, fragment.body = .planned body ∧ body.context = context ∧
    body.rebuild.aggregate = aggregate ∧ body.rebuild.target = field

/-- A written fragment holds the plan that was made, around the field. -/
theorem exists_body_of_write {generator : String} {plan : Except Problem Plan}
    (written : write generator field aggregate context plan = .ok fragment) :
    ∃ body : Body, fragment.body = .planned body ∧ body.context = context ∧
      body.rebuild.aggregate = aggregate ∧ body.rebuild.target = field ∧ plan = .ok body.plan := by
  obtain ⟨rebuild, around, rest⟩ := exists_ok_of_bind (Problem.eq_ok_of_locate written)
  obtain ⟨made, planned, drafted⟩ := exists_ok_of_bind rest
  obtain ⟨sameAggregate, sameField⟩ := Reconstruction.eq_of_around around
  exact ⟨⟨context, rebuild, made⟩, Fragment.body_of_ofDraft drafted, rfl, sameAggregate, sameField,
    planned⟩

/-- A fragment that is written for a plan holds that plan. -/
theorem body_of_write {generator : String} {plan : Plan}
    (written : write generator field aggregate context (.ok plan) = .ok fragment) :
    ∃ declared, fragment.body = .planned ⟨context, ⟨aggregate, field, declared⟩, plan⟩ := by
  obtain ⟨⟨_, _, declared⟩, around, made⟩ := exists_ok_of_bind (Problem.eq_ok_of_locate written)
  obtain ⟨rfl, rfl⟩ := Reconstruction.eq_of_around around
  exact ⟨declared, Fragment.body_of_ofDraft made⟩

/-- A plan for a declared field is written if its tokens form a block, and else refused. -/
theorem write_eq (generator : String) {plan : Plan}
    (declared : (aggregate.field? field.name).isSome) :
    write generator field aggregate context (.ok plan) =
      match (Body.mk context ⟨aggregate, field, declared⟩ plan).tokens.asBlock with
      | .ok _ => .ok ⟨generator, .planned ⟨context, ⟨aggregate, field, declared⟩, plan⟩, []⟩
      | .error error =>
        .error (Problem.located (.invalidFragment generator error.message) aggregate field) := by
  have around : Reconstruction.around aggregate field =
      .ok ⟨aggregate, field, declared⟩ := dif_pos declared
  unfold write
  rw [around]
  show Problem.locate aggregate field (Fragment.ofDraft generator _) = _
  rw [Fragment.ofDraft, Draft.tokens]
  cases (Body.mk context ⟨aggregate, field, declared⟩ plan).tokens.asBlock <;> rfl

/-- A plan for a declared field is written as soon as its tokens form a block. -/
theorem write_eq_ok (generator : String) {plan : Plan}
    (declared : (aggregate.field? field.name).isSome)
    (block : (Body.mk context ⟨aggregate, field, declared⟩ plan).tokens.asBlock.isOk) :
    write generator field aggregate context (.ok plan) =
      .ok ⟨generator, .planned ⟨context, ⟨aggregate, field, declared⟩, plan⟩, []⟩ := by
  rw [write_eq generator declared]
  cases result : (Body.mk context ⟨aggregate, field, declared⟩ plan).tokens.asBlock with
  | ok tokens => rfl
  | error error =>
    rw [result] at block
    cases block

/-! ### Built-in generators -/

/-- What is made of the type of an array: a loop that fills an array of the same length. -/
def arrayPlan : TypeExpression → Except Problem Plan
  | .array _ length => .ok (.loop .elements (.array length))
  | shape => .error (.missingFocusArgument "array" shape.display 0)

/-- What is made of the type of a map: a loop over entries with the keys of the map. -/
def mapPlan (shape : TypeExpression) : Except Problem Plan :=
  match shape.arguments.head? with
  | some key => .ok (.loop (.entries key) .declared)
  | none => .error (.missingFocusArgument "map" shape.display 0)

/-- The items that a map is collected from. -/
def mapItems (shape : TypeExpression) (context : Context) : Tokens :=
  LoopItems.slotType context.focus.tokens
    (.entries (shape.arguments.head?.getD context.focus))

/-- The two ways in which a generator writes the plan that is made of the type of a field. -/
inductive Writer (generator : Generator) (name : String)
    (plan : TypeExpression → Except Problem Plan) : Prop
  /-- The plan is written, and nothing else. -/
  | plain (synthesize_eq : ∀ field aggregate context,
      generator.synthesize field aggregate context =
        write name field aggregate context (plan field.shape))
  /-- The plan is written, and the predicate is added that the type can be collected. -/
  | collecting (items : TypeExpression → Context → Tokens)
      (synthesize_eq : ∀ field aggregate context,
        generator.synthesize field aggregate context =
          (write name field aggregate context (plan field.shape)).map
            (·.withBound (collectable field (items field.shape context))))

/-- A fragment that a generator writes has the body of what is written for the plan; a predicate
more leaves the body as it is. -/
theorem Writer.exists_write {generator : Generator} {name : String}
    {plan : TypeExpression → Except Problem Plan} (writer : generator.Writer name plan)
    (written : generator.synthesize field aggregate context = .ok fragment) :
    ∃ unbound, write name field aggregate context (plan field.shape) = .ok unbound ∧
      fragment.body = unbound.body := by
  cases writer with
  | plain synthesize_eq => exact ⟨fragment, synthesize_eq _ _ _ ▸ written, rfl⟩
  | collecting items synthesize_eq =>
    rw [synthesize_eq] at written
    cases attempt : write name field aggregate context (plan field.shape) with
    | error diagnostic =>
      rw [attempt] at written
      cases written
    | ok unbound =>
      rw [attempt] at written
      cases written
      exact ⟨unbound, rfl, rfl⟩

/-- The body in a written fragment holds the plan that was made of the type of the field. -/
theorem Writer.plan_of_written {generator : Generator} {name : String}
    {plan : TypeExpression → Except Problem Plan} (writer : generator.Writer name plan)
    (written : generator.synthesize field aggregate context = .ok fragment) {body : Body}
    (planned : fragment.body = .planned body) : plan field.shape = .ok body.plan := by
  obtain ⟨unbound, wrote, same⟩ := writer.exists_write written
  obtain ⟨own, held, -, -, -, made⟩ := exists_body_of_write wrote
  rw [planned, held] at same
  cases same
  exact made

/-- As soon as its tokens form a block, the body around a plan that is made of the type of the
field is written. -/
theorem Writer.exists_written {generator : Generator} {name : String}
    {plan : TypeExpression → Except Problem Plan} (writer : generator.Writer name plan)
    (body : Body) (made : plan body.rebuild.target.shape = .ok body.plan)
    (block : body.tokens.asBlock.isOk) :
    ∃ fragment, generator.synthesize body.rebuild.target body.rebuild.aggregate body.context =
      .ok fragment ∧ fragment.body = .planned body := by
  have wrote := write_eq_ok name body.rebuild.declared block
  cases writer with
  | plain synthesize_eq =>
    rw [synthesize_eq, made, wrote]
    exact ⟨_, rfl, rfl⟩
  | collecting items synthesize_eq =>
    rw [synthesize_eq, made, wrote]
    exact ⟨_, rfl, rfl⟩

theorem sequence_writer : sequence.Writer "sequence" fun _ => .ok (.loop .elements .list) :=
  .plain fun _ _ _ => rfl

theorem array_writer : array.Writer "array" arrayPlan := .plain fun _ _ _ => rfl

theorem set_writer : set.Writer "set" fun _ => .ok (.loop .elements .declared) :=
  .collecting (fun _ context => context.focus.tokens) fun _ _ _ => rfl

theorem map_writer : map.Writer "map" mapPlan := .collecting mapItems fun _ _ _ => rfl

/-- A built-in generator writes plans. There is none only if the type lacks the argument that
the plan is made of, and only the plans of sets do not keep places. -/
theorem exists_writer {generator : Generator} (builtIn : generator ∈ builtin) :
    ∃ name plan, generator.Writer name plan ∧
      (∀ shape problem, plan shape = .error problem →
        problem = .missingFocusArgument name shape.display 0) ∧
      (generator ≠ set → ∀ shape made, plan shape = .ok made → made.KeepsPlaces) := by
  have always {generator : Generator} (name : String) (plan : TypeExpression → Plan)
      (writer : generator.Writer name fun shape => .ok (plan shape))
      (keeps : generator ≠ set → ∀ shape, (plan shape).KeepsPlaces) :
      ∃ name plan, generator.Writer name plan ∧
        (∀ shape problem, plan shape = .error problem →
          problem = .missingFocusArgument name shape.display 0) ∧
        (generator ≠ set → ∀ shape made, plan shape = .ok made → made.KeepsPlaces) :=
    ⟨name, _, writer, nofun, fun other shape _ made => Except.ok.inj made ▸ keeps other shape⟩
  rw [builtin, List.mem_append, List.mem_map] at builtIn
  rcases builtIn with shape | ⟨known, -, rfl⟩
  · simp only [shapes, List.mem_cons, List.not_mem_nil, or_false] at shape
    -- Only arrays and maps are taken apart again, which can fail; the rest always has a plan.
    rcases shape with rfl | rfl | rfl | rfl | rfl | rfl | rfl | rfl
    · exact always "sequence" (fun _ => .loop .elements .list) sequence_writer fun _ _ => trivial
    · refine ⟨"array", arrayPlan, array_writer, fun shape problem refused => ?_,
        fun _ shape made planned => ?_⟩
      · unfold arrayPlan at refused
        split at refused <;> cases refused
        rfl
      · unfold arrayPlan at planned
        split at planned <;> cases planned
        trivial
    · exact always "set" (fun _ => .loop .elements .declared) set_writer
        fun other => absurd rfl other
    · exact always "optional" (fun _ => .branches .option) (.plain fun _ _ _ => rfl)
        fun _ _ => trivial
    · exact always "either" (fun shape => .branches (.either shape.name?))
        (.plain fun _ _ _ => rfl) fun _ _ => trivial
    · exact always "validated" (fun shape => .branches (.validated shape.name?))
        (.plain fun _ _ _ => rfl) fun _ _ => trivial
    · exact always "result" (fun _ => .branches .result) (.plain fun _ _ _ => rfl)
        fun _ _ => trivial
    · refine ⟨"map", mapPlan, map_writer, fun shape problem refused => ?_,
        fun _ shape made planned => ?_⟩
      · unfold mapPlan at refused
        split at refused <;> cases refused
        rfl
      · unfold mapPlan at planned
        split at planned <;> cases planned
        trivial
  · exact always known.spelling (fun shape => .delegate known.container (takenBy known shape))
      (.plain fun _ _ _ => rfl) fun _ _ => trivial

/-- Sets are collected from the elements of a loop. -/
theorem plan_of_set {body : Body}
    (written : set.synthesize field aggregate context = .ok fragment)
    (planned : fragment.body = .planned body) : body.plan = .loop .elements .declared :=
  (Except.ok.inj (set_writer.plan_of_written written planned)).symm

/-- Maps are collected from the entries of a loop. -/
theorem exists_plan_of_map {body : Body}
    (written : map.synthesize field aggregate context = .ok fragment)
    (planned : fragment.body = .planned body) :
    ∃ key, body.plan = .loop (.entries key) .declared := by
  have made := map_writer.plan_of_written written planned
  unfold mapPlan at made
  split at made
  · exact ⟨_, (Except.ok.inj made).symm⟩
  · cases made

/-- The slots of an array are filled from the elements of a loop. -/
theorem exists_plan_of_array {body : Body}
    (written : array.synthesize field aggregate context = .ok fragment)
    (planned : fragment.body = .planned body) :
    ∃ length, body.plan = .loop .elements (.array length) := by
  have made := array_writer.plan_of_written written planned
  unfold arrayPlan at made
  split at made
  · exact ⟨_, (Except.ok.inj made).symm⟩
  · cases made

/-- All built-in generators write plans. -/
theorem planned_of_mem_builtin {generator : Generator} (builtIn : generator ∈ builtin)
    (written : generator.synthesize field aggregate context = .ok fragment) :
    Planned field aggregate context fragment := by
  obtain ⟨name, plan, writer, -⟩ := exists_writer builtIn
  obtain ⟨unbound, wrote, same⟩ := writer.exists_write written
  obtain ⟨body, held, hasContext, hasAggregate, hasField, -⟩ := exists_body_of_write wrote
  exact ⟨body, same.trans held, hasContext, hasAggregate, hasField⟩

/-- All built-in generators but that of sets write plans that keep places. -/
theorem keepsPlaces_of_mem_builtin {generator : Generator} (builtIn : generator ∈ builtin)
    (other : generator ≠ set)
    (written : generator.synthesize field aggregate context = .ok fragment) {body : Body}
    (planned : fragment.body = .planned body) : body.plan.KeepsPlaces := by
  obtain ⟨name, plan, writer, -, keeps⟩ := exists_writer builtIn
  exact keeps other field.shape _ (writer.plan_of_written written planned)

end Generator

end Fieldwise
