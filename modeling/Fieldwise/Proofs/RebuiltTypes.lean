/-
This file says which type the value has that a body puts back into the slot of its target. The
types are read off the tokens of the body: an effect that is given a name carries values of a
type, the last call hands such a value on to a function, and the function puts it back as it is,
as an array that it fills, or as what is collected of it. Collections are rebuilt with the
arguments that they were declared with, but for vectors: these are recognised with any number of
arguments and rebuilt with the focus alone.
-/

import Fieldwise.Proofs.Origins

namespace Fieldwise

open Code

/-! ### Types of containers -/

namespace Container

/-- The path of the type of the containers. -/
def typeName : Container → QualifiedName
  | .vector => absolute ["std", "vec", "Vec"]
  | .deque => absolute ["std", "collections", "VecDeque"]
  | .linkedList => absolute ["std", "collections", "LinkedList"]
  | .option => absolute ["core", "option", "Option"]
  | .result => absolute ["core", "result", "Result"]
  | .boxed => absolute ["std", "boxed", "Box"]
  | .reversed => absolute ["core", "cmp", "Reverse"]
  | .either => absolute ["undertow", "either", "Either"]
  | .validated => absolute ["undertow", "validated", "Validated"]
where
  absolute (names : List String) : QualifiedName := ⟨true, names.map .plain⟩

/-- The type that the instance, with the types that it takes, has for containers of a focus. -/
def typeOf (container : Container) (taken : List TypeExpression) (focus : TypeExpression) :
    TypeExpression :=
  .parameterized container.typeName (match container with
    | .result => focus :: taken
    | _ => taken ++ [focus])

/-- An instance that takes no types has containers of the focus alone. -/
theorem arguments_typeOf (container : Container) (focus : TypeExpression) :
    (container.typeOf [] focus).arguments = [focus] := by
  cases container <;> rfl

end Container

/-! ### Types in bodies -/

namespace Body

/-- The tokens of a loop's accumulator type: vectors of what one round adds. -/
def accumulated (body : Body) (items : LoopItems) : Tokens :=
  rooted ["std", "vec", "Vec"] ++ angled (items.slotType body.focusType)

/-- The call of a container's instance on the target. -/
def instanceCall (body : Body) (container : Container) (taken : List TypeExpression) : Tokens :=
  angled (body.instanceTokens container taken ++ [.plain "as"] ++
      body.context.runtimeName ["Traverse"]) ++
    Token.pathSeparator ++ [.plain "traverse"] ++ Token.pathSeparator ++
    angled (Token.commaSeparated
      [[.word Context.effect], body.focusType, body.focusType, Context.inferred]) ++
    [.parenthesized (Token.commaSeparated
      [[.mark '&' false, .plain "__instance"], [.word Context.applicative], body.targetTokens,
        [.mark '&' false, .plain "mut", .word Context.function]] ++ [.comma])]

/-- The effect that an expression makes carries values of a type. -/
inductive Carrying (body : Body) : (expression type : Tokens) → Prop
  /-- The capability's `pure` carries a value of its type argument. -/
  | pure (type value : Tokens) : Carrying body (body.context.pureTokens type value) type
  /-- Its `map2` carries what the function makes, of the third type argument. -/
  | map2 (left right type first second function : Tokens) :
    Carrying body (body.context.map2Tokens left right type first second function) type
  /-- An instance carries one of its containers. -/
  | traversed (container : Container) (taken : List TypeExpression) :
    Carrying body (body.instanceCall container taken)
      (container.typeOf taken body.context.focus).tokens

/-- An expression over a value of a given type, the value of a parameter, has a type. -/
inductive Making (body : Body) (parameter : String) (given : Tokens) :
    (expression type : Tokens) → Prop
  /-- It is the value itself. -/
  | itself : Making body parameter given (localName parameter) given
  /-- The runtime's `collect_array` makes an array of a vector of its elements. -/
  | filled (element length : Tokens)
    (vector : given = rooted ["std", "vec", "Vec"] ++ angled element) :
    Making body parameter given
      (body.context.runtimeName ["__private", "collect_array"] ++ Token.pathSeparator ++
        angled (Token.commaSeparated [element, [.braced length]]) ++
        [.parenthesized (localName parameter)])
      [.bracketed (element ++ [.semicolon] ++ length)]
  /-- What is collected has the type argument of `collect`. -/
  | collected (type : Tokens) :
    Making body parameter given
      (method (localName parameter) "into_iter" [] ++ [.mark '.' false, .plain "collect"] ++
        Token.pathSeparator ++ angled type ++ [.parenthesized []])
      type

/-- Rounds of a loop give a name, if they give it anything, effects that carry values of a
type. -/
inductive Keeping (body : Body) (name : String) (type : Tokens) : (rounds : Tokens) → Prop
  | none : Keeping body name type []
  | assigned (pattern items effect : Tokens) (carrying : body.Carrying effect type) :
    Keeping body name type ([.plain "for"] ++ pattern ++ [.plain "in"] ++ items ++
      [.braced (localName name ++ [.equals] ++ effect ++ [.semicolon])])

/-- The body puts a value of a type back into the slot of its target. It names an effect, and
after that it calls the capability's `map` with a function whose parameter is annotated; the
function rebuilds the aggregate around an expression of the type, the parameter having the type
that the named effect carries. -/
inductive PutsBack (body : Body) (annotated type : Tokens) : Prop
  | intro {before mutability effect rounds expression carried : Tokens} {name parameter : String}
    (tokens_eq : body.tokens = before ++ letTokens (mutability ++ localName name) effect ++
      rounds ++ body.context.mapTokens annotated body.selfType (localName name)
        (anonymousFunction (typed parameter annotated) (body.rebuild.tokens expression)))
    (carrying : body.Carrying effect carried) (keeping : body.Keeping name carried rounds)
    (making : body.Making parameter carried expression type)

/-- What a loop starts with: nothing is collected yet. -/
def emptyVector (body : Body) : Tokens :=
  rooted ["std", "vec", "Vec"] ++ Token.pathSeparator ++
    [.plain "with_capacity", .parenthesized (method body.targetTokens "len" [])]

/-- The function that adds what one round makes to the vector. -/
def pushing (body : Body) (items : LoopItems) : Tokens :=
  anonymousFunction
    ([.plain "mut"] ++ typed "__values" (body.accumulated items) ++ [.comma] ++
      typed "__value" body.focusType)
    [.braced (method (localName "__values") "push" items.slot ++ [.semicolon] ++
      localName "__values")]

/-- The statements before a loop: an empty target is passed on. -/
def beforeLoop (body : Body) : Tokens :=
  body.destructureTokens ++ [.plain "if"] ++ method body.targetTokens "is_empty" [] ++
    [.braced ([.plain "return"] ++
      body.context.pureTokens body.selfType body.rebuild.unchangedTokens ++ [.semicolon])]

theorem loopTokens_eq (body : Body) (items : LoopItems) (gathering : Gathering) :
    body.loopTokens items gathering = body.beforeLoop ++
      letTokens ([.plain "mut"] ++ localName "__acc")
        (body.context.pureTokens (body.accumulated items) body.emptyVector) ++
      ([.plain "for"] ++ items.pattern ++ [.plain "in"] ++ body.targetTokens ++
        [.braced (localName "__acc" ++ [.equals] ++ body.context.map2Tokens
          (body.accumulated items) body.focusType (body.accumulated items) (localName "__acc")
          (applied (localName "__element")) (body.pushing items) ++ [.semicolon])]) ++
      body.context.mapTokens (body.accumulated items) body.selfType (localName "__acc")
        (anonymousFunction (typed "__values" (body.accumulated items))
          (body.rebuild.tokens (body.collectTokens gathering (localName "__values")))) := by
  simp only [loopTokens, beforeLoop, accumulated, emptyVector, pushing, List.append_assoc]
  rfl

theorem delegateTokens_eq (body : Body) (container : Container) (taken : List TypeExpression) :
    body.delegateTokens container taken =
      (body.destructureTokens ++ letTokens (localName "__instance")
        (angled (body.instanceTokens container taken ++ [.plain "as"] ++
            rooted ["core", "default", "Default"]) ++
          Token.pathSeparator ++ [.plain "default", .parenthesized []])) ++
      letTokens ([] ++ localName "__traversed") (body.instanceCall container taken) ++ [] ++
      body.context.mapTokens body.fieldType body.selfType (localName "__traversed")
        (anonymousFunction (typed "__value" body.fieldType)
          (body.rebuild.tokens (localName "__value"))) := by
  rw [List.append_nil]
  rfl

variable {body : Body}

/-- A loop puts back what it gathers of the vector that it accumulates. -/
theorem putsBack_of_loop {items : LoopItems} {gathering : Gathering} {type : Tokens}
    (plan : body.plan = .loop items gathering)
    (making : body.Making "__values" (body.accumulated items)
      (body.collectTokens gathering (localName "__values")) type) :
    body.PutsBack (body.accumulated items) type := by
  have tokens_eq : body.tokens = body.loopTokens items gathering := by rw [tokens, plan]
  exact .intro (tokens_eq.trans (loopTokens_eq body items gathering)) (.pure _ _)
    (.assigned _ _ _ (.map2 _ _ _ _ _ _)) making

/-- An instance puts back the container that it makes, under the declared type. -/
theorem putsBack_of_delegate {container : Container} {taken : List TypeExpression}
    (plan : body.plan = .delegate container taken) :
    body.PutsBack body.fieldType (container.typeOf taken body.context.focus).tokens := by
  have tokens_eq : body.tokens = body.delegateTokens container taken := by rw [tokens, plan]
  exact .intro (tokens_eq.trans (delegateTokens_eq body container taken)) (.traversed _ _) .none
    .itself

end Body

/-! ### Types of generators -/

namespace Generator

/-- What the body that a generator writes puts back, if the generator is one of collections. -/
structure Restores (generator : Generator) (body : Body) : Prop where
  /-- A vector of the focus, which is the first argument. It has the declared arguments only if
  there are no others. -/
  sequence : generator = .sequence →
    body.PutsBack (Container.vector.typeOf [] body.context.focus).tokens
      (Container.vector.typeOf [] body.context.focus).tokens ∧
    ∃ others, body.rebuild.target.shape.arguments = body.context.focus :: others ∧
      ((Container.vector.typeOf [] body.context.focus).arguments =
        body.rebuild.target.shape.arguments ↔ others = [])
  /-- An array of the focus with the declared length. -/
  array : generator = .array → ∃ length,
    body.rebuild.target.shape = .array body.context.focus length ∧
      body.PutsBack (Container.vector.typeOf [] body.context.focus).tokens
        (TypeExpression.array body.context.focus length).tokens
  /-- The declared type. -/
  set : generator = .set → ∃ annotated, body.PutsBack annotated body.fieldType
  /-- The declared type. -/
  map : generator = .map → ∃ annotated, body.PutsBack annotated body.fieldType
  /-- The container of the instance with the focus, which is the only argument. -/
  known : ∀ known, generator = ofKnown known → known.takesOthers = false →
    body.PutsBack body.fieldType (known.container.typeOf [] body.context.focus).tokens ∧
    body.rebuild.target.shape.arguments = [body.context.focus] ∧
    (known.container.typeOf [] body.context.focus).arguments =
      body.rebuild.target.shape.arguments

variable {known : KnownContainer} {shape focus : TypeExpression}

theorem exists_arguments_of_sequence (supported : sequence.supports shape = true)
    (focused : sequence.focusOf? shape = some focus) :
    ∃ others, shape.arguments = focus :: others := by
  cases shape with
  | parameterized name arguments =>
    cases arguments with
    | nil => cases focused
    | cons first others =>
      cases focused
      exact ⟨others, rfl⟩
  | array _ _ => cases supported
  | simple _ => cases supported
  | unanalysed _ => cases supported

theorem exists_array_of_array (supported : array.supports shape = true)
    (focused : array.focusOf? shape = some focus) : ∃ length, shape = .array focus length := by
  cases shape with
  | array element length =>
    cases focused
    exact ⟨length, rfl⟩
  | parameterized _ _ => cases supported
  | simple _ => cases supported
  | unanalysed _ => cases supported

/-- A known container whose instance takes no types only supports types with one argument. -/
theorem arguments_of_ofKnown (single : known.takesOthers = false)
    (supported : (ofKnown known).supports shape = true)
    (focused : (ofKnown known).focusOf? shape = some focus) : shape.arguments = [focus] := by
  cases shape with
  | parameterized name arguments =>
    have one : arguments.length = 1 := by
      by_contra several
      have refused : supportsKnown known (.parameterized name arguments) = false := by
        rw [supportsKnown, if_pos (by simp [single, several])]
      exact absurd (supported.symm.trans refused) (by decide)
    obtain ⟨argument, rfl⟩ := List.length_eq_one_iff.mp one
    have same : focus = argument := List.mem_singleton.mp (List.mem_of_getElem? focused)
    rw [same]
    rfl
  | array _ _ => cases supported
  | simple _ => cases supported
  | unanalysed _ => cases supported

variable {generator : Generator} {fragment : Fragment} {body : Body}

/-- Only the generator of vectors has the name of sequences. -/
theorem eq_sequence_of_name (builtIn : generator ∈ builtin) (named : generator.name = "sequence") :
    generator = sequence := by
  rw [builtin, List.mem_append, List.mem_map] at builtIn
  rcases builtIn with shape | ⟨known, among, rfl⟩
  · simp only [shapes, List.mem_cons, List.not_mem_nil, or_false] at shape
    rcases shape with rfl | rfl | rfl | rfl | rfl | rfl | rfl | rfl
    · rfl
    all_goals exact absurd named (by decide)
  · have other : ∀ known ∈ KnownContainer.table, known.spelling ≠ "sequence" := by decide
    exact absurd named (other known among)

/-- A generator that supports the type of a field restores it. -/
theorem restores (supported : generator.supports body.rebuild.target.shape = true)
    (focused : generator.focusOf? body.rebuild.target.shape = some body.context.focus)
    (written : generator.synthesize body.rebuild.target body.rebuild.aggregate body.context =
      .ok fragment)
    (planned : fragment.body = .planned body) : generator.Restores body := by
  refine ⟨?_, ?_, ?_, ?_, ?_⟩
  · rintro rfl
    have plan := Except.ok.inj (sequence_writer.plan_of_written written planned)
    obtain ⟨others, arguments⟩ := exists_arguments_of_sequence supported focused
    refine ⟨Body.putsBack_of_loop plan.symm .itself, others, arguments, ?_⟩
    rw [Container.arguments_typeOf, arguments, List.cons.injEq, eq_comm (a := [])]
    exact and_iff_right rfl
  · rintro rfl
    obtain ⟨length, shape⟩ := exists_array_of_array supported focused
    have plan := array_writer.plan_of_written written planned
    rw [shape] at plan
    exact ⟨length, shape, Body.putsBack_of_loop (Except.ok.inj plan).symm (.filled _ length rfl)⟩
  · rintro rfl
    exact ⟨_, Body.putsBack_of_loop (plan_of_set written planned) (.collected _)⟩
  · rintro rfl
    obtain ⟨key, plan⟩ := exists_plan_of_map written planned
    exact ⟨_, Body.putsBack_of_loop plan (.collected _)⟩
  · rintro known rfl single
    have writer : (ofKnown known).Writer known.spelling fun shape =>
        .ok (.delegate known.container (takenBy known shape)) := .plain fun _ _ _ => rfl
    have plan := Except.ok.inj (writer.plan_of_written written planned)
    rw [takenBy, single, if_neg Bool.false_ne_true] at plan
    have arguments := arguments_of_ofKnown single supported focused
    refine ⟨Body.putsBack_of_delegate plan.symm, arguments, ?_⟩
    rw [Container.arguments_typeOf, arguments]

end Generator

namespace Registry

variable {aggregate : Aggregate} {definition : Definition} {listener : Level}

/-- Every definition that the built-in registry yields is for a candidate. The first generator that
supports its type wrote the body, and restores the type. -/
theorem exists_restores_of_mem
    (member : definition ∈ ((builtin.synthesize aggregate).result listener).definitions) :
    ∃ field ∈ aggregate.candidates, ∃ generator body,
      (builtin.resolve field.shape).result listener = some generator ∧
      definition.body.body = .planned body ∧ body.rebuild.aggregate = aggregate ∧
      body.rebuild.target = field ∧
      definition = definitionOf generator aggregate field body.context.focus definition.body ∧
      generator.Restores body := by
  rw [synthesize_result] at member
  obtain ⟨field, candidate, defined⟩ := (accounted_tally builtin aggregate).definitions _ member
  obtain ⟨generator, focus, fragment, found, focused, written, rfl⟩ :=
    fieldResult_eq_ok_iff.mp defined
  have supported : generator.supports field.shape = true := by simpa using List.find?_some found
  obtain ⟨body, planned, context, rfl, rfl⟩ :=
    Generator.planned_of_mem_builtin (List.mem_of_find?_eq_some found) written
  obtain rfl : body.context.focus = focus := by rw [context]
  rw [← context] at written
  exact ⟨_, candidate, generator, body, (resolve_result ..).trans found, planned, rfl, rfl, rfl,
    Generator.restores supported focused written planned⟩

/-- What is put back has the declared arguments. For every scanned declaration, every definition
that the built-in registry yields has a body that some generator wrote for a candidate, the first
one that supports the type of the candidate. An array is put back with the declared length, a set
or a map under its declared type, and a deque, a linked list, a box or a reversed value as the
container of the focus, its only argument. A vector is put back as a vector of the focus, which is
its first argument, and so with the declared arguments exactly if it has no others. -/
theorem restores_declared_arguments {declaration : WrittenDeclaration} {aggregate : Aggregate}
    (scanned : Aggregate.ofWritten declaration = .ok aggregate) (listener : Level) :
    ∀ definition ∈ ((builtin.synthesize aggregate).result listener).definitions,
      ∃ field ∈ aggregate.candidates, ∃ generator body,
        (builtin.resolve field.shape).result listener = some generator ∧
        definition.body.body = .planned body ∧ body.rebuild.aggregate = aggregate ∧
        body.rebuild.target = field ∧ field.shape = .ofWritten field.written ∧
        definition = definitionOf generator aggregate field body.context.focus definition.body ∧
        generator.Restores body := by
  intro definition member
  obtain ⟨field, candidate, generator, body, resolved, planned, around, target, same, restores⟩ :=
    exists_restores_of_mem member
  exact ⟨field, candidate, generator, body, resolved, planned, around, target,
    Aggregate.shape_of_ofWritten scanned candidate, same, restores⟩

end Registry

/-! ### A structure of collections -/

namespace Depot

/-- A type with arguments. -/
def applied (name : String) (arguments : List WrittenType) : WrittenType :=
  .path false [.mk (.plain name)
    (if arguments.isEmpty then .none else .angled false (arguments.map .type) false)]

/-- A field without attributes. -/
def field (name : String) (written : WrittenType) : WrittenField :=
  ⟨[], some (.plain name), written, ⟨0, 0⟩⟩

/-- A depot has tags with a hasher of their own, and a queue. -/
def fields : List WrittenField := [
  field "tags" (applied "HashSet" [applied "Tag" [], applied "Hasher" []]),
  field "queue" (applied "VecDeque" [applied "Order" []])]

/-- The declaration of a depot. -/
def declaration : WrittenDeclaration where
  attributes := []
  visibility := []
  name := .plain "Depot"
  extent := ⟨1, 1⟩
  generics := default
  body := .structure .named fields

/-- What is scanned of it. -/
def aggregate : Aggregate :=
  .ofFields declaration .named (.ofNames true ["undertow"])
    (fields.zipIdx.map fun each => Aggregate.scannedField each.2 each.1 ⟨false, false⟩)

/-- The known container that its queue is. -/
def deques : KnownContainer := ⟨"VecDeque", .deque, .zeroOrMore, false, 0⟩

/-- The orders in its queue. -/
def order : TypeExpression := .simple ⟨false, [.plain "Order"]⟩

theorem shape_of_queue : ∀ field ∈ aggregate.candidates, field.name = .named (.plain "queue") →
    field.shape = .parameterized ⟨false, [.plain "VecDeque"]⟩ [order] := by
  have candidates : aggregate.candidates =
      fields.zipIdx.map fun each => Aggregate.scannedField each.2 each.1 ⟨false, false⟩ := rfl
  rw [candidates]
  simp only [fields, List.zipIdx_cons, List.map_cons, List.forall_mem_cons]
  exact ⟨fun named => absurd named (by decide), fun _ => rfl, nofun⟩

end Depot

namespace Registry

/-- Both fields of a depot are traversed. Its queue is put back as a deque of orders, and that is
the type that it was declared with. -/
theorem restores_declared_arguments_depot :
    Aggregate.ofWritten Depot.declaration = .ok Depot.aggregate ∧
      ∃ definition ∈ ((builtin.synthesize Depot.aggregate).result .info).definitions,
        definition.field = .named (.plain "queue") ∧
        ∃ body, definition.body.body = .planned body ∧
          body.rebuild.target.shape.arguments = [Depot.order] ∧
          body.PutsBack body.fieldType (Container.deque.typeOf [] Depot.order).tokens := by
  have scanned : Aggregate.ofWritten Depot.declaration = .ok Depot.aggregate := rfl
  have fields : ((builtin.synthesize Depot.aggregate).result .info).definitions.map (·.field) =
      [.named (.plain "tags"), .named (.plain "queue")] := by
    decide +kernel
  obtain ⟨definition, member, named⟩ : ∃ definition ∈
      ((builtin.synthesize Depot.aggregate).result .info).definitions,
        definition.field = .named (.plain "queue") := by
    rw [← List.mem_map, fields]
    decide
  obtain ⟨field, candidate, generator, body, resolved, planned, -, rfl, -, same, restores⟩ :=
    restores_declared_arguments scanned .info definition member
  refine ⟨scanned, definition, member, named, body, planned, ?_⟩
  have shape := Depot.shape_of_queue _ candidate ((congrArg (·.field) same).symm.trans named)
  have chosen : (builtin.resolve body.rebuild.target.shape).result .info =
      some (Generator.ofKnown Depot.deques) := by
    rw [shape]
    rfl
  obtain ⟨puts, arguments, -⟩ :=
    restores.known Depot.deques (Option.some.inj (resolved.symm.trans chosen)) rfl
  have focus : [body.context.focus] = [Depot.order] := by
    rw [← arguments, shape]
    rfl
  rw [(List.cons.inj focus).1] at arguments puts
  exact ⟨arguments, puts⟩

/-- A vector with an allocator is taken for a sequence, and put back as one without. -/
theorem restores_declared_arguments_allocator :
    ∃ tokens written aggregate, Tokens.ofText "struct S { items: Vec<u8, Pool> }" = some tokens ∧
      WrittenDeclaration.ofTokens tokens = .ok written ∧
      Aggregate.ofWritten written = .ok aggregate ∧
      ∃ definition ∈ ((builtin.synthesize aggregate).result .info).definitions,
        ∃ (body : Body) (type : TypeExpression),
          definition.body.body = .planned body ∧ body.PutsBack type.tokens type.tokens ∧
          body.rebuild.target.shape.arguments.map (·.display) = ["u8", "Pool"] ∧
          type.arguments.map (·.display) = ["u8"] := by
  have found : ((Tokens.ofText "struct S { items: Vec<u8, Pool> }").bind fun tokens =>
      (WrittenDeclaration.ofTokens tokens).toOption.bind fun written =>
        (Aggregate.ofWritten written).toOption.map fun aggregate =>
          (aggregate.candidates.map fun field => field.shape.arguments.map (·.display),
            ((builtin.synthesize aggregate).result .info).definitions.map (·.generator))) =
      some ([["u8", "Pool"]], ["sequence"]) := by
    decide +kernel
  obtain ⟨tokens, text, found⟩ := Option.bind_eq_some_iff.mp found
  obtain ⟨written, parsed, found⟩ := Option.bind_eq_some_iff.mp found
  obtain ⟨aggregate, scanned, found⟩ := Option.map_eq_some_iff.mp found
  obtain ⟨arguments, names⟩ := Prod.mk.inj found
  obtain ⟨definition, member, named⟩ : ∃ definition ∈
      ((builtin.synthesize aggregate).result .info).definitions,
        definition.generator = "sequence" := by
    rw [← List.mem_map, names]
    exact List.mem_singleton_self _
  obtain ⟨field, candidate, generator, body, resolved, planned, -, rfl, same, restores⟩ :=
    exists_restores_of_mem member
  have builtIn : generator ∈ Generator.builtin := by
    rw [resolve_result] at resolved
    exact List.mem_of_find?_eq_some resolved
  obtain ⟨puts, others, shape, -⟩ := restores.sequence
    (Generator.eq_sequence_of_name builtIn ((congrArg (·.generator) same).symm.trans named))
  have declared : body.rebuild.target.shape.arguments.map (·.display) = ["u8", "Pool"] := by
    rw [← List.mem_singleton, ← arguments]
    exact List.mem_map.mpr ⟨body.rebuild.target, candidate, rfl⟩
  refine ⟨tokens, written, aggregate, text, eq_ok_of_toOption parsed,
    eq_ok_of_toOption scanned, definition, member, body, _, planned, puts, declared, ?_⟩
  rw [shape] at declared
  rw [Container.arguments_typeOf]
  exact congrArg ([·]) (List.cons.inj declared).1

end Registry

end Fieldwise
