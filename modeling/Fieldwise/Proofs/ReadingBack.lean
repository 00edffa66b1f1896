/-
This file proves that a shape prints back to what it is the shape of. It prints the type that it was
found for, without the parentheses and invisible groups around types, the `::` before arguments and
the comma after them that are not part of it. Where the grammar reads back what the shape keeps as
it is written, it reads those tokens as that type, and the type has the same shape again.
-/

import Fieldwise.Proofs.PathTypes

namespace Fieldwise

open Grammar Reader
open Token (Borders)

/-! ### Types that read back -/

/-- Wherever a type may end, the grammar reads the type back from its tokens, if it goes deep
enough for them. -/
def WrittenType.ReadsBack (written : WrittenType) : Prop :=
  ∀ depth, depthFor written.tokens ≤ depth → ∀ rest, Borders rest →
    Takes (type (phraseWithin depth)) (written.tokens ++ rest) written rest

/-- The grammar reads the tokens back as the length of an array, if it goes deep enough. -/
def Tokens.ReadBackAsLength (length : Tokens) : Prop :=
  ∀ depth, depthFor length ≤ depth →
    Takes (captured (discard (expression (phraseWithin depth)))) length length []

/-- What a shape keeps of a type reads back: the types that are not taken apart, the lengths of
arrays, and the paths, with nothing between their angle brackets if they have arguments. -/
inductive TypeExpression.PartsReadBack : TypeExpression → Prop
  | array {element : TypeExpression} {length : Tokens} (inner : element.PartsReadBack)
    (counted : length.ReadBackAsLength) : PartsReadBack (.array element length)
  | parameterized {name : QualifiedName} {arguments : List TypeExpression}
    (path : (TypeExpression.parameterized name []).tree.ReadsBack)
    (each : ∀ argument ∈ arguments, argument.PartsReadBack) :
    PartsReadBack (.parameterized name arguments)
  | simple {name : QualifiedName} (path : (TypeExpression.simple name).tree.ReadsBack) :
    PartsReadBack (.simple name)
  | unanalysed {written : WrittenType} (kept : written.ReadsBack) :
    PartsReadBack (.unanalysed written)

theorem WrittenType.ReadsBack.whole {written : WrittenType} (back : written.ReadsBack) :
    WrittenType.ofTokens written.tokens = .ok written := by
  have taken := back (depthFor written.tokens) (Nat.le_refl _) [] .ended
  rw [List.append_nil] at taken
  exact taken.whole

/-! ### Depths -/

theorem Token.countAll_le_commaSeparated {item : Tokens} {items : List Tokens}
    (member : item ∈ items) : countAll item ≤ countAll (commaSeparated items) := by
  induction items with
  | nil => cases member
  | cons first rest inductionHypothesis =>
    cases rest with
    | nil =>
      cases List.mem_singleton.mp member
      exact Nat.le_refl _
    | cons next others =>
      rw [commaSeparated, separated, countAll_append]
      rcases List.mem_cons.mp member with rfl | later
      · rw [countAll_append, Nat.add_assoc]
        exact Nat.le_add_right _ _
      · exact Nat.le_trans (inductionHypothesis later) (Nat.le_add_left _ _)

/-- Below a depth that is enough for some tokens, it is enough for fewer. -/
theorem exists_depth_below {tokens : Tokens} {depth : Nat} (enough : depthFor tokens ≤ depth) :
    ∃ below, depth = below + 1 ∧
      ∀ inner, Token.countAll inner < Token.countAll tokens → depthFor inner ≤ below := by
  unfold depthFor at enough ⊢
  obtain ⟨below, rfl⟩ : ∃ below, depth = below + 1 :=
    Nat.exists_eq_add_one_of_ne_zero (by omega)
  refine ⟨below, rfl, fun inner fewer => ?_⟩
  omega

/-! ### Reading trees back -/

/-- What reads back is read back as an argument. -/
theorem WrittenType.ReadsBack.readsArgument {written : WrittenType} (back : written.ReadsBack)
    {depth : Nat} (enough : depthFor written.tokens ≤ depth) :
    ReadsArgument (phraseWithin depth) written.tokens fun argument => argument = .type written := by
  have argument : ReadsArgument (phraseWithin depth) written.tokens
      fun argument => ∃ type, type = written ∧ argument = .type type :=
    readsArgument_of_type (fun rest borders => (onlyGives_type depth true true _).of_takes
        (back depth enough rest borders) |>.startsArgument)
      fun rest borders => takes_iff_accepts.mp (back depth enough rest borders)
  refine ⟨argument.unclosed, fun rest borders => (argument.reads rest borders).imp ?_⟩
  rintro _ ⟨_, rfl, same⟩
  exact same

/-- Names that may stand in a path are read back, and so are the arguments of the last. -/
theorem readsSegment_of_takesArguments {recur : Recursion} {names : List Identifier}
    {types : List TypeExpression} (takes : TakesArguments names)
    (each : ∀ type ∈ types,
      ReadsArgument recur type.tree.tokens fun argument => argument = .type type.tree) :
    ∀ segment ∈ namedSegments names (.angled false (TypeExpression.argumentTrees types) false),
      ReadsSegment recur false segment.tokens fun result => result = segment := by
  induction takes with
  | last names taking =>
    refine List.forall_mem_singleton.mpr ⟨⟨_, _, rfl⟩, fun rest _ => ?_⟩
    rw [Segment.tokens, TypeExpression.tokens_argumentTrees, List.cons_append, List.cons_append,
      List.append_assoc]
    refine (accepts_segment_of_angled names taking (takes_iff_accepts.mp (takes_angled each))).imp ?_
    rintro _ ⟨_, rfl, same⟩
    exact same
  | next names _ inductionHypothesis =>
    exact List.forall_mem_cons.mpr ⟨readsSegment_name names, inductionHypothesis⟩

namespace TypeExpression

variable {name : QualifiedName} {arguments : List TypeExpression}

/-- The tokens of an argument are fewer than those of the type applied to it. -/
theorem countAll_argument_lt {rooted : Bool} {names : List Identifier} (nonempty : names ≠ [])
    {argument : TypeExpression} (member : argument ∈ arguments) :
    Token.countAll argument.tree.tokens <
      Token.countAll (parameterized ⟨rooted, names⟩ arguments).tree.tokens := by
  have among := Token.countAll_le_commaSeparated
    (List.mem_map.mpr ⟨argument, member, rfl⟩ :
      argument.tree.tokens ∈ arguments.map (·.tree.tokens))
  have bracket : Token.countAll [.greater] = 1 := rfl
  rw [tree, tokens_path_namedSegments rooted nonempty, tokens_argumentTrees,
    Token.countAll_append, Token.countAll, Token.countAll_append, bracket]
  omega

/-- Where the names may stand in a path, a type applied to arguments reads back if they do. -/
theorem readsBack_of_takesArguments {rooted : Bool} {first : Identifier} {others : List Identifier}
    (takes : TakesArguments (first :: others)) (starts : rooted = false → StartsPath first)
    (each : ∀ argument ∈ arguments, argument.tree.ReadsBack) :
    (parameterized ⟨rooted, first :: others⟩ arguments).tree.ReadsBack := by
  intro depth enough rest borders
  obtain ⟨below, rfl, within⟩ := exists_depth_below enough
  have segments := readsSegment_of_takesArguments takes fun argument member =>
    (each argument member).readsArgument
      (within _ (countAll_argument_lt (List.cons_ne_nil first others) member))
  obtain ⟨own, later, named⟩ := exists_namedSegments_cons first others
    (.angled false (argumentTrees arguments) false)
  rw [named] at segments
  rw [tree, named]
  exact takes_typeRule_path starts borders.endsPath segments

/-- A type applied to arguments reads back if its path and its arguments do. -/
theorem readsBack_parameterized (path : (parameterized name []).tree.ReadsBack)
    (each : ∀ argument ∈ arguments, argument.tree.ReadsBack) :
    (parameterized name arguments).tree.ReadsBack := by
  obtain ⟨rooted, names⟩ := name
  match names with
  | [] => exact path
  | first :: others =>
    -- One depth at which the path reads back is enough to know its names.
    have empty := path (depthFor _) (Nat.le_refl _) [] .ended
    rw [List.append_nil] at empty
    obtain ⟨takes, starts⟩ := takesArguments_of_takes empty
    exact readsBack_of_takesArguments takes starts each

/-- The syntax tree of a shape reads back if what the shape keeps does. -/
theorem readsBack_tree {shape : TypeExpression} (parts : shape.PartsReadBack) :
    shape.tree.ReadsBack := by
  induction parts with
  | @array element length _ counted inner =>
    intro depth enough rest borders
    have count : Token.countAll (array element length).tree.tokens =
        Token.countAll element.tree.tokens + 1 + Token.countAll length + 2 := by
      have bracketed (content : Tokens) :
          Token.countAll [.bracketed content] = Token.countAll content + 2 := rfl
      rw [tree, WrittenType.tokens, bracketed, Token.countAll_append, Token.countAll_append]
      rfl
    obtain ⟨below, rfl, within⟩ := exists_depth_below enough
    rw [count] at within
    exact takes_typeRule_array (inner below (within _ (by omega)))
      (counted below (within _ (by omega)))
  | parameterized path _ each => exact readsBack_parameterized path each
  | simple path => exact path
  | unanalysed kept => exact kept

/-- A shape prints the tokens of the type that it was found for, without the parentheses and
invisible groups around types, the `::` before arguments and the comma after them. Where what it
keeps reads back, it is the shape of the type that these tokens are read as. -/
theorem ofWritten_prints_back (written : WrittenType) :
    (ofWritten written).tokens = (written.spelled .same).tokens ∧
      ((ofWritten written).PartsReadBack →
        WrittenType.ofTokens (ofWritten written).tokens = .ok (written.spelled .same) ∧
          (WrittenType.ofTokens (ofWritten written).tokens).map ofWritten =
            .ok (ofWritten written)) := by
  obtain ⟨tree, tokens⟩ := mirrors written
  refine ⟨tokens.symm, fun parts => ?_⟩
  have back := (readsBack_tree parts).whole
  rw [tree, tokens] at back
  refine ⟨back, ?_⟩
  rw [back]
  exact congrArg Except.ok ((ofWritten_spelled written).trans (spelled_same _))

/-- The parentheses around the element, the `::` and the comma of `[(Vec::<(),>); 3]` are not
printed; what is printed is read as `[Vec<()>; 3]`. -/
theorem ofWritten_prints_back_units :
    let written : WrittenType := .array (.parenthesized (.path false [.mk (.plain "Vec")
      (.angled true [.type (.other [.parenthesized []])] true)])) [.literal "3"]
    let printed : Tokens := [.bracketed [.word (.plain "Vec"), .less, .parenthesized [], .greater,
      .semicolon, .literal "3"]]
    (ofWritten written).PartsReadBack ∧ (ofWritten written).tokens = printed ∧
      (WrittenType.ofTokens printed).map ofWritten = .ok (ofWritten written) := by
  intro written printed
  have ordinary : NamesSegment (.plain "Vec") := .inr (.inr (by decide))
  have path : (parameterized ⟨false, [.plain "Vec"]⟩ []).tree.ReadsBack :=
    readsBack_of_takesArguments (.last ordinary (by decide)) (fun _ => rfl) (List.forall_mem_nil _)
  have unit : (WrittenType.other [.parenthesized []]).ReadsBack := by
    intro depth enough rest borders
    obtain ⟨more, rfl⟩ := Nat.exists_eq_add_of_le' enough
    rintro ⟨_, position, read⟩ rfl
    cases borders <;> exact ⟨_, rfl, rfl⟩
  have length : Tokens.ReadBackAsLength [.literal "3"] := by
    intro depth enough
    obtain ⟨more, rfl⟩ := Nat.exists_eq_add_of_le' enough
    rintro ⟨_, position, read⟩ rfl
    exact ⟨_, rfl, rfl⟩
  have parts : (ofWritten written).PartsReadBack :=
    .array (.parameterized path (List.forall_mem_singleton.mpr (.unanalysed unit))) length
  exact ⟨parts, rfl, ((ofWritten_prints_back written).2 parts).2⟩

end TypeExpression

end Fieldwise
