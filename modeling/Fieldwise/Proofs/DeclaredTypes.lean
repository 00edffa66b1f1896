/-
This file says what is asked of the types that a declaration gives to bodies. The grammar has to
accept them where they are put, and a few do not fit there even so: an array whose length does not
stay in one piece, and a map whose keys have a type that opens with a lifetime. Types that are made
of names and arrays alone are accepted and fit if each length is a name or a literal. No keyword
names a type that is recognised by its spelling.
-/

import Fieldwise.Generator.Builtin
import Fieldwise.Proofs.ArrayLengths

namespace Fieldwise

open Grammar Reader Lookahead

/-! ### What is asked of types -/

/-- Deep enough for the tokens, the grammar accepts them as a type wherever one may end. -/
def Tokens.ReadAsType (tokens : Tokens) : Prop := ReadsType (depthFor tokens) tokens

/-- Deep enough for the tokens, the grammar accepts them as an expression to their end. -/
def Tokens.ReadAsLength (tokens : Tokens) : Prop :=
  Reads expression (depthFor tokens) tokens (fun _ => True) (· = [])

/-- The grammar accepts the types that a shape is made of, and the length of an array. -/
def TypeExpression.PartsRead : TypeExpression → Prop
  | .array element length => Tokens.ReadAsType element.tokens ∧ Tokens.ReadAsLength length
  | .parameterized _ arguments => ∀ argument ∈ arguments, Tokens.ReadAsType argument.tokens
  | _ => True

/-- The grammar accepts the declared type of a field and the types that it is made of. -/
structure Field.TypesRead (field : Field) : Prop where
  declared : Tokens.ReadAsType field.written.tokens
  parts : field.shape.PartsRead

/-- Whether what a shape gives to bodies can stand there: the length of an array stays in one
piece, and the type of the keys of a map opens with no lifetime. -/
def TypeExpression.fitsBodies : TypeExpression → Bool
  | .array _ length => staysTogether length
  | .parameterized container (key :: _) =>
    !(container.isOneOf Generator.mapSpellings && Lookahead.lifetime key.tokens)
  | _ => true

/-! ### Lengths of one token -/

/-- A length that is a literal or the name of a constant. -/
inductive Tokens.PlainLength : Tokens → Prop
  | literal (text : String) : PlainLength [.literal text]
  | name {name : Identifier} (ordinary : name.isKeyword = false) : PlainLength [.word name]

namespace Tokens.PlainLength

variable {length : Tokens}

theorem readAsLength (plain : PlainLength length) : ReadAsLength length := by
  have expression : ReadsExpression true 2 length := by
    cases plain with
    | literal text => exact ((readsAtom_literal text).readsOperand nofun).readsExpression
    | name ordinary =>
      have named : ReadsAtom true 0 [.word _] _ := readsAtom_bare (.of_single ordinary)
      exact (named.readsOperand nofun).readsExpression
  have enough : 2 ≤ depthFor length := by
    rw [depthFor]
    omega
  refine (expression.mono enough).before ?_
  rintro _ rfl
  exact .ended

theorem staysTogether (plain : PlainLength length) : Grammar.staysTogether length = true := by
  cases plain with
  | literal text => rfl
  | name ordinary => exact opensExpression_word ordinary

end Tokens.PlainLength

/-! ### Types without other parts -/

/-- A type that is made of names without keywords, each of them applied to types or to nothing, and
of arrays with plain lengths. -/
inductive TypeExpression.Plain : TypeExpression → Prop
  | simple {name : QualifiedName} (ordinary : name.Ordinary) : Plain (.simple name)
  | parameterized {name : QualifiedName} {arguments : List TypeExpression}
      (ordinary : name.Ordinary) (each : ∀ argument ∈ arguments, argument.Plain) :
      Plain (.parameterized name arguments)
  | array {element : TypeExpression} {length : Tokens} (each : element.Plain)
      (counted : length.PlainLength) : Plain (.array element length)

namespace TypeExpression

theorem listTokens_eq_map (types : List TypeExpression) : listTokens types = types.map tokens := by
  induction types with
  | nil => rfl
  | cons first rest inductionHypothesis => rw [listTokens, inductionHypothesis, List.map_cons]

variable {name : QualifiedName} {arguments : List TypeExpression}

theorem tokens_parameterized : (TypeExpression.parameterized name arguments).tokens =
    name.tokens ++ Code.angled (Token.commaSeparated (arguments.map tokens)) := by
  rw [tokens, listTokens_eq_map, Code.angled]
  simp only [List.append_assoc]

theorem countAll_lt_of_mem {argument : TypeExpression} (among : argument ∈ arguments) :
    Token.countAll argument.tokens <
      Token.countAll (TypeExpression.parameterized name arguments).tokens := by
  have part : Token.countAll argument.tokens ≤ _ :=
    Token.countAll_le_commaSeparated (List.mem_map_of_mem among)
  rw [tokens_parameterized, Code.angled]
  simp only [Token.countAll_append]
  have opening : Token.countAll [Token.less] = 1 := rfl
  omega

/-- The grammar accepts such a type wherever a path may end. -/
theorem Plain.readsPathType {shape : TypeExpression} (plain : shape.Plain) :
    ReadsPathType (depthFor shape.tokens) shape.tokens := by
  induction plain with
  | simple ordinary =>
    refine (readsPathType_name ordinary).mono ?_
    rw [depthFor]
    omega
  | @parameterized name arguments ordinary _ inner =>
    obtain ⟨below, same, within⟩ := exists_depth_below
      (Nat.le_refl (depthFor (TypeExpression.parameterized name arguments).tokens))
    have listed : ∀ item ∈ arguments.map tokens, ReadsInAngles below item :=
      List.forall_mem_map.mpr fun argument among =>
        (inner argument among).readsType.readsInAngles.mono (within _ (countAll_lt_of_mem among))
    have applied : ReadsPathType (below + 1)
        (_ ++ Code.angled (_ ++ if false = true then _ else _)) :=
      readsPathType_applied ordinary listed nofun
    rwa [if_neg Bool.false_ne_true, List.append_nil, ← tokens_parameterized, ← same] at applied
  | @array element length _ counted inner =>
    obtain ⟨below, same, within⟩ := exists_depth_below
      (Nat.le_refl (depthFor (TypeExpression.array element length).tokens))
    have parts : Token.countAll (TypeExpression.array element length).tokens =
        Token.countAll element.tokens + 1 + Token.countAll length + 2 := by
      have bracketed (content : Tokens) :
          Token.countAll [.bracketed content] = Token.countAll content + 2 := rfl
      rw [tokens, bracketed, Token.countAll_append, Token.countAll_append]
      rfl
    rw [parts] at within
    rw [same, tokens]
    exact readsPathType_array (inner.readsType.mono (within _ (by omega)))
      (counted.readAsLength.mono (within _ (by omega)))

/-- A type that is made of names and arrays opens with no lifetime. -/
theorem Plain.unbounded {shape : TypeExpression} (plain : shape.Plain) :
    Lookahead.lifetime shape.tokens = false := by
  have named {name : QualifiedName} (ordinary : name.Ordinary) (rest : Tokens) :
      Lookahead.lifetime (name.tokens ++ rest) = false := by
    obtain ⟨named, -⟩ := ordinary
    obtain ⟨rooted, first | ⟨first, later⟩⟩ := name
    · exact absurd rfl named
    rw [QualifiedName.tokens, List.map_cons, pathTokens_cons]
    cases rooted <;> rfl
  cases plain with
  | simple ordinary =>
    have alone := named ordinary []
    rwa [List.append_nil] at alone
  | parameterized ordinary _ =>
    rw [tokens_parameterized]
    exact named ordinary _
  | array => rfl

theorem Plain.fitsBodies {shape : TypeExpression} (plain : shape.Plain) :
    shape.fitsBodies = true := by
  cases plain with
  | simple => rfl
  | @parameterized name arguments _ each =>
    cases arguments with
    | nil => rfl
    | cons key others =>
      rw [TypeExpression.fitsBodies, (each key List.mem_cons_self).unbounded, Bool.and_false]
      rfl
  | array _ counted => exact counted.staysTogether

theorem Plain.partsRead {shape : TypeExpression} (plain : shape.Plain) : shape.PartsRead := by
  cases plain with
  | simple => exact trivial
  | parameterized _ each => exact fun argument among => (each argument among).readsPathType.readsType
  | array each counted => exact ⟨each.readsPathType.readsType, counted.readAsLength⟩

end TypeExpression

/-- The type of a field is made of names and arrays, and is printed as it is written. -/
structure Field.Plain (field : Field) : Prop where
  shape : field.shape.Plain
  printed : field.written.tokens = field.shape.tokens

/-- So the grammar accepts it with the types that it is made of. -/
theorem Field.Plain.typesRead {field : Field} (plain : field.Plain) : field.TypesRead := by
  refine ⟨?_, plain.shape.partsRead⟩
  rw [plain.printed]
  exact plain.shape.readsPathType.readsType

/-! ### Names of spellings -/

/-- A text stands in what it is put together into with others. -/
theorem infix_intercalate {text : String} {texts : List String} (among : text ∈ texts) :
    text.toList <:+: ("::".intercalate texts).toList := by
  induction texts with
  | nil => cases among
  | cons first rest inductionHypothesis =>
    cases rest with
    | nil =>
      rw [List.mem_singleton.mp among, String.intercalate_singleton]
    | cons second others =>
      rw [String.intercalate_cons_cons, String.toList_append, String.toList_append]
      rcases List.mem_cons.mp among with rfl | later
      · rw [List.append_assoc]
        exact (List.prefix_append _ _).isInfix
      · exact (inductionHypothesis later).trans (List.suffix_append _ _).isInfix

/-- A name with one of the spellings has parts, and no keyword is among them if none stands in the
spellings. -/
theorem QualifiedName.ordinary_of_isOneOf {name : QualifiedName} {spellings : List String}
    (filled : "" ∉ spellings)
    (keywordless : ∀ spelling ∈ spellings, ∀ keyword ∈ Identifier.keywords,
      ¬ keyword.toList <:+: spelling.toList)
    (spelled : name.isOneOf spellings = true) : name.Ordinary := by
  have listed : name.relative ∈ spellings := List.contains_iff_mem.mp spelled
  refine ⟨fun nameless => ?_, fun part among => ?_⟩
  · rw [relative, nameless] at listed
    exact filled listed
  · rw [Identifier.isKeyword, Bool.and_eq_false_iff]
    refine .inr (Bool.eq_false_iff.mpr fun keyword => ?_)
    exact keywordless _ listed _ (List.contains_iff_mem.mp keyword)
      (infix_intercalate (List.mem_map_of_mem among))

/-- So does the name of a type that is recognised by the spellings. -/
theorem TypeExpression.exists_ordinary_name? {shape : TypeExpression} {spellings : List String}
    (filled : "" ∉ spellings)
    (keywordless : ∀ spelling ∈ spellings, ∀ keyword ∈ Identifier.keywords,
      ¬ keyword.toList <:+: spelling.toList)
    (named : shape.isParameterizedAs spellings = true) :
    ∃ own, shape.name? = some own ∧ own.Ordinary := by
  cases shape with
  | parameterized name arguments =>
    exact ⟨name, rfl, QualifiedName.ordinary_of_isOneOf filled keywordless named⟩
  | _ => cases named

end Fieldwise
