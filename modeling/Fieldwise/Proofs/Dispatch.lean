/-
This file says which built-in generator is resolved for a type. The law reads the type's
structure only: its form, its name, and whether it has one argument of fixed size. Known
containers are recognised by the text of the type, so the law holds of them as far as the
text of the argument keeps the brackets around it apart from its own. It does for all types
in which every bracket is matched, and does not for an array whose length shifts a number to
the left.
-/

import Fieldwise.Grammar.Phrase
import Fieldwise.Proofs.Brackets
import Fieldwise.Proofs.Results
import Fieldwise.Token.Lexer
import Fieldwise.Unicode.Identifier
import Mathlib.Data.List.Find

namespace Fieldwise

/-! ### Names -/

/-- The text of the name is one that an identifier can have. -/
def Identifier.Lexical (name : Identifier) : Prop :=
  name.text ≠ "" ∧ ∀ character ∈ name.text.toList, Unicode.continuesIdentifier character

instance (name : Identifier) : Decidable name.Lexical :=
  @instDecidableAnd _ _ _ (List.decidableBAll _ _)

theorem Identifier.Lexical.not_mem {name : Identifier} (lexical : name.Lexical)
    {character : Char} (foreign : Unicode.continuesIdentifier character = false) :
    character ∉ name.text.toList := by
  intro member
  have continues := lexical.2 character member
  rw [foreign] at continues
  cases continues

namespace QualifiedName

/-- The name has parts, and all of them are lexical. -/
def Lexical (name : QualifiedName) : Prop :=
  name.names ≠ [] ∧ ∀ part ∈ name.names, part.Lexical

instance (name : QualifiedName) : Decidable name.Lexical := inferInstanceAs (Decidable (_ ∧ _))

/-- A character of names in a row is a colon, or in one of the names. -/
theorem mem_intercalate {character : Char} {names : List String}
    (member : character ∈ ("::".intercalate names).toList) :
    character = ':' ∨ ∃ part ∈ names, character ∈ part.toList := by
  induction names with
  | nil => exact absurd member (by simp)
  | cons first rest inductionHypothesis =>
    cases rest with
    | nil => exact .inr ⟨first, List.mem_cons_self, by simpa using member⟩
    | cons second others =>
      rw [String.intercalate_cons_cons, String.toList_append, String.toList_append,
        List.mem_append, List.mem_append] at member
      rcases member with (within | separator) | after
      · exact .inr ⟨first, List.mem_cons_self, within⟩
      · exact .inl (by simpa using separator)
      · rcases inductionHypothesis after with colon | ⟨part, partMember, within⟩
        · exact .inl colon
        · exact .inr ⟨part, List.mem_cons_of_mem first partMember, within⟩

theorem prefix_intercalate (first : String) (rest : List String) :
    first.toList <+: ("::".intercalate (first :: rest)).toList := by
  cases rest with
  | nil => simp
  | cons second others =>
    rw [String.intercalate_cons_cons, String.toList_append, String.toList_append, List.append_assoc]
    exact List.prefix_append _ _

/-- The text of the name can stand before the arguments of a type: it has a first character,
which is no colon, and no bracket opens in it. -/
structure Leading (name : QualifiedName) : Prop where
  ne_nil : name.relative.toList ≠ []
  notColon : name.relative.toList.head? ≠ some ':'
  unbracketed : '<' ∉ name.relative.toList

/-- The `::` that is dropped before a text is the one that the name was written with. -/
theorem Leading.withoutRoot_display {name : QualifiedName} (leading : name.Leading)
    (rest : String) : Text.withoutRoot (name.display ++ rest) = name.relative ++ rest := by
  apply String.toList_inj.mp
  rw [Text.withoutRoot, String.toList_ofList, Text.after?, display]
  cases name.rooted with
  | true =>
    rw [if_pos rfl, String.append_assoc, String.toList_append,
      if_pos (List.isPrefixOf_iff_prefix.mpr (List.prefix_append _ _)), Option.getD_some,
      List.drop_left]
  | false =>
    rw [if_neg Bool.false_ne_true, if_neg, Option.getD_none]
    -- A name that is written without `::` does not start with a colon either.
    intro rooted
    cases characters : name.relative.toList with
    | nil => exact leading.ne_nil characters
    | cons first tail =>
      rw [String.toList_append, characters, List.isPrefixOf_iff_prefix, List.cons_append] at rooted
      obtain ⟨rfl, -⟩ := List.cons_prefix_cons.mp rooted
      refine leading.notColon ?_
      rw [characters]
      rfl

namespace Lexical

variable {name : QualifiedName}

/-- A character of the name is a colon or continues an identifier. -/
theorem not_mem_relative (lexical : name.Lexical) {character : Char} (notColon : character ≠ ':')
    (foreign : Unicode.continuesIdentifier character = false) :
    character ∉ name.relative.toList := by
  intro member
  rcases mem_intercalate member with colon | ⟨part, partMember, within⟩
  · exact notColon colon
  · obtain ⟨identifier, identifierMember, rfl⟩ := List.mem_map.mp partMember
    exact (lexical.2 identifier identifierMember).not_mem foreign within

theorem relative_eq_cons (lexical : name.Lexical) :
    ∃ first rest, name.relative.toList = first :: rest ∧ Unicode.continuesIdentifier first := by
  obtain ⟨rooted, names⟩ := name
  cases names with
  | nil => exact absurd rfl lexical.1
  | cons head others =>
    obtain ⟨nonempty, continues⟩ := lexical.2 head List.mem_cons_self
    obtain ⟨after, parts⟩ := prefix_intercalate head.text (others.map (·.text))
    cases characters : head.text.toList with
    | nil => exact absurd (String.toList_eq_nil_iff.mp characters) nonempty
    | cons first tail =>
      refine ⟨first, tail ++ after, ?_, continues first (characters ▸ List.mem_cons_self)⟩
      rw [relative, List.map_cons, ← parts, characters, List.cons_append]

/-- A lexical name can stand before its arguments. -/
theorem leading (lexical : name.Lexical) : name.Leading := by
  obtain ⟨first, rest, parts, continues⟩ := lexical.relative_eq_cons
  refine ⟨?_, ?_, lexical.not_mem_relative (by decide) (by decide)⟩
  · rw [parts]
    exact List.cons_ne_nil first rest
  · rw [parts]
    rintro ⟨⟩
    exact absurd continues (by decide)

end Lexical

end QualifiedName

/-! ### The law of resolution -/

namespace Generator

/-- The generators that recognise a type by its name, each with the names. -/
def spelled : List (List String × Generator) := [
  (["Vec", "std::vec::Vec", "alloc::vec::Vec"], sequence),
  (setSpellings, set),
  (["Option", "std::option::Option", "core::option::Option"], optional),
  (["Either", "undertow::Either", "undertow::either::Either", "either::Either"], either),
  (["Validated", "undertow::Validated", "undertow::validated::Validated"], validated),
  (["Result", "std::result::Result", "core::result::Result"], result),
  (mapSpellings, map)]

/-- The generator that recognises a name. -/
def ofName? (name : String) : Option Generator :=
  (spelled.find? (·.1.contains name)).map (·.2)

/-- The generator with a plan of its own for a type: arrays are told by their form, other
types by their name. -/
def planned? : TypeExpression → Option Generator
  | .array _ _ => some array
  | .parameterized name _ => ofName? name.relative
  | _ => none

/-- The generator of the known container for a type: that of its name, if the only argument
has a fixed size. -/
def known? : TypeExpression → Option Generator
  | .parameterized name [argument] =>
    if argument.isUnsized then none else (KnownContainer.find? name.relative).map ofKnown
  | _ => none

/-- The generator for a type, by the structure of the type alone. -/
def dispatch (shape : TypeExpression) : Option Generator :=
  (planned? shape).or (known? shape)

/-! ### Generators with plans of their own -/

theorem supports_of_mem_spelled (name : QualifiedName) (arguments : List TypeExpression) :
    ∀ row ∈ spelled,
      row.2.supports (.parameterized name arguments) = row.1.contains name.relative := by
  simp only [spelled, List.forall_mem_cons]
  exact ⟨rfl, rfl, rfl, rfl, rfl, rfl, rfl, fun _ member => absurd member List.not_mem_nil⟩

/-- Of the generators with plans of their own, the first that supports a type is the one
that recognises its form or its name. -/
theorem find?_shapes (shape : TypeExpression) :
    shapes.find? (·.supports shape) = planned? shape := by
  cases shape with
  | array element length => rfl
  | parameterized name arguments =>
    have skipped : shapes.find? (·.supports (.parameterized name arguments)) =
        (spelled.map (·.2)).find? (·.supports (.parameterized name arguments)) := by
      rw [shapes, List.find?_cons, List.find?_cons_of_neg (a := array) Bool.false_ne_true]
      rfl
    rw [skipped, List.find?_map, planned?, ofName?]
    exact congrArg _ (List.find?_congr (supports_of_mem_spelled name arguments))
  | simple name => rfl
  | unanalysed written => rfl

/-! ### Known containers -/

variable {known : KnownContainer} {name : QualifiedName} {arguments : List TypeExpression}

/-- Containers that take more than one argument are recognised by generators with plans of
their own. -/
theorem ofName?_of_takesOthers :
    ∀ known ∈ KnownContainer.table, known.takesOthers → (ofName? known.spelling).isSome := by
  decide

/-- Of all other containers the first argument is the focus. -/
theorem focusIndex_of_not_takesOthers :
    ∀ known ∈ KnownContainer.table, known.takesOthers = false → known.focusIndex = 0 := by
  decide

theorem toList_display (name : QualifiedName) (text : String) :
    (name.relative ++ ("<" ++ text ++ ">")).toList =
      name.relative.toList ++ '<' :: (text.toList ++ ['>']) := by
  rw [String.toList_append, String.toList_append, String.toList_append]
  rfl

theorem baseName_display (leading : name.Leading) (text : String) :
    Text.baseName (name.relative ++ ("<" ++ text ++ ">")) = name.relative := by
  rw [Text.baseName, toList_display, Text.baseCharacters_name leading.ne_nil leading.unbracketed,
    String.ofList_toList]

theorem argumentText_display (leading : name.Leading) (text : String) :
    (!(Text.argumentText (name.relative ++ ("<" ++ text ++ ">"))).isEmpty) = true ↔
      Text.Found text.toList := by
  rw [← Text.argumentCharacters_name_ne_nil_iff leading.ne_nil leading.unbracketed,
    ← toList_display]
  simp [Text.argumentText]

/-- What is compared with the spelling of a known container is the name of the type, and the
text of its arguments has to be found. -/
theorem supportsKnown_eq (leading : name.Leading) :
    supportsKnown known (.parameterized name arguments) =
      if !known.takesOthers && arguments.length ≠ 1 then false
      else if (arguments[known.focusIndex]?).any (·.isUnsized) then false
      else name.relative == known.spelling && !(Text.argumentText (name.relative ++
        ("<" ++ ", ".intercalate (TypeExpression.displayEach arguments) ++ ">"))).isEmpty := by
  have text : Text.withoutRoot (TypeExpression.parameterized name arguments).display =
      name.relative ++
        ("<" ++ ", ".intercalate (TypeExpression.displayEach arguments) ++ ">") := by
    rw [TypeExpression.display, String.append_assoc, String.append_assoc,
      leading.withoutRoot_display, String.append_assoc]
  simp only [supportsKnown, text, baseName_display leading]

theorem spelling_eq_of_supportsKnown (leading : name.Leading)
    (supported : supportsKnown known (.parameterized name arguments) = true) :
    known.spelling = name.relative := by
  rw [supportsKnown_eq leading] at supported
  split at supported
  · cases supported
  split at supported
  · cases supported
  rw [Bool.and_eq_true, beq_iff_eq] at supported
  exact supported.1.symm

/-- A known container with one argument supports a type exactly if the type has its name, and
one argument, of fixed size and with a text that is found between the brackets. -/
theorem supportsKnown_iff (single : known.takesOthers = false) (first : known.focusIndex = 0)
    (lexical : name.Lexical) :
    supportsKnown known (.parameterized name arguments) = true ↔
      ∃ argument, arguments = [argument] ∧ argument.isUnsized = false ∧
        known.spelling = name.relative ∧ Text.Found argument.display.toList := by
  rw [supportsKnown_eq lexical.leading, single, first]
  constructor
  · intro supported
    split at supported
    · cases supported
    rename_i one
    split at supported
    · cases supported
    rename_i sized
    obtain ⟨argument, rfl⟩ : ∃ argument, arguments = [argument] := by
      simpa [List.length_eq_one_iff] using one
    rw [Bool.and_eq_true, beq_iff_eq, argumentText_display lexical.leading] at supported
    exact ⟨argument, rfl, by simpa using sized, supported.1.symm, by
      simpa [TypeExpression.displayEach] using supported.2⟩
  · rintro ⟨argument, rfl, sized, spelled, found⟩
    rw [if_neg (by simp), if_neg (by simp [sized]), Bool.and_eq_true, beq_iff_eq,
      argumentText_display lexical.leading]
    exact ⟨spelled.symm, by simpa [TypeExpression.displayEach] using found⟩

/-- The text of the only argument of a type, if it has only one, is found between the brackets
of the argument list. -/
def Readable (shape : TypeExpression) : Prop :=
  ∀ argument, shape.arguments = [argument] → Text.Found argument.display.toList

/-- Where no generator with a plan of its own supports a type, a known container supports it
as if it took one argument. -/
theorem supportsKnown_iff_of_mem (member : known ∈ KnownContainer.table)
    (unplanned : ofName? name.relative = none) (lexical : name.Lexical) :
    supportsKnown known (.parameterized name arguments) = true ↔
      ∃ argument, arguments = [argument] ∧ argument.isUnsized = false ∧
        known.spelling = name.relative ∧ Text.Found argument.display.toList := by
  cases others : known.takesOthers with
  | false =>
    exact supportsKnown_iff others (focusIndex_of_not_takesOthers known member others) lexical
  | true =>
    -- The name of such a container is one that a generator with a plan of its own recognises.
    have foreign : known.spelling ≠ name.relative := by
      intro same
      have recognised := ofName?_of_takesOthers known member others
      rw [same, unplanned] at recognised
      cases recognised
    constructor
    · intro supported
      exact absurd (spelling_eq_of_supportsKnown lexical.leading supported) foreign
    · rintro ⟨_, -, -, same, -⟩
      exact absurd same foreign

/-- Where no generator with a plan of its own supports a type, the first known container that
supports it is the one with its name, if the only argument has a fixed size and is found. -/
theorem find?_known (unplanned : ofName? name.relative = none) (lexical : name.Lexical)
    (readable : Readable (.parameterized name arguments)) :
    (KnownContainer.table.map ofKnown).find? (·.supports (.parameterized name arguments)) =
      known? (.parameterized name arguments) := by
  rw [List.find?_map]
  -- With a sole argument of fixed size both searches are for the name; else both find nothing.
  by_cases sole : ∃ argument, arguments = [argument] ∧ argument.isUnsized = false
  · obtain ⟨argument, rfl, sized⟩ := sole
    rw [known?, if_neg (by simp [sized]), KnownContainer.find?]
    refine congrArg _ (List.find?_congr fun known member => Bool.eq_iff_iff.mpr ?_)
    refine (supportsKnown_iff_of_mem member unplanned lexical).trans ?_
    rw [beq_iff_eq]
    constructor
    · rintro ⟨_, -, -, same, -⟩
      exact same
    · intro same
      exact ⟨argument, rfl, sized, same, readable argument rfl⟩
  · have none : known? (.parameterized name arguments) = none := by
      unfold known?
      split
      · rename_i argument same
        cases same
        refine if_pos ?_
        by_contra sized
        exact sole ⟨argument, rfl, by simpa using sized⟩
      · rfl
    rw [none, Option.map_eq_none_iff, List.find?_eq_none]
    intro known member supported
    obtain ⟨argument, one, sized, -⟩ :=
      (supportsKnown_iff_of_mem member unplanned lexical).mp supported
    exact sole ⟨argument, one, sized⟩

theorem find?_known_of_not_readable (unplanned : ofName? name.relative = none)
    (lexical : name.Lexical) (unreadable : ¬ Readable (.parameterized name arguments)) :
    (KnownContainer.table.map ofKnown).find? (·.supports (.parameterized name arguments)) =
      none := by
  rw [List.find?_map, Option.map_eq_none_iff, List.find?_eq_none]
  intro known member supported
  obtain ⟨argument, rfl, -, -, found⟩ :=
    (supportsKnown_iff_of_mem member unplanned lexical).mp supported
  refine unreadable fun other same => ?_
  cases same
  exact found

end Generator

/-! ### Types whose brackets match -/

theorem Text.matched_intercalate {texts : List String}
    (each : ∀ text ∈ texts, Text.Matched text.toList) :
    Text.Matched (", ".intercalate texts).toList := by
  induction texts with
  | nil => exact .nil
  | cons first rest inductionHypothesis =>
    rw [List.forall_mem_cons] at each
    cases rest with
    | nil => simpa using each.1
    | cons second others =>
      rw [String.intercalate_cons_cons, String.toList_append, String.toList_append]
      exact (each.1.append (by decide)).append (inductionHypothesis each.2)

theorem QualifiedName.Lexical.matched_display {name : QualifiedName} (lexical : name.Lexical) :
    Text.Matched name.display.toList := by
  have foreign (character : Char) (notColon : character ≠ ':')
      (foreign : Unicode.continuesIdentifier character = false) :
      character ∉ name.display.toList := by
    rw [display]
    split
    · rw [String.toList_append, List.mem_append, not_or]
      exact ⟨by simpa using notColon, lexical.not_mem_relative notColon foreign⟩
    · exact lexical.not_mem_relative notColon foreign
  refine .of_not_mem (foreign '<' (by decide) (by decide)) (foreign '>' (by decide) (by decide)) ?_
  intro last
  exact foreign '-' (by decide) (by decide) (List.mem_of_getLast? last)

namespace TypeExpression

/-- Every bracket in the text of the type is matched: names are those of identifiers, and the
parts that are kept as they are written, array lengths and types that are not taken apart,
match their brackets each on its own. -/
inductive Matched : TypeExpression → Prop
  | array {element : TypeExpression} {length : Tokens} (inner : element.Matched)
      (matched : Text.Matched length.print.toList) : Matched (.array element length)
  | parameterized {name : QualifiedName} {arguments : List TypeExpression}
      (lexical : name.Lexical) (each : ∀ argument ∈ arguments, argument.Matched) :
      Matched (.parameterized name arguments)
  | simple {name : QualifiedName} (lexical : name.Lexical) : Matched (.simple name)
  | unanalysed {written : WrittenType} (nonempty : written.tokens.print ≠ "")
      (matched : Text.Matched written.tokens.print.toList) : Matched (.unanalysed written)

variable {shape : TypeExpression}

theorem displayEach_eq_map (types : List TypeExpression) :
    displayEach types = types.map display := by
  induction types with
  | nil => rfl
  | cons type rest inductionHypothesis => rw [displayEach, inductionHypothesis, List.map_cons]

theorem Matched.matched_display (matched : shape.Matched) :
    Text.Matched shape.display.toList := by
  induction matched with
  | array _ length element =>
    rw [display, String.toList_append, String.toList_append, String.toList_append,
      String.toList_append]
    exact (((Text.Matched.append (by decide) element).append (by decide)).append length).append
      (by decide)
  | @parameterized name arguments lexical _ each =>
    have inner : Text.Matched (", ".intercalate (displayEach arguments)).toList := by
      rw [displayEach_eq_map]
      exact Text.matched_intercalate (List.forall_mem_map.mpr each)
    rw [display, String.append_assoc, String.append_assoc, String.toList_append,
      String.toList_append, String.toList_append]
    exact lexical.matched_display.append inner.enclosed
  | simple lexical => exact lexical.matched_display
  | unanalysed _ matched => exact matched

theorem Matched.display_ne_nil (matched : shape.Matched) : shape.display.toList ≠ [] := by
  cases matched with
  | array _ _ => simp [display]
  | parameterized _ _ => simp [display]
  | @simple name lexical =>
    have nonempty := lexical.leading.ne_nil
    rw [display, QualifiedName.display]
    split
    · simp
    · exact nonempty
  | unanalysed nonempty _ => exact fun empty => nonempty (String.toList_eq_nil_iff.mp empty)

theorem Matched.readable (matched : shape.Matched) : Generator.Readable shape := by
  intro argument only
  cases matched with
  | @parameterized name arguments _ each =>
    obtain rfl : arguments = [argument] := only
    have argumentMatched := each argument List.mem_cons_self
    exact argumentMatched.matched_display.found argumentMatched.display_ne_nil
  | _ => cases only

end TypeExpression

/-! ### Resolution -/

namespace Registry

/-- The generators with plans of their own come before those of known containers. -/
theorem find?_builtin (shape : TypeExpression) :
    builtin.generators.find? (·.supports shape) =
      (Generator.planned? shape).or
        ((KnownContainer.table.map Generator.ofKnown).find? (·.supports shape)) := by
  rw [← Generator.find?_shapes]
  exact List.find?_append

theorem find?_known_of_not_parameterized {shape : TypeExpression}
    (other : ∀ name arguments, shape ≠ .parameterized name arguments) :
    (KnownContainer.table.map Generator.ofKnown).find? (·.supports shape) = none := by
  rw [List.find?_map, Option.map_eq_none_iff, List.find?_eq_none]
  intro known _ supported
  cases shape with
  | parameterized name arguments => exact other name arguments rfl
  | _ => cases supported

variable {shape : TypeExpression}

theorem resolve_builtin_of_readable (lexical : ∀ name, shape.name? = some name → name.Lexical)
    (readable : Generator.Readable shape) (listener : Level) :
    (builtin.resolve shape).result listener = Generator.dispatch shape := by
  rw [resolve_result, find?_builtin, Generator.dispatch]
  cases planned : Generator.planned? shape with
  | some generator => rfl
  | none =>
    rw [Option.none_or, Option.none_or]
    cases shape with
    | parameterized name arguments =>
      exact Generator.find?_known planned (lexical name rfl) readable
    | _ => exact find?_known_of_not_parameterized nofun

theorem resolve_builtin_of_not_readable
    (lexical : ∀ name, shape.name? = some name → name.Lexical)
    (unreadable : ¬ Generator.Readable shape) (listener : Level) :
    (builtin.resolve shape).result listener = Generator.planned? shape := by
  rw [resolve_result, find?_builtin]
  cases planned : Generator.planned? shape with
  | some generator => rfl
  | none =>
    rw [Option.none_or]
    cases shape with
    | parameterized name arguments =>
      exact Generator.find?_known_of_not_readable planned (lexical name rfl) unreadable
    | _ => exact find?_known_of_not_parameterized nofun

/-- Which built-in generator is resolved depends on the structure of the type alone, as far as
the text of its only argument is found between the brackets around it, and so for every type
whose brackets are matched. Where the text is not found, the generators of known containers
leave the type to none. -/
theorem resolve_builtin (shape : TypeExpression)
    (lexical : ∀ name, shape.name? = some name → name.Lexical) (listener : Level) :
    (Generator.Readable shape →
      (builtin.resolve shape).result listener = Generator.dispatch shape) ∧
    (¬ Generator.Readable shape →
      (builtin.resolve shape).result listener = Generator.planned? shape) ∧
    (shape.Matched → (builtin.resolve shape).result listener = Generator.dispatch shape) :=
  ⟨fun readable => resolve_builtin_of_readable lexical readable listener,
    fun unreadable => resolve_builtin_of_not_readable lexical unreadable listener,
    fun matched => resolve_builtin_of_readable lexical matched.readable listener⟩

/-- A linked list of functions, whose type has an arrow in it. -/
def callbacks : TypeExpression :=
  .parameterized ⟨false, [.plain "LinkedList"]⟩ [.unanalysed (.other ([.plain "fn",
    .parenthesized [.plain "u8"]] ++ Token.operator ['-', '>'] ++ [.plain "u8"]))]

theorem matched_callbacks : callbacks.Matched :=
  .parameterized (by decide) (List.forall_mem_singleton.mpr
    (.unanalysed (by decide) (by decide)))

/-- The arrow in the argument of a linked list is not taken for a bracket. -/
theorem resolve_builtin_callbacks :
    (∀ name, callbacks.name? = some name → name.Lexical) ∧ callbacks.Matched ∧
      (builtin.resolve callbacks).result .trace = Generator.dispatch callbacks ∧
      (Generator.dispatch callbacks).map (·.name) = some "LinkedList" :=
  have lexical : ∀ name, callbacks.name? = some name → name.Lexical := by
    rintro name ⟨⟩
    decide
  ⟨lexical, matched_callbacks, (resolve_builtin callbacks lexical .trace).2.2 matched_callbacks,
    by decide⟩

/-- The generator that the structure of a type calls for is not resolved for a deque of arrays
whose length is shifted to the left: two brackets are opened by the shift and never closed. -/
theorem resolve_builtin_shifted :
    ((Tokens.ofText "VecDeque<[u8; N << 2]>").bind fun tokens =>
      (WrittenType.ofTokens tokens).toOption.map fun written =>
        (((builtin.resolve (.ofWritten written)).result .info).map (·.name),
          (Generator.dispatch (.ofWritten written)).map (·.name))) =
      some (none, some "VecDeque") := by
  decide +kernel

end Registry

end Fieldwise
