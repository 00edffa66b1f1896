/-
This file proves that the generator for a type does not depend on how the type is spelled.
Generators with plans of their own look at the form of the shape and at its name without the root,
and so do not see another spelling. The generators of known containers look at the text of the
shape. There another spelling of the arguments has `::` in other places, but each stands before a
name: the brackets stay as they are, and none of them becomes a part of an arrow or ceases to be.
-/

import Fieldwise.Proofs.Spellings

namespace Fieldwise

/-! ### Texts without roots -/

namespace Text

/-- The second text is the first without some `::`, each before a character that is no `>`. -/
inductive Unrooted : List Char → List Char → Prop
  | nil : Unrooted [] []
  | kept (character : Char) {text plain : List Char} (rest : Unrooted text plain) :
    Unrooted (character :: text) (character :: plain)
  | dropped {first : Char} {text plain : List Char} (other : first ≠ '>')
    (rest : Unrooted (first :: text) plain) : Unrooted (':' :: ':' :: first :: text) plain

variable {text plain text' plain' : List Char} {depth : Nat} {previous : Char}

namespace Unrooted

theorem refl (text : List Char) : Unrooted text text := by
  induction text with
  | nil => exact .nil
  | cons character rest inductionHypothesis => exact .kept character inductionHypothesis

theorem append (unrooted : Unrooted text plain) (unrooted' : Unrooted text' plain') :
    Unrooted (text ++ text') (plain ++ plain') := by
  induction unrooted with
  | nil => exact unrooted'
  | kept character _ inductionHypothesis => exact .kept character inductionHypothesis
  | dropped other _ inductionHypothesis => exact .dropped other inductionHypothesis

/-- Both texts begin with `>`, or none of them does. -/
theorem head?_iff (unrooted : Unrooted text plain) :
    text.head? = some '>' ↔ plain.head? = some '>' := by
  induction unrooted with
  | nil => exact Iff.rfl
  | kept character _ _ => exact Iff.rfl
  | dropped other _ inductionHypothesis =>
    rw [← inductionHypothesis]
    exact iff_of_false (by simp) (by simpa using other)

end Unrooted

/-- The character before a text that begins with no `>` has no part in looking for the balance. -/
theorem upToBalance_of_ne {first : Char} (other : first ≠ '>') (before after : Char) :
    upToBalance depth before (first :: text) = upToBalance depth after (first :: text) := by
  simp only [upToBalance, other, false_and, if_false]

theorem isSome_upToBalance_colon (text : List Char) :
    (upToBalance depth previous (':' :: text)).isSome = (upToBalance depth ':' text).isSome := by
  rw [upToBalance, if_neg (by decide), if_neg (by simp), Option.isSome_map]

/-- The balance is found in both texts, or in none of them. -/
theorem Unrooted.isSome_upToBalance (unrooted : Unrooted text plain) :
    (upToBalance depth previous text).isSome = (upToBalance depth previous plain).isSome := by
  induction unrooted generalizing depth previous with
  | nil => rfl
  | kept character _ inductionHypothesis =>
    simp only [upToBalance, apply_ite Option.isSome, Option.isSome_map, inductionHypothesis]
  | dropped other _ inductionHypothesis =>
    rw [isSome_upToBalance_colon, isSome_upToBalance_colon, ← inductionHypothesis,
      upToBalance_of_ne other]

/-- Arguments are found if the bracket before them is closed, but not at once. -/
theorem found_iff :
    Found text ↔ (upToBalance 1 '<' (text ++ ['>'])).isSome = true ∧
      (text ++ ['>']).head? ≠ some '>' := by
  simp only [Found, ← upToBalance_eq_some_iff Nat.one_pos]
  cases text ++ ['>'] with
  | nil => simp [upToBalance]
  | cons first rest =>
    by_cases closing : first = '>'
    · subst closing
      simp [upToBalance]
    · have nonempty (inner : List Char)
          (found : upToBalance 1 '<' (first :: rest) = some inner) : inner ≠ [] := by
        rintro rfl
        rw [upToBalance] at found
        split at found
        · simp at found
        · simp [closing] at found
      rw [List.head?_cons, Option.isSome_iff_exists]
      constructor
      · rintro ⟨inner, -, found⟩
        exact ⟨⟨inner, found⟩, by simpa using closing⟩
      · rintro ⟨⟨inner, found⟩, -⟩
        exact ⟨inner, nonempty inner found, found⟩

theorem Unrooted.found_iff (unrooted : Unrooted text plain) : Found text ↔ Found plain := by
  have closed := unrooted.append (refl ['>'])
  rw [Text.found_iff, Text.found_iff, closed.isSome_upToBalance, Ne, closed.head?_iff]

end Text

/-! ### Texts of spelled shapes -/

namespace QualifiedName

variable {name : QualifiedName}

/-- Without the root, the text of a name does not depend on its spelling. -/
theorem relative_spelled (name : QualifiedName) :
    (name.spelled .plain).relative = name.relative := by
  rw [relative, spelled, List.map_map]
  rfl

theorem Lexical.spelled (lexical : name.Lexical) : (name.spelled .plain).Lexical := by
  refine ⟨fun nothing => lexical.1 (List.map_eq_nil_iff.mp nothing), fun part member => ?_⟩
  obtain ⟨own, among, rfl⟩ := List.mem_map.mp member
  exact lexical.2 own among

theorem isOneOf_spelled (name : QualifiedName) (spellings : List String) :
    (name.spelled .plain).isOneOf spellings = name.isOneOf spellings := by
  rw [isOneOf, isOneOf, relative_spelled]

theorem Lexical.unrooted_display (lexical : name.Lexical) :
    Text.Unrooted name.display.toList (name.spelled .plain).display.toList := by
  have plain : (name.spelled .plain).display = name.relative := relative_spelled name
  rw [plain, display]
  split
  · obtain ⟨first, rest, characters, continues⟩ := lexical.relative_eq_cons
    rw [String.toList_append, characters]
    refine .dropped ?_ (.refl _)
    rintro rfl
    exact absurd continues (by decide)
  · exact .refl _

end QualifiedName

theorem Text.unrooted_intercalate {Item : Type} {first second : Item → String} {items : List Item}
    (each : ∀ item ∈ items, Unrooted (first item).toList (second item).toList) :
    Unrooted (", ".intercalate (items.map first)).toList
      (", ".intercalate (items.map second)).toList := by
  induction items with
  | nil => exact .nil
  | cons item rest inductionHypothesis =>
    rw [List.forall_mem_cons] at each
    cases rest with
    | nil => simpa using each.1
    | cons next others =>
      have later := inductionHypothesis each.2
      simp only [List.map_cons, String.intercalate_cons_cons, String.toList_append] at later ⊢
      exact (each.1.append (.refl _)).append later

namespace TypeExpression

variable {shape : TypeExpression}

/-- In the text of a shape another spelling only drops `::` before names. -/
theorem Named.unrooted_display (named : shape.Named) :
    Text.Unrooted shape.display.toList (shape.spelled .plain).display.toList := by
  induction named with
  | array inner inductionHypothesis =>
    simp only [TypeExpression.spelled, display, String.toList_append]
    exact (((Text.Unrooted.refl _).append inductionHypothesis).append (.refl _)).append
      (.refl _) |>.append (.refl _)
  | @parameterized name arguments lexical each inductionHypothesis =>
    simp only [TypeExpression.spelled, display, String.toList_append, displayEach_eq_map,
      spelledEach_eq_map, List.map_map]
    exact ((lexical.unrooted_display.append (.refl _)).append
      (Text.unrooted_intercalate inductionHypothesis)).append (.refl _)
  | simple lexical => exact lexical.unrooted_display
  | unanalysed => exact .refl _

theorem isUnsized_spelled (shape : TypeExpression) :
    (shape.spelled .plain).isUnsized = shape.isUnsized := by
  cases shape with
  | simple name => exact name.isOneOf_spelled _
  | array _ _ => rfl
  | parameterized _ _ => rfl
  | unanalysed _ => rfl

theorem isParameterizedAs_spelled (shape : TypeExpression) (spellings : List String) :
    (shape.spelled .plain).isParameterizedAs spellings = shape.isParameterizedAs spellings := by
  cases shape with
  | parameterized name _ => exact name.isOneOf_spelled spellings
  | array _ _ => rfl
  | simple _ => rfl
  | unanalysed _ => rfl

end TypeExpression

/-! ### Generators -/

namespace Generator

variable {generator : Generator} {known : KnownContainer} {name : QualifiedName}
  {arguments : List TypeExpression} {shape : TypeExpression}

open TypeExpression (Named)

theorem getElem?_spelledEach (arguments : List TypeExpression) (index : Nat) :
    (TypeExpression.spelledEach .plain arguments)[index]? =
      arguments[index]?.map (·.spelled .plain) := by
  rw [TypeExpression.spelledEach_eq_map, List.getElem?_map]

/-- The arguments of a name are found in a text exactly if they are found in its other
spelling. -/
theorem isEmpty_argumentText_spelled (lexical : name.Lexical)
    (each : ∀ argument ∈ arguments, argument.Named) :
    (!(Text.argumentText (name.relative ++ ("<" ++ ", ".intercalate
        (TypeExpression.displayEach (TypeExpression.spelledEach .plain arguments)) ++
          ">"))).isEmpty) =
      !(Text.argumentText (name.relative ++ ("<" ++ ", ".intercalate
        (TypeExpression.displayEach arguments) ++ ">"))).isEmpty := by
  rw [Bool.eq_iff_iff, argumentText_display lexical.leading, argumentText_display lexical.leading,
    TypeExpression.displayEach_eq_map, TypeExpression.displayEach_eq_map,
    TypeExpression.spelledEach_eq_map, List.map_map]
  exact (Text.unrooted_intercalate fun argument member =>
    (each argument member).unrooted_display).found_iff.symm

theorem supportsKnown_spelled (named : shape.Named) :
    supportsKnown known (shape.spelled .plain) = supportsKnown known shape := by
  cases named with
  | @parameterized name arguments lexical each =>
    rw [TypeExpression.spelled, supportsKnown_eq lexical.spelled.leading,
      supportsKnown_eq lexical.leading, getElem?_spelledEach, Option.any_map,
      name.relative_spelled, isEmpty_argumentText_spelled lexical each,
      TypeExpression.spelledEach_eq_map, List.length_map]
    simp only [TypeExpression.isUnsized_spelled]
  | array _ => rfl
  | simple _ => rfl
  | unanalysed => rfl

/-- A built-in generator supports a type in all spellings or in none. -/
theorem supports_spelled (builtIn : generator ∈ builtin) (named : shape.Named) :
    generator.supports (shape.spelled .plain) = generator.supports shape := by
  rw [builtin, List.mem_append, List.mem_map] at builtIn
  rcases builtIn with shaped | ⟨known, -, rfl⟩
  · have byName (spellings : List String) := shape.isParameterizedAs_spelled spellings
    simp only [shapes, List.mem_cons, List.not_mem_nil, or_false] at shaped
    rcases shaped with rfl | rfl | rfl | rfl | rfl | rfl | rfl | rfl
    · exact byName _
    · cases shape <;> rfl
    all_goals exact byName _
  · exact supportsKnown_spelled named

/-- The focus of a type in another spelling is the focus of the type in that spelling. -/
theorem focusOf?_spelled (generator : Generator) (shape : TypeExpression) :
    generator.focusOf? (shape.spelled .plain) =
      (generator.focusOf? shape).map (·.spelled .plain) := by
  cases shape with
  | array element length => rfl
  | parameterized name arguments => exact getElem?_spelledEach arguments generator.focusIndex
  | simple name => rfl
  | unanalysed written => rfl

end Generator

namespace Registry

/-- Dispatch does not depend on the spelling of a type. For every registry of built-in generators,
in any order and with any of them several times, and every two types that are the same but for the
spelling of their broken-down parts, that is, for parentheses, invisible groups, `::` before
arguments, commas after them, `::` before paths and `r#` before names: the same generators support
both types, the same one is resolved for both, and each generator finds a focus in both or in
none; the two focus types are again the same but for the spelling. -/
theorem resolve_ignores_spelling {registry : Registry}
    (builtIn : ∀ generator ∈ registry.generators, generator ∈ Generator.builtin)
    {first second : WrittenType} (lexical : Token.areLexical first.tokens = true)
    (lexical' : Token.areLexical second.tokens = true)
    (same : first.spelled .plain = second.spelled .plain) (listener : Level) :
    registry.candidates (.ofWritten first) = registry.candidates (.ofWritten second) ∧
    (registry.resolve (.ofWritten first)).result listener =
      (registry.resolve (.ofWritten second)).result listener ∧
    ∀ generator : Generator, Option.Rel (fun focus focus' : TypeExpression =>
        focus.spelled .plain = focus'.spelled .plain)
      (generator.focusOf? (.ofWritten first)) (generator.focusOf? (.ofWritten second)) := by
  have shapes := congrArg TypeExpression.ofWritten same
  rw [TypeExpression.ofWritten_spelled, TypeExpression.ofWritten_spelled] at shapes
  have supports (generator : Generator) (member : generator ∈ registry.generators) :
      generator.supports (.ofWritten first) = generator.supports (.ofWritten second) := by
    rw [← Generator.supports_spelled (builtIn generator member)
      (TypeExpression.named_ofWritten lexical), shapes,
      Generator.supports_spelled (builtIn generator member)
        (TypeExpression.named_ofWritten lexical')]
  refine ⟨List.filter_congr supports, ?_, fun generator => ?_⟩
  · rw [resolve_result, resolve_result]
    exact List.find?_congr supports
  · have focused := congrArg generator.focusOf? shapes
    rw [Generator.focusOf?_spelled, Generator.focusOf?_spelled] at focused
    cases found : generator.focusOf? (.ofWritten first) with
    | none =>
      rw [found, Option.map_none, eq_comm, Option.map_eq_none_iff] at focused
      rw [focused]
      exact .none
    | some focus =>
      rw [found, Option.map_some, eq_comm, Option.map_eq_some_iff] at focused
      obtain ⟨focus', found', spelled⟩ := focused
      rw [found']
      exact .some spelled.symm

end Registry

/-! ### Two spellings of one type -/

namespace Backlog

/-- The type of items, perhaps rooted and perhaps with a raw name. -/
def item (rooted raw : Bool) : WrittenType := .path rooted [.mk ⟨raw, "Item"⟩ .none]

/-- A deque of arrays of items, in the usual spelling. -/
def usual : WrittenType :=
  .path false [.mk (.plain "VecDeque") (.angled false
    [.type (.array (item false false) [.literal "4"])] false)]

/-- The same in an unusual spelling. -/
def unusual : WrittenType :=
  .parenthesized (.path true [.mk ⟨true, "VecDeque"⟩ (.angled true
    [.type (.grouped (.array (.parenthesized (item true true)) [.literal "4"]))] true)])

end Backlog

namespace Registry

/-- The generator for deques, which is in the registry twice, is resolved for both spellings. -/
theorem resolve_ignores_spelling_backlog :
    let registry : Registry := ⟨Generator.builtin.reverse ++ Generator.builtin⟩
    Backlog.usual.spelled .plain = Backlog.unusual.spelled .plain ∧
      registry.candidates (.ofWritten Backlog.usual) =
        registry.candidates (.ofWritten Backlog.unusual) ∧
      ((registry.candidates (.ofWritten Backlog.usual)).map (·.name)) = ["VecDeque", "VecDeque"] ∧
      (registry.resolve (.ofWritten Backlog.usual)).result .info =
        (registry.resolve (.ofWritten Backlog.unusual)).result .info ∧
      ∀ generator : Generator, Option.Rel (fun focus focus' : TypeExpression =>
          focus.spelled .plain = focus'.spelled .plain)
        (generator.focusOf? (.ofWritten Backlog.usual))
        (generator.focusOf? (.ofWritten Backlog.unusual)) := by
  intro registry
  have builtIn (generator : Generator) (member : generator ∈ registry.generators) :
      generator ∈ Generator.builtin := by
    simpa [registry] using member
  have same : Backlog.usual.spelled .plain = Backlog.unusual.spelled .plain := rfl
  obtain ⟨candidates, resolved, focused⟩ :=
    resolve_ignores_spelling builtIn (by decide +kernel) (by decide +kernel) same .info
  exact ⟨same, candidates, by decide +kernel, resolved, focused⟩

end Registry

end Fieldwise
