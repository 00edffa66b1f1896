/-
This file says which tokens the grammar accepts as patterns in generated code: names of new locals,
and the names of structures and of their forms, with patterns for what they hold.
-/

import Fieldwise.Proofs.CodeTypes

namespace Fieldwise

namespace Token

/-- What may stand after a pattern: nothing, a comma, `in`, or `=`, perhaps as the start of `=>`. -/
inductive EndsPattern : Tokens → Prop
  | ended : EndsPattern []
  | comma (rest : Tokens) : EndsPattern (comma :: rest)
  | loop (rest : Tokens) : EndsPattern (plain "in" :: rest)
  | equals (joint : Bool) (rest : Tokens) : EndsPattern (.mark '=' joint :: rest)

variable {rest : Tokens}

theorem EndsPattern.endsPath (ends : EndsPattern rest) : endsPath rest = true := by
  cases ends <;> rfl

theorem EndsItem.endsPattern (ends : EndsItem rest) : EndsPattern rest := by
  cases ends with
  | ended => exact .ended
  | comma rest => exact .comma rest

end Token

open Token (EndsItem EndsPattern endsPath mark_eq_false_of_endsPath)

namespace Grammar

open Reader Lookahead

variable {recur : Recursion} {depth deeper : Nat} {tokens rest : Tokens}

/-- From the depth on, the grammar accepts the tokens as a pattern. -/
abbrev ReadsPattern (depth : Nat) (tokens : Tokens) : Prop :=
  Reads pattern depth tokens (fun _ => True) EndsPattern

/-- From the depth on, the grammar accepts the tokens where alternatives may stand. -/
abbrev ReadsAlternatives (depth : Nat) (tokens : Tokens) : Prop :=
  Reads alternatives depth tokens (fun _ => True) EndsPattern

/-- A pattern is the only alternative. -/
theorem ReadsPattern.alternatives (read : ReadsPattern depth tokens)
    (unbarred : ∀ rest, Lookahead.mark "|" (tokens ++ rest) = false) :
    ReadsAlternatives depth tokens := by
  intro deeper enough rest ends
  have alone : Lookahead.mark "|" rest = false := by cases ends <;> rfl
  have noBar (tokens : Tokens) (absent : Lookahead.mark "|" tokens = false) (second : Lookahead) :
      and (.mark "|") second tokens = false := by
    rw [Lookahead.and, absent, Bool.false_and]
  have last : Takes (loop do
      if ← sees (and (.mark "|") (any [.mark "||", .mark "|="]).not) then
        Reader.mark "|"
        discard (pattern (phraseWithin deeper))
        return true
      else return false) rest () rest :=
    takes_loop_last (.of_not_sees (noBar rest alone _) (takes_pure _ _))
  refine (takes_sees _ _).accepts_bind ?_
  rw [show markBut "|" "||" (tokens ++ rest) = false from noBar _ (unbarred rest) _]
  refine (read deeper enough rest ends).bind fun _ _ => (takes_sees _ _).accepts_bind ?_
  exact last.accepts_bind (accepts_pure trivial)

/-! ### Names -/

/-- What stands here does not go on with a name as a pattern of another kind. -/
def endsName : Lookahead :=
  not (any [.mark "::", .mark "!", opens .brace, opens .parenthesis, .mark "..", .mark "@"])

theorem endsName_of_endsPattern (ends : EndsPattern rest) : endsName rest = true := by
  cases ends <;> rfl

/-- The local name in a pattern. -/
theorem takes_bindingPattern {name : Identifier} (ordinary : name.isKeyword = false)
    (mutable : Bool) (ends : endsName rest = true) :
    Takes (bindingPattern recur)
      ((if mutable then [.plain "mut"] else []) ++ .word name :: rest) () rest := by
  have unbound : Lookahead.mark "@" rest = false := by
    simp only [endsName, Lookahead.not, any, List.any_cons, Bool.not_eq_true',
      Bool.or_eq_false_iff] at ends
    exact ends.2.2.2.2.2.1
  have named : Takes (do
      if ← sees (.word "self") then discard Reader.anyWord else discard Reader.name
      if ← optionalMark "@" then discard (pattern recur)) (.word name :: rest) () rest := by
    refine .of_not_sees (word_of_ordinary ordinary (by decide) rest) ?_
    refine (takes_name ordinary rest).discard.bind ?_
    exact (takes_optionalMark_of_absent unbound).bind (takes_pure _ _)
  cases mutable with
  | true =>
    refine (takes_optionalWord_of_absent rfl).discard.bind ?_
    exact (takes_optionalWord "mut" _).discard.bind named
  | false =>
    refine (takes_optionalWord_of_absent ?_).discard.bind ?_
    · exact word_of_ordinary ordinary (by decide) rest
    refine (takes_optionalWord_of_absent ?_).discard.bind named
    exact word_of_ordinary ordinary (by decide) rest

/-- A name shows that it is bound. -/
structure ShowsBinding (tokens : Tokens) : Prop where
  noPath : any [and Lookahead.name (second (any
      [.mark "::", .mark "!", opens .brace, opens .parenthesis, .mark ".."])),
    and (.word "self") (second (.mark "::")), .mark "::", .mark "<",
    oneOf ["Self", "super", "crate"]] tokens = false
  noHole : Lookahead.word "_" tokens = false
  noBox : Lookahead.word "box" tokens = false
  noRange : any [.mark "-", Lookahead.literal, .word "const"] tokens = false
  binding : any [oneOf ["ref", "mut", "self"], Lookahead.name] tokens = true

theorem showsBinding {name : Identifier} (ordinary : name.isKeyword = false)
    (ends : endsName rest = true) : ShowsBinding (.word name :: rest) := by
  have other (text : String) (reserved : (Identifier.plain text).isKeyword = true) :
      Lookahead.word text (.word name :: rest) = false := word_of_ordinary ordinary reserved rest
  have noPath : oneOf ["Self", "super", "crate"] (.word name :: rest) = false :=
    oneOf_of_ordinary ordinary (by decide) rest
  have noSeparator : Lookahead.mark "::" (.word name :: rest) = false := rfl
  have noBracket : Lookahead.mark "<" (.word name :: rest) = false := rfl
  have noMinus : Lookahead.mark "-" (.word name :: rest) = false := rfl
  have alone : second (any [.mark "::", .mark "!", opens .brace, opens .parenthesis, .mark ".."])
      (.word name :: rest) = false := by
    show (true && any _ rest) = false
    simp only [endsName, Lookahead.not, any, List.any_cons, List.any_nil, Bool.not_eq_true',
      Bool.or_eq_false_iff] at ends ⊢
    simp [ends]
  refine ⟨?_, other "_" (by decide), other "box" (by decide), ?_, ?_⟩
  · simp only [any, List.any_cons, List.any_nil, Lookahead.and, alone, other "self" (by decide),
      noSeparator, noBracket, noPath, Bool.and_false, Bool.false_and, Bool.or_self]
  · simp only [any, List.any_cons, List.any_nil, noMinus, literal_of_ordinary ordinary,
      other "const" (by decide), Bool.or_self]
  · simp only [any, List.any_cons, List.any_nil, name_of_ordinary ordinary, Bool.true_or,
      Bool.or_true]

/-- A name is a pattern, with `mut` or without. -/
theorem reads_pattern_name {name : Identifier} (ordinary : name.isKeyword = false)
    (mutable : Bool) :
    Reads pattern 1 ((if mutable then [.plain "mut"] else []) ++ [.word name]) (fun _ => True)
      (endsName · = true) := by
  refine Reads.phrase .pattern fun deeper _ rest ends => ?_
  have binding : (bindingPattern (phraseWithin deeper)).Takes
      (((if mutable then [.plain "mut"] else []) ++ [.word name]) ++ rest) () rest := by
    rw [List.append_assoc]
    exact takes_bindingPattern ordinary mutable ends
  have shows : ShowsBinding (((if mutable then [.plain "mut"] else []) ++ [.word name]) ++ rest) := by
    cases mutable with
    | true => exact ⟨rfl, rfl, rfl, rfl, rfl⟩
    | false => exact showsBinding ordinary ends
  refine .of_not_sees shows.noPath (.of_not_sees shows.noHole (.of_not_sees shows.noBox ?_))
  refine .of_not_sees shows.noRange (.of_sees shows.binding ?_)
  exact binding.accepts_bind (accepts_pure trivial)

/-- A name is a pattern wherever a pattern may end. -/
theorem readsPattern_name {name : Identifier} (ordinary : name.isKeyword = false) :
    ReadsPattern 1 [.word name] :=
  (reads_pattern_name ordinary false).before fun _ ends => endsName_of_endsPattern ends

theorem readsAlternatives_name {name : Identifier} (ordinary : name.isKeyword = false) :
    ReadsAlternatives 1 [.word name] :=
  (readsPattern_name ordinary).alternatives fun _ => rfl

/-- Nothing is no pattern. -/
theorem ReadsAlternatives.ne_nil (read : ReadsAlternatives depth tokens) : tokens ≠ [] := by
  rintro rfl
  obtain ⟨_, _, found, -⟩ := read (depth + 1) (Nat.le_add_right depth 1) [] .ended ⟨[], 0, []⟩ rfl
  have failed {result : PatternForm × Reading} :
      alternatives (phraseWithin (depth + 1)) ⟨[], 0, []⟩ ≠ .ok result := nofun
  exact failed found

/-! ### Parts of patterns -/

section

variable {items : List Tokens} (each : ∀ item ∈ items, ReadsAlternatives depth item)

include each

/-- Patterns in parentheses, with commas between them. -/
theorem takes_parenthesizedPatterns (enough : depth ≤ deeper) (rest : Tokens) :
    Takes (parenthesizedPatterns (phraseWithin deeper))
      (.parenthesized (Token.commaSeparated items) :: rest) () rest := by
  refine Takes.enclosed (by decide) (takes_terminated_commaSeparated ?_ ?_) rest
  · exact fun item member => (each item member).ne_nil
  · exact fun item member rest ends =>
      (each item member deeper enough rest ends.endsPattern).discard

theorem readsPattern_parenthesized :
    ReadsPattern (depth + 1) [.parenthesized (Token.commaSeparated items)] := by
  refine Reads.phrase .pattern fun deeper enough rest _ => ?_
  refine .of_not_sees rfl (.of_not_sees rfl (.of_not_sees rfl (.of_not_sees rfl ?_)))
  refine .of_not_sees rfl (.of_not_sees rfl (.of_sees rfl ?_))
  exact (takes_parenthesizedPatterns each enough rest).accepts_bind (accepts_pure trivial)

end

/-! ### Fields -/

theorem takes_outerAttributes_of_absent (absent : Lookahead.mark "#" tokens = false) :
    Takes (outerAttributes recur) tokens [] tokens :=
  takes_get fun _ _ => .of_not_sees absent (takes_pure _ _)

theorem takes_member {name : Identifier} (ordinary : name.isKeyword = false) (rest : Tokens) :
    Takes member (.word name :: rest) true rest := by
  exact .of_sees (name_of_ordinary ordinary rest)
    ((takes_name ordinary rest).discard.bind (takes_pure _ _))

/-- The label of a field with what stands for its value. -/
def labelledTokens (item : Identifier × Tokens) : Tokens := .word item.1 :: Token.colon :: item.2

theorem takes_fieldPattern {label : Identifier} (ordinary : label.isKeyword = false)
    (read : (alternatives recur).Passes tokens rest) :
    Takes (fieldPattern recur) (.word label :: Token.colon :: tokens) () rest := by
  have absent (text : String) (reserved : (Identifier.plain text).isKeyword = true) :
      Takes (optionalWord text) (.word label :: Token.colon :: tokens) false
        (.word label :: Token.colon :: tokens) :=
    takes_optionalWord_of_absent (word_of_ordinary ordinary reserved _)
  refine (absent "box" (by decide)).bind <| (absent "ref" (by decide)).bind <|
    (absent "mut" (by decide)).bind ?_
  refine (takes_member ordinary _).bind ((takes_sees _ _).bind ?_)
  exact (takes_mark rfl false tokens).bind read.discard

/-- Labels with patterns, with commas between them. -/
theorem takes_fieldPatterns {items : List (Identifier × Tokens)}
    (each : ∀ item ∈ items, item.1.isKeyword = false ∧ ReadsAlternatives depth item.2)
    (enough : depth ≤ deeper) :
    Takes (fieldPatterns (phraseWithin deeper)) (Token.commaSeparated (items.map labelledTokens))
      () [] := by
  have field (item : Identifier × Tokens) (member : item ∈ items) (rest : Tokens)
      (ends : EndsItem rest) : Takes (fieldPattern (phraseWithin deeper))
        (labelledTokens item ++ rest) () rest :=
    takes_fieldPattern (each item member).1
      ((each item member).2 deeper enough rest ends.endsPattern)
  rw [← List.append_nil (Token.commaSeparated _)]
  refine takes_loop_items (.of_sees rfl (takes_pure _ _)) ?_ ?_
  · refine List.forall_mem_map.mpr fun item member => .of_not_sees rfl ?_
    refine (takes_outerAttributes_of_absent rfl).discard.bind (.of_not_sees rfl ?_)
    exact (field item member _ .ended).bind (.of_sees rfl (takes_pure _ _))
  · refine List.forall_mem_map.mpr fun item member rest => .of_not_sees rfl ?_
    refine (takes_outerAttributes_of_absent rfl).discard.bind (.of_not_sees rfl ?_)
    refine (field item member _ (.comma rest)).bind (.of_not_sees rfl ?_)
    exact (takes_mark rfl false rest).bind (takes_pure _ _)

/-! ### Paths -/

/-- What may stand after the path of a pattern: nothing, or patterns for what is held, with labels in
braces or without in parentheses. -/
inductive ReadsAfterPath (depth : Nat) : Tokens → Prop
  | alone : ReadsAfterPath depth []
  | fields {items : List (Identifier × Tokens)}
    (each : ∀ item ∈ items, item.1.isKeyword = false ∧ ReadsAlternatives depth item.2) :
    ReadsAfterPath depth [.braced (Token.commaSeparated (items.map labelledTokens))]
  | parts {items : List Tokens} (each : ∀ item ∈ items, ReadsAlternatives depth item) :
    ReadsAfterPath depth [.parenthesized (Token.commaSeparated items)]

/-- A name shows that it is a path, if it is rooted or what follows goes on with it. -/
theorem showsPathPattern {name : QualifiedName} (ordinary : name.Ordinary)
    (shown : name.rooted = true ∨
      any [.mark "::", .mark "!", opens .brace, opens .parenthesis, .mark ".."] rest = true) :
    any [and Lookahead.name (second (any
        [.mark "::", .mark "!", opens .brace, opens .parenthesis, .mark ".."])),
      and (.word "self") (second (.mark "::")), .mark "::", .mark "<",
      oneOf ["Self", "super", "crate"]] (name.tokens ++ rest) = true := by
  obtain ⟨named, each⟩ := ordinary
  obtain ⟨rooted, first | ⟨first, later⟩⟩ := name
  · exact absurd rfl named
  rw [QualifiedName.tokens, List.map_cons, pathTokens_cons]
  cases rooted with
  | true => rfl
  | false =>
    have goesOn : any [.mark "::", .mark "!", opens .brace, opens .parenthesis, .mark ".."]
        (laterTokens (later.map fun part => [.word part]) ++ rest) = true := by
      cases later with
      | nil => exact shown.resolve_left Bool.false_ne_true
      | cons next others => rfl
    show ((Lookahead.name (.word first :: _) && (true && any _ _)) || _) = true
    rw [name_of_ordinary (each first List.mem_cons_self)]
    exact Bool.or_eq_true_iff.mpr (.inl goesOn)

/-- A name with what may stand after it is a pattern. -/
theorem readsPattern_path {name : QualifiedName} (ordinary : name.Ordinary)
    (after : ReadsAfterPath depth tokens) (shown : name.rooted = true ∨ tokens ≠ []) :
    ReadsPattern (depth + 1) (name.tokens ++ tokens) := by
  refine Reads.phrase .pattern fun deeper enough rest ends => ?_
  have path (later : Tokens) (ends : endsPath later = true) :
      (qualifiedPath (phraseWithin deeper) true).Passes (name.tokens ++ later) later :=
    readsQualifiedPath_bare ordinary deeper enough later ends
  rw [List.append_assoc]
  cases after with
  | alone =>
    have noMacro : callsMacro rest = false := by cases ends <;> rfl
    have noFields : opens .brace rest = false := by cases ends <;> rfl
    have noParts : opens .parenthesis rest = false := by cases ends <;> rfl
    have noRange : Lookahead.mark ".." rest = false := by cases ends <;> rfl
    refine .of_sees (showsPathPattern ordinary (.inl (shown.resolve_right (absurd rfl)))) ?_
    refine (path _ ends.endsPath).bind fun _ _ => (takes_write _ _).accepts_bind ?_
    exact .of_not_both _ noMacro <| .of_not_sees noFields <| .of_not_sees noParts <|
      .of_not_sees noRange <| accepts_pure trivial
  | fields each =>
    refine .of_sees (showsPathPattern ordinary (.inr rfl)) ?_
    refine (path _ rfl).bind fun _ _ => (takes_write _ _).accepts_bind ?_
    refine .of_not_both _ rfl (.of_sees rfl ?_)
    exact ((takes_fieldPatterns each enough).enclosed (by decide) rest).accepts_bind
      (accepts_pure trivial)
  | parts each =>
    refine .of_sees (showsPathPattern ordinary (.inr rfl)) ?_
    refine (path _ rfl).bind fun _ _ => (takes_write _ _).accepts_bind ?_
    refine .of_not_both _ rfl (.of_not_sees rfl (.of_sees rfl ?_))
    exact (takes_parenthesizedPatterns each enough rest).accepts_bind (accepts_pure trivial)

/-- A name starts with no mark but a colon. -/
theorem mark_name {name : QualifiedName} (ordinary : name.Ordinary) {operator : String}
    {character : Char} (single : operator.toList = [character]) (other : character ≠ ':')
    (rest : Tokens) : Lookahead.mark operator (name.tokens ++ rest) = false := by
  obtain ⟨named, -⟩ := ordinary
  obtain ⟨rooted, first | ⟨first, later⟩⟩ := name
  · exact absurd rfl named
  rw [QualifiedName.tokens, List.map_cons, pathTokens_cons, Lookahead.mark, single]
  cases rooted with
  | true => exact beq_eq_false_iff_ne.mpr other.symm
  | false => rfl

theorem readsAlternatives_path {name : QualifiedName} (ordinary : name.Ordinary)
    (after : ReadsAfterPath depth tokens) (shown : name.rooted = true ∨ tokens ≠ []) :
    ReadsAlternatives (depth + 1) (name.tokens ++ tokens) := by
  refine (readsPattern_path ordinary after shown).alternatives fun rest => ?_
  rw [List.append_assoc]
  exact mark_name ordinary rfl (by decide) _

end Grammar

end Fieldwise
