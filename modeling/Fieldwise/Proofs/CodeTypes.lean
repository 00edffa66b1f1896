/-
This file says which tokens the grammar accepts as paths and types in generated code. Declared types
are put between angle brackets, into pairs, and after the names of closure arguments, where `|` may
follow them; names of the runtime and of the standard library are applied to them. What is accepted
is accepted from a depth on, and what consists of parts a level or so above its parts.
-/

import Fieldwise.Aggregate.Basic
import Fieldwise.Context
import Fieldwise.Proofs.ReadingBack
import Fieldwise.Proofs.Words

namespace Fieldwise

namespace Token

/-- What may stand after a type in generated code: what borders types, or the `|` that closes the
arguments of a closure. -/
inductive EndsType : Tokens → Prop
  | borders {rest : Tokens} (borders : Borders rest) : EndsType rest
  | bar (rest : Tokens) : EndsType (.mark '|' false :: rest)

theorem EndsItem.endsType {rest : Tokens} (ends : EndsItem rest) : EndsType rest := by
  cases ends with
  | ended => exact .borders .ended
  | comma rest => exact .borders (.comma rest)

theorem EndsType.endsPath {rest : Tokens} (ends : EndsType rest) : endsPath rest = true := by
  cases ends with
  | borders borders => exact borders.endsPath
  | bar rest => rfl

end Token

open Token (Borders EndsItem EndsType endsPath front mark_eq_false_of_endsPath)

/-- The name has parts, and no keyword is among them. -/
structure QualifiedName.Ordinary (name : QualifiedName) : Prop where
  named : name.names ≠ []
  ordinary : ∀ part ∈ name.names, part.isKeyword = false

theorem QualifiedName.Ordinary.of_single {name : Identifier} (ordinary : name.isKeyword = false) :
    (QualifiedName.mk false [name]).Ordinary :=
  ⟨List.cons_ne_nil _ _, List.forall_mem_singleton.mpr ordinary⟩

/-- No keyword names the parameter, except that a type may be left without a name. -/
def GenericParameter.Ordinary : GenericParameter → Prop
  | .lifetime _ _ _ => True
  | .type _ name _ _ => name.isKeyword = false ∨ name = .plain "_"
  | .constant _ name _ _ => name.isKeyword = false

/-- A path from the root is a name. -/
theorem Code.rooted_eq (names : List String) :
    rooted names = (QualifiedName.mk true (names.map .plain)).tokens := by
  rw [rooted, Path.tokens, Path.ofNames, segmentTokens_ofNames, QualifiedName.tokens, List.map_map]
  rfl

namespace Grammar

open Reader Lookahead

variable {depth deeper : Nat} {tokens rest : Tokens} {inExpression : Bool}

/-! ### Names -/

section

variable {name : Identifier} (ordinary : name.isKeyword = false)

include ordinary

/-- A name is none of several keywords. -/
theorem oneOf_of_ordinary {texts : List String}
    (reserved : ∀ text ∈ texts, Identifier.keywords.contains text = true) (rest : Tokens) :
    oneOf texts (.word name :: rest) = false := by
  show (!name.raw && texts.contains name.text) = false
  rw [Identifier.isKeyword] at ordinary
  cases among : texts.contains name.text with
  | false => exact Bool.and_false _
  | true => rwa [reserved _ (List.contains_iff_mem.mp among)] at ordinary

theorem word_of_ordinary {text : String} (reserved : (Identifier.plain text).isKeyword = true)
    (rest : Tokens) : Lookahead.word text (.word name :: rest) = false := by
  refine beq_eq_false_iff_ne.mpr ?_
  rintro rfl
  cases reserved.symm.trans ordinary

theorem literal_of_ordinary (rest : Tokens) : Lookahead.literal (.word name :: rest) = false :=
  have other (text : String) (reserved : (Identifier.plain text).isKeyword = true) :
      (name == .plain text) = false := word_of_ordinary ordinary reserved rest
  Bool.or_eq_false_iff.mpr ⟨other "true" (by decide), other "false" (by decide)⟩

theorem name_of_ordinary (rest : Tokens) : Lookahead.name (.word name :: rest) = true := by
  show (!name.isKeyword) = true
  rw [ordinary]
  rfl

theorem argumentless_of_ordinary : argumentless name = false :=
  oneOf_of_ordinary ordinary (by decide) []

end

/-! ### Reading from a depth on -/

section

variable {A : Type} {reader : Recursion → Reader A} {given : A → Prop} {follows : Tokens → Prop}

/-- From the depth on, the grammar's reader accepts the tokens with the property of its results
before each run of those that may follow. -/
def Reads (reader : Recursion → Reader A) (depth : Nat) (tokens : Tokens) (given : A → Prop)
    (follows : Tokens → Prop) : Prop :=
  ∀ deeper, depth ≤ deeper → ∀ rest, follows rest →
    (reader (phraseWithin deeper)).Accepts (tokens ++ rest) given rest

theorem Reads.mono (reads : Reads reader depth tokens given follows) (le : depth ≤ deeper) :
    Reads reader deeper tokens given follows :=
  fun deepest enough => reads deepest (Nat.le_trans le enough)

theorem Reads.before {fewer : Tokens → Prop} (reads : Reads reader depth tokens given follows)
    (among : ∀ rest, fewer rest → follows rest) : Reads reader depth tokens given fewer :=
  fun deeper enough rest ends => reads deeper enough rest (among rest ends)

theorem Reads.imp {weaker : A → Prop} (reads : Reads reader depth tokens given follows)
    (implies : ∀ result, given result → weaker result) :
    Reads reader depth tokens weaker follows :=
  fun deeper enough rest ends => (reads deeper enough rest ends).imp implies

end

/-- A phrase is read a level above what its rule reads it with. -/
theorem Reads.phrase (phrase : Nonterminal) {given : phrase.Result → Prop}
    {follows : Tokens → Prop} (reads : Reads (rule · phrase) depth tokens given follows) :
    Reads (· phrase) (depth + 1) tokens given follows := by
  intro deeper enough rest ends
  obtain ⟨below, rfl⟩ := Nat.exists_eq_add_of_le' (Nat.le_trans (Nat.le_add_left 1 depth) enough)
  exact reads below (Nat.le_of_succ_le_succ enough) rest ends

/-! ### Paths -/

/-- From the depth on, the grammar accepts the tokens as a segment of a path. -/
def ReadsAsSegment (inExpression : Bool) (depth : Nat) (tokens : Tokens) : Prop :=
  ∀ deeper, depth ≤ deeper →
    ReadsSegment (phraseWithin deeper) inExpression tokens fun _ => True

/-- From the depth on, the grammar accepts the tokens as a path. -/
abbrev ReadsPath (inExpression : Bool) (depth : Nat) (tokens : Tokens) : Prop :=
  Reads (path · inExpression) depth tokens (fun _ => True) fun rest => endsPath rest = true

theorem readsAsSegment_name {name : Identifier} (ordinary : name.isKeyword = false) :
    ReadsAsSegment inExpression depth [.word name] := by
  intro deeper _
  have segment : ReadsSegment (phraseWithin deeper) inExpression [.word name] _ :=
    readsSegment_name (.inr (.inr ordinary))
  exact ⟨segment.named, fun rest ends => (segment.reads rest ends).passes⟩

/-- The segments of a path are read one after the other. -/
theorem readsPath_of_segments {rooted : Bool} {segments : List Tokens} (nonempty : segments ≠ [])
    (each : ∀ segment ∈ segments, ReadsAsSegment inExpression depth segment) :
    ReadsPath inExpression depth (pathTokens rooted segments) := by
  intro deeper enough rest ends
  obtain ⟨first, later, rfl⟩ := List.exists_cons_of_ne_nil nonempty
  have accepted : (path (phraseWithin deeper) inExpression).Accepts
      (pathTokens rooted ((first :: later).map id) ++ rest) _ rest :=
    accepts_path ends fun segment member => each segment member deeper enough
  rw [List.map_id] at accepted
  exact accepted.passes

section

variable {name : QualifiedName} {more : Tokens} (ordinary : name.Ordinary)

include ordinary

/-- A name whose last part goes on, be it with nothing, is a path. -/
theorem readsPath_of_last
    (last : ∀ part, part.isKeyword = false →
      ReadsAsSegment inExpression depth (.word part :: more)) :
    ReadsPath inExpression depth (name.tokens ++ more) := by
  obtain ⟨named, each⟩ := ordinary
  obtain ⟨rooted, names⟩ := name
  change names ≠ [] at named
  rw [← List.dropLast_append_getLast named] at each ⊢
  generalize names.dropLast = before at each ⊢
  generalize names.getLast named = part at each ⊢
  have tokens : (QualifiedName.mk rooted (before ++ [part])).tokens ++ more =
      pathTokens rooted (before.map (fun part => [.word part]) ++ [.word part :: more]) := by
    rw [QualifiedName.tokens, pathTokens, pathTokens, List.map_append, List.map_singleton,
      List.append_assoc, ← TypeExpression.separated_append]
    rfl
  rw [tokens]
  refine readsPath_of_segments (List.append_ne_nil_of_right_ne_nil _ (List.cons_ne_nil _ _)) ?_
  intro segment member
  rcases List.mem_append.mp member with earlier | final
  · obtain ⟨part, among, rfl⟩ := List.mem_map.mp earlier
    exact readsAsSegment_name (each part (List.mem_append_left _ among))
  · rw [List.mem_singleton.mp final]
    exact last part (each part (List.mem_append_right _ (List.mem_singleton_self part)))

theorem readsPath_name : ReadsPath inExpression depth name.tokens := by
  have path : ReadsPath inExpression depth (name.tokens ++ []) :=
    readsPath_of_last ordinary fun part own => readsAsSegment_name own
  rwa [List.append_nil] at path

/-- A name shows that a path follows, whatever follows the name. -/
theorem showsPath_name (rest : Tokens) : ShowsPath (name.tokens ++ rest) := by
  obtain ⟨named, each⟩ := ordinary
  obtain ⟨rooted, first | ⟨first, later⟩⟩ := name
  · exact absurd rfl named
  have starts : StartsPath first := by
    show (Lookahead.name [.word first] || _) = true
    rw [name_of_ordinary (each first List.mem_cons_self), Bool.true_or]
  exact showsPath (fun _ => starts) rest

end

/-! ### Types -/

/-- From the depth on, the grammar accepts the tokens as a type. -/
abbrev ReadsType (depth : Nat) (tokens : Tokens) : Prop :=
  Reads type depth tokens (fun _ => True) EndsType

/-- From the depth on, the grammar accepts the tokens as a type, wherever a path may end. -/
abbrev ReadsPathType (depth : Nat) (tokens : Tokens) : Prop :=
  Reads type depth tokens (fun _ => True) fun rest => endsPath rest = true

theorem ReadsPathType.readsType (reads : ReadsPathType depth tokens) : ReadsType depth tokens :=
  reads.before fun _ ends => ends.endsPath

/-- What is read as a type opens one. -/
theorem ReadsType.opens (reads : ReadsType depth tokens) (ends : EndsType rest) :
    OpensType (front (tokens ++ rest)) :=
  (onlyGives_type depth true true _).of_accepts (reads depth (Nat.le_refl _) rest ends)

/-- A type that is read can be read and written. -/
theorem Reads.written {follows : Tokens → Prop}
    (reads : Reads type depth tokens (fun _ => True) follows) (enough : depth ≤ deeper)
    (ends : follows rest) : Takes (writtenType (phraseWithin deeper)) (tokens ++ rest) () rest :=
  Accepts.takes ((reads deeper enough rest ends).bind fun _ _ => (takes_write _ _).accepts trivial)

theorem ReadsPath.readsPathType (reads : ReadsPath false depth tokens)
    (shows : ∀ rest, ShowsPath (tokens ++ rest)) : ReadsPathType (depth + 1) tokens :=
  Reads.phrase (.type true true) fun deeper enough rest ends =>
    (accepts_typeRule_of_path (shows rest) ends (reads deeper enough rest ends)).passes

/-- A name of which no part is a keyword is a type. -/
theorem readsPathType_name {name : QualifiedName} (ordinary : name.Ordinary) :
    ReadsPathType 1 name.tokens :=
  (readsPath_name ordinary).readsPathType (showsPath_name ordinary)

/-- The type that is left to be inferred is a type. -/
theorem readsPathType_inferred : ReadsPathType 1 Context.inferred := by
  refine Reads.phrase (.type true true) fun _ _ rest _ => ?_
  rintro ⟨_, position, written⟩ rfl
  exact ⟨_, _, rfl, trivial, rfl⟩

/-- A comma makes no lifetime of what stands before it. -/
theorem lifetime_of_append_comma
    (seen : Lookahead.lifetime (tokens ++ Token.comma :: rest) = true) :
    Lookahead.lifetime tokens = true := by
  unfold Lookahead.lifetime at seen ⊢
  split at seen
  · rename_i shown
    cases own : front tokens with
    | nil =>
      rw [front_append_of_nil own] at shown
      cases shown
    | cons first others =>
      rw [front_append own] at shown
      cases others with
      | nil => cases shown
      | cons second more =>
        cases shown
        exact seen
  · cases seen

/-- Two types in parentheses are a pair, unless a lifetime opens the first, which is then the first
bound of a type in parentheses. -/
theorem readsPathType_pair {key value : Tokens} (first : ReadsType depth key)
    (second : ReadsType depth value) (unbounded : Lookahead.lifetime key = false) :
    ReadsPathType (depth + 1) [.parenthesized (Token.commaSeparated [key, value])] := by
  refine Reads.phrase (.type true true) fun deeper enough rest _ => ?_
  refine .of_not_sees rfl ((takes_binder_of_absent rfl).accepts_bind ?_)
  refine (takes_sees _ _).accepts_bind (.of_sees rfl ?_)
  have filled : value ≠ [] := by
    rintro rfl
    cases second.opens (.borders .ended)
  have last : Takes (terminated "," (writtenType (phraseWithin deeper)))
      (Token.commaSeparated [value]) () [] :=
    takes_terminated_commaSeparated (List.forall_mem_singleton.mpr filled)
      (List.forall_mem_singleton.mpr fun rest ends => second.written enough ends.endsType)
  have content : (Grammar.enclosed (phraseWithin deeper)).Accepts
      (.parenthesized (Token.commaSeparated [key, value]) :: rest) (· = .tuple) rest := by
    refine Accepts.enclosed (by decide) ?_ rest
    rw [Token.commaSeparated, Token.separated, List.append_assoc]
    refine .of_not_sees (by simp [Lookahead.atEnd]) ?_
    refine .of_not_sees (Bool.eq_false_iff.mpr fun seen => ?_) ?_
    · exact Bool.eq_false_iff.mp unbounded (lifetime_of_append_comma seen)
    refine .of_not_sees (first.opens (.borders (.comma _))).unrelaxed ?_
    refine (first deeper enough _ (.borders (.comma _))).bind fun _ _ => ?_
    refine (takes_write _ _).accepts_bind (.of_sees rfl ?_)
    exact (takes_mark rfl false _).accepts_bind (last.accepts_bind (accepts_pure rfl))
  refine content.capture.bind ?_
  rintro ⟨_, written⟩ rfl
  exact accepts_pure trivial

/-- A type and a length with `;` between them in brackets are an array. -/
theorem readsPathType_array {element length : Tokens} (each : ReadsType depth element)
    (counted : Reads expression depth length (fun _ => True) (· = [])) :
    ReadsPathType (depth + 1) [.bracketed (element ++ [.semicolon] ++ length)] := by
  refine Reads.phrase (.type true true) fun deeper enough rest _ => ?_
  refine .of_not_sees rfl ((takes_binder_of_absent rfl).accepts_bind ?_)
  refine (takes_sees _ _).accepts_bind ?_
  have whole := counted deeper enough [] rfl
  rw [List.append_nil] at whole
  have content : (bracketedType (phraseWithin deeper)).Passes
      (.bracketed (element ++ [.semicolon] ++ length) :: rest) rest := by
    refine Accepts.enclosed (by decide) ?_ rest
    rw [List.append_assoc]
    refine (each deeper enough _ (.borders (.semicolon _))).bind fun _ _ => .of_sees rfl ?_
    refine (takes_mark rfl false _).accepts_bind ?_
    exact whole.discard.passes.captured.bind fun _ _ => accepts_pure trivial
  refine .of_not_sees rfl <| .of_not_sees rfl <| .of_not_sees rfl <| .of_not_sees rfl <|
    .of_sees rfl ?_
  exact content.capture.bind fun _ _ => accepts_pure trivial

/-! ### Arguments in angle brackets -/

/-- From the depth on, the grammar accepts the tokens as an argument in angle brackets. -/
def ReadsInAngles (depth : Nat) (tokens : Tokens) : Prop :=
  ∀ deeper, depth ≤ deeper → ReadsArgument (phraseWithin deeper) tokens fun _ => True

theorem ReadsInAngles.mono (reads : ReadsInAngles depth tokens) (le : depth ≤ deeper) :
    ReadsInAngles deeper tokens :=
  fun deepest enough => reads deepest (Nat.le_trans le enough)

/-- A type is an argument. -/
theorem ReadsType.readsInAngles (reads : ReadsType depth tokens) : ReadsInAngles depth tokens := by
  intro deeper enough
  have argument : ReadsArgument (phraseWithin deeper) tokens _ :=
    readsArgument_of_type (fun rest borders => (reads.opens (.borders borders)).startsArgument)
      fun rest borders => reads deeper enough rest (.borders borders)
  exact ⟨argument.unclosed, fun rest borders => (argument.reads rest borders).passes⟩

/-- A lifetime is an argument. -/
theorem readsInAngles_lifetime (name : Identifier) :
    ReadsInAngles depth (Token.lifetime name) := by
  refine fun deeper _ => ⟨fun _ _ => rfl, fun rest borders => ?_⟩
  have unbounded : Lookahead.mark "+" rest = false :=
    mark_eq_false_of_endsPath borders.endsPath rfl rfl
  refine .of_sees ?_ ((takes_lifetime name rest).accepts_bind (accepts_pure trivial))
  show (true && !Lookahead.mark "+" rest) = true
  rw [unbounded]
  rfl

section

variable {items : List Tokens} {trailing : Bool} (each : ∀ item ∈ items, ReadsInAngles depth item)

include each

/-- Arguments are read in angle brackets, perhaps after `::`. -/
theorem passes_angled (turbofish trailing : Bool) (filled : trailing = true → items ≠ [])
    (enough : depth ≤ deeper) (rest : Tokens) :
    (angled (phraseWithin deeper)).Passes
      ((if turbofish then Token.pathSeparator else []) ++
        Code.angled (Token.commaSeparated items ++ if trailing then [Token.comma] else []) ++ rest)
      rest := by
  have accepted : (angled (phraseWithin deeper)).Accepts
      (_ ++ .less :: (Token.commaSeparated (items.map id) ++ (_ ++ .greater :: rest))) _ rest :=
    accepts_angled turbofish trailing filled fun item member => each item member deeper enough
  rw [List.map_id] at accepted
  simp only [Code.angled, List.append_assoc, List.cons_append]
  exact accepted.passes

/-- In an expression they are read after `::`. -/
theorem passes_turbofish (enough : depth ≤ deeper) (rest : Tokens) :
    (angled (phraseWithin deeper)).Passes
      (Token.pathSeparator ++ Code.angled (Token.commaSeparated items) ++ rest) rest := by
  have applied := passes_angled each true false nofun enough rest
  rwa [if_neg Bool.false_ne_true, List.append_nil] at applied

variable {name : Identifier} (ordinary : name.isKeyword = false)

include ordinary

/-- What is applied to arguments is a segment. -/
theorem readsAsSegment_applied (filled : trailing = true → items ≠ []) :
    ReadsAsSegment false depth (.word name ::
      Code.angled (Token.commaSeparated items ++ if trailing then [Token.comma] else [])) := by
  intro deeper enough
  refine ⟨⟨name, _, rfl⟩, fun rest _ => ?_⟩
  have applied := passes_angled each false trailing filled enough rest
  exact (accepts_segment_of_angled (.inr (.inr ordinary)) (argumentless_of_ordinary ordinary)
    applied).passes

/-- In an expression it is one after `::`. -/
theorem readsAsSegment_turbofish :
    ReadsAsSegment true depth
      (.word name :: (Token.pathSeparator ++ Code.angled (Token.commaSeparated items))) := by
  intro deeper enough
  refine ⟨⟨name, _, rfl⟩, fun rest _ => ?_⟩
  have applied := passes_turbofish each enough rest
  exact (accepts_segment_of_turbofish (.inr (.inr ordinary)) (argumentless_of_ordinary ordinary)
    applied).passes

end

/-- A name applied to arguments is a type. -/
theorem readsPathType_applied {name : QualifiedName} {items : List Tokens} {trailing : Bool}
    (ordinary : name.Ordinary) (each : ∀ item ∈ items, ReadsInAngles depth item)
    (filled : trailing = true → items ≠ []) :
    ReadsPathType (depth + 1) (name.tokens ++
      Code.angled (Token.commaSeparated items ++ if trailing then [Token.comma] else [])) := by
  have path := readsPath_of_last ordinary fun part own => readsAsSegment_applied each own filled
  refine path.readsPathType fun rest => ?_
  rw [List.append_assoc]
  exact showsPath_name ordinary _

/-! ### Paths of expressions -/

/-- Arguments in angle brackets as they stand after a name in an expression. -/
def turbofish : Option (List Tokens) → Tokens
  | none => []
  | some types => Token.pathSeparator ++ Code.angled (Token.commaSeparated types)

/-- From the depth on, the grammar accepts the tokens as the path of an expression. -/
abbrev ReadsQualifiedPath (depth : Nat) (tokens : Tokens) : Prop :=
  Reads (qualifiedPath · true) depth tokens (fun _ => True) fun rest => endsPath rest = true

section

variable {types : Option (List Tokens)}
  (given : ∀ listed ∈ types, ∀ type ∈ listed, ReadsInAngles depth type)

include given

theorem readsAsSegment_generic {name : Identifier} (ordinary : name.isKeyword = false) :
    ReadsAsSegment true depth (.word name :: turbofish types) := by
  cases types with
  | none => exact readsAsSegment_name ordinary
  | some listed => exact readsAsSegment_turbofish (given listed rfl) ordinary

/-- A name is the path of an expression, with type arguments or without. -/
theorem readsQualifiedPath_name {name : QualifiedName} (ordinary : name.Ordinary) :
    ReadsQualifiedPath depth (name.tokens ++ turbofish types) := by
  intro deeper enough rest ends
  have path : ReadsPath true depth (name.tokens ++ turbofish types) :=
    readsPath_of_last ordinary fun part own => readsAsSegment_generic given own
  have read := path deeper enough rest ends
  rw [List.append_assoc] at read ⊢
  exact .of_not_sees (showsPath_name ordinary _).unqualified
    (read.bind fun _ _ => accepts_pure trivial)

/-- The name after a type in angle brackets is read to its end. -/
theorem passes_qualifiedSegments {name : Identifier} (ordinary : name.isKeyword = false)
    (enough : depth ≤ deeper) (ends : endsPath rest = true) :
    (capture (do
      let first ← segment (phraseWithin deeper) true
      qualifiedPath.loopSegments (phraseWithin deeper) true ((← get).remaining.length + 1)
        [first])).Passes (.word name :: turbofish types ++ rest) rest := by
  have first := (readsAsSegment_generic given ordinary deeper enough).reads rest (.last ends)
  have alone : Takes (optionalMark "::") rest false rest :=
    takes_optionalMark_of_absent (mark_eq_false_of_endsPath ends rfl rfl)
  have all : Passes (do
      let first ← segment (phraseWithin deeper) true
      qualifiedPath.loopSegments (phraseWithin deeper) true ((← get).remaining.length + 1)
        [first]) (.word name :: turbofish types ++ rest) rest :=
    first.bind fun _ _ => accepts_get fun _ _ => alone.accepts_bind (accepts_pure trivial)
  exact all.capture

/-- So is a name of a type that is seen as a trait. -/
theorem readsQualifiedPath_qualified {type : Tokens} {trait : QualifiedName} {name : Identifier}
    (read : ReadsPathType depth type) (seen : trait.Ordinary) (ordinary : name.isKeyword = false) :
    ReadsQualifiedPath depth
      (Code.angled (type ++ [.plain "as"] ++ trait.tokens) ++ Token.pathSeparator ++
        (.word name :: turbofish types)) := by
  intro deeper enough rest ends
  have tokens : (Code.angled (type ++ [.plain "as"] ++ trait.tokens) ++ Token.pathSeparator ++
      (.word name :: turbofish types)) ++ rest =
        .less :: (type ++ .word (.plain "as") :: (trait.tokens ++ .greater ::
          (Token.pathSeparator ++ (.word name :: turbofish types ++ rest)))) := by
    simp [Code.angled, Token.plain]
  have last := passes_qualifiedSegments given ordinary enough ends
  rw [tokens]
  refine .of_sees rfl (Accepts.bind (Accepts.captured ?_) fun _ _ => accepts_pure trivial)
  refine (takes_mark rfl false _).accepts_bind ?_
  refine (read.written enough rfl).accepts_bind ?_
  refine (takes_optionalWord "as" _).accepts_bind ?_
  show Accepts (path (phraseWithin deeper) false >>= _) _ _ _
  refine (readsPath_name seen deeper enough _ rfl).bind fun _ _ => ?_
  refine (takes_write _ _).accepts_bind ((takes_mark rfl false _).accepts_bind ?_)
  refine (takes_separator _).accepts_bind (last.bind fun _ _ => ?_)
  exact (takes_write _ _).passes

end

/-- A name is the path of a pattern. -/
theorem readsQualifiedPath_bare {name : QualifiedName} (ordinary : name.Ordinary) :
    ReadsQualifiedPath depth name.tokens := by
  have path : ReadsQualifiedPath depth (name.tokens ++ turbofish none) :=
    readsQualifiedPath_name (by simp) ordinary
  rwa [turbofish, List.append_nil] at path

/-! ### The type of an aggregate -/

theorem readsInAngles_parameter {parameter : GenericParameter} (ordinary : parameter.Ordinary) :
    ReadsInAngles 1 parameter.applied := by
  have named {name : Identifier} (own : name.isKeyword = false) :
      ReadsInAngles 1 (QualifiedName.mk false [name]).tokens :=
    (readsPathType_name (.of_single own)).readsType.readsInAngles
  cases parameter with
  | lifetime _ name _ => exact readsInAngles_lifetime name
  | type _ name _ _ =>
    rcases ordinary with own | rfl
    · exact named own
    · exact readsPathType_inferred.readsType.readsInAngles
  | constant _ name _ _ => exact named ordinary

/-- The aggregate applied to its parameters is a type. -/
theorem readsPathType_selfType {aggregate : Aggregate} (ordinary : aggregate.name.isKeyword = false)
    (parameters : ∀ parameter ∈ aggregate.generics.parameters, parameter.Ordinary) :
    ReadsPathType 2 aggregate.selfType := by
  have name : (QualifiedName.mk false [aggregate.name]).Ordinary := .of_single ordinary
  unfold Aggregate.selfType Generics.applied Generics.listed
  split
  · exact (readsPathType_name name).mono (by decide)
  · rename_i nonempty
    refine readsPathType_applied name (fun item member => ?_) fun _ empty => nonempty ?_
    · obtain ⟨⟨isLifetime, tokens⟩, among, rfl⟩ := List.mem_map.mp member
      have listed := (List.mem_append.mp among).elim List.mem_of_mem_filter List.mem_of_mem_filter
      obtain ⟨parameter, own, same⟩ := List.mem_map.mp listed
      cases same
      exact readsInAngles_parameter (parameters parameter own)
    · simp only [List.map_eq_nil_iff, List.append_eq_nil_iff, List.filter_eq_nil_iff,
        List.forall_mem_map, Bool.not_eq_true, Bool.not_eq_true'] at empty
      refine List.isEmpty_iff.mpr (List.eq_nil_iff_forall_not_mem.mpr fun parameter own => ?_)
      exact empty.2 parameter own (empty.1 parameter own)

end Grammar

end Fieldwise
