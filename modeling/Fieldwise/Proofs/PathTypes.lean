/-
This file says when the rule for types reads a path or an array. It reads a path where it sees
what a path may start with, and only there does it give a path: so if it gives a path with empty
angle brackets back, each of its names may stand in a path, the first where a type starts, and the
last takes arguments.
-/

import Fieldwise.Proofs.TypeOpenings

namespace Fieldwise.Grammar

open Reader Lookahead
open Token (Borders EndsSegment endsPath mark_eq_false_of_endsPath)

variable {recur : Recursion} {tokens rest : Tokens} {rooted plus groupArguments : Bool}

/-! ### Reading paths and arrays -/

/-- The name may start the path of a type. -/
def StartsPath (name : Identifier) : Prop := startsTypePath [.word name] = true

section

variable {name : Identifier} (starts : StartsPath name)

include starts

theorem StartsPath.ne_plain {text : String}
    (other : startsTypePath [.word (.plain text)] = false) : name ≠ .plain text := by
  rintro rfl
  cases other.symm.trans starts

theorem StartsPath.oneOf_eq_false {texts : List String}
    (others : ∀ text ∈ texts, startsTypePath [.word (.plain text)] = false) (rest : Tokens) :
    oneOf texts (.word name :: rest) = false := by
  show (!name.raw && texts.contains name.text) = false
  by_contra among
  rw [Bool.not_eq_false, Bool.and_eq_true, Bool.not_eq_true', List.contains_iff_mem] at among
  refine starts.ne_plain (others _ among.2) ?_
  obtain ⟨raw, text⟩ := name
  exact congrArg (Identifier.mk · text) among.1

end

/-- Which way the rule for types goes where a path starts. -/
structure ShowsPath (tokens : Tokens) : Prop where
  visible : invisible tokens = false
  noBinder : Lookahead.word "for" tokens = false
  noParenthesis : opens .parenthesis tokens = false
  noFunction : oneOf ["fn", "unsafe", "extern"] tokens = false
  path : startsTypePath tokens = true
  unqualified : Lookahead.mark "<" tokens = false

theorem showsPath {name : Identifier} {more : Tokens} {later : List Tokens}
    (starts : rooted = false → StartsPath name) (rest : Tokens) :
    ShowsPath (pathTokens rooted ((.word name :: more) :: later) ++ rest) := by
  rw [pathTokens_cons]
  cases rooted with
  | true => exact ⟨rfl, rfl, rfl, rfl, rfl, rfl⟩
  | false =>
    have start : StartsPath name := starts rfl
    refine ⟨rfl, ?_, rfl, start.oneOf_eq_false (by decide) _, start, rfl⟩
    exact beq_eq_false_iff_ne.mpr (start.ne_plain (by decide))

theorem accepts_pathType {property : Path → Prop}
    (unqualified : Lookahead.mark "<" tokens = false) (ends : endsPath rest = true)
    (accepted : (path recur false).Accepts tokens property rest) :
    (pathType recur plus none).Accepts tokens
      (fun written => ∃ path, property path ∧ written = .path path.rooted path.segments) rest := by
  have plain : (qualifiedPath recur false).Accepts tokens
      (fun qualified => ∃ path, property path ∧ qualified = .plain path) rest :=
    .of_not_sees unqualified (accepted.bind fun path holds => accepts_pure ⟨path, holds, rfl⟩)
  refine plain.bind ?_
  rintro _ ⟨path, holds, rfl⟩
  have noMacro : callsMacro rest = false := by
    show (Lookahead.mark "!" rest && _) = false
    rw [mark_eq_false_of_endsPath ends rfl rfl, Bool.false_and]
  have noPlus : Lookahead.mark "+" rest = false := mark_eq_false_of_endsPath ends rfl rfl
  exact .of_not_both _ noMacro (.of_not_both _ noPlus (accepts_pure ⟨path, holds, rfl⟩))

/-- The rule for types accepts what shows a path and is accepted as one. -/
theorem accepts_typeRule_of_path {property : Path → Prop} (shows : ShowsPath tokens)
    (ends : endsPath rest = true) (accepted : (path recur false).Accepts tokens property rest) :
    (typeRule recur plus groupArguments).Accepts tokens
      (fun written => ∃ path, property path ∧ written = .path path.rooted path.segments) rest := by
  refine .of_not_sees shows.visible
    ((takes_binder_of_absent shows.noBinder).accepts_bind ?_)
  refine (takes_sees _ _).accepts_bind ?_
  refine .of_not_sees shows.noParenthesis (.of_not_sees shows.noFunction (.of_sees shows.path ?_))
  exact accepts_pathType shows.unqualified ends accepted

/-- The rule for types accepts a path if its segments are accepted. -/
theorem accepts_typeRule_path {I : Type} {item : I} {later : List I} {run : I → Tokens}
    {given : I → Segment → Prop} {name : Identifier} {more : Tokens}
    (named : run item = .word name :: more) (starts : rooted = false → StartsPath name)
    (ends : endsPath rest = true)
    (each : ∀ part ∈ item :: later, ReadsSegment recur false (run part) (given part)) :
    (typeRule recur plus groupArguments).Accepts
      (pathTokens rooted ((item :: later).map run) ++ rest)
      (fun written => ∃ segments, List.Forall₂ given (item :: later) segments ∧
        written = .path rooted segments) rest := by
  have shows : ShowsPath (pathTokens rooted ((item :: later).map run) ++ rest) := by
    rw [List.map_cons, named]
    exact showsPath starts rest
  refine (accepts_typeRule_of_path shows ends (accepts_path ends each)).imp ?_
  rintro _ ⟨_, ⟨segments, all, rfl⟩, rfl⟩
  exact ⟨segments, all, rfl⟩

/-- A path whose segments are read back is read back. -/
theorem takes_typeRule_path {first : Segment} {later : List Segment}
    (starts : rooted = false → StartsPath first.name) (ends : endsPath rest = true)
    (each : ∀ segment ∈ first :: later,
      ReadsSegment recur false segment.tokens fun result => result = segment) :
    Takes (typeRule recur plus groupArguments)
      ((WrittenType.path rooted (first :: later)).tokens ++ rest) (.path rooted (first :: later))
      rest := by
  obtain ⟨name, arguments⟩ := first
  have accepted : (typeRule recur plus groupArguments).Accepts
      (pathTokens rooted ((.mk name arguments :: later).map Segment.tokens) ++ rest) _ rest :=
    accepts_typeRule_path rfl starts ends each
  rw [WrittenType.tokens, TypeExpression.segmentTokens_eq_map]
  refine takes_iff_accepts.mpr (accepted.imp ?_)
  rintro _ ⟨segments, all, rfl⟩
  have same : List.Forall₂ Eq (.mk name arguments :: later) segments :=
    all.imp fun _ _ found => found.symm
  rw [List.forall₂_eq_eq_eq] at same
  rw [same]

theorem takes_typeRule_array {element : WrittenType} {length : Tokens}
    (inner : ∀ rest, Borders rest → Takes (type recur) (element.tokens ++ rest) element rest)
    (counted : Takes (captured (discard (expression recur))) length length []) :
    Takes (typeRule recur plus groupArguments) ((WrittenType.array element length).tokens ++ rest)
      (.array element length) rest := by
  rw [WrittenType.tokens, List.append_assoc]
  refine .of_not_sees rfl ((takes_binder_of_absent rfl).bind ((takes_sees _ _).bind ?_))
  refine .of_not_sees rfl <| .of_not_sees rfl <| .of_not_sees rfl <| .of_not_sees rfl <|
    .of_sees rfl <| Takes.capture_bind (Takes.enclosed (by decide) ?_ rest)
    fun written => takes_pure _ _
  refine (inner _ (.semicolon length)).bind (.of_sees rfl ?_)
  exact (takes_mark rfl false _).bind (counted.bind (takes_pure _ _))

/-- What a path of a type prints. -/
theorem tokens_path_cons (rooted : Bool) (first : Segment) (later : List Segment) :
    (WrittenType.path rooted (first :: later)).tokens =
      (if rooted then Token.pathSeparator else []) ++
        (first.tokens ++ laterTokens (later.map Segment.tokens)) := by
  rw [WrittenType.tokens, TypeExpression.segmentTokens_eq_map, List.map_cons, pathTokens_cons]

/-! ### Paths that are given -/

/-- The type, if it is a path, has the property. -/
def WherePath (property : Path → Prop) (written : WrittenType) (_ : Tokens) : Prop :=
  ∀ rooted segments, written = .path rooted segments → property ⟨rooted, segments⟩

variable {property : Path → Prop}

theorem onlyGives_qualifiedPath
    (read : OnlyGives (path recur false) tokens fun path _ => property path) :
    OnlyGives (qualifiedPath recur false) tokens
      fun qualified _ => ∀ path, qualified = .plain path → property path := by
  refine onlyGives_sees (fun _ => onlyGives_bind fun _ _ => onlyGives_pure nofun) fun _ => ?_
  refine read.bind fun path _ holds => onlyGives_pure ?_
  rintro _ ⟨⟩
  exact holds

theorem onlyGives_pathType (introduced : Option Tokens)
    (read : introduced = none → OnlyGives (path recur false) tokens fun path _ => property path) :
    OnlyGives (pathType recur plus introduced) tokens (WherePath property) := by
  have plain : OnlyGives (path recur false) tokens
      fun path _ => introduced = none → property path := by
    cases introduced with
    | none => exact (read rfl).imp fun _ _ holds _ => holds
    | some => exact onlyGives_of_forall fun _ _ => nofun
  refine (onlyGives_qualifiedPath plain).bind fun qualified _ holds => ?_
  cases qualified with
  | qualified tokens => exact onlyGives_pure nofun
  | plain path =>
    refine onlyGives_bind fun _ _ => ?_
    split
    · exact onlyGives_bind fun _ _ => onlyGives_pure nofun
    refine onlyGives_bind fun _ _ => ?_
    split
    · exact onlyGives_bind fun _ _ => onlyGives_pure nofun
    cases introduced with
    | none =>
      refine onlyGives_pure ?_
      rintro _ _ ⟨⟩
      exact holds path rfl rfl
    | some parameters => exact onlyGives_pure nofun

theorem onlyGives_enclosedBound {inner : Tokens} {alone : WrittenType}
    (holds : ∀ rest, WherePath property alone rest) :
    OnlyGives (enclosedBound recur inner plus alone) tokens (WherePath property) := by
  refine onlyGives_bind fun _ _ => ?_
  split
  · exact onlyGives_bind fun _ _ => onlyGives_pure nofun
  · exact onlyGives_pure (holds _)

theorem onlyGives_parenthesizedType :
    OnlyGives (parenthesizedType recur plus) tokens (WherePath property) := by
  refine onlyGives_bind fun captured _ => ?_
  obtain ⟨content, written⟩ := captured
  cases content with
  | tuple => exact onlyGives_pure nofun
  | relaxedBound inner => exact onlyGives_enclosedBound fun _ => nofun
  | single inner =>
    cases inner with
    | path => exact onlyGives_enclosedBound fun _ => nofun
    | loneBound => exact onlyGives_enclosedBound fun _ => nofun
    | _ => exact onlyGives_pure nofun

theorem onlyGives_dynamicType :
    OnlyGives (dynamicType recur plus) tokens (WherePath property) := by
  refine onlyGives_bind fun captured _ => onlyGives_pure ?_
  obtain ⟨starred, written⟩ := captured
  cases starred <;> exact nofun

theorem onlyGives_bracketedType :
    OnlyGives (bracketedType recur) tokens
      fun written _ => ∀ rest, WherePath property written rest := by
  refine onlyGives_group fun _ _ _ => onlyGives_bind fun element _ => onlyGives_sees (fun _ => ?_)
    fun _ => onlyGives_pure fun _ => nofun
  exact onlyGives_bind fun _ _ => onlyGives_bind fun _ _ => onlyGives_pure fun _ => nofun

/-- Where the binder introduces nothing, it takes nothing. -/
theorem onlyGives_binder :
    OnlyGives (binder recur) tokens
      fun isIntroduced later => isIntroduced = false → later = tokens := by
  have word : OnlyGives (optionalWord "for") tokens
      fun seen later => seen = false → later = tokens :=
    onlyGives_sees (fun _ => onlyGives_bind fun _ _ => onlyGives_pure nofun)
      fun _ => onlyGives_pure fun _ => rfl
  refine word.bind fun seen later left => onlyGives_ite (fun _ => ?_) fun unseen => ?_
  · exact onlyGives_bind fun _ _ => onlyGives_bind fun _ _ => onlyGives_bind fun _ _ =>
      onlyGives_pure nofun
  · exact onlyGives_pure fun _ => left (Bool.eq_false_iff.mpr unseen)

/-- Of what stands visibly, the rule for types gives as a path only what it reads as a path. -/
theorem onlyGives_typeRule_path (visible : invisible tokens = false)
    (read : startsTypePath tokens = true →
      OnlyGives (path recur false) tokens fun path _ => property path) :
    OnlyGives (typeRule recur plus groupArguments) tokens (WherePath property) := by
  refine .of_not_sees visible (onlyGives_binder.capture.bind fun captured later left => ?_)
  obtain ⟨isIntroduced, parameters⟩ := captured
  refine .bind_of_takes ?_ (takes_sees _ _)
  refine onlyGives_ite (fun _ => (onlyGives_expected _ _).bind_of_none) fun _ => ?_
  have kept {first : Reader Tokens} {form : Tokens → WrittenType}
      (noPath : ∀ tokens rest, WherePath property (form tokens) rest) :
      OnlyGives (first >>= fun tokens => pure (form tokens)) later (WherePath property) :=
    onlyGives_bind fun _ _ => onlyGives_pure (noPath _ _)
  refine onlyGives_sees (fun _ => onlyGives_parenthesizedType) fun _ => ?_
  refine onlyGives_sees (fun _ => kept fun _ _ => nofun) fun _ => ?_
  refine onlyGives_sees (fun starts => onlyGives_pathType _ fun unintroduced => ?_) fun _ => ?_
  · -- A path after a binder is a bound, so the path is read from where the type starts.
    cases isIntroduced with
    | true => cases unintroduced
    | false =>
      obtain rfl := left rfl
      exact read starts
  refine onlyGives_sees (fun _ => onlyGives_dynamicType) fun _ => ?_
  refine onlyGives_sees (fun _ => ?_) fun _ => ?_
  · exact onlyGives_bracketedType.capture.bind fun _ _ holds => onlyGives_pure (holds _)
  exact onlyGives_sees (fun _ => kept fun _ _ => nofun) fun _ =>
    onlyGives_sees (fun _ => kept fun _ _ => nofun) fun _ =>
    onlyGives_sees (fun _ => kept fun _ _ => nofun) fun _ =>
    onlyGives_sees (fun _ => kept fun _ _ => nofun) fun _ =>
    onlyGives_sees (fun _ => kept fun _ _ => nofun) fun _ =>
    onlyGives_sees (fun _ => kept fun _ _ => nofun) fun _ => onlyGives_expected _ _

/-! ### Names of paths -/

/-- Names that may stand in a path, the last of them with arguments. -/
inductive TakesArguments : List Identifier → Prop
  | last {name : Identifier} (names : NamesSegment name) (taking : argumentless name = false) :
    TakesArguments [name]
  | next {name next : Identifier} {others : List Identifier} (names : NamesSegment name)
    (rest : TakesArguments (next :: others)) : TakesArguments (name :: next :: others)

/-- Nothing in angle brackets. -/
def emptyArguments : Arguments := .angled false [] false

theorem onlyGives_name {name : Identifier} :
    OnlyGives Reader.name (.word name :: rest) fun _ _ => name.isKeyword = false := by
  refine onlyGives_get fun reading remains => ?_
  rw [remains]
  refine onlyGives_ite (fun _ => onlyGives_throw _ _) fun ordinary => ?_
  exact onlyGives_of_forall fun _ _ => Bool.eq_false_iff.mpr ordinary

/-- A word that is read as a segment may stand in a path. -/
theorem onlyGives_segment {name : Identifier} :
    OnlyGives (segment recur false) (.word name :: tokens) fun _ _ => NamesSegment name := by
  refine onlyGives_sees (fun special => onlyGives_of_forall fun _ _ => .inl special) fun _ => ?_
  refine onlyGives_sees (fun own => onlyGives_of_forall fun _ _ => .inr (.inl ?_)) fun _ => ?_
  · exact beq_iff_eq.mp own
  · exact onlyGives_name.bind fun _ _ ordinary =>
      onlyGives_of_forall fun _ _ => .inr (.inr ordinary)

theorem onlyGives_segments {names : List Identifier} {first : Segment} {later : List Segment}
    (named : namedSegments names emptyArguments = first :: later) (limit : Nat)
    (before : List Segment) :
    OnlyGives (do
        let first ← segment recur false
        moreSegments recur false limit (before ++ [first]))
      (first.tokens ++ laterTokens (later.map Segment.tokens))
      fun segments _ => segments = before ++ first :: later → TakesArguments names := by
  match names with
  | [] => cases named
  | [last] =>
    cases named
    cases special : argumentless last with
    | false =>
      exact onlyGives_segment.bind fun _ _ names =>
        onlyGives_of_forall fun _ _ _ => .last names special
    | true =>
      -- The path ends at such a name, and nothing is applied to it.
      refine .bind_of_takes ?_ (takes_segment_of_argumentless special _)
      cases limit with
      | zero => exact onlyGives_expected _ _
      | succ limit =>
        refine .of_not_sees rfl (onlyGives_pure fun same => ?_)
        cases List.append_cancel_left same
  | own :: next :: others =>
    cases named
    obtain ⟨arguments, more, rest⟩ := exists_namedSegments_cons next others emptyArguments
    rw [rest, List.map_cons, laterTokens_cons]
    by_cases names : NamesSegment own
    · refine .bind_of_takes ?_ (takes_segment names (.next next _))
      cases limit with
      | zero => exact onlyGives_expected _ _
      | succ limit =>
        refine .of_sees rfl (.bind_of_takes ?_ (takes_separator _))
        refine (onlyGives_segments rest limit (before ++ [.mk own .none])).imp ?_
        intro segments _ takes same
        rw [List.append_assoc] at takes
        exact .next names (takes same)
    · exact onlyGives_segment.bind fun _ _ found => absurd found names

theorem onlyGives_path {names : List Identifier} {first : Segment} {later : List Segment}
    (named : namedSegments names emptyArguments = first :: later) :
    OnlyGives (path recur false) (WrittenType.path rooted (first :: later)).tokens
      fun path _ => path.segments = first :: later → TakesArguments names := by
  have segments (rooted : Bool) : OnlyGives (do
      let first ← Grammar.segment recur false
      let segments ← restOfPath recur false [first]
      return (⟨rooted, segments⟩ : Path)) (first.tokens ++ laterTokens (later.map Segment.tokens))
      fun path _ => path.segments = first :: later → TakesArguments names := by
    intro reading remains result after found
    obtain ⟨own, between, start, rest⟩ := bind_eq_ok_iff.mp found
    obtain ⟨all, _, more, last⟩ := bind_eq_ok_iff.mp rest
    cases last
    exact onlyGives_segments named (between.remaining.length + 1) [] reading remains _ _
      (bind_eq_ok_iff.mpr ⟨own, between, start, more⟩)
  rw [tokens_path_cons]
  refine OnlyGives.bind (OnlyGives.capture (show OnlyGives _ _ fun (path : Path) _ =>
    path.segments = first :: later → TakesArguments names from ?_))
    fun _ _ holds => onlyGives_pure holds
  cases rooted with
  | true => exact .bind_of_takes (segments true) (takes_optionalSeparator _)
  | false =>
    refine .bind_of_takes (segments false) (takes_optionalMark_of_absent ?_)
    obtain ⟨name, arguments⟩ := first
    rfl

/-- A path that is read back with empty angle brackets has names that may stand in a path, the
first where a type starts, and the last takes arguments. -/
theorem takesArguments_of_takes {name : Identifier} {others : List Identifier}
    (taken : Takes (typeRule recur plus groupArguments)
      (WrittenType.path rooted (namedSegments (name :: others) emptyArguments)).tokens
      (.path rooted (namedSegments (name :: others) emptyArguments)) []) :
    TakesArguments (name :: others) ∧ (rooted = false → StartsPath name) := by
  obtain ⟨own, later, named⟩ := exists_namedSegments_cons name others emptyArguments
  rw [named] at taken
  have visible : invisible (WrittenType.path rooted (.mk name own :: later)).tokens = false := by
    rw [tokens_path_cons]
    cases rooted <;> rfl
  refine ⟨?_, ?_⟩
  · exact (onlyGives_typeRule_path visible fun _ => onlyGives_path named).of_takes taken
      rooted _ rfl rfl
  · rintro rfl
    have starts := (onlyGives_typeRule_path visible fun starts =>
      onlyGives_of_forall fun _ _ => starts).of_takes taken false _ rfl
    rw [tokens_path_cons] at starts
    exact starts

end Fieldwise.Grammar
