/-
This file says which unsupported types are reported as those of the runtime. The report looks at
the text of the type, and types have texts of two kinds. A path that is taken apart is written
without blanks, so that its first names are seen in the text; all other types are printed as
tokens, where a blank follows every word, and no name of the runtime is ever seen. A path that
has a lifetime, a constant or a binding among its arguments, or arguments on a segment that is
not the last, is not taken apart: it is reported as foreign although it names the runtime.
-/

import Fieldwise.Grammar.Declaration
import Fieldwise.Proofs.Flags
import Fieldwise.Proofs.PrintedNames
import Fieldwise.Proofs.Scanning
import Fieldwise.Token.Lexer
import Mathlib.Data.List.TakeWhile

namespace Fieldwise

/-! ### Written types -/

/-- The type without the parentheses and the invisible groups around it. -/
def WrittenType.bare : WrittenType → WrittenType
  | .parenthesized inner => inner.bare
  | .grouped inner => inner.bare
  | written => written

/-- Whether the argument is a type. -/
def Argument.isType : Argument → Bool
  | .type _ => true
  | _ => false

/-- Whether nothing is applied, or types in angle brackets. -/
def Arguments.onlyTypes : Arguments → Bool
  | .none => true
  | .angled _ arguments _ => arguments.all Argument.isType
  | .parenthesized _ => false

namespace WrittenType

/-- Whether the type is a path of several segments, of which the first has the name of the
runtime. -/
def isFromRuntime (written : WrittenType) : Bool :=
  match written.bare with
  | .path _ (first :: _ :: _) => first.name.text == "undertow"
  | _ => false

/-- Whether the type is a path with nothing applied to any segment but the last, and there only
types. -/
def isTakenApart (written : WrittenType) : Bool :=
  match written.bare with
  | .path _ segments =>
    segments.dropLast.all (·.arguments.isNone) && segments.getLast?.any (·.arguments.onlyTypes)
  | _ => false

/-- Nothing is left around the type. -/
theorem bare_ne_enclosed (written inner : WrittenType) :
    written.bare ≠ .parenthesized inner ∧ written.bare ≠ .grouped inner := by
  fun_induction bare written with
  | case1 enclosed inductionHypothesis => exact inductionHypothesis
  | case2 enclosed inductionHypothesis => exact inductionHypothesis
  | case3 written unparenthesized ungrouped => exact ⟨unparenthesized inner, ungrouped inner⟩

theorem isFromRuntime_iff {written : WrittenType} :
    written.isFromRuntime = true ↔ ∃ rooted first second others,
      written.bare = .path rooted (first :: second :: others) ∧ first.name.text = "undertow" := by
  rw [isFromRuntime]
  constructor
  · intro fromRuntime
    split at fromRuntime
    · rename_i rooted first second others bare
      exact ⟨rooted, first, second, others, bare, beq_iff_eq.mp fromRuntime⟩
    · cases fromRuntime
  · rintro ⟨rooted, first, second, others, bare, same⟩
    rw [bare]
    exact beq_iff_eq.mpr same

theorem ofWritten_bare (written : WrittenType) :
    TypeExpression.ofWritten written.bare = TypeExpression.ofWritten written := by
  fun_induction bare written with
  | case1 inner inductionHypothesis => rw [inductionHypothesis, TypeExpression.ofWritten]
  | case2 inner inductionHypothesis => rw [inductionHypothesis, TypeExpression.ofWritten]
  | case3 written _ _ => rfl

theorem areLexical_bare {written : WrittenType}
    (lexical : Token.areLexical written.tokens = true) :
    Token.areLexical written.bare.tokens = true := by
  fun_induction bare written with
  | case1 inner inductionHypothesis =>
    exact inductionHypothesis (Bool.and_eq_true _ _ |>.mp lexical).1
  | case2 inner inductionHypothesis =>
    exact inductionHypothesis (Bool.and_eq_true _ _ |>.mp lexical).1
  | case3 written _ _ => exact lexical

end WrittenType

/-! ### Names of the runtime -/

namespace QualifiedName

variable {name : QualifiedName}

theorem toList_relative_cons_cons (rooted : Bool) (first second : Identifier)
    (others : List Identifier) :
    (relative ⟨rooted, first :: second :: others⟩).toList =
      first.text.toList ++ ':' :: ':' :: (relative ⟨rooted, second :: others⟩).toList := by
  rw [relative, List.map_cons, List.map_cons, String.intercalate_cons_cons,
    String.toList_append, String.toList_append, List.append_assoc]
  rfl

/-- Several names in a row go on from the name of the runtime if that is the first of them, and
one name never does. -/
theorem Lexical.relative_eq_iff (lexical : name.Lexical) :
    (∃ rest, rest ≠ [] ∧ name.relative.toList = "undertow::".toList ++ rest) ↔
      ∃ first second others, name.names = first :: second :: others ∧ first.text = "undertow" := by
  obtain ⟨rooted, names⟩ := name
  have colonless : ∀ part ∈ names, ':' ∉ part.text.toList :=
    fun part member => (lexical.2 part member).not_mem (by decide)
  rcases names with _ | ⟨first, _ | ⟨second, others⟩⟩
  · exact absurd rfl lexical.1
  · refine iff_of_false ?_ nofun
    rintro ⟨rest, -, parts⟩
    rw [relative, List.map_singleton, String.intercalate_singleton] at parts
    refine colonless first List.mem_cons_self ?_
    rw [parts]
    exact List.mem_append_left rest (by decide)
  · rw [toList_relative_cons_cons]
    constructor
    · rintro ⟨rest, -, parts⟩
      refine ⟨first, second, others, rfl, String.toList_inj.mp ?_⟩
      -- What stands before the first colon is the first name.
      have before := congrArg (List.takeWhile (· ≠ ':')) parts
      rw [Text.takeWhile_name (colonless first List.mem_cons_self)] at before
      rw [before]
      exact Text.takeWhile_name (by decide : ':' ∉ "undertow".toList) (':' :: rest)
    · rintro ⟨_, _, _, ⟨⟩, same⟩
      have later : Lexical ⟨rooted, second :: others⟩ :=
        ⟨List.cons_ne_nil _ _, fun part member => lexical.2 part (List.mem_cons_of_mem _ member)⟩
      refine ⟨_, later.leading.ne_nil, ?_⟩
      rw [same]
      rfl

theorem Lexical.display_ne_nil (lexical : name.Lexical) : name.display.toList ≠ [] := by
  rw [display]
  split
  · rw [String.toList_append]
    exact List.cons_ne_nil _ _
  · exact lexical.leading.ne_nil

theorem Lexical.not_mem_display (lexical : name.Lexical) : '<' ∉ name.display.toList := by
  rw [display]
  split
  · rw [String.toList_append, List.mem_append, not_or]
    exact ⟨by decide, lexical.leading.unbracketed⟩
  · exact lexical.leading.unbracketed

/-- A name belongs to the runtime if that is the first of its several names. -/
theorem Lexical.isRuntimeName_display (lexical : name.Lexical) :
    isRuntimeName name.display = true ↔
      ∃ first second others, name.names = first :: second :: others ∧ first.text = "undertow" := by
  have unrooted := lexical.leading.withoutRoot_display ""
  rw [String.append_empty, String.append_empty] at unrooted
  rw [Text.isRuntimeName_iff, unrooted, lexical.relative_eq_iff]

end QualifiedName

/-- The text of a type before its arguments is that of its name. -/
theorem TypeExpression.baseName_display {shape : TypeExpression} {name : QualifiedName}
    (named : shape.name? = some name) (lexical : name.Lexical) :
    Text.baseName shape.display = name.display := by
  cases shape with
  | parameterized own arguments =>
    cases named
    apply String.toList_inj.mp
    rw [display, String.append_assoc, String.append_assoc, Text.baseName, String.toList_ofList,
      String.toList_append, String.toList_append]
    exact Text.baseCharacters_name lexical.display_ne_nil lexical.not_mem_display _
  | simple own =>
    cases named
    rw [display, Text.baseName, Text.baseCharacters, List.takeWhile_eq_self_iff.mpr]
    · rw [ite_self, String.ofList_toList]
    · intro character member
      exact decide_eq_true fun opening => lexical.not_mem_display (opening ▸ member)
  | array _ _ => cases named
  | unanalysed _ => cases named

/-! ### Paths that are taken apart -/

namespace TypeExpression

theorem isSome_ofArguments (arguments : List Argument) :
    (ofArguments arguments).isSome = arguments.all Argument.isType := by
  induction arguments with
  | nil => rfl
  | cons argument rest inductionHypothesis =>
    rw [List.all_cons, ← inductionHypothesis, ofArguments]
    cases argument with
    | type type =>
      rw [ofArgument]
      cases ofArguments rest <;> rfl
    | lifetime name => rfl
    | other tokens => rfl

/-- What is applied to a name is taken apart if it is nothing but types. -/
theorem isSome_ofApplied (name : QualifiedName) (arguments : Arguments) :
    (ofApplied name arguments).isSome = arguments.onlyTypes := by
  cases arguments with
  | none => rfl
  | angled turbofish arguments trailingComma =>
    rw [Arguments.onlyTypes, ← isSome_ofArguments, ofApplied, Option.isSome_map]
  | parenthesized tokens => rfl

theorem name?_of_ofApplied {name : QualifiedName} {arguments : Arguments} {shape : TypeExpression}
    (found : ofApplied name arguments = some shape) : shape.name? = some name := by
  cases arguments with
  | none =>
    cases found
    rfl
  | angled turbofish arguments trailingComma =>
    obtain ⟨shapes, -, rfl⟩ := Option.map_eq_some_iff.mp found
    rfl
  | parenthesized tokens => cases found

variable {rooted : Bool} {segments : List Segment} {written : WrittenType}

/-- A path is taken apart if nothing is applied to any segment but the last, and there only
types. -/
theorem isSome_ofSegments (before : List Identifier) :
    (ofSegments rooted before segments).isSome =
      (segments.dropLast.all (·.arguments.isNone) &&
        segments.getLast?.any (·.arguments.onlyTypes)) := by
  induction segments generalizing before with
  | nil => rfl
  | cons segment rest inductionHypothesis =>
    cases rest with
    | nil =>
      obtain ⟨name, arguments⟩ := segment
      exact isSome_ofApplied _ arguments
    | cons next others =>
      rw [List.dropLast_cons_cons, List.getLast?_cons_cons, List.all_cons, Bool.and_assoc,
        ← inductionHypothesis (before ++ [segment.name]), ofSegments]
      · cases segment.arguments.isNone <;> rfl
      · exact nofun

/-- Its name is made of those of the segments. -/
theorem name?_of_ofSegments {before : List Identifier} {shape : TypeExpression}
    (found : ofSegments rooted before segments = some shape) :
    shape.name? = some ⟨rooted, before ++ segments.map Segment.name⟩ := by
  induction segments generalizing before with
  | nil => cases found
  | cons segment rest inductionHypothesis =>
    cases rest with
    | nil =>
      obtain ⟨name, arguments⟩ := segment
      exact name?_of_ofApplied found
    | cons next others =>
      rw [ofSegments] at found
      · split at found
        · rw [inductionHypothesis found, List.map_cons, List.append_assoc]
          rfl
        · cases found
      · exact nofun

/-- A type that is taken apart is a path, and its shape has the names of the segments. -/
theorem exists_path_of_isTakenApart (apart : written.isTakenApart = true) :
    ∃ rooted segments, written.bare = .path rooted segments ∧ segments ≠ [] ∧
      (ofWritten written).name? = some ⟨rooted, segments.map Segment.name⟩ := by
  rw [WrittenType.isTakenApart] at apart
  split at apart
  · rename_i rooted segments bare
    rw [← @isSome_ofSegments rooted segments []] at apart
    obtain ⟨shape, found⟩ := Option.isSome_iff_exists.mp apart
    refine ⟨rooted, segments, bare, ?_, ?_⟩
    · rintro rfl
      cases found
    rw [← WrittenType.ofWritten_bare, bare, ofWritten, found]
    exact name?_of_ofSegments found
  · cases apart

/-- The text of any other type does not begin with the name of the runtime and a colon: it
begins with a bracket, or it is a print of tokens. -/
theorem not_leadsToRuntime_display (lexical : Token.areLexical written.tokens = true)
    (whole : written.isTakenApart = false) :
    ¬Text.LeadsToRuntime (ofWritten written).display.toList := by
  have bareLexical := WrittenType.areLexical_bare lexical
  rw [WrittenType.isTakenApart] at whole
  rw [← WrittenType.ofWritten_bare]
  have printed := Token.not_leadsToRuntime_printAll written.bare.tokens bareLexical
  generalize bare : written.bare = type at *
  cases type with
  | array element length =>
    refine Text.not_leadsToRuntime_of_head fun first same => ?_
    rw [ofWritten, display, String.append_assoc, String.append_assoc, String.append_assoc,
      String.toList_append] at same
    cases same
    decide
  | path rooted segments =>
    have kept : ofSegments rooted [] segments = none := by
      rw [← Option.not_isSome_iff_eq_none, isSome_ofSegments, Bool.not_eq_true]
      exact whole
    rw [ofWritten, kept]
    exact printed
  | parenthesized inner => exact absurd bare (written.bare_ne_enclosed inner).1
  | grouped inner => exact absurd bare (written.bare_ne_enclosed inner).2
  | slice element => exact printed
  | traitObject tokens => exact printed
  | loneBound enclosed tokens => exact printed
  | implTrait tokens => exact printed
  | other tokens => exact printed

theorem name_mem_words {segment : Segment} (member : segment ∈ segments) :
    segment.name ∈ Tokens.words (WrittenType.path rooted segments).tokens := by
  rw [WrittenType.tokens, words_pathTokens]
  induction segments with
  | nil => exact absurd member List.not_mem_nil
  | cons first rest inductionHypothesis =>
    rw [segmentTokens, List.flatMap_cons]
    rcases List.mem_cons.mp member with rfl | later
    · obtain ⟨name, arguments⟩ := segment
      exact List.mem_append_left _ List.mem_cons_self
    · exact List.mem_append_right _ (inductionHypothesis later)

/-- In the text of a type a name of the runtime is seen if the type names it and is taken
apart. -/
theorem isRuntimeName_ofWritten (lexical : Token.areLexical written.tokens = true) :
    isRuntimeName (Text.baseName (ofWritten written).display) = true ↔
      written.isFromRuntime = true ∧ written.isTakenApart = true := by
  cases apart : written.isTakenApart with
  | false =>
    rw [Text.isRuntimeName_baseName_of_not_leads (not_leadsToRuntime_display lexical apart)]
    exact ⟨nofun, fun both => nomatch both.2⟩
  | true =>
    obtain ⟨rooted, segments, bare, nonempty, named⟩ := exists_path_of_isTakenApart apart
    have parts : QualifiedName.Lexical ⟨rooted, segments.map Segment.name⟩ := by
      refine ⟨fun nothing => nonempty (List.map_eq_nil_iff.mp nothing), fun part member => ?_⟩
      obtain ⟨segment, among, rfl⟩ := List.mem_map.mp member
      refine Token.lexical_of_mem_words_all _ (WrittenType.areLexical_bare lexical) ?_
      rw [bare]
      exact name_mem_words among
    rw [baseName_display named parts, parts.isRuntimeName_display, WrittenType.isFromRuntime_iff,
      bare]
    constructor
    · rintro ⟨name, next, names, same, undertow⟩
      obtain ⟨first, others, rfl, rfl, later⟩ := List.map_eq_cons_iff.mp same
      obtain ⟨second, rest, rfl, -, -⟩ := List.map_eq_cons_iff.mp later
      exact ⟨⟨rooted, first, second, rest, rfl, undertow⟩, rfl⟩
    · rintro ⟨⟨_, first, second, others, ⟨⟩, undertow⟩, -⟩
      exact ⟨first.name, second.name, others.map Segment.name, rfl, undertow⟩

end TypeExpression

/-! ### Reports -/

/-- The problem is that no generator supports the type of the field, which is said to be of the
runtime if it names the runtime and is taken apart. -/
def Problem.ShowsOrigin (problem : Problem) (field : Field) : Prop :=
  ∃ origin, problem = .unsupportedShape field.shape.display origin ∧
    (origin = .runtime ↔ field.written.isFromRuntime = true ∧ field.written.isTakenApart = true)

namespace Aggregate

variable {aggregate : Aggregate} {field : Field}

/-- The shapes of scanned fields are those of their written types. -/
theorem shape_of_ofWritten {declaration : WrittenDeclaration}
    (scanned : ofWritten declaration = .ok aggregate) (candidate : field ∈ aggregate.candidates) :
    field.shape = .ofWritten field.written := by
  obtain ⟨fields, -, each⟩ := (ofWritten_eq_ok_iff_scannedFrom.mp scanned).fields
  have among : field ∈ aggregate.fields := (List.mem_filter.mp candidate).1
  obtain ⟨written, scans⟩ := exists_forall₂_iff.mp ⟨_, List.Forall₂.flip each⟩ field among
  rw [scans.written]
  exact scans.shape

theorem showsOrigin_unsupported (shape : field.shape = .ofWritten field.written)
    (lexical : Token.areLexical field.written.tokens = true) :
    (unsupported aggregate field).problem.ShowsOrigin field := by
  refine ⟨_, rfl, ?_⟩
  rw [← TypeExpression.isRuntimeName_ofWritten lexical, ← shape]
  split
  · rename_i runtime
    exact iff_of_true rfl runtime
  · rename_i foreign
    exact iff_of_false nofun foreign

end Aggregate

namespace Registry

variable {registry : Registry} {aggregate : Aggregate} {field : Field}

/-- A candidate of which no generator supports the type is reported, whatever else is. -/
theorem unsupported_mem_synthesize (candidate : field ∈ aggregate.candidates)
    (none : registry.choice field.shape = none) (listener : Level) :
    unsupported aggregate field ∈
      ((registry.synthesize aggregate).result listener).diagnostics := by
  have entered (kept : List Definition) (fields : List Field) (member : field ∈ fields) :
      .error (unsupported aggregate field) ∈ registry.entriesAfter aggregate kept fields := by
    induction fields generalizing kept with
    | nil => exact absurd member List.not_mem_nil
    | cons first rest inductionHypothesis =>
      rw [entriesAfter]
      rcases List.mem_cons.mp member with rfl | later
      · rw [entryAfter, fieldResult_of_choice_eq_none none]
        exact List.mem_cons_self
      · exact List.mem_cons_of_mem _ (inductionHypothesis _ later)
  rw [synthesize_eq_entries]
  exact List.mem_append_left _
    (List.mem_filterMap.mpr ⟨_, entered [] aggregate.candidates candidate, rfl⟩)

/-- A type that no generator supports is reported as one of the runtime exactly if it is taken
apart and names the runtime, that is, if within parentheses and invisible groups it is a path of
several names, of which the first is that of the runtime, and nothing is applied to the path but
types to its last name. This is so for every registry and every scanned declaration whose types
are made of tokens such as texts have: such types are reported, each with its origin, and if the
generators only report failures of their own, on the field that they were asked for, no other
field is reported for its type. -/
theorem reports_origin_of_unsupported {declaration : WrittenDeclaration}
    (scanned : Aggregate.ofWritten declaration = .ok aggregate)
    (lexical : ∀ field ∈ aggregate.candidates, Token.areLexical field.written.tokens = true)
    (registry : Registry) (listener : Level) :
    (∀ field ∈ aggregate.candidates, registry.choice field.shape = none →
      ∃ diagnostic, (registry.synthesizeField aggregate field).result listener = .error diagnostic ∧
        diagnostic ∈ ((registry.synthesize aggregate).result listener).diagnostics ∧
        diagnostic.field = some field.name.display ∧ diagnostic.problem.ShowsOrigin field) ∧
    (registry.LocatesFailures → registry.ReportsOwnFailures →
      ∀ diagnostic ∈ ((registry.synthesize aggregate).result listener).diagnostics,
        diagnostic.problem.isUnsupported = true →
          ∃ field ∈ aggregate.candidates, registry.choice field.shape = none ∧
            diagnostic.field = some field.name.display ∧ diagnostic.problem.ShowsOrigin field) := by
  have shows (field : Field) (candidate : field ∈ aggregate.candidates) :
      (unsupported aggregate field).problem.ShowsOrigin field :=
    Aggregate.showsOrigin_unsupported (Aggregate.shape_of_ofWritten scanned candidate)
      (lexical field candidate)
  refine ⟨fun field candidate none => ?_, fun locating own diagnostic member reported => ?_⟩
  · refine ⟨unsupported aggregate field, ?_, unsupported_mem_synthesize candidate none listener,
      rfl, shows field candidate⟩
    rw [synthesizeField_result, fieldResult_of_choice_eq_none none]
  · cases cause_of_mem_synthesize locating member with
    | unresolved candidate none => exact ⟨_, candidate, none, rfl, shows _ candidate⟩
    | failed candidate located kinds =>
      rw [(kinds own).1] at reported
      cases reported
    | nothing => cases reported

end Registry

/-! ### A structure with windows of the runtime -/

namespace Screen

/-- A window of the runtime, with an argument. -/
def window (argument : Argument) : WrittenType :=
  .path true [.mk (.plain "undertow") .none,
    .mk (.plain "Window") (.angled false [argument] false)]

/-- A field without attributes. -/
def field (name : String) (written : WrittenType) : WrittenField :=
  ⟨[], some (.plain name), written, ⟨0, 0⟩⟩

/-- The type of a title. -/
def title : WrittenType := .path false [.mk (.plain "String") .none]

/-- A screen has a title and two windows, one with a type in brackets and one with a number. -/
def fields : List WrittenField :=
  [field "title" title, field "front" (.parenthesized (window (.type title))),
    field "back" (window (.other [.literal "3"]))]

/-- The declaration of a screen. -/
def declaration : WrittenDeclaration where
  attributes := []
  visibility := []
  name := .plain "Screen"
  extent := ⟨1, 1⟩
  generics := default
  body := .structure .named fields

/-- What is scanned of it. -/
def aggregate : Aggregate :=
  .ofFields declaration .named (.ofNames true ["undertow"])
    (fields.zipIdx.map fun each => Aggregate.scannedField each.2 each.1 ⟨false, false⟩)

end Screen

namespace Registry

/-- No generator supports the types of a screen. Only its first window is said to be one of the
runtime. -/
theorem reports_origin_of_unsupported_screen :
    Aggregate.ofWritten Screen.declaration = .ok Screen.aggregate ∧
      (∀ field ∈ Screen.aggregate.candidates, Token.areLexical field.written.tokens = true) ∧
      builtin.LocatesFailures ∧ builtin.ReportsOwnFailures ∧
      (∀ field ∈ Screen.aggregate.candidates, builtin.choice field.shape = none ∧
        ∃ diagnostic ∈ ((builtin.synthesize Screen.aggregate).result .info).diagnostics,
          diagnostic.field = some field.name.display ∧ diagnostic.problem.ShowsOrigin field) ∧
      (∀ diagnostic ∈ ((builtin.synthesize Screen.aggregate).result .info).diagnostics,
        diagnostic.problem.isUnsupported = true →
          ∃ field ∈ Screen.aggregate.candidates, diagnostic.problem.ShowsOrigin field) ∧
      ((builtin.synthesize Screen.aggregate).result .info).diagnostics.map (·.problem) =
        [.unsupportedShape "String" .foreign,
          .unsupportedShape "::undertow::Window<String>" .runtime,
          .unsupportedShape ":: undertow :: Window < 3 >" .foreign,
          .noTraversalGenerated "Screen"] := by
  have scanned : Aggregate.ofWritten Screen.declaration = .ok Screen.aggregate := rfl
  have lexical : ∀ field ∈ Screen.aggregate.candidates,
      Token.areLexical field.written.tokens = true := by decide +kernel
  have unresolved : ∀ field ∈ Screen.aggregate.candidates,
      (builtin.choice field.shape).isNone = true := by decide +kernel
  obtain ⟨shown, sole⟩ := reports_origin_of_unsupported scanned lexical builtin .info
  refine ⟨scanned, lexical, builtin_locatesFailures, builtin_reportsOwnFailures, ?_, ?_,
    by decide +kernel⟩
  · intro field candidate
    have none := Option.isNone_iff_eq_none.mp (unresolved field candidate)
    obtain ⟨diagnostic, -, member, about, origin⟩ := shown field candidate none
    exact ⟨none, diagnostic, member, about, origin⟩
  · intro diagnostic member reported
    obtain ⟨field, candidate, -, -, origin⟩ :=
      sole builtin_locatesFailures builtin_reportsOwnFailures diagnostic member reported
    exact ⟨field, candidate, origin⟩

/-- A window with a number is a type of the runtime, and it is reported as foreign. -/
theorem foreign_of_constant_argument :
    ((Tokens.ofText "struct S { inner: undertow::Window<3> }").bind fun tokens =>
      (WrittenDeclaration.ofTokens tokens).toOption.bind fun written =>
        (Aggregate.ofWritten written).toOption.map fun aggregate =>
          (aggregate.candidates.map (·.written.isFromRuntime),
            ((builtin.synthesize aggregate).result .info).diagnostics.map (·.problem))) =
      some ([true],
        [.unsupportedShape "undertow :: Window < 3 >" .foreign, .noTraversalGenerated "S"]) := by
  decide +kernel

end Registry

end Fieldwise
