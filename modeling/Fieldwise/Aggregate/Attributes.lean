/-
This file reads the attributes that steer the traversals of a declaration: on the
declaration the path of the runtime, on a field whether it is skipped or targeted. An
attribute holds items separated by commas; they are looked at in order, and the first
item that does not fit decides the failure.
-/

import Fieldwise.Grammar.Phrase
import Fieldwise.Token.Lexer
import Fieldwise.Text.Quoted

namespace Fieldwise

/-! ### Failures -/

/-- Why the attributes could not be taken. -/
inductive AttributeError where
  /-- Nothing follows the name of the attribute. -/
  | withoutList
  /-- A value follows the name of the attribute. -/
  | valueInsteadOfList
  | unsupportedContainerItem
  | unsupportedFieldItem
  /-- A field is both skipped and targeted. -/
  | conflictingFlags
  | unexpectedSuffix (suffix : String)
  | unreadable (error : SyntaxError)
deriving DecidableEq, Repr, Inhabited

/-- The wording of a failure. -/
def AttributeError.message : AttributeError → String
  | .withoutList => "expected attribute arguments in parentheses: #[undertow(...)]"
  | .valueInsteadOfList => "expected parentheses: #[undertow(...)]"
  | .unsupportedContainerItem => "unsupported container attribute, expected `crate = \"...\"`"
  | .unsupportedFieldItem => "unsupported field attribute, expected `skip` or `traverse`"
  | .conflictingFlags => "a field cannot be both `skip` and `traverse`"
  | .unexpectedSuffix suffix => "unexpected suffix `" ++ suffix ++ "` on string literal"
  | .unreadable error => error.message

/-! ### Items -/

namespace Attribute

open Reader

/-- Reads the segments of an item's path after the first. -/
def itemSegments : Nat → List Segment → Reader (List Segment)
  | 0, before => return before
  | limit + 1, before => do
    if ← optionalMark "::" then
      let next ← anyWord
      itemSegments limit (before ++ [.mk next .none])
    else return before

/-- Reads the path of an item; unlike other paths it may consist of keywords. -/
def itemPath : Reader Path := do
  let rooted ← optionalMark "::"
  if ← sees Lookahead.anyWord then
    let first ← anyWord
    let segments ← itemSegments (Token.countAll (← get).remaining + 1) [.mk first .none]
    return ⟨rooted, segments⟩
  else if ← sees Lookahead.atEnd then expected "expected nested attribute"
  else if ← sees Lookahead.literal then
    expected "unexpected literal in nested attribute, expected ident"
  else expected "unexpected token in nested attribute, expected ident"

/-- The text of the string literal that comes after `=`. -/
def itemText : Reader (String × String) := do
  Reader.mark "="
  let reading ← get
  if ← sees Lookahead.literal then
    match Text.unquoted? (← literal) with
    | some text => return text
    | none => throw (.expected "expected string literal")
  else
    set reading
    expected "expected string literal"

/-- The items of a list: each path, with what the reader makes of what follows it, and
why the list could not be read to its end. The first argument bounds their number. -/
def itemsUpTo {Item : Type} (item : Path → Reader Item) :
    Nat → Reading → List Item × Option SyntaxError
  | 0, _ => ([], none)
  | limit + 1, reading =>
    match (do item (← itemPath)) reading with
    | .error error => ([], some error)
    | .ok (found, reading) =>
      if reading.remaining.isEmpty then ([found], none)
      else
        match Reader.mark "," reading with
        | .error error => ([found], some error)
        | .ok (_, reading) =>
          if reading.remaining.isEmpty then ([found], none)
          else
            let (more, failure) := itemsUpTo item limit reading
            (found :: more, failure)

/-- The items of a list, and why it could not be read to its end. -/
def items {Item : Type} (item : Path → Reader Item) (tokens : Tokens) :
    List Item × Option SyntaxError :=
  if tokens.isEmpty then ([], none)
  else itemsUpTo item (Token.countAll tokens + 1) ⟨tokens, 0, []⟩

/-- Whether the attribute steers traversals. -/
def isSteering (given : Attribute) : Bool :=
  given.path.single? == some (.plain "undertow")

/-- Takes the items of all steering attributes one after the other. -/
def foldItems {Item State : Type} (item : Path → Reader Item)
    (step : State → Item → Except AttributeError State) (start : State)
    (attributes : List Attribute) : Except AttributeError State :=
  (attributes.filter isSteering).foldlM (fun state given =>
    match given.content with
    | .none => .error .withoutList
    | .value => .error .valueInsteadOfList
    | .list tokens =>
      let (found, failure) := items item tokens
      match found.foldlM step state, failure with
      | .ok state, none => .ok state
      | .ok _, some error => .error (.unreadable error)
      | .error error, _ => .error error) start

end Attribute

/-! ### The runtime of a declaration -/

/-- The path of the runtime where no attribute gives another. -/
def defaultRuntime : Path := .ofNames true ["undertow"]

/-- The path that a text forms. -/
def Path.ofText (text : String) : Except SyntaxError Path :=
  match Tokens.ofText text with
  | some tokens => Path.ofTokens tokens
  | none => .error .untokenized

/-- An item on a declaration: the text of a path after `crate`, or something else. -/
inductive ContainerItem where
  | runtime (text suffix : String)
  | unsupported
deriving DecidableEq, Repr, Inhabited

/-- Reads what follows the path of an item on a declaration. -/
def ContainerItem.read (path : Path) : Reader ContainerItem := do
  if path.single? == some (.plain "crate") then
    let (text, suffix) ← Attribute.itemText
    return .runtime text suffix
  else return .unsupported

/-- The runtime after one more item. -/
def ContainerItem.take (_ : Path) : ContainerItem → Except AttributeError Path
  | .runtime text suffix =>
    match Path.ofText text with
    | .ok path => if suffix.isEmpty then .ok path else .error (.unexpectedSuffix suffix)
    | .error error => .error (.unreadable error)
  | .unsupported => .error .unsupportedContainerItem

/-- The path of the runtime that the attributes of a declaration give; the last one
counts. -/
def runtimeOf (attributes : List Attribute) : Except AttributeError Path :=
  Attribute.foldItems ContainerItem.read ContainerItem.take defaultRuntime attributes

/-! ### The flags of a field -/

/-- Whether a field is left out of traversals, and whether it is asked for. -/
structure FieldFlags where
  skip : Bool
  traverse : Bool
deriving DecidableEq, Repr, Inhabited

/-- An item on a field. -/
inductive FieldItem where
  | skip
  | traverse
  | unsupported
deriving DecidableEq, Repr, Inhabited

/-- Which item a path on a field is. -/
def FieldItem.ofPath (path : Path) : FieldItem :=
  if path.single? == some (.plain "skip") then .skip
  else if path.single? == some (.plain "traverse") then .traverse
  else .unsupported

/-- The flags after one more item. -/
def FieldItem.take (flags : FieldFlags) (item : FieldItem) : Except AttributeError FieldFlags :=
  let flags : FieldFlags :=
    { skip := flags.skip || item == .skip, traverse := flags.traverse || item == .traverse }
  if item == .unsupported then .error .unsupportedFieldItem
  else if flags.skip && flags.traverse then .error .conflictingFlags
  else .ok flags

/-- The flags that the attributes of a field give. -/
def fieldFlagsOf (attributes : List Attribute) : Except AttributeError FieldFlags :=
  Attribute.foldItems (fun path => return FieldItem.ofPath path) FieldItem.take ⟨false, false⟩
    attributes

end Fieldwise
