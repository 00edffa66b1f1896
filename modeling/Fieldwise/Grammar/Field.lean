/-
This file holds the rules for visibilities and for what structures, unions and variants of
enumerations consist of.
-/

import Fieldwise.Grammar.Type

namespace Fieldwise.Grammar

open Reader Lookahead

/-! ### Visibilities -/

/-- Reads a visibility; nothing is one too. Parentheses after `pub` belong to it only if
they hold one of the words that restrict it. -/
def visibility : Reader Unit := do
  match (← get).remaining with
  | .group .invisible [] :: rest => advance 0 rest
  | _ =>
    if ← optionalWord "pub" then
      match Token.front (← get).remaining with
      | .group .parenthesis content :: _ =>
        if Lookahead.oneOf ["crate", "self", "super"] content && Lookahead.second atEnd content
        then discard (group .parenthesis Reader.anyWord)
        else if Lookahead.word "in" content then
          group .parenthesis do
            Reader.word "in"
            discard namePath
      | _ => pure ()

section

variable (recur : Recursion)

/-! ### Fields -/

/-- Reads the name of a field, which may be a low line; says whether it names the field. -/
def fieldName : Reader (Identifier × Bool) := do
  if ← sees (.word "_") then return (← Reader.anyWord, false)
  else return (← Reader.name, true)

/-- Reads the type of a field. In place of that of a field without a name there may be the
fields of a structure or of a union, which are kept as they stand in the source. -/
def fieldType (named : Bool) : Reader WrittenType := do
  let inline := any [.word "struct", and (.word "union") (second (opens .brace))]
  if !named && (← sees inline) then
    return .other (← captured <| verbatim do
      discard Reader.anyWord
      recur .fields)
  else type recur

/-- Reads a field with a name. -/
def namedField : Reader Unit := do
  discard (outerAttributes recur)
  visibility
  let (_, named) ← fieldName
  Reader.mark ":"
  write (← fieldType recur named).tokens

/-- The rule for named fields in braces. -/
def fieldsRule : Reader Unit := group .brace (terminated "," (namedField recur))

/-- Reads a field that is told from others by its position. -/
def positionalField : Reader Unit := do
  discard (outerAttributes recur)
  visibility
  writtenType recur

/-- Reads fields in parentheses. -/
def positionalFields : Reader Unit :=
  group .parenthesis (terminated "," (positionalField recur))

/-! ### Variants -/

/-- Reads one variant of an enumeration. A visibility before it is dropped. -/
def variant : Reader Unit := do
  discard (outerAttributes recur)
  discard <| capture visibility
  discard Reader.name
  if ← sees (opens .brace) then recur .fields
  else if ← sees (opens .parenthesis) then positionalFields recur
  if ← optionalMark "=" then discard (expression recur)

/-- Reads the variants of an enumeration. -/
def variants : Reader Unit := group .brace (terminated "," (variant recur))

end

end Fieldwise.Grammar
