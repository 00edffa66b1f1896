/-
This file splits the text of a type such as `HashMap<K, V>` at its angle brackets. The
text may be malformed; then it is all name, or it has no arguments.
-/

namespace Fieldwise.Text

/-- The characters before the first `<`, or all of them if there is no `<` or nothing
before it. -/
def baseCharacters (text : List Char) : List Char :=
  let before := text.takeWhile (· ≠ '<')
  if before.isEmpty then text else before

/-- The characters up to the `>` that closes the innermost of `depth` open brackets and
all others around it. A `>` right after `-` belongs to an arrow and closes nothing. -/
def upToBalance (depth : Nat) (previous : Char) : List Char → Option (List Char)
  | [] => none
  | character :: rest =>
    if character = '<' then (upToBalance (depth + 1) character rest).map (character :: ·)
    else if character = '>' ∧ previous ≠ '-' then
      if depth ≤ 1 then some []
      else (upToBalance (depth - 1) character rest).map (character :: ·)
    else (upToBalance depth character rest).map (character :: ·)

/-- The characters between the first `<` and the `>` that balances it; none if there is
no `<`, nothing before it, or no such `>`. -/
def argumentCharacters (text : List Char) : List Char :=
  if (text.takeWhile (· ≠ '<')).isEmpty then []
  else
    match text.dropWhile (· ≠ '<') with
    | [] => []
    | opening :: rest => (upToBalance 1 opening rest).getD []

/-- The text of a type without its argument list. -/
def baseName (text : String) : String := String.ofList (baseCharacters text.toList)

/-- The text of the argument list of a type, without its brackets. -/
def argumentText (text : String) : String := String.ofList (argumentCharacters text.toList)

/-- The text after the beginning, if it starts with it. -/
def after? (beginning : List Char) (text : List Char) : Option (List Char) :=
  if beginning.isPrefixOf text then some (text.drop beginning.length) else none

/-- The text without one `::` at its front. -/
def withoutRoot (text : String) : String :=
  String.ofList ((after? "::".toList text.toList).getD text.toList)

end Fieldwise.Text
