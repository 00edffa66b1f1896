/-
This file prints tokens. Tokens are separated by one blank, except that nothing follows
a joint mark; braces stand apart from what they hold, the other delimiters do not.
-/

import Fieldwise.Token.Basic

namespace Fieldwise

namespace Token

/-- The text of a group, given that of what it holds and whether it holds no token. A
token may have no text: an invisible group without tokens has none. -/
def surround (delimiter : Delimiter) (empty : Bool) (content : String) : String :=
  match delimiter with
  | .parenthesis => "(" ++ content ++ ")"
  | .bracket => "[" ++ content ++ "]"
  | .brace => if empty then "\x7b \x7d" else "\x7b " ++ content ++ " \x7d"
  | .invisible => content

/-- What stands between a token and the one after it. -/
def gap : Token → String
  | .mark _ true => ""
  | _ => " "

mutual

/-- One token as text. -/
def print : Token → String
  | .word name => name.spelling
  | .mark character _ => character.toString
  | .literal text => text
  | .group delimiter content => surround delimiter content.isEmpty (printAll content)

/-- A run of tokens as text. -/
def printAll : List Token → String
  | [] => ""
  | [token] => token.print
  | token :: next :: rest => token.print ++ token.gap ++ printAll (next :: rest)

end

end Token

/-- A run of tokens as text. -/
def Tokens.print (tokens : Tokens) : String := Token.printAll tokens

end Fieldwise
