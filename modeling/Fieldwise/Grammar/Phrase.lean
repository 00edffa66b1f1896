/-
This file assembles the grammar. Each phrase is read by its rule, and the phrases inside
it by the assembled grammar with a smaller bound on the depth; the bound given at the
start is large enough for any run of tokens of its length.
-/

import Fieldwise.Grammar.Statement

namespace Fieldwise.Grammar

/-- The rule for each phrase, given readers for the phrases inside it. -/
def rule (recur : Recursion) : (phrase : Nonterminal) → Reader phrase.Result
  | .type plus groupArguments => typeRule recur plus groupArguments
  | .expression structures => expressionRule recur structures
  | .leadingExpression => leadingExpressionRule recur
  | .unary structures => unaryRule recur structures
  | .operand structures precedence => operandRule recur structures precedence
  | .operandRest structures precedence form => operandRestRule recur structures precedence form
  | .operators structures precedence form => operatorsRule recur structures precedence form
  | .bound capturing constant => boundRule recur capturing constant
  | .pattern => patternRule recur
  | .block attributes => blockRule recur attributes
  | .item => itemRule recur
  | .fields => fieldsRule recur

/-- Reads a phrase whose phrases are nested at most as deeply as the first argument
says. -/
def phraseWithin : Nat → Recursion
  | 0 => fun _ => throw (.expected "unexpected token")
  | depth + 1 => rule (phraseWithin depth)

/-- A depth that no phrase of the given tokens exceeds: a token is read within a fixed
number of phrases that start with it. -/
def depthFor (tokens : Tokens) : Nat := 12 * (Token.countAll tokens + 2)

/-- A reader for each phrase of the given tokens. -/
def phrases (tokens : Tokens) : Recursion := phraseWithin (depthFor tokens)

end Fieldwise.Grammar

namespace Fieldwise

/-- The type that the tokens form. -/
def WrittenType.ofTokens (tokens : Tokens) : Except SyntaxError WrittenType :=
  (Grammar.type (Grammar.phrases tokens)).whole tokens

/-- The path that the tokens form. -/
def Path.ofTokens (tokens : Tokens) : Except SyntaxError Path :=
  (Grammar.path (Grammar.phrases tokens) false).whole tokens

/-- The block that the tokens form, printed in the spacing of generated code. -/
def Tokens.asBlock (tokens : Tokens) : Except SyntaxError Tokens :=
  let block : Tokens := [.braced tokens]
  (Reader.captured (Grammar.plainBlock (Grammar.phrases block))).whole block

/-- The predicate of a where clause that the tokens form, printed in the spacing of
generated code. -/
def Tokens.asPredicate (tokens : Tokens) : Except SyntaxError Tokens :=
  (Reader.captured (Grammar.predicate (Grammar.phrases tokens))).whole tokens

end Fieldwise
