/-
This file names the phrases of the grammar that contain one another. A rule of the
grammar reads one phrase and is given a reader for the phrases inside it, so no rule is
recursive by itself; the rules are tied together where the whole grammar is assembled.
-/

import Fieldwise.Grammar.Reader
import Fieldwise.Written.Declaration

namespace Fieldwise.Grammar

/-- What the context of an expression needs to know about it. -/
inductive Form where
  /-- An expression that ends with its block and needs no separator after it. -/
  | blockLike
  /-- A macro call in braces. -/
  | bracedMacro
  /-- A comparison, which cannot be compared again. -/
  | comparison
  /-- A range, which cannot be an operand. -/
  | range
  /-- A path without attributes. -/
  | path
  /-- An expression that is kept as it stands in the source. -/
  | verbatim
  /-- An invisible group with an expression that ends with its block. -/
  | groupedBlock
  | other
deriving DecidableEq, Repr, Inhabited

/-- What the context of a pattern needs to know about it. -/
inductive PatternForm where
  /-- A range that lacks one of its ends. -/
  | halfOpen
  /-- A pattern that is kept as it stands in the source. -/
  | verbatim
  | other
deriving DecidableEq, Repr, Inhabited

/-- How strongly an operator binds. -/
abbrev Precedence := Nat

namespace Precedence

/-- Binds weaker than any operator. -/
def lowest : Precedence := 0
/-- Assignments. -/
def assignment : Precedence := 1
/-- Ranges. -/
def range : Precedence := 2
/-- Comparisons. -/
def comparison : Precedence := 6
/-- Casts. -/
def cast : Precedence := 13

end Precedence

/-- The phrases that contain one another. Flags tell whether a type may go on with `+`,
whether an invisible group may be given arguments, whether a path followed by braces is a
structure, whether a bound may capture parameters or be constant, and whether a block may
have attributes. -/
inductive Nonterminal where
  | type (plus groupArguments : Bool)
  | expression (structures : Bool)
  /-- An expression that ends with its block if it starts with one. -/
  | leadingExpression
  | unary (structures : Bool)
  /-- The right operand of an operator with the given precedence. -/
  | operand (structures : Bool) (precedence : Precedence)
  /-- The operators that go on with an operand that has been read. -/
  | operandRest (structures : Bool) (precedence : Precedence) (form : Form)
  /-- The operators binding at least as strongly as the precedence, after an operand. -/
  | operators (structures : Bool) (precedence : Precedence) (form : Form)
  /-- One bound of a type. -/
  | bound (capturing constant : Bool)
  | pattern
  | block (attributes : Bool)
  /-- An item with its attributes. -/
  | item
  /-- Named fields in braces. -/
  | fields
deriving DecidableEq, Repr, Inhabited

/-- What reading a phrase gives. Types are given back, and what else is read is written. Of
a bound it is given whether it is a trait. -/
def Nonterminal.Result : Nonterminal → Type
  | .type _ _ => WrittenType
  | .expression _ => Form
  | .leadingExpression => Form
  | .unary _ => Form
  | .operand _ _ => Form
  | .operandRest _ _ _ => Form
  | .operators _ _ _ => Form
  | .bound _ _ => Bool
  | .pattern => PatternForm
  | .block _ => Unit
  | .item => Unit
  | .fields => Unit

/-- A reader for each phrase. -/
abbrev Recursion := (phrase : Nonterminal) → Reader phrase.Result

section

variable (recur : Recursion)

/-- Reads a type that may go on with `+`. -/
def type : Reader WrittenType := recur (.type true true)

/-- Reads a type that does not go on with `+`. -/
def typeWithoutPlus : Reader WrittenType := recur (.type false true)

/-- Reads and writes a type. -/
def writtenType : Reader Unit := do Reader.write (← type recur).tokens

/-- Reads and writes a type that does not go on with `+`. -/
def writtenTypeWithoutPlus : Reader Unit := do Reader.write (← typeWithoutPlus recur).tokens

/-- Reads an expression. -/
def expression : Reader Form := recur (.expression true)

/-- Reads an expression before a block, where braces do not belong to a path. -/
def conditionExpression : Reader Form := recur (.expression false)

/-- Reads one bound of a parameter. -/
def bound : Reader Unit := discard (recur (.bound false true))

/-- Reads a pattern without alternatives. -/
def pattern : Reader PatternForm := recur .pattern

/-- Reads a block that may start with attributes of its own. -/
def block : Reader Unit := recur (.block true)

/-- Reads a block without attributes of its own. -/
def plainBlock : Reader Unit := recur (.block false)

end

end Fieldwise.Grammar
