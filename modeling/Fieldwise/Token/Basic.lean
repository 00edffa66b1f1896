/-
This file holds identifiers and tokens. An identifier is its text and whether it was written
in raw form, with `r#` before it; the two forms name the same thing but are told apart
when identifiers are compared. Tokens are words, marks, literals and delimited groups of
tokens. A mark says whether it joins the mark after it into one operator, so `->` is a joint
`-` followed by `>`. A group may have no visible delimiter; it then keeps tokens together
as a unit without printing anything of its own.
-/

namespace Fieldwise

/-! ### Identifiers -/

/-- A name as written in a source text. -/
structure Identifier where
  /-- Whether the name was written with `r#` before it. -/
  raw : Bool
  /-- The name itself, without `r#`. -/
  text : String
deriving DecidableEq, Repr, Inhabited

namespace Identifier

/-- The identifier written without `r#`. -/
def plain (text : String) : Identifier := ⟨false, text⟩

/-- The identifier as it is printed, `r#` included. -/
def spelling (name : Identifier) : String :=
  if name.raw then "r#" ++ name.text else name.text

/-- The words the language keeps for itself; they are identifiers only in raw form. -/
def keywords : List String := [
  "_", "abstract", "as", "async", "await", "become", "box", "break", "const", "continue",
  "crate", "do", "dyn", "else", "enum", "extern", "false", "final", "fn", "for", "if",
  "impl", "in", "let", "loop", "macro", "match", "mod", "move", "mut", "override", "priv",
  "pub", "ref", "return", "Self", "self", "static", "struct", "super", "trait", "true",
  "try", "type", "typeof", "unsafe", "unsized", "use", "virtual", "where", "while", "yield"]

/-- Whether the identifier is a keyword: a kept word that is not in raw form. -/
def isKeyword (name : Identifier) : Bool :=
  !name.raw && keywords.contains name.text

/-- The words that cannot be written in raw form. -/
def neverRaw : List String := ["_", "super", "self", "Self", "crate"]

end Identifier

/-! ### Tokens -/

/-- What stands around a group of tokens. -/
inductive Delimiter where
  | parenthesis
  | bracket
  | brace
  | invisible
deriving DecidableEq, Repr, Inhabited

/-- One token, or one delimited group with all that it holds. -/
inductive Token where
  | word (name : Identifier)
  | mark (character : Char) (joint : Bool)
  | literal (text : String)
  | group (delimiter : Delimiter) (content : List Token)
deriving Repr, Inhabited

/-- A run of tokens. -/
abbrev Tokens := List Token

namespace Token

/-! ### Building tokens -/

/-- A word written without `r#`. -/
def plain (text : String) : Token := .word (.plain text)

/-- The marks of one operator: each joins the next, and the last joins nothing. -/
def operator : List Char → Tokens
  | [] => []
  | [last] => [.mark last false]
  | first :: second :: rest => .mark first true :: operator (second :: rest)

/-- The apostrophe that opens a lifetime. -/
def apostrophe : Char := Char.ofNat 39

/-- A lifetime: an apostrophe joined to its name. -/
def lifetime (name : Identifier) : Tokens := [.mark apostrophe true, .word name]

/-- Tokens in parentheses. -/
def parenthesized (content : Tokens) : Token := .group .parenthesis content

/-- Tokens in square brackets. -/
def bracketed (content : Tokens) : Token := .group .bracket content

/-- Tokens in braces. -/
def braced (content : Tokens) : Token := .group .brace content

/-- The mark `,`. -/
def comma : Token := .mark ',' false

/-- The mark `;`. -/
def semicolon : Token := .mark ';' false

/-- The mark `:`. -/
def colon : Token := .mark ':' false

/-- The mark `=`. -/
def equals : Token := .mark '=' false

/-- The mark `<`. -/
def less : Token := .mark '<' false

/-- The mark `>`. -/
def greater : Token := .mark '>' false

/-- The operator `::`. -/
def pathSeparator : Tokens := operator [':', ':']

/-- The items with the separator between each two of them. -/
def separated (separator : Tokens) : List Tokens → Tokens
  | [] => []
  | [item] => item
  | item :: next :: rest => item ++ separator ++ separated separator (next :: rest)

/-- The items with `,` between each two of them. -/
def commaSeparated (items : List Tokens) : Tokens := separated [comma] items

/-! ### Counting tokens -/

mutual

/-- How many tokens a group holds when its visible delimiters are counted too. -/
def count : Token → Nat
  | .group .invisible content => countAll content
  | .group _ content => countAll content + 2
  | _ => 1

/-- How many tokens a run holds, those inside groups included. -/
def countAll : List Token → Nat
  | [] => 0
  | token :: rest => token.count + countAll rest

end

mutual

/-- What is taken of a token that holds more tokens than are wanted: only an invisible
group can be taken in part. -/
def takePart : Token → Nat → List Token
  | .group .invisible content, wanted => takeCounted content wanted
  | _, _ => []

/-- The front of a run that holds so many tokens, counted as in `countAll`. -/
def takeCounted : List Token → Nat → List Token
  | [], _ => []
  | token :: rest, wanted =>
    if wanted = 0 then []
    else if token.count ≤ wanted then token :: takeCounted rest (wanted - token.count)
    else token.takePart wanted

end

/-! ### Substituting words -/

mutual

/-- The token with every word that the table names replaced by an invisible group. -/
def substitute (table : List (Identifier × Tokens)) : Token → Token
  | .word name =>
    match table.lookup name with
    | some content => .group .invisible content
    | none => .word name
  | .group delimiter content => .group delimiter (substituteAll table content)
  | token => token

/-- The run with every word that the table names replaced by an invisible group. -/
def substituteAll (table : List (Identifier × Tokens)) : List Token → List Token
  | [] => []
  | token :: rest => token.substitute table :: substituteAll table rest

end

end Token

end Fieldwise
