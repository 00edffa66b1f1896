/-
This file holds sets of code points written as ranges. A set is a text of
hexadecimal ranges separated by blanks, such as `41-5A AA`, which is how the
tables of the Unicode standard print them; it is read once into pairs of bounds.
-/

namespace Fieldwise.Unicode

/-- A set of code points, as inclusive bounds in increasing order. -/
abbrev Ranges := Array (Nat × Nat)

/-- The value of one upper-case hexadecimal digit; other characters count as zero. -/
def hexadecimalDigit (digit : Char) : Nat :=
  if digit.isDigit then digit.toNat - '0'.toNat
  else if 'A' ≤ digit ∧ digit ≤ 'F' then digit.toNat - 'A'.toNat + 10
  else 0

/-- The number a text of hexadecimal digits denotes. -/
def hexadecimal (digits : List Char) : Nat :=
  digits.foldl (fun value digit => value * 16 + hexadecimalDigit digit) 0

/-- One range: `41-5A`, or `AA` for a single code point. -/
def Ranges.readOne (text : String) : Nat × Nat :=
  let characters := text.toList
  let low := characters.takeWhile (· ≠ '-')
  match characters.dropWhile (· ≠ '-') with
  | [] => (hexadecimal low, hexadecimal low)
  | _ :: high => (hexadecimal low, hexadecimal high)

/-- The set that a text of ranges separated by single blanks denotes. -/
def Ranges.read (text : String) : Ranges :=
  (text.splitOn " ").toArray.map Ranges.readOne

/-- Whether some range of the set holds the code point. -/
def Ranges.contains (ranges : Ranges) (code : Nat) : Bool :=
  ranges.any fun (low, high) => low ≤ code && code ≤ high

end Fieldwise.Unicode
