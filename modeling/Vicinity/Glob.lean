import Vicinity.Text.Tokens

/-!
# Path patterns

In a path pattern a question mark stands for any character of a name, an asterisk for any
characters, and brackets for one of the characters between them, or for none of them after an
exclamation mark. Two asterisks in the place of a name stand for any number of directories
(`Glob.Step`). Everything else stands for itself, case included, and a full stop at the beginning
of a name is a character like any other.

`Glob.parse?` reads a pattern and refuses brackets that are not closed and asterisks in a row
next to other characters.
-/

namespace Vicinity

namespace Glob

/-- What a part of a name must be. -/
inductive Token where
  | char (c : Char)
  | anyChar
  /-- Any number of characters. -/
  | anyChars
  /-- A character in one of some ranges, or in none of them if `outside` is set. -/
  | set (outside : Bool) (ranges : List (Char × Char))
deriving DecidableEq

/-- What a part of a path must be. -/
inductive Step where
  | name (tokens : List Token)
  /-- Any number of directories. -/
  | directories
deriving DecidableEq

/-! ## Reading patterns -/

/-- The characters that make a pattern of a path. -/
def isSpecial (c : Char) : Bool := c = '*' || c = '?' || c = '['

/-- The ranges between brackets : a hyphen with a character on either side stands for all between
them. -/
def ranges : List Char → List (Char × Char)
  | [] => []
  | a :: '-' :: b :: rest => (a, b) :: ranges rest
  | a :: rest => (a, a) :: ranges rest

/-- The token of a bracket that has been opened, and what follows it. The first character between
brackets does not close them. -/
def parseSet (chars : List Char) : Option (Token × List Char) :=
  let (outside, chars) := match chars with
    | '!' :: rest => (true, rest)
    | chars => (false, chars)
  match chars with
  | [] => none
  | first :: rest =>
    if ']' ∈ rest then
      some (.set outside (ranges (first :: rest.takeWhile (· ≠ ']'))),
        (rest.dropWhile (· ≠ ']')).drop 1)
    else none

/-- The tokens of a name. Every token takes at least one character, so that `todo`, which is at
least their number, never runs out. -/
def parseTokens : (todo : Nat) → List Char → Option (List Token)
  | 0, _ => some []
  | _ + 1, [] => some []
  | _ + 1, '*' :: '*' :: _ => none
  | todo + 1, '*' :: rest => (parseTokens todo rest).map (.anyChars :: ·)
  | todo + 1, '?' :: rest => (parseTokens todo rest).map (.anyChar :: ·)
  | todo + 1, '[' :: rest => do
    let (token, rest) ← parseSet rest
    return token :: (← parseTokens todo rest)
  | todo + 1, c :: rest => (parseTokens todo rest).map (.char c :: ·)

/-- The step of a part of a pattern. -/
def parseStep (chars : List Char) : Option Step :=
  if chars = ['*', '*'] then some .directories
  else (parseTokens chars.length chars).map .name

/-- The steps of the parts of a pattern. -/
def parse? (parts : List String) : Option (List Step) :=
  parts.mapM fun part => parseStep part.toList

/-! ## Matching -/

/-- The list and all that is left of it after some items have been taken off. -/
def suffixes {α : Type} : List α → List (List α)
  | [] => [[]]
  | a :: rest => (a :: rest) :: suffixes rest

/-- Whether a character is in one of some ranges. -/
def inRanges (ranges : List (Char × Char)) (c : Char) : Bool :=
  ranges.any fun r => r.1 ≤ c && c ≤ r.2

/-- Whether tokens stand for the characters of a name. -/
def matchesName : List Token → List Char → Bool
  | [], chars => chars.isEmpty
  | .anyChars :: tokens, chars => (suffixes chars).any (matchesName tokens)
  | .anyChar :: tokens, _ :: chars => matchesName tokens chars
  | .char c :: tokens, d :: chars => c = d && matchesName tokens chars
  | .set outside ranges :: tokens, d :: chars =>
    inRanges ranges d != outside && matchesName tokens chars
  | _ :: _, [] => false

/-- Whether steps stand for the names that lead to a file. Steps that end with directories stand
for no file. -/
def matchesFile : List Step → List String → Bool
  | [], names => names.isEmpty
  | [.directories], _ => false
  | .directories :: steps, names => (suffixes names).any (matchesFile steps)
  | .name tokens :: steps, name :: names =>
    matchesName tokens name.toList && matchesFile steps names
  | .name _ :: _, [] => false

end Glob

end Vicinity
