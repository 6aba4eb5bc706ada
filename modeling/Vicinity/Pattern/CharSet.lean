import Vicinity.Text.Case
import Vicinity.Text.Word

/-!
# Sets of characters

A `CharSet` is built of ranges and classes of characters by the operations on sets.
`CharSet.contains` decides what belongs to it.
-/

namespace Vicinity

/-- A set of characters. -/
inductive CharSet where
  | empty
  /-- The characters from one up to another. -/
  | range (first last : Char)
  | digit
  | blank
  | letter
  /-- The letters that have a small form. -/
  | capital
  /-- The letters that have a capital form. -/
  | small
  | mark
  /-- The characters that words are made of. -/
  | word
  | union (s t : CharSet)
  | intersection (s t : CharSet)
  | complement (s : CharSet)
  /-- All characters that differ at most in case from those of a set. -/
  | anyCase (s : CharSet)
deriving DecidableEq

namespace CharSet

/-- The ranges of code points of blanks, in ascending order. -/
def blankRanges : Array (Nat × Nat) := #[
  (0x9, 0xd), (0x20, 0x20), (0x85, 0x85), (0xa0, 0xa0), (0x1680, 0x1680), (0x2000, 0x200a),
  (0x2028, 0x2029), (0x202f, 0x202f), (0x205f, 0x205f), (0x3000, 0x3000)]

/-- Whether a character is a blank. -/
def isBlank (c : Char) : Bool := Text.isInRanges blankRanges c

/-- Whether a character is a letter that another form stands for. -/
def isCapital (c : Char) : Bool := Text.isLetter c && Text.folded c != c

/-- Whether a character is a letter that stands for other forms. -/
def isSmall (c : Char) : Bool :=
  Text.isLetter c && Text.folded c == c && (Text.caseVariants c).length != 1

/-- Whether a character belongs to a set. -/
def contains : CharSet → Char → Bool
  | empty, _ => false
  | range first last, c => first ≤ c && c ≤ last
  | digit, c => Text.isDecimalDigit c
  | blank, c => isBlank c
  | letter, c => Text.isLetter c
  | capital, c => isCapital c
  | small, c => isSmall c
  | mark, c => Text.isMark c
  | word, c => Text.isWordChar c
  | union s t, c => contains s c || contains t c
  | intersection s t, c => contains s c && contains t c
  | complement s, c => !contains s c
  | anyCase s, c => (Text.caseVariants c).any (contains s)

/-- The set of one character. -/
def single (c : Char) : CharSet := range c c

/-- The set of all characters. -/
def all : CharSet := complement empty

/-- The characters of a set that do not belong to another one. -/
def difference (s t : CharSet) : CharSet := intersection s (complement t)

/-- The characters that belong to one of two sets only. -/
def symmetricDifference (s t : CharSet) : CharSet := union (difference s t) (difference t s)

/-- The set itself or its complement. -/
def negatedIf (negated : Bool) (s : CharSet) : CharSet := if negated then complement s else s

/-- The set itself, or with all characters that differ from its own in case only. -/
def anyCaseIf (ignoresCase : Bool) (s : CharSet) : CharSet := if ignoresCase then anyCase s else s

/-- The union of ranges. -/
def ofRanges (ranges : List (Char × Char)) : CharSet :=
  ranges.foldl (fun s r => union s (range r.1 r.2)) empty

end CharSet

end Vicinity
