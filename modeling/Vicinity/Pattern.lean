import Vicinity.Pattern.CharSet

/-!
# Patterns of texts

A `Pattern` describes texts by their characters, one after the other, with choices and
repetitions, and with conditions on the places between them. It is matched on places : what it
reaches from some places of a text are the places behind the parts that begin at one of them and
that it describes (`Pattern.reach`). A text matches if any part of it does (`Pattern.isMatch`).
-/

namespace Vicinity

/-- A condition on a place in a text. -/
inductive Anchor where
  | textStart
  | textEnd
  | lineStart
  | lineEnd
  /-- One of the characters around belongs to a word, the other one does not. -/
  | wordBoundary
  | noWordBoundary
  | wordStart
  | wordEnd
  /-- The character before belongs to no word. -/
  | wordStartHalf
  /-- The character behind belongs to no word. -/
  | wordEndHalf
deriving DecidableEq

/-- What a text can look like. -/
inductive Pattern where
  | empty
  | char (s : CharSet)
  | anchor (a : Anchor)
  | both (p q : Pattern)
  | either (p q : Pattern)
  /-- A pattern at least and at most so many times in a row. -/
  | repeated (p : Pattern) (least : Nat) (most : Option Nat)
deriving DecidableEq

/-- Whether a character is there and belongs to a word. -/
def Anchor.isInWord (c : Option Char) : Bool := (c.map Text.isWordChar).getD false

/-- Whether a condition holds between two characters, which are missing at the ends of a text. -/
def Anchor.holds (before behind : Option Char) : Anchor → Bool
  | textStart => before.isNone
  | textEnd => behind.isNone
  | lineStart => before.isNone || before = some '\n'
  | lineEnd => behind.isNone || behind = some '\n'
  | wordBoundary => isInWord before != isInWord behind
  | noWordBoundary => isInWord before == isInWord behind
  | wordStart => !isInWord before && isInWord behind
  | wordEnd => isInWord before && !isInWord behind
  | wordStartHalf => !isInWord before
  | wordEndHalf => !isInWord behind

namespace Pattern

/-- The character before a place. -/
def charBefore? (text : List Char) : Nat → Option Char
  | 0 => none
  | i + 1 => text[i]?

/-- The places that a pattern reaches from some places of a text. A round of a repetition leads on
or leaves a place where it is, so that after as many rounds as the text has places further ones
change nothing. -/
def reach (text : List Char) : Pattern → List Nat → List Nat
  | empty, places => places
  | char s, places =>
    (places.filter fun i => (text[i]?.map s.contains).getD false).map (· + 1)
  | anchor a, places => places.filter fun i => a.holds (charBefore? text i) text[i]?
  | both p q, places => reach text q (reach text p places)
  | either p q, places => (reach text p places ++ reach text q places).eraseDups
  | repeated p least most, places =>
    let rounds := text.length + 1
    let optional := match most with
      | some m => min (m - least) rounds
      | none => rounds
    Nat.repeat (fun places => (places ++ reach text p places).eraseDups) optional
      (Nat.repeat (reach text p) (min least rounds) places)

/-- Whether any part of a text is one that a pattern describes. -/
def isMatch (p : Pattern) (text : String) : Bool :=
  let chars := text.toList
  !(p.reach chars (List.range (chars.length + 1))).isEmpty

/-- The number of places that a pattern takes up if its repetitions are written out. -/
def size : Pattern → Nat
  | empty => 0
  | char _ | anchor _ => 1
  | both p q | either p q => size p + size q
  | repeated p least most => size p * max 1 (most.getD least)

/-- Patterns in a row. -/
def ofRow (patterns : List Pattern) : Pattern := patterns.foldr both empty

end Pattern

end Vicinity
