import Vicinity.Value
import Vicinity.Text.Hexadecimal

/-!
# Reading JSON

`Json.read` reads a text that is one JSON value and nothing else but blanks (space, tab, line
feed, carriage return). Numbers without fraction and exponent are whole numbers, all others are
rounded to floating-point numbers; `NaN`, `Infinity` and `-Infinity` are numbers as well. Strings
hold no raw control characters. Of a key that is repeated in an object, the first position and
the last value stand. Whole numbers have at most `Value.maxDigits` digits, and values are nested
at most `maxDepth` deep; of several faults the first one in the text counts (`Json.Fault`).

Each reader takes the characters that are left and returns what it read with the rest. The
readers of values count down from the number of characters, since every step into a value takes
at least one of them.
-/

namespace Vicinity

namespace Json

/-- Why a text is not read. -/
inductive Fault where
  /-- The text is not JSON. -/
  | malformed
  /-- A whole number has too many digits. -/
  | longInteger
  /-- Arrays and objects are nested too deeply. -/
  | tooDeep
deriving DecidableEq

/-- The greatest number of arrays and objects within each other. -/
def maxDepth : Nat := 988

/-- What is not there is malformed. -/
def orMalformed {α : Type} : Option α → Except Fault α
  | some a => .ok a
  | none => .error .malformed

/-! ## Blanks and strings -/

/-- The blanks between the parts of a text. -/
def isBlank (c : Char) : Bool := c = ' ' || c = '\t' || c = '\n' || c = '\r'

def skipBlanks (cs : List Char) : List Char := cs.dropWhile isBlank

/-- The character of a UTF-16 unit that is not the first of a pair; a unit that belongs to a
pair but stands alone is the replacement character. -/
def unitChar (n : Nat) : Char :=
  if 0xd800 ≤ n ∧ n < 0xe000 then '\ufffd' else Char.ofNat n

/-- The character of a high and a low unit, if the units are such. -/
def pairChar? (hi lo : Nat) : Option Char :=
  if 0xd800 ≤ hi ∧ hi < 0xdc00 ∧ 0xdc00 ≤ lo ∧ lo < 0xe000 then
    some (Char.ofNat (0x10000 + (hi - 0xd800) * 0x400 + (lo - 0xdc00)))
  else none

/-- The character that a letter after a backslash stands for. -/
def escapeChar? (c : Char) : Option Char :=
  if c = '"' ∨ c = '\\' ∨ c = '/' then some c
  else if c = 'b' then some '\x08'
  else if c = 'f' then some '\x0c'
  else if c = 'n' then some '\n'
  else if c = 'r' then some '\r'
  else if c = 't' then some '\t'
  else none

/-- A part of a string : a character, or a UTF-16 unit that is escaped by its number. -/
inductive Part where
  | char (c : Char)
  | unit (n : Nat)

/-- The characters of the parts : units that form a pair are one character. -/
def joinParts : List Part → List Char
  | [] => []
  | .char c :: rest => c :: joinParts rest
  | .unit hi :: .unit lo :: rest =>
    match pairChar? hi lo with
    | some c => c :: joinParts rest
    | none => unitChar hi :: joinParts (.unit lo :: rest)
  | .unit n :: rest => unitChar n :: joinParts rest

/-- The parts of a string up to its closing quote, which is taken too. -/
def readParts : List Char → Option (List Part × List Char)
  | [] => none
  | '"' :: rest => some ([], rest)
  | '\\' :: 'u' :: a :: b :: c :: d :: rest => do
    let n ← Text.ofHexadecimal? [a, b, c, d]
    let (parts, rest) ← readParts rest
    return (.unit n :: parts, rest)
  | '\\' :: c :: rest => do
    let c ← escapeChar? c
    let (parts, rest) ← readParts rest
    return (.char c :: parts, rest)
  | c :: rest =>
    if c < ' ' ∨ c = '\\' then none
    else do
      let (parts, rest) ← readParts rest
      return (.char c :: parts, rest)

/-- The text of a string whose opening quote has been taken. -/
def readString (cs : List Char) : Option (String × List Char) :=
  (readParts cs).map fun (parts, rest) => (String.ofList (joinParts parts), rest)

/-! ## Numbers -/

/-- The number that decimal digits write. -/
def digitsValue (digits : List Char) : Nat :=
  digits.foldl (fun n c => 10 * n + (c.toNat - '0'.toNat)) 0

/-- The digits before the point : a zero alone, or digits that do not start with zero. -/
def readWhole : List Char → Option (List Char × List Char)
  | '0' :: rest => some (['0'], rest)
  | c :: rest =>
    if c.isDigit then some (c :: rest.takeWhile Char.isDigit, rest.dropWhile Char.isDigit)
    else none
  | [] => none

/-- The digits after a point, if a point with digits follows. -/
def readFraction (cs : List Char) : Option (List Char × List Char) :=
  match cs with
  | '.' :: rest =>
    let digits := rest.takeWhile Char.isDigit
    if digits.isEmpty then none else some (digits, rest.dropWhile Char.isDigit)
  | _ => none

/-- The exponent, if one with digits follows. -/
def readExponent (cs : List Char) : Option (Int × List Char) :=
  match cs with
  | e :: rest =>
    if e = 'e' ∨ e = 'E' then
      let (negative, rest) := match rest with
        | '-' :: r => (true, r)
        | '+' :: r => (false, r)
        | r => (false, r)
      let digits := rest.takeWhile Char.isDigit
      if digits.isEmpty then none
      else
        let n : Int := digitsValue digits
        some (if negative then -n else n, rest.dropWhile Char.isDigit)
    else none
  | [] => none

/-- A number. A point or an exponent that is not followed by a digit is left to the rest. -/
def readNumber (cs : List Char) : Except Fault (Value × List Char) :=
  let (negative, cs) := match cs with
    | '-' :: r => (true, r)
    | r => (false, r)
  match readWhole cs with
  | none => .error .malformed
  | some (whole, rest) =>
    match readFraction rest, readExponent rest with
    | none, none =>
      if Value.maxDigits < whole.length then .error .longInteger
      else
        let n : Int := digitsValue whole
        .ok (.int (if negative then -n else n), rest)
    | none, some (e, rest) =>
      .ok (.float (Binary64.ofScientific negative (digitsValue whole) e), rest)
    | some (fraction, rest), _ =>
      let (e, rest) := (readExponent rest).getD (0, rest)
      .ok (.float (Binary64.ofScientific negative (digitsValue (whole ++ fraction))
        (e - fraction.length)), rest)

/-! ## Values -/

/-- What is left after a word. -/
def afterWord? : List Char → List Char → Option (List Char)
  | [], rest => some rest
  | w :: ws, c :: cs => if w = c then afterWord? ws cs else none
  | _ :: _, [] => none

/-- The words that are values. -/
def words : List (List Char × Value) :=
  [("null".toList, .null), ("true".toList, .bool true), ("false".toList, .bool false),
    ("NaN".toList, .float .nan), ("Infinity".toList, .float (.infinite false)),
    ("-Infinity".toList, .float (.infinite true))]

/-- One of the words, or a number. -/
def readScalar (cs : List Char) : Except Fault (Value × List Char) :=
  match words.findSome? fun w => (afterWord? w.1 cs).map fun rest => (w.2, rest) with
  | some read => .ok read
  | none => readNumber cs

mutual

/-- A value that starts at the first character and holds at most `depth` levels. -/
def readValue : (todo depth : Nat) → List Char → Except Fault (Value × List Char)
  | 0, _, _ => .error .malformed
  | todo + 1, depth, cs =>
    match cs with
    | '"' :: rest => (orMalformed (readString rest)).map fun (s, rest) => (.text s, rest)
    | '[' :: rest =>
      match depth, skipBlanks rest with
      | 0, _ => .error .tooDeep
      | _ + 1, ']' :: rest => .ok (.list [], rest)
      | depth + 1, rest => (readItems todo depth rest).map fun (vs, rest) => (.list vs, rest)
    | '\x7b' :: rest =>
      match depth, skipBlanks rest with
      | 0, _ => .error .tooDeep
      | _ + 1, '\x7d' :: rest => .ok (.dict [], rest)
      | depth + 1, rest => (readMembers todo depth [] rest).map fun (es, rest) => (.dict es, rest)
    | cs => readScalar cs

/-- The items of an array up to its closing bracket. -/
def readItems : (todo depth : Nat) → List Char → Except Fault (List Value × List Char)
  | 0, _, _ => .error .malformed
  | todo + 1, depth, cs =>
    match readValue todo depth cs with
    | .error f => .error f
    | .ok (v, rest) =>
      match skipBlanks rest with
      | ',' :: rest =>
        (readItems todo depth (skipBlanks rest)).map fun (vs, rest) => (v :: vs, rest)
      | ']' :: rest => .ok ([v], rest)
      | _ => .error .malformed

/-- The members of an object up to its closing brace, added to those before. -/
def readMembers : (todo depth : Nat) → List (String × Value) → List Char →
    Except Fault (List (String × Value) × List Char)
  | 0, _, _, _ => .error .malformed
  | todo + 1, depth, done, cs =>
    match cs with
    | '"' :: rest =>
      match readString rest with
      | none => .error .malformed
      | some (key, rest) =>
        match skipBlanks rest with
        | ':' :: rest =>
          match readValue todo depth (skipBlanks rest) with
          | .error f => .error f
          | .ok (v, rest) =>
            let done := Value.setEntry key v done
            match skipBlanks rest with
            | ',' :: rest => readMembers todo depth done (skipBlanks rest)
            | '\x7d' :: rest => .ok (done, rest)
            | _ => .error .malformed
        | _ => .error .malformed
    | _ => .error .malformed

end

/-- The value of a text that is one JSON value. -/
def read (s : String) : Except Fault Value :=
  let cs := skipBlanks s.toList
  match readValue (cs.length + 1) maxDepth cs with
  | .error f => .error f
  | .ok (v, rest) => if (skipBlanks rest).isEmpty then .ok v else .error .malformed

end Json

end Vicinity
