import Vicinity.Binary64.Text
import Vicinity.Value
import Vicinity.Text.Hexadecimal

/-!
# Writing JSON

`Json.indented` writes a value over several lines, each level indented by two spaces, with
`": "` after a key; empty arrays and objects stay on their line. `Json.compact` writes it on one
line. In both, texts are printable ASCII : quotes and backslashes are escaped, controls and
every character beyond the tilde are one `\uXXXX` per UTF-16 unit, except that five controls
have a letter of their own. Tuples are written as lists.
-/

namespace Vicinity

namespace Json

/-! ## Texts -/

/-- One UTF-16 unit as an escape. -/
def unitEscape (n : Nat) : List Char := '\\' :: 'u' :: Text.hexadecimal 4 n

/-- A character inside a JSON string. -/
def escaped (c : Char) : List Char :=
  if c = '"' then ['\\', '"']
  else if c = '\\' then ['\\', '\\']
  else if c = '\n' then ['\\', 'n']
  else if c = '\r' then ['\\', 'r']
  else if c = '\t' then ['\\', 't']
  else if c = '\x08' then ['\\', 'b']
  else if c = '\x0c' then ['\\', 'f']
  else if c < ' ' then unitEscape c.toNat
  else if c ≤ '~' then [c]
  else if c.toNat < 0x10000 then unitEscape c.toNat
  else
    let n := c.toNat - 0x10000
    unitEscape (0xd800 + n / 0x400) ++ unitEscape (0xdc00 + n % 0x400)

/-- A text as a JSON string. -/
def string (s : String) : List Char :=
  '"' :: (s.toList.flatMap escaped ++ ['"'])

/-- The values that hold no other values. -/
def scalar : Value → List Char
  | .null | .tuple _ | .list _ | .dict _ => ['n', 'u', 'l', 'l']
  | .bool true => ['t', 'r', 'u', 'e']
  | .bool false => ['f', 'a', 'l', 's', 'e']
  | .int n => (toString n).toList
  | .float x => x.toText "Infinity".toList "NaN".toList
  | .text s => string s

/-! ## Layout -/

/-- A new line at a level. -/
def newline (level : Nat) : List Char := '\n' :: List.replicate (2 * level) ' '

mutual

/-- A value that starts on a line of the given level. -/
def indentedAt (level : Nat) : Value → List Char
  | .tuple [] | .list [] => ['[', ']']
  | .tuple (v :: rest) | .list (v :: rest) =>
    '[' :: (newline (level + 1) ++ indentedAt (level + 1) v ++ indentedItems (level + 1) rest ++
      newline level ++ [']'])
  | .dict [] => ['\x7b', '\x7d']
  | .dict ((k, v) :: rest) =>
    '\x7b' :: (newline (level + 1) ++ string k ++ [':', ' '] ++ indentedAt (level + 1) v ++
      indentedEntries (level + 1) rest ++ newline level ++ ['\x7d'])
  | .null => scalar .null
  | .bool b => scalar (.bool b)
  | .int n => scalar (.int n)
  | .float x => scalar (.float x)
  | .text s => scalar (.text s)

/-- The items after the first. -/
def indentedItems (level : Nat) : List Value → List Char
  | [] => []
  | v :: rest => ',' :: (newline level ++ indentedAt level v ++ indentedItems level rest)

/-- The entries after the first. -/
def indentedEntries (level : Nat) : List (String × Value) → List Char
  | [] => []
  | (k, v) :: rest =>
    ',' :: (newline level ++ string k ++ [':', ' '] ++ indentedAt level v ++
      indentedEntries level rest)

end

/-- A value over several lines, without a final line end. -/
def indented (v : Value) : String := String.ofList (indentedAt 0 v)

mutual

/-- A value on one line. -/
def compactChars : Value → List Char
  | .tuple [] | .list [] => ['[', ']']
  | .tuple (v :: rest) | .list (v :: rest) => '[' :: (compactChars v ++ compactItems rest ++ [']'])
  | .dict [] => ['\x7b', '\x7d']
  | .dict ((k, v) :: rest) =>
    '\x7b' :: (string k ++ ':' :: compactChars v ++ compactEntries rest ++ ['\x7d'])
  | .null => scalar .null
  | .bool b => scalar (.bool b)
  | .int n => scalar (.int n)
  | .float x => scalar (.float x)
  | .text s => scalar (.text s)

/-- The items after the first. -/
def compactItems : List Value → List Char
  | [] => []
  | v :: rest => ',' :: (compactChars v ++ compactItems rest)

/-- The entries after the first. -/
def compactEntries : List (String × Value) → List Char
  | [] => []
  | (k, v) :: rest => ',' :: (string k ++ ':' :: compactChars v ++ compactEntries rest)

end

/-- A value on one line. -/
def compact (v : Value) : String := String.ofList (compactChars v)

end Json

end Vicinity
