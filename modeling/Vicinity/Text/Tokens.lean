/-!
# Tokens

A line is split at every single space : two spaces in a row have an empty token between them,
and only the empty tokens at the end are dropped. Text at the level of characters is
`List Char`; `Text.tokens` is the split of a `String`.
-/

namespace Vicinity

namespace Text

/-- Put a character before pieces : a separator begins a new one. -/
def consPiece (separator c : Char) (pieces : List (List Char)) : List (List Char) :=
  if c = separator then [] :: pieces
  else
    match pieces with
    | [] => [[c]]
    | piece :: pieces => (c :: piece) :: pieces

/-- The pieces between the separators, one more than there are separators. -/
def splitAt (separator : Char) (chars : List Char) : List (List Char) :=
  chars.foldr (consPiece separator) [[]]

/-- The list without the items at its end that satisfy `p`. -/
def dropEnd {α : Type} (p : α → Bool) (items : List α) : List α :=
  (items.reverse.dropWhile p).reverse

/-- The tokens of a line, as characters. -/
def tokenChars (line : List Char) : List (List Char) :=
  dropEnd List.isEmpty (splitAt ' ' line)

/-- The tokens of a line. -/
def tokens (line : String) : List String := (tokenChars line.toList).map String.ofList

/-- The line without the line feeds and carriage returns at its end. -/
def withoutLineEnd (line : String) : String :=
  String.ofList (dropEnd (fun c => c = '\n' || c = '\r') line.toList)

end Text

end Vicinity
