/-!
# Splitting and joining

`splitOn` cuts a text at every occurrence of a character, `joinWith` puts pieces together again with
a separator between neighbours, and `lines` cuts a text into its lines.
-/

namespace Faceting.Text

/-- The pieces between the occurrences of a separator, in order; there is always at least one. -/
def splitOn (sep : Char) : List Char → List (List Char)
  | [] => [[]]
  | c :: rest =>
    if c = sep then [] :: splitOn sep rest
    else
      match splitOn sep rest with
      | [] => [[c]]
      | piece :: pieces => (c :: piece) :: pieces

/-- The pieces one after the other, with the separator between neighbours. -/
def joinWith (sep : String) : List String → String
  | [] => ""
  | [piece] => piece
  | piece :: next :: rest => piece ++ sep ++ joinWith sep (next :: rest)

/-- The lines of a text. A line ends at a line feed, and one carriage return before the line feed
belongs to the ending; what follows the last line feed is a line only if it is not empty. -/
def splitLines : List Char → List (List Char)
  | [] => []
  | '\n' :: rest => [] :: splitLines rest
  | '\r' :: '\n' :: rest => [] :: splitLines rest
  | c :: rest =>
    match splitLines rest with
    | [] => [[c]]
    | line :: more => (c :: line) :: more

/-- The lines of a text, without their endings. -/
def lines (text : String) : List String :=
  (splitLines text.toList).map String.ofList

end Faceting.Text
