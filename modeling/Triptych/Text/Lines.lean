/-!
# Lines

There are two ways of cutting a text into lines.  `pieces` cuts at every line
feed and nothing else, so joining the pieces gives the text back.  `lines` takes
a line feed as the end of a line: a carriage return before it goes with it, and
there is NO empty line after a final line feed.
-/

namespace Triptych.Text

/-- Put a character in front of the first piece. -/
def consFirst (c : Char) : List (List Char) → List (List Char)
  | [] => [[c]]
  | first :: others => (c :: first) :: others

/-- Cut a text at every line feed.  There is always at least one piece. -/
def pieces : List Char → List (List Char)
  | [] => [[]]
  | c :: rest => if c = '\n' then [] :: pieces rest else consFirst c (pieces rest)

/-- Put line feeds between the pieces. -/
def joinLines : List (List Char) → List Char
  | [] => []
  | [piece] => piece
  | piece :: others => piece ++ '\n' :: joinLines others

/-- Take one carriage return away from the end of a line. -/
def dropReturn (line : List Char) : List Char :=
  if line.getLast? = some '\r' then line.dropLast else line

/-- The lines among pieces: all but the last ended with a line feed, and the last
is a line only if there is something in it. -/
def linesOfPieces : List (List Char) → List (List Char)
  | [] => []
  | [last] => if last.isEmpty then [] else [last]
  | piece :: others => dropReturn piece :: linesOfPieces others

/-- The lines of a text, without their line ends. -/
def lines (s : List Char) : List (List Char) := linesOfPieces (pieces s)

end Triptych.Text
