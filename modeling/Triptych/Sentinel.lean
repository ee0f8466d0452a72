import Triptych.Text.Blank

/-!
# The sentinel

A line that holds the sentinel, and nothing else but blanks, ends a segment.  What
the line stands in makes NO difference: a sentinel inside an open comment ends the
segment too.
-/

namespace Triptych

/-- The text that ends a segment. -/
def sentinel : List Char := "---*---".toList

/-- A line holds the sentinel and nothing else. -/
def isSentinel (line : List Char) : Bool := Text.trim line == sentinel

end Triptych
