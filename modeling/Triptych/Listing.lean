import Triptych.Session
import Triptych.Text.Lines

/-!
# The listing of a text

One line for each line of a text: its number, the segment it belongs to, the line
itself, and the classes of its tokens.  The text need NOT be a block.  The lines are
read as an editor would, one after the other in a session.
-/

namespace Triptych.Listing

/-- A text with blanks in front, as far as it is shorter than `width`. -/
def padLeft (width : Nat) (text : List Char) : List Char :=
  List.replicate (width - text.length) ' ' ++ text

/-- A text with blanks behind, as far as it is shorter than `width`. -/
def padRight (width : Nat) (text : List Char) : List Char :=
  text ++ List.replicate (width - text.length) ' '

/-- Write names with a blank between them. -/
def spaced : List (List Char) → List Char
  | [] => []
  | [name] => name
  | name :: others => name ++ ' ' :: spaced others

/-- The line of the listing for one line of the text. -/
def entry (number : Nat) (segment : Option Segment) (line : List Char) (spans : List Span) :
    List Char :=
  let label := (segment.map Segment.label).getD "?"
  padLeft 4 (Nat.toDigits 10 number) ++ ' ' :: padRight 4 label.toList ++ ' ' :: line ++
    "  [".toList ++ spaced (spans.map fun span => span.kind.styleSheetName.toList) ++ "]\n".toList

variable {μ σ κ : Type}

/-- The lines of the listing from a line on, with the session that knows the lines
before it. -/
def entriesFrom (lines : List (List Char)) (session : Session μ σ κ) (index : Nat) :
    List (List Char) → List Char
  | [] => []
  | line :: rest =>
      let (spans, session) := session.highlight lines index
      entry (index + 1) (session.segmentAt? index) line spans ++
        entriesFrom lines session (index + 1) rest

/-- The listing of a text. -/
def write (tokenizer : Tokenizer μ σ κ) (text : List Char) : List Char :=
  let lines := Text.lines text
  entriesFrom lines (.start tokenizer) 0 lines

end Triptych.Listing
