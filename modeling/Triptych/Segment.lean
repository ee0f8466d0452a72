import Triptych.Color

/-!
# Segments

A block has up to three segments, always in the order markup, style, script.  The
order is also the only direction in which a reader of a block moves.
-/

namespace Triptych

/-- The three kinds of segments. -/
inductive Segment where
  | markup
  | style
  | script
  deriving DecidableEq, Repr

namespace Segment

/-- The segments in the order in which they stand in a block. -/
def all : List Segment := [.markup, .style, .script]

/-- The place of a segment in a block. -/
def index : Segment → Nat
  | .markup => 0
  | .style => 1
  | .script => 2

/-- The segment that follows; none after the script. -/
def next? : Segment → Option Segment
  | .markup => some .style
  | .style => some .script
  | .script => none

/-- The segment after one sentinel more.  The script is never left. -/
def advance (kind : Segment) : Segment := kind.next?.getD kind

/-- Which of two segments stands first in a block. -/
def compare (a b : Segment) : Ordering := Ord.compare a.index b.index

/-- What the badge over a segment says. -/
def label : Segment → String
  | .markup => "HTML"
  | .style => "CSS"
  | .script => "JS"

/-- The colour of the badge over a segment. -/
def badgeColor : Segment → Color
  | .markup => .rgb 0xe3 0x4c 0x26
  | .style => .rgb 0x29 0x65 0xf1
  | .script => .rgb 0xf0 0xdb 0x4f

end Segment

end Triptych
