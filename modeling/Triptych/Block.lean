import Triptych.Regex.Basic
import Triptych.Segment
import Triptych.Sentinel

/-!
# Blocks

A block is cut at the lines that hold the sentinel.  The cut is made by an
expression over the whole text: it takes the blanks on both sides of the sentinel,
line feeds among them, so that one cut may take several blank lines.

This is the only place where the number of segments is checked.  The pieces are
counted BEFORE the markup is looked at.
-/

namespace Triptych

/-- Why a text is no block. -/
inductive BlockError where
  | tooManySegments (extra : Nat)
  | missingMarkup
  deriving DecidableEq, Repr

/-- What is said to the user about a text that is no block. -/
def BlockError.message : BlockError → String
  | .tooManySegments _ => "more than 3 segments present"
  | .missingMarkup => "first segment (markup) is empty"

/-- The texts of the three segments.  A segment that is missing is empty. -/
structure Block where
  markup : List Char
  style : List Char
  script : List Char
  deriving DecidableEq, Repr

namespace Regex

/-- The expression that matches one text. -/
def literal : List Char → Regex
  | [] => .empty
  | c :: rest => .seq (.char (.oneOf [c])) (literal rest)

/-- The pieces of the text from a place on, cut at the matches of an expression.  The
search goes on where a match ends, and it stops at a match that takes nothing. -/
def pieces (r : Regex) (p : Place) : List (List Char) :=
  match r.find? p with
  | some (start, stop) =>
      if stop.left < p.left then p.after.take (p.left - start.left) :: pieces r stop
      else [p.after]
  | none => [p.after]
termination_by p.left

end Regex

namespace Block

/-- Any number of blanks. -/
def blanks : Regex := .star true (.char .blank)

/-- The sentinel between blanks, from the start of a line to the end of a line. -/
def sentinelLine : Regex :=
  .seq (.anchor .lineStart)
    (.seq blanks (.seq (.literal sentinel) (.seq blanks (.anchor .lineEnd))))

/-- The block that trimmed pieces make. -/
def ofPieces : List (List Char) → Except BlockError Block
  | [markup, style, script] => check ⟨markup, style, script⟩
  | [markup, style] => check ⟨markup, style, []⟩
  | [markup] => check ⟨markup, [], []⟩
  | [] => .error .missingMarkup
  | pieces => .error (.tooManySegments (pieces.length - 3))
where
  /-- A block must have markup. -/
  check (block : Block) : Except BlockError Block :=
    if block.markup.isEmpty then .error .missingMarkup else .ok block

/-- Cut a text into the segments of a block. -/
def split (raw : List Char) : Except BlockError Block :=
  ofPieces ((sentinelLine.pieces (.start raw)).map Text.trim)

/-- The text of a segment. -/
def get (block : Block) : Segment → List Char
  | .markup => block.markup
  | .style => block.style
  | .script => block.script

/-- The segments that hold something, in their order. -/
def nonEmpty (block : Block) : List (Segment × List Char) :=
  (Segment.all.map fun kind => (kind, block.get kind)).filter fun (_, text) => !text.isEmpty

end Block

end Triptych
