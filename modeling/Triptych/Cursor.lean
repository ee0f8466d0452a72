import Triptych.Text.Offset

/-!
# Cursors

A cursor walks along one line.  It knows its own position and where the token
began that is being read, both in bytes.  No operation moves it back, and every
position it can reach from the start of a line is a boundary.
-/

namespace Triptych

open Text

/-- A position in a line, and the start of the token that is being read. -/
structure Cursor where
  line : List Char
  start : Nat
  pos : Nat
  deriving DecidableEq, Repr

namespace Cursor

/-- The cursor at the start of a line. -/
def ofLine (line : List Char) : Cursor := ⟨line, 0, 0⟩

/-- Nothing of the line is left. -/
def atEnd (cursor : Cursor) : Bool := byteSize cursor.line ≤ cursor.pos

/-- How many bytes of the line are left. -/
def left (cursor : Cursor) : Nat := byteSize cursor.line - cursor.pos

/-- The text after the cursor. -/
def rest (cursor : Cursor) : List Char := (from? cursor.line cursor.pos).getD []

/-- The text of the token that is being read. -/
def current (cursor : Cursor) : List Char :=
  (between? cursor.line cursor.start cursor.pos).getD []

/-- Begin a token here. -/
def beginToken (cursor : Cursor) : Cursor := { cursor with start := cursor.pos }

/-- The next character. -/
def peek? (cursor : Cursor) : Option Char := cursor.rest.head?

/-- Take the next character, if there is one. -/
def nextChar (cursor : Cursor) : Option Char × Cursor :=
  match cursor.peek? with
  | some c => (some c, { cursor with pos := cursor.pos + c.utf8Size })
  | none => (none, cursor)

/-- Move on to a position.  One before the cursor leaves it where it is, one past
the line means the end, and one inside a character means the end of that character. -/
def advanceTo (cursor : Cursor) (target : Nat) : Cursor :=
  { cursor with
    pos := roundUp cursor.line (max cursor.pos (min target (byteSize cursor.line))) }

/-- Move to the end of the line. -/
def skipToEnd (cursor : Cursor) : Cursor := { cursor with pos := byteSize cursor.line }

/-- Nothing has been read of the token, and there is something to read. -/
def isStalled (cursor : Cursor) : Bool := cursor.pos == cursor.start && !cursor.atEnd

/-- Take one character if the cursor is stalled. -/
def bumpIfStalled (cursor : Cursor) : Cursor :=
  if cursor.isStalled then cursor.nextChar.2 else cursor

end Cursor

end Triptych
