/-!
# Byte offsets

Positions in a text count the bytes of its UTF-8 form.  An offset is a boundary
when it is the size of some prefix.  Offsets inside a character are NOT
boundaries: splitting there gives nothing, and rounding goes up to the next one.
-/

namespace Triptych.Text

/-- The number of bytes of a text in UTF-8. -/
def byteSize : List Char → Nat
  | [] => 0
  | c :: rest => c.utf8Size + byteSize rest

/-- Split a text at a byte offset; nothing if the offset is no boundary. -/
def splitAt? : List Char → Nat → Option (List Char × List Char)
  | s, 0 => some ([], s)
  | [], _ + 1 => none
  | c :: rest, n + 1 =>
      if c.utf8Size ≤ n + 1 then
        (splitAt? rest (n + 1 - c.utf8Size)).map fun (front, back) => (c :: front, back)
      else none

/-- An offset is a boundary when the text can be split there. -/
def isBoundary (s : List Char) (n : Nat) : Bool := (splitAt? s n).isSome

/-- The least boundary that is not before an offset; the end for an offset past it. -/
def roundUp : List Char → Nat → Nat
  | _, 0 => 0
  | [], _ + 1 => 0
  | c :: rest, n + 1 => c.utf8Size + roundUp rest (n + 1 - c.utf8Size)

/-- The text from a boundary to the end. -/
def from? (s : List Char) (start : Nat) : Option (List Char) :=
  (splitAt? s start).map (·.2)

/-- The text between two boundaries. -/
def between? (s : List Char) (start stop : Nat) : Option (List Char) :=
  if start ≤ stop then
    (from? s start).bind fun tail => (splitAt? tail (stop - start)).map (·.1)
  else none

end Triptych.Text
