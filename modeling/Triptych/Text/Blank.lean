/-!
# Blank characters

A character is blank when it has the Unicode property `White_Space`.  Trimming
takes blanks from the two ends of a text and touches nothing between them.
-/

namespace Triptych.Text

/-- The twenty-five characters with the property `White_Space`. -/
def isBlank (c : Char) : Bool :=
  let n := c.toNat
  (9 ≤ n && n ≤ 13) || n == 0x20 || n == 0x85 || n == 0xA0 || n == 0x1680 ||
    (0x2000 ≤ n && n ≤ 0x200A) || n == 0x2028 || n == 0x2029 || n == 0x202F ||
    n == 0x205F || n == 0x3000

/-- Take away the blanks in front. -/
def trimStart (s : List Char) : List Char := s.dropWhile isBlank

/-- Take away the blanks at the end. -/
def trimEnd (s : List Char) : List Char := (s.reverse.dropWhile isBlank).reverse

/-- Take away the blanks at both ends. -/
def trim (s : List Char) : List Char := trimEnd (trimStart s)

end Triptych.Text
