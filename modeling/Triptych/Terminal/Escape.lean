import Triptych.Style

/-!
# Escape sequences

A terminal shows characters, and between them it is told to change how it shows
them.  `Stroke` is either of the two, and `encode` writes strokes as the text that
the terminal reads.  Text goes out as it is: an escape character in it is NOT
taken out.
-/

namespace Triptych

/-- The number of a colour among the sixteen of a terminal. -/
def Color.index? : Color → Option Nat
  | .default => none
  | .black => some 0
  | .red => some 1
  | .green => some 2
  | .yellow => some 3
  | .blue => some 4
  | .magenta => some 5
  | .cyan => some 6
  | .white => some 7
  | .brightBlack => some 8
  | .brightRed => some 9
  | .brightGreen => some 10
  | .brightYellow => some 11
  | .brightBlue => some 12
  | .brightMagenta => some 13
  | .brightCyan => some 14
  | .brightWhite => some 15
  | .rgb _ _ _ => none

namespace Terminal

/-- A change of how characters are shown. -/
inductive Change where
  | foreground (color : Color)
  | background (color : Color)
  | bold
  | italic
  | underline
  | reset
  deriving DecidableEq, Repr

namespace Change

/-- The parameters that choose a colour; `target` is 38 for the foreground and 48 for
the background, and the number after it stands for the default colour. -/
def colorParameters (target : Nat) (color : Color) : List Nat :=
  match color, color.index? with
  | .rgb r g b, _ => [target, 2, r.toNat, g.toNat, b.toNat]
  | _, some index => [target, 5, index]
  | _, none => [target + 1]

/-- The parameters of a change. -/
def parameters : Change → List Nat
  | .foreground color => colorParameters 38 color
  | .background color => colorParameters 48 color
  | .bold => [1]
  | .italic => [3]
  | .underline => [4]
  | .reset => [0]

/-- Write numbers with semicolons between them. -/
def writeParameters : List Nat → List Char
  | [] => []
  | [n] => Nat.toDigits 10 n
  | n :: others => Nat.toDigits 10 n ++ ';' :: writeParameters others

/-- The escape sequence of a change. -/
def encode (change : Change) : List Char :=
  '\x1b' :: '[' :: (writeParameters change.parameters ++ ['m'])

end Change

/-- What is sent to a terminal: text to show, or a change. -/
inductive Stroke where
  | shown (text : List Char)
  | control (change : Change)
  deriving DecidableEq, Repr

/-- The text that a stroke is sent as. -/
def Stroke.encode : Stroke → List Char
  | .shown text => text
  | .control change => change.encode

/-- The text that strokes are sent as. -/
def encode (strokes : List Stroke) : List Char := strokes.flatMap Stroke.encode

end Terminal

end Triptych
