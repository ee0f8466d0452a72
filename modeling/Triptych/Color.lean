import Triptych.Text.Blank
import Triptych.Text.Case
import Triptych.Text.Digits

/-!
# Colours and their names

A colour is the default one, one of the sixteen of a terminal, or given by its
three channels.  `Color.ofName?` reads names and `#rrggbb`, up to case, blanks
around the name, and underscores for hyphens.  Each channel is read as a number
in base sixteen, so that its first character may be a plus sign.
-/

namespace Triptych

/-- A terminal colour. -/
inductive Color where
  | default
  | black
  | red
  | green
  | yellow
  | blue
  | magenta
  | cyan
  | white
  | brightBlack
  | brightRed
  | brightGreen
  | brightYellow
  | brightBlue
  | brightMagenta
  | brightCyan
  | brightWhite
  | rgb (red green blue : UInt8)
  deriving DecidableEq, Repr, Inhabited

namespace Color

/-- The number that two characters write: two digits, or a plus sign and a digit. -/
def channel? (high low : Char) : Option UInt8 :=
  match Text.hexDigit? low with
  | none => none
  | some units =>
      if high = '+' then some (UInt8.ofNat units)
      else (Text.hexDigit? high).map fun sixteens => UInt8.ofNat (16 * sixteens + units)

/-- The colour that six characters write, two for each channel. -/
def ofChannels? : List Char → Option Color
  | [r₁, r₀, g₁, g₀, b₁, b₀] =>
      match channel? r₁ r₀, channel? g₁ g₀, channel? b₁ b₀ with
      | some r, some g, some b => some (.rgb r g b)
      | _, _, _ => none
  | _ => none

/-- The names of colours, with hyphens. -/
def names : List (List Char × Color) := [
  ("default".toList, .default),
  ("black".toList, .black),
  ("red".toList, .red),
  ("green".toList, .green),
  ("yellow".toList, .yellow),
  ("blue".toList, .blue),
  ("magenta".toList, .magenta),
  ("cyan".toList, .cyan),
  ("white".toList, .white),
  ("bright-black".toList, .brightBlack),
  ("gray".toList, .brightBlack),
  ("grey".toList, .brightBlack),
  ("bright-red".toList, .brightRed),
  ("bright-green".toList, .brightGreen),
  ("bright-yellow".toList, .brightYellow),
  ("bright-blue".toList, .brightBlue),
  ("bright-magenta".toList, .brightMagenta),
  ("bright-cyan".toList, .brightCyan),
  ("bright-white".toList, .brightWhite)]

/-- A name with hyphens in the place of underscores. -/
def hyphenated (name : List Char) : List Char :=
  name.map fun c => if c = '_' then '-' else c

/-- The colour that a text names. -/
def ofName? (name : List Char) : Option Color :=
  match Text.lowercase (Text.trim name) with
  | '#' :: channels => ofChannels? channels
  | plain => names.lookup (hyphenated plain)

end Color

end Triptych
