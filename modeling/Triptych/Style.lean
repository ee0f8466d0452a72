import Triptych.Color

/-!
# Styles

How a token is drawn: two colours and three attributes.  The default style is the
one that changes nothing.
-/

namespace Triptych

/-- How a token is drawn. -/
structure Style where
  foreground : Color := .default
  background : Color := .default
  bold : Bool := false
  italic : Bool := false
  underline : Bool := false
  deriving DecidableEq, Repr

namespace Style

/-- The style that has a foreground and nothing else. -/
def ofForeground (color : Color) : Style := { foreground := color }

/-- The style with another foreground. -/
def withForeground (style : Style) (color : Color) : Style := { style with foreground := color }

/-- The style in bold. -/
def withBold (style : Style) : Style := { style with bold := true }

/-- The style in italics. -/
def withItalic (style : Style) : Style := { style with italic := true }

/-- The style underlined. -/
def withUnderline (style : Style) : Style := { style with underline := true }

/-- Drawing in this style changes nothing. -/
def isDefault (style : Style) : Bool := style == {}

end Style

end Triptych
