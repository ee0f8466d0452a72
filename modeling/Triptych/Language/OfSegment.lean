import Triptych.Language.Css
import Triptych.Language.Html
import Triptych.Language.JavaScript
import Triptych.Segment

/-!
# The languages of a block

Each segment of a block has its language.
-/

namespace Triptych

/-- The language that a segment is written in. -/
def Segment.language : Segment → Language
  | .markup => .html
  | .style => .css
  | .script => .javaScript

end Triptych
