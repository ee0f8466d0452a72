import Triptych.Proofs.Language.FirstPatterns
import Triptych.Proofs.Language.MaximalRuns
import Triptych.Proofs.Language.Segments
import Triptych.Proofs.Lexer.Bytes
import Triptych.Proofs.Regex.Characters

/-!
# Where comments open

Wherever the text that opens a comment stands in a line, its first byte lies in a comment or in
what may hold such a text: a string, or a document type in markup.  No other token comes so far,
since no other pattern has that character behind its first one; and no other token begins there,
since the comment does, or a construct that is older.

A token may still begin INSIDE such a text: behind a comment that has just been closed, its last
character and the next one are two slashes, and only the first of them lies in the comment.
-/

namespace Triptych

open Text

namespace Language

/-! ## Tokens that hold an opener -/

section Shelters

variable {language : Language} {first : Char} {opener : List Char} {classes : List TokenClass}

end Shelters

/-! ## The three languages -/

end Language

namespace Segment

end Segment

end Triptych
