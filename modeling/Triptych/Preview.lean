/-!
# The preview of a block

A document that shows what a block makes: the style sheet, the markup in a
container, the script.  The three texts are put in as they are.
-/

namespace Triptych.Preview

/-- The colour of the text, on a dark page or on a light one. -/
def textColor (dark : Bool) : String := if dark then "#fff" else "#000"

/-- The HTML document that shows a block. -/
def document (dark : Bool) (markup style script : List Char) : List Char :=
  "<style>\nbody \x7b font-family: sans-serif; color: ".toList ++ (textColor dark).toList ++
    " \x7d\n</style>\n<style>\n".toList ++ style ++
    "\n</style>\n<div class=\"swarnam-html-container\">\n".toList ++ markup ++
    "\n</div>\n<script>\n".toList ++ script ++ "\n</script>\n".toList

end Triptych.Preview
