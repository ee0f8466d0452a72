import Triptych.Language

/-!
# The rules of CSS

Selectors, property names, values and punctuation.  A property name takes the
colon after it and the blank after that.  Only comments run over several lines.
-/

namespace Triptych.Language

/-- The rules for the style of a block. -/
def css : Language := build "CSS"
  [Construct.make? "block_comment" "/\\*".toList "\\*/".toList .comment 1 none]
  [ -- the closing quote may be missing
    Pattern.make? "string" "\"(?:[^\"\\\\]|\\\\.)*\"?".toList .string 95,
    Pattern.make? "string_single" "'(?:[^'\\\\]|\\\\.)*'?".toList .string 95,
    Pattern.make? "at_rule" "@[A-Za-z-]+".toList .keyword 90,
    Pattern.make? "important" "!\\s*important\\b".toList .keyword 90,
    -- before selectors by id, which begin alike
    Pattern.make? "hex_color" "#[0-9a-fA-F]\x7b3,8\x7d\\b".toList .atom 85,
    Pattern.make? "id_selector" "#[A-Za-z_-][\\w-]*".toList .builtin 80,
    Pattern.make? "class_selector" "\\.[A-Za-z_-][\\w-]*".toList .qualifier 80,
    Pattern.make? "property" "-\x7b0,2\x7d[A-Za-z][\\w-]*\\s*:(?:\\s|$)".toList .property 75,
    Pattern.make? "pseudo" "::?[A-Za-z-]+".toList .qualifier 70,
    Pattern.make? "global_value" "\\b(?:inherit|initial|unset|revert|auto|none)\\b".toList .atom 65,
    Pattern.make? "number" "\\b\\d+(?:\\.\\d+)?(?:%|[A-Za-z]+)?".toList .number 60,
    Pattern.make? "fraction" "\\B\\.\\d+(?:%|[A-Za-z]+)?".toList .number 60,
    Pattern.make? "punctuation" "[\x7b\x7d;,()]".toList .punctuation 40 ]

end Triptych.Language
