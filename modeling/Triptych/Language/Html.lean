import Triptych.Language

/-!
# The rules of HTML

Tags, attributes, double-quoted values, character references and the document
type.  Only comments run over several lines.
-/

namespace Triptych.Language

/-- The rules for the markup of a block. -/
def html : Language := build "HTML"
  [Construct.make? "comment" "<!--".toList "-->".toList .comment 1 none]
  [ Pattern.make? "doctype" "(?i)<!doctype[^>]*>".toList .metadata 100,
    -- the names of opening and closing tags, with the bracket in front
    Pattern.make? "tag_open" "</?[A-Za-z][\\w:-]*".toList .tag 90,
    Pattern.make? "tag_close" "/?>".toList .tag 89,
    Pattern.make? "string" "\"[^\"]*\"".toList .string 85,
    -- the equals sign belongs to the attribute name
    Pattern.make? "attribute" "[A-Za-z_:@][\\w:.-]*\\s*=".toList .attribute 80,
    Pattern.make? "entity"
      "&(?:[A-Za-z][A-Za-z0-9]*|#[0-9]+|#[xX][0-9a-fA-F]+);".toList .atom 70 ]

end Triptych.Language
