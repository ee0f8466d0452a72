import Triptych.Language

/-!
# The rules of JavaScript

Comments, strings, words, numbers, operators and punctuation.  Block comments and
template literals run over several lines.  An operator takes a slash only alone, so
that it never takes the beginning of a comment.
-/

namespace Triptych.Language

/-- The words that are keywords. -/
def keywordPattern : List Char :=
  ("\\b(?:async|await|break|case|catch|class|const|continue|debugger|default|delete|do|else|" ++
   "export|extends|finally|for|function|if|import|in|instanceof|let|new|of|return|static|super|" ++
   "switch|this|throw|try|typeof|var|void|while|with|yield)\\b").toList

/-- The words that name what every script finds around it. -/
def globalPattern : List Char :=
  ("\\b(?:console|window|document|globalThis|Math|JSON|Object|Array|String|Number|Boolean|" ++
   "Promise|Map|Set|Date|RegExp|Error)\\b").toList

/-- The rules for the script of a block. -/
def javaScript : Language := build "JavaScript"
  [ Construct.make? "block_comment" "/\\*".toList "\\*/".toList .comment 1 none,
    Construct.make? "template" "\x60".toList "\x60".toList .string 2 (some '\\') ]
  [ Pattern.make? "line_comment" "//.*$".toList .comment 100,
    -- the closing quote may be missing
    Pattern.make? "string" "\"(?:[^\"\\\\]|\\\\.)*\"?".toList .string 95,
    Pattern.make? "string_single" "'(?:[^'\\\\]|\\\\.)*'?".toList .string 95,
    Pattern.make? "keyword" keywordPattern .keyword 80,
    Pattern.make? "atom" "\\b(?:true|false|null|undefined|NaN|Infinity)\\b".toList .atom 78,
    Pattern.make? "builtin" globalPattern .builtin 75,
    Pattern.make? "hex" "\\b0[xX][0-9a-fA-F_]+n?\\b".toList .number 66,
    Pattern.make? "number"
      "\\b\\d[\\d_]*(?:\\.\\d+)?(?:[eE][+-]?\\d+)?n?\\b".toList .number 65,
    Pattern.make? "operator" "[+\\-*%&|^!<>=~?:]+|/".toList .operator 40,
    Pattern.make? "punctuation" "[\x7b\x7d()\\[\\];,.]".toList .punctuation 30 ]

end Triptych.Language
