import Triptych.Language.Css
import Triptych.Language.JavaScript
import Triptych.Proofs.Language.Selection

/-!
# The patterns that are tried first

In style sheets the two patterns for strings come before all others, and in scripts the one for
line comments comes before these.  Nothing is said of the order of the patterns behind them.
-/

namespace Triptych

theorem Pattern.make?_of_parse? {pattern : List Char} {regex : Regex}
    (h : Regex.parse? pattern = some regex) (name : String) (kind : TokenClass)
    (priority : Int32) :
    Pattern.make? name pattern kind priority = some ⟨name, regex, kind, priority⟩ := by
  unfold make?
  rw [h]
  rfl

namespace Language

/-- Two slashes, and all up to the end of the line. -/
def lineCommentRule : Pattern where
  name := "line_comment"
  regex := .seq (.char (.oneOf ['/'])) (.seq (.char (.oneOf ['/']))
    (.seq ((Regex.char .notLineFeed).star true) (.anchor .textEnd)))
  kind := .comment
  priority := 100

/-- A round inside quotes: a character that is neither the quote nor a backslash, or a backslash
with the character after it. -/
def quotedRound (quote : Char) : Regex :=
  .alt (.char (.compl (.union (.oneOf [quote]) (.oneOf ['\\']))))
    (.seq (.char (.oneOf ['\\'])) (.char .notLineFeed))

/-- A quote, rounds inside quotes, and a quote again, which may be missing. -/
def quoted (quote : Char) : Regex :=
  .seq (.char (.oneOf [quote]))
    (.seq ((quotedRound quote).star true) ((Regex.char (.oneOf [quote])).optional true))

/-- The rule for strings between quotes. -/
def stringRule (name : String) (quote : Char) : Pattern := ⟨name, quoted quote, .string, 95⟩

theorem make?_lineComment :
    Pattern.make? "line_comment" "//.*$".toList .comment 100 = some lineCommentRule :=
  Pattern.make?_of_parse? (by decide +kernel) _ _ _

theorem make?_string :
    Pattern.make? "string" "\"(?:[^\"\\\\]|\\\\.)*\"?".toList .string 95 =
      some (stringRule "string" '"') :=
  Pattern.make?_of_parse? (by decide +kernel) _ _ _

theorem make?_string_single :
    Pattern.make? "string_single" "'(?:[^'\\\\]|\\\\.)*'?".toList .string 95 =
      some (stringRule "string_single" '\'') :=
  Pattern.make?_of_parse? (by decide +kernel) _ _ _

-- both languages are written in the order of their priorities, so sorting changes nothing

theorem css_patterns : ∃ later, css.patterns =
    stringRule "string" '"' :: stringRule "string_single" '\'' :: later := by
  unfold css
  rw [make?_string, make?_string_single]
  repeat rw [String.toList_ofList]
  rw [build_of_pairwise (by decide +kernel)]
  exact ⟨_, rfl⟩

theorem javaScript_patterns : ∃ later, javaScript.patterns =
    lineCommentRule :: stringRule "string" '"' :: stringRule "string_single" '\'' :: later := by
  unfold javaScript keywordPattern globalPattern
  rw [make?_lineComment, make?_string, make?_string_single]
  simp only [String.toList_append]
  repeat rw [String.toList_ofList]
  rw [build_of_pairwise (by decide +kernel)]
  exact ⟨_, rfl⟩

end Language

end Triptych
