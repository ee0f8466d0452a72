import Triptych.Style
import Triptych.Text.Offset

/-!
# Tokens

A token is a piece of a line with the class it belongs to, or with none.  A span
says the same of a line without repeating the text: where a classified token
starts and where it ends, in bytes.
-/

namespace Triptych

/-- What a piece of source text is. -/
inductive TokenClass where
  | comment
  | string
  | number
  | keyword
  | tag
  | attribute
  | property
  | qualifier
  | atom
  | builtin
  | operator
  | punctuation
  | metadata
  deriving DecidableEq, Repr

namespace TokenClass

/-- All classes, in the order in which they are listed everywhere. -/
def all : List TokenClass := [
  .comment, .string, .number, .keyword, .tag, .attribute, .property, .qualifier, .atom,
  .builtin, .operator, .punctuation, .metadata]

/-- The name of a class in style sheets and settings. -/
def name : TokenClass → String
  | .comment => "comment"
  | .string => "string"
  | .number => "number"
  | .keyword => "keyword"
  | .tag => "tag"
  | .attribute => "attribute"
  | .property => "property"
  | .qualifier => "qualifier"
  | .atom => "atom"
  | .builtin => "builtin"
  | .operator => "operator"
  | .punctuation => "punctuation"
  | .metadata => "meta"

/-- The class with a name; nothing for any other text. -/
def ofName? (name : String) : Option TokenClass := all.find? fun t => t.name == name

/-- The name under which style sheets know a class. -/
def styleSheetName (t : TokenClass) : String := "cm-" ++ t.name

/-- How a class is drawn when the settings say nothing of it. -/
def defaultStyle : TokenClass → Style
  | .comment => (Style.ofForeground .brightBlack).withItalic
  | .string => .ofForeground .green
  | .number => .ofForeground .cyan
  | .keyword => (Style.ofForeground .magenta).withBold
  | .tag => .ofForeground .red
  | .attribute => .ofForeground .yellow
  | .property => .ofForeground .blue
  | .qualifier => .ofForeground .brightYellow
  | .atom => .ofForeground .brightRed
  | .builtin => .ofForeground .brightBlue
  | .operator => .ofForeground .brightWhite
  | .punctuation => {}
  | .metadata => (Style.ofForeground .brightMagenta).withUnderline

end TokenClass

/-- A piece of text and its class; plain text has none. -/
structure Token where
  kind : Option TokenClass
  text : List Char
  deriving DecidableEq, Repr

namespace Token

/-- A token without a class. -/
def plain (text : List Char) : Token := ⟨none, text⟩

end Token

/-- Where a classified token stands in its line, in bytes. -/
structure Span where
  start : Nat
  stop : Nat
  kind : TokenClass
  deriving DecidableEq, Repr

namespace Span

/-- The spans of the classified tokens among those that follow each other from an
offset on. -/
def ofTokensFrom (offset : Nat) : List Token → List Span
  | [] => []
  | token :: rest =>
      let stop := offset + Text.byteSize token.text
      match token.kind with
      | some kind => ⟨offset, stop, kind⟩ :: ofTokensFrom stop rest
      | none => ofTokensFrom stop rest

/-- The spans of the classified tokens of a line. -/
def ofTokens (tokens : List Token) : List Span := ofTokensFrom 0 tokens

end Span

end Triptych
