import Triptych.Render
import Triptych.Settings
import Triptych.Terminal.Escape
import Triptych.Text.Lines
import Triptych.Text.Width

/-!
# Drawing panes

A pane is drawn as a badge, unless the settings leave it out, and the source under
it.  The badge stands at the end of a rule, so that the two are as wide as the
source, and the rule has two columns at least.

Every change is taken back before the next piece is drawn: a piece that is drawn in
a style ends with two resets, one for the attributes and one for the colours, and a
piece in the default style is sent without any change.
-/

namespace Triptych.Terminal

/-- The text with blanks in the place of each tab. -/
def expandTabs (width : Nat) (text : List Char) : List Char :=
  text.flatMap fun c => if c = '\t' then List.replicate width ' ' else [c]

/-- The changes from the default style to a style. -/
def changesTo (style : Style) : List Change :=
  (if style.foreground = .default then [] else [.foreground style.foreground]) ++
    (if style.background = .default then [] else [.background style.background]) ++
    (if style.bold then [.bold] else []) ++
    (if style.italic then [.italic] else []) ++
    (if style.underline then [.underline] else [])

/-- Draw a text between changes, and take them back. -/
def drawBetween (changes : List Change) (text : List Char) : List Stroke :=
  changes.map Stroke.control ++ [.shown text, .control .reset, .control .reset]

/-- Draw a text in a style. -/
def drawStyled (style : Style) (text : List Char) : List Stroke :=
  if style.isDefault then [.shown text] else drawBetween (changesTo style) text

/-- The style of a token: none but the default one if colours are off. -/
def styleOf (settings : Settings) (token : Token) : Style :=
  match token.kind with
  | some kind => if settings.color then settings.styleFor kind else {}
  | none => {}

/-- Draw a token. -/
def drawToken (settings : Settings) (token : Token) : List Stroke :=
  drawStyled (styleOf settings token) (expandTabs settings.tabWidth token.text)

/-- What the badge of a segment says, with a blank on each side. -/
def badgeLabel (kind : Segment) : List Char := ' ' :: (kind.label.toList ++ [' '])

/-- The rule that fills `width` columns together with a label. -/
def badgeRule (width : Nat) (label : List Char) : List Char :=
  List.replicate (max (width - Text.displayWidth label) 2) '─'

/-- Draw the badge of a segment over a source of `width` columns. -/
def drawBadge (settings : Settings) (kind : Segment) (width : Nat) : List Stroke :=
  let label := badgeLabel kind
  .shown (badgeRule width label) ::
    ((if settings.color then drawBetween [.foreground kind.badgeColor, .bold] label
      else [.shown label]) ++ [.shown ['\n']])

/-- The columns of the widest line of a text; none if it has no line. -/
def textWidth (settings : Settings) (text : List Char) : Nat :=
  ((Text.lines text).map fun line => Text.displayWidth (expandTabs settings.tabWidth line)).foldl
    max 0

/-- Draw a pane. -/
def drawPane (settings : Settings) (pane : Pane) : List Stroke :=
  (if settings.badges then drawBadge settings pane.kind (textWidth settings pane.text) else []) ++
    (pane.tokens.flatMap (drawToken settings) ++ [.shown ['\n']])

/-- Draw panes, with an empty line between them. -/
def drawPanes (settings : Settings) : List Pane → List Stroke
  | [] => []
  | [pane] => drawPane settings pane
  | pane :: others => drawPane settings pane ++ .shown ['\n'] :: drawPanes settings others

/-- The text that is sent to draw panes. -/
def writePanes (settings : Settings) (panes : List Pane) : List Char :=
  encode (drawPanes settings panes)

end Triptych.Terminal
