import Triptych.Language.OfSegment
import Triptych.Lexer
import Triptych.Segment
import Triptych.Sentinel

/-!
# Tokenizers for blocks

A tokenizer has a lexer for each segment and is itself a lexer.  Its state is the
segment that is being read and the states of the three lexers.  A sentinel line is
one plain token and moves on to the next segment; everything else goes to the lexer
of the segment, with the state that this lexer has come to.

Whether a line is a sentinel is asked of the whole line at EVERY token, so a marker
behind other text is left to the lexer.  Nothing moves back to an earlier segment.
-/

namespace Triptych

/-- A lexer for each segment. -/
structure Tokenizer (μ σ κ : Type) where
  markup : Lexer μ
  style : Lexer σ
  script : Lexer κ

namespace Tokenizer

/-- How far the reading of a block has come. -/
structure State (μ σ κ : Type) where
  segment : Segment
  markup : μ
  style : σ
  script : κ
  deriving DecidableEq

variable {μ σ κ : Type}

/-- Move on to the next segment. -/
def State.advance (state : State μ σ κ) : State μ σ κ :=
  { state with segment := state.segment.advance }

/-- The state at the start of a block. -/
def start (tokenizer : Tokenizer μ σ κ) : State μ σ κ :=
  ⟨.markup, tokenizer.markup.start, tokenizer.style.start, tokenizer.script.start⟩

/-- Read one token with the lexer of the segment. -/
def delegate (tokenizer : Tokenizer μ σ κ) (cursor : Cursor) (state : State μ σ κ) :
    Lexeme (State μ σ κ) :=
  match state.segment with
  | .markup =>
      let lexeme := tokenizer.markup.read cursor state.markup
      ⟨lexeme.kind, lexeme.cursor, { state with markup := lexeme.state }⟩
  | .style =>
      let lexeme := tokenizer.style.read cursor state.style
      ⟨lexeme.kind, lexeme.cursor, { state with style := lexeme.state }⟩
  | .script =>
      let lexeme := tokenizer.script.read cursor state.script
      ⟨lexeme.kind, lexeme.cursor, { state with script := lexeme.state }⟩

/-- The lexer that reads blocks. -/
def lexer (tokenizer : Tokenizer μ σ κ) : Lexer (State μ σ κ) where
  start := tokenizer.start
  read cursor state :=
    if isSentinel cursor.line then ⟨none, cursor.skipToEnd, state.advance⟩
    else tokenizer.delegate cursor state

/-- One token from a cursor.  Nothing is forced: a lexer that reads nothing gives an
empty token. -/
def step (tokenizer : Tokenizer μ σ κ) (cursor : Cursor) (state : State μ σ κ) :
    Token × Cursor × State μ σ κ :=
  tokenizer.lexer.step cursor state

/-- The tokens of a line, and the state after it. -/
def tokens (tokenizer : Tokenizer μ σ κ) (line : List Char) (state : State μ σ κ) :
    List Token × State μ σ κ :=
  tokenizer.lexer.tokens line state

/-- The tokens of the text of one segment. -/
def classify (tokenizer : Tokenizer μ σ κ) (kind : Segment) (text : List Char) : List Token :=
  match kind with
  | .markup => tokenizer.markup.classify text
  | .style => tokenizer.style.classify text
  | .script => tokenizer.script.classify text

/-- The tokenizer for blocks of HTML, CSS and JavaScript. -/
def standard : Tokenizer LineState LineState LineState where
  markup := Segment.markup.language.lexer
  style := Segment.style.language.lexer
  script := Segment.script.language.lexer

end Tokenizer

end Triptych
