import Triptych.Cursor
import Triptych.Text.Lines
import Triptych.Token

/-!
# Lexers

A lexer reads one token at a time from a cursor and carries a state of its own
from token to token and from line to line.  What the state is, is up to the lexer.

A lexer that reads nothing is moved on by one character, so that a line is always
read to its end.  A lexer may NOT take the cursor back: a line is given up when a
token leaves as much of it unread as there was.
-/

namespace Triptych

/-- What a lexer makes of the text at a cursor. -/
structure Lexeme (σ : Type) where
  kind : Option TokenClass
  cursor : Cursor
  state : σ

/-- A reader of tokens with a state. -/
structure Lexer (σ : Type) where
  /-- The state at the start of a text. -/
  start : σ
  /-- Read one token. -/
  read : Cursor → σ → Lexeme σ

namespace Lexer

variable {σ : Type}

/-- One token from a cursor: the token, and the cursor and the state after it. -/
def step (lexer : Lexer σ) (cursor : Cursor) (state : σ) : Token × Cursor × σ :=
  let lexeme := lexer.read cursor.beginToken state
  (⟨lexeme.kind, lexeme.cursor.current⟩, lexeme.cursor, lexeme.state)

/-- One token from a cursor, of at least one character if there is any. -/
def stepOn (lexer : Lexer σ) (cursor : Cursor) (state : σ) : Token × Cursor × σ :=
  let lexeme := lexer.read cursor.beginToken state
  let moved := lexeme.cursor.bumpIfStalled
  (⟨lexeme.kind, moved.current⟩, moved, lexeme.state)

/-- The tokens from a cursor to the end of its line, and the state after them. -/
def tokensFrom (lexer : Lexer σ) (cursor : Cursor) (state : σ) : List Token × σ :=
  if cursor.atEnd then ([], state)
  else
    match lexer.stepOn cursor state with
    | (token, moved, state') =>
        if moved.left < cursor.left then
          let (tokens, last) := tokensFrom lexer moved state'
          (token :: tokens, last)
        else ([token], state')
termination_by cursor.left

/-- The tokens of a line, and the state after it. -/
def tokens (lexer : Lexer σ) (line : List Char) (state : σ) : List Token × σ :=
  lexer.tokensFrom (.ofLine line) state

/-- The tokens of each of some lines, and the state after them. -/
def tokensOfLines (lexer : Lexer σ) : List (List Char) → σ → List (List Token) × σ
  | [], state => ([], state)
  | line :: others, state =>
      let (first, between) := lexer.tokens line state
      let (more, last) := tokensOfLines lexer others between
      (first :: more, last)

/-- The tokens of a whole text, read from the start state.  Each line feed is a
plain token of its own. -/
def classify (lexer : Lexer σ) (text : List Char) : List Token :=
  [Token.plain ['\n']].intercalate (lexer.tokensOfLines (Text.pieces text) lexer.start).1

end Lexer

end Triptych
