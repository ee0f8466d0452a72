import Triptych.Tokenizer

/-!
# Sessions

A session keeps what is known of the lines of a document while it is edited: the
spans of each line from the first on, up to the first line that is not valid, and
the state of the tokenizer before each of them and after the last.

The session does NOT look at lines it knows.  The host says from which line on the
document has changed, and what is cached before that line is answered as cached.
-/

namespace Triptych

/-- What is known of the lines of a document. -/
structure Session (μ σ κ : Type) where
  tokenizer : Tokenizer μ σ κ
  /-- The state before each known line, and after the last. -/
  checkpoints : List (Tokenizer.State μ σ κ)
  /-- The spans of each known line. -/
  spans : List (List Span)
  /-- The first line that is not known. -/
  invalidFrom : Nat

namespace Session

variable {μ σ κ : Type}

/-- A session for a document of which nothing is known. -/
def start (tokenizer : Tokenizer μ σ κ) : Session μ σ κ :=
  ⟨tokenizer, [tokenizer.start], [], 0⟩

/-- Forget what is known from a line on. -/
def invalidateFrom (session : Session μ σ κ) (line : Nat) : Session μ σ κ :=
  if session.invalidFrom ≤ line then session
  else
    { session with
      checkpoints := session.checkpoints.take (line + 1)
      spans := session.spans.take line
      invalidFrom := line }

/-- Forget everything. -/
def restart (session : Session μ σ κ) : Session μ σ κ := start session.tokenizer

/-- Read the line after the known ones. -/
def learn (session : Session μ σ κ) (line : List Char) : Session μ σ κ :=
  let before := session.checkpoints[session.invalidFrom]?.getD session.tokenizer.start
  let (tokens, after) := session.tokenizer.tokens line before
  { session with
    checkpoints := session.checkpoints ++ [after]
    spans := session.spans ++ [Span.ofTokens tokens]
    invalidFrom := session.invalidFrom + 1 }

/-- Read all lines up to a line, beginning with the first that is not known. -/
def learnThrough (session : Session μ σ κ) (lines : List (List Char)) (last : Nat) :
    Session μ σ κ :=
  ((lines.drop session.invalidFrom).take (last + 1 - session.invalidFrom)).foldl learn session

/-- The spans of a line, after reading what is not known up to it.  A line that the
document does not have gives no spans and leaves the session as it is. -/
def highlight (session : Session μ σ κ) (lines : List (List Char)) (line : Nat) :
    List Span × Session μ σ κ :=
  if lines.length ≤ line then ([], session)
  else
    let session := if session.invalidFrom ≤ line then session.learnThrough lines line else session
    (session.spans[line]?.getD [], session)

/-- The segment that a known line belongs to.  A sentinel line belongs to the segment
that it opens. -/
def segmentAt? (session : Session μ σ κ) (line : Nat) : Option Segment :=
  if session.invalidFrom ≤ line then none
  else session.checkpoints[line + 1]?.map fun state => state.segment

end Session

end Triptych
