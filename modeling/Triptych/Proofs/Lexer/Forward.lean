import Triptych.Language
import Triptych.Proofs.Text.Offsets

/-!
# Lexers that move forward

A lexer moves forward if it stays on its line and never takes the cursor back.  It may
stall: a lexer that reads nothing moves forward too.

The second part compares two lexers of which one carries more state.  Where both read
the same tokens and the smaller state goes along, they read the same lines.  What is
compared is one line at a time, since the two may differ on OTHER lines.
-/

namespace Triptych

open Text

namespace Cursor

theorem bumpIfStalled_line (cursor : Cursor) : cursor.bumpIfStalled.line = cursor.line := by
  unfold bumpIfStalled nextChar
  split
  · cases cursor.peek? <;> rfl
  · rfl

end Cursor

namespace Lexer

variable {σ τ : Type}

/-- The lexer stays on the line and does not take the cursor back, wherever there is
something left to read. -/
def Forward (lexer : Lexer σ) : Prop :=
  ∀ cursor state, cursor.atEnd = false →
    (lexer.read cursor state).cursor.line = cursor.line ∧
      cursor.pos ≤ (lexer.read cursor state).cursor.pos

theorem Forward.stepOn_line {lexer : Lexer σ} (h : lexer.Forward) {cursor : Cursor}
    (hcursor : cursor.atEnd = false) (state : σ) :
    (lexer.stepOn cursor state).2.1.line = cursor.line := by
  unfold stepOn
  rw [Cursor.bumpIfStalled_line]
  exact (h cursor.beginToken state hcursor).1

theorem tokensFrom_of_atEnd {lexer : Lexer σ} {cursor : Cursor} (hcursor : cursor.atEnd = true)
    (state : σ) : lexer.tokensFrom cursor state = ([], state) := by
  rw [tokensFrom, if_pos hcursor]

/-- There are no tokens in an empty line. -/
theorem tokens_nil (lexer : Lexer σ) (state : σ) : lexer.tokens [] state = ([], state) :=
  tokensFrom_of_atEnd rfl state

/-- What each step preserves, as long as anything is left to read, is preserved by reading to
the end of the line. -/
theorem tokensFrom_invariant {lexer : Lexer σ} {P : Cursor → σ → Prop}
    (hstep : ∀ cursor state, cursor.atEnd = false → P cursor state →
      P (lexer.stepOn cursor state).2.1 (lexer.stepOn cursor state).2.2)
    {cursor : Cursor} {state : σ} (h : P cursor state) :
    ∃ cursor', P cursor' (lexer.tokensFrom cursor state).2 := by
  induction hn : cursor.left using Nat.strongRecOn generalizing cursor state with
  | _ n ih =>
      by_cases hend : cursor.atEnd = true
      · rw [tokensFrom_of_atEnd hend]
        exact ⟨cursor, h⟩
      · have hmoved := hstep cursor state (by simpa using hend) h
        rw [tokensFrom, if_neg hend]
        dsimp only
        by_cases hlt : (lexer.stepOn cursor state).2.1.left < cursor.left
        · rw [if_pos hlt]
          exact ih _ (hn ▸ hlt) hmoved rfl
        · rw [if_neg hlt]
          exact ⟨_, hmoved⟩

theorem tokensOfLines_cons (lexer : Lexer σ) (line : List Char) (others : List (List Char))
    (state : σ) :
    lexer.tokensOfLines (line :: others) state =
      ((lexer.tokens line state).1 :: (lexer.tokensOfLines others (lexer.tokens line state).2).1,
        (lexer.tokensOfLines others (lexer.tokens line state).2).2) := rfl

/-- Two lexers that read the same on a line, one with more state than the other. -/
def Carries (outer : Lexer τ) (inner : Lexer σ) (put : σ → τ) (line : List Char) : Prop :=
  ∀ cursor state, cursor.line = line →
    outer.read cursor (put state) =
      ⟨(inner.read cursor state).kind, (inner.read cursor state).cursor,
        put (inner.read cursor state).state⟩

theorem Carries.tokensFrom {outer : Lexer τ} {inner : Lexer σ} {put : σ → τ} {line : List Char}
    (h : outer.Carries inner put line) (hforward : inner.Forward) {cursor : Cursor}
    (hline : cursor.line = line) (state : σ) :
    outer.tokensFrom cursor (put state) =
      ((inner.tokensFrom cursor state).1, put (inner.tokensFrom cursor state).2) := by
  -- on what is left of the line; both lexers move the cursor alike, and on `line` only
  induction hn : cursor.left using Nat.strongRecOn generalizing cursor state with
  | _ n ih =>
      by_cases hend : cursor.atEnd = true
      · rw [tokensFrom_of_atEnd hend, tokensFrom_of_atEnd hend]
      · have hstep : outer.stepOn cursor (put state) =
            ((inner.stepOn cursor state).1, (inner.stepOn cursor state).2.1,
              put (inner.stepOn cursor state).2.2) := by
          unfold stepOn
          rw [h cursor.beginToken state hline]
        have hmoved : (inner.stepOn cursor state).2.1.line = line :=
          (hforward.stepOn_line (by simpa using hend) state).trans hline
        rw [Lexer.tokensFrom, Lexer.tokensFrom, if_neg hend, if_neg hend, hstep]
        dsimp only
        by_cases hlt : (inner.stepOn cursor state).2.1.left < cursor.left
        · rw [if_pos hlt, if_pos hlt, ih _ (hn ▸ hlt) hmoved _ rfl]
        · rw [if_neg hlt, if_neg hlt]

/-- The lexer that carries more state reads the same tokens of the line. -/
theorem Carries.tokens {outer : Lexer τ} {inner : Lexer σ} {put : σ → τ} {line : List Char}
    (h : outer.Carries inner put line) (hforward : inner.Forward) (state : σ) :
    outer.tokens line (put state) =
      ((inner.tokens line state).1, put (inner.tokens line state).2) :=
  h.tokensFrom hforward rfl state

theorem Carries.tokensOfLines {outer : Lexer τ} {inner : Lexer σ} {put : σ → τ}
    {lines : List (List Char)} (h : ∀ line ∈ lines, outer.Carries inner put line)
    (hforward : inner.Forward) (state : σ) :
    outer.tokensOfLines lines (put state) =
      ((inner.tokensOfLines lines state).1, put (inner.tokensOfLines lines state).2) := by
  induction lines generalizing state with
  | nil => rfl
  | cons line others ih =>
      obtain ⟨hline, hothers⟩ := List.forall_mem_cons.mp h
      rw [tokensOfLines_cons, tokensOfLines_cons, hline.tokens hforward, ih hothers]

end Lexer

/-- A language reads on from where it is, whatever its rules are. -/
theorem Language.lexer_forward (language : Language) : language.lexer.Forward := by
  intro cursor state hcursor
  refine ⟨rfl, ?_⟩
  have hinside : cursor.pos ≤ byteSize cursor.line := by
    have : ¬ byteSize cursor.line ≤ cursor.pos := by simpa [Cursor.atEnd] using hcursor
    omega
  show cursor.pos ≤ roundUp cursor.line (max cursor.pos _)
  have hround := le_roundUp (s := cursor.line) (n := max cursor.pos
    (min (language.scan (.ofOffset cursor.line cursor.pos) state).stop.offset
      (byteSize cursor.line))) (by omega)
  omega

end Triptych
