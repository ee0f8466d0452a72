import Triptych.Proofs.Lexer.Classify
import Triptych.Proofs.Lexer.Driving

/-!
# Lexers that read something

A lexer that takes a character or more wherever anything is left needs no help to come to
the end of a line.  `Flows` is the loop that gives none: it neither moves a stalled cursor on
nor gives a line up.  Where it comes to the end, the loop with the two guards reads the same,
and the guards have had nothing to do.

That a token is not EMPTY is the lexer's own doing here.  Lexers that only move the cursor
have tokens like that too, but may owe them to the guard.
-/

namespace Triptych

open Text

namespace Lexer

variable {σ : Type} {lexer : Lexer σ}

/-- Wherever anything is left, the lexer takes some of it, from its front. -/
def Advances (lexer : Lexer σ) : Prop :=
  ∀ ⦃cursor : Cursor⦄ ⦃front token back : List Char⦄, cursor.Stands front token back →
    back ≠ [] → ∀ state, ∃ text rest, back = text ++ rest ∧ text ≠ [] ∧
      (lexer.read cursor.beginToken state).cursor.Stands (front ++ token) text rest

/-- Reading on from a cursor as long as anything is left of the line ends.  No step stalls, and
each is what the lexer reads. -/
inductive Flows (lexer : Lexer σ) : Cursor → σ → List (Token × Cursor × σ) → Prop where
  | done {cursor : Cursor} {state : σ} (hend : cursor.atEnd = true) : Flows lexer cursor state []
  | more {cursor : Cursor} {state : σ} {steps : List (Token × Cursor × σ)}
      (hend : cursor.atEnd = false) (hmoved : (lexer.step cursor state).2.1.isStalled = false)
      (hrest : Flows lexer (lexer.step cursor state).2.1 (lexer.step cursor state).2.2 steps) :
      Flows lexer cursor state (lexer.step cursor state :: steps)

/-- A step that does not stall is left as it is. -/
theorem stepOn_of_not_isStalled {cursor : Cursor} {state : σ}
    (h : (lexer.step cursor state).2.1.isStalled = false) :
    lexer.stepOn cursor state = lexer.step cursor state := by
  rw [stepOn_eq_step]
  dsimp only
  rw [if_neg (by simp [h])]

theorem Flows.drives {cursor : Cursor} {state : σ} {steps : List (Token × Cursor × σ)}
    (h : lexer.Flows cursor state steps) : lexer.Drives cursor state steps := by
  induction h with
  | done hend => exact .done hend
  | more hend hmoved hrest ih =>
      rw [← stepOn_of_not_isStalled hmoved] at ih ⊢
      exact .more hend ih

theorem Advances.isStalled_step (h : lexer.Advances) {cursor : Cursor}
    {front token back : List Char} (hstands : cursor.Stands front token back) (hback : back ≠ [])
    (state : σ) : (lexer.step cursor state).2.1.isStalled = false := by
  obtain ⟨text, rest, -, htext, hread⟩ := h hstands hback state
  exact hread.isStalled_eq_false htext

/-- The end of the line is reached. -/
theorem Advances.exists_flows (h : lexer.Advances) {cursor : Cursor}
    {front token back : List Char} (hstands : cursor.Stands front token back) (state : σ) :
    ∃ steps, lexer.Flows cursor state steps := by
  -- on what is left of the line, of which each step takes a character or more
  induction hn : back.length using Nat.strongRecOn generalizing cursor state front token back with
  | _ n ih =>
      by_cases hback : back = []
      · exact ⟨[], .done (hstands.atEnd_iff.mpr hback)⟩
      · have hmoved := h.isStalled_step hstands hback state
        obtain ⟨text, rest, rfl, htext, hread⟩ := h hstands hback state
        have hshorter : rest.length < n := by
          have := List.length_pos_iff.mpr htext
          rw [← hn, List.length_append]
          omega
        obtain ⟨steps, hsteps⟩ := ih rest.length hshorter hread _ rfl
        exact ⟨_, .more (hstands.atEnd_eq_false_iff.mpr hback) hmoved hsteps⟩

/-- Every line is read to its end without help, from every state, and the loop with the guards
reads the same. -/
def NeverStalls (lexer : Lexer σ) : Prop :=
  ∀ line state, ∃ steps, lexer.Flows (.ofLine line) state steps ∧
    lexer.tokens line state = (steps.map (·.1), lastState state steps)

theorem Advances.neverStalls (h : lexer.Advances) (hmoves : lexer.MovesCursor) :
    lexer.NeverStalls := by
  intro line state
  have hstart := Cursor.stands_ofLine line
  obtain ⟨steps, hsteps⟩ := h.exists_flows hstart state
  exact ⟨steps, hsteps, hsteps.drives.tokensFrom_eq hmoves hstart⟩

end Lexer

end Triptych
