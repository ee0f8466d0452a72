import Triptych.Proofs.Cursor.Moves
import Triptych.Proofs.Lexer.Forward

/-!
# Reading a line to its end

`Drives` is the loop that reads a line, step after step as long as anything is left.  It
has no guard: where the loop never ends there is nothing that it drives through.

A lexer that moves the cursor by the operations of a cursor, and in no other way, reads
every line to its end.  It may move as little as it likes and to any offset, for what it
has read is made up to whole characters, and to one character at least.  Each token is
then a piece of the line, and the pieces make up the line.

A lexer that puts ANOTHER cursor in the place of its own is not of this kind.
-/

namespace Triptych

open Text

namespace Lexer

variable {σ : Type}

/-- The lexer moves the cursor by its operations, any number of times or not at all. -/
def MovesCursor (lexer : Lexer σ) : Prop :=
  ∀ cursor state, ∃ moves : List Cursor.Move,
    (lexer.read cursor state).cursor = moves.foldl Cursor.move cursor

/-- Reading on from a cursor as long as anything is left of the line ends, and these are
the steps: each token, with the cursor and the state after it. -/
inductive Drives (lexer : Lexer σ) : Cursor → σ → List (Token × Cursor × σ) → Prop where
  | done {cursor : Cursor} {state : σ} (hend : cursor.atEnd = true) : Drives lexer cursor state []
  | more {cursor : Cursor} {state : σ} {steps : List (Token × Cursor × σ)}
      (hend : cursor.atEnd = false)
      (hrest : Drives lexer (lexer.stepOn cursor state).2.1 (lexer.stepOn cursor state).2.2
        steps) :
      Drives lexer cursor state (lexer.stepOn cursor state :: steps)

/-- The state after some steps. -/
def lastState (state : σ) (steps : List (Token × Cursor × σ)) : σ :=
  (steps.map fun step => step.2.2).getLastD state

theorem lastState_nil (state : σ) : lastState state [] = state := rfl

theorem lastState_cons (state : σ) (step : Token × Cursor × σ)
    (steps : List (Token × Cursor × σ)) :
    lastState state (step :: steps) = lastState step.2.2 steps := by
  unfold lastState
  rw [List.map_cons, List.getLastD_cons]

theorem lastState_append (state : σ) (front back : List (Token × Cursor × σ)) :
    lastState state (front ++ back) = lastState (lastState state front) back := by
  induction front generalizing state with
  | nil => rfl
  | cons step front ih => rw [List.cons_append, lastState_cons, ih, lastState_cons]

theorem Drives.invariant {lexer : Lexer σ} {P : Cursor → σ → Prop}
    (hstep : ∀ cursor state, cursor.atEnd = false → P cursor state →
      P (lexer.stepOn cursor state).2.1 (lexer.stepOn cursor state).2.2)
    {cursor : Cursor} {state : σ} {steps : List (Token × Cursor × σ)}
    (hdrives : lexer.Drives cursor state steps) (h : P cursor state) :
    ∃ cursor', P cursor' (lastState state steps) := by
  induction hdrives with
  | @done cursor state hend => exact ⟨cursor, h⟩
  | @more cursor state steps hend hrest ih =>
      rw [lastState_cons]
      exact ih (hstep cursor state hend h)

/-- The token of a step is a piece of the line, of one character at least, and the cursor
stands at its two ends. -/
structure Slices (line : List Char) (step : Token × Cursor × σ) : Prop where
  line_eq : step.2.1.line = line
  isBoundary_start : isBoundary line step.2.1.start = true
  isBoundary_stop : isBoundary line step.2.1.pos = true
  between?_eq : between? line step.2.1.start step.2.1.pos = some step.1.text
  text_ne_nil : step.1.text ≠ []

/-! ## One step -/

/-- A step takes some of what is left, from its front, and the token is what it takes. -/
theorem MovesCursor.stepOn {lexer : Lexer σ} (hmoves : lexer.MovesCursor) {cursor : Cursor}
    {front token back : List Char} (h : cursor.Stands front token back) (hback : back ≠ [])
    (state : σ) :
    ∃ text rest, back = text ++ rest ∧ text ≠ [] ∧ (lexer.stepOn cursor state).1.text = text ∧
      (lexer.stepOn cursor state).2.1.Stands (front ++ token) text rest := by
  obtain ⟨moves, hread⟩ := hmoves cursor.beginToken state
  obtain ⟨more, rest, rfl, hstands⟩ := h.beginToken.foldl_move moves
  rw [← hread, List.nil_append] at hstands
  obtain ⟨text, rest', hsplit, htext, hmoved⟩ := hstands.bumpIfStalled hback
  exact ⟨text, rest', hsplit, htext, hmoved.current_eq, hmoved⟩

/-- The step leaves less of the line than there was. -/
theorem MovesCursor.left_stepOn_lt {lexer : Lexer σ} (hmoves : lexer.MovesCursor)
    {cursor : Cursor} {front token back : List Char} (h : cursor.Stands front token back)
    (hback : back ≠ []) (state : σ) : (lexer.stepOn cursor state).2.1.left < cursor.left := by
  obtain ⟨text, rest, rfl, htext, -, hmoved⟩ := hmoves.stepOn h hback state
  have := byteSize_pos htext
  rw [h.left_eq, hmoved.left_eq, byteSize_append]
  omega

theorem tokensFrom_of_left_lt {lexer : Lexer σ} {cursor : Cursor} {state : σ}
    (hend : cursor.atEnd = false)
    (hlt : (lexer.stepOn cursor state).2.1.left < cursor.left) :
    lexer.tokensFrom cursor state =
      let later := lexer.tokensFrom (lexer.stepOn cursor state).2.1 (lexer.stepOn cursor state).2.2
      ((lexer.stepOn cursor state).1 :: later.1, later.2) := by
  rw [tokensFrom, if_neg (by simp [hend])]
  dsimp only
  rw [if_pos hlt]

/-! ## All steps -/

/-- The end of the line is reached. -/
theorem MovesCursor.exists_drives {lexer : Lexer σ} (hmoves : lexer.MovesCursor)
    {cursor : Cursor} {front token back : List Char} (h : cursor.Stands front token back)
    (state : σ) : ∃ steps, lexer.Drives cursor state steps := by
  -- on what is left of the line, of which each step takes a character or more
  induction hn : back.length using Nat.strongRecOn generalizing cursor state front token back with
  | _ n ih =>
      by_cases hback : back = []
      · exact ⟨[], .done (h.atEnd_iff.mpr hback)⟩
      · obtain ⟨text, rest, rfl, htext, -, hmoved⟩ := hmoves.stepOn h hback state
        have hshorter : rest.length < n := by
          have := List.length_pos_iff.mpr htext
          rw [← hn, List.length_append]
          omega
        obtain ⟨steps, hsteps⟩ := ih rest.length hshorter hmoved _ rfl
        exact ⟨_, .more (h.atEnd_eq_false_iff.mpr hback) hsteps⟩

section Drives

variable {lexer : Lexer σ} {cursor : Cursor} {state : σ} {steps : List (Token × Cursor × σ)}

/-- The guarded loop reads what the loop without a guard reads. -/
theorem Drives.tokensFrom_eq (hdrives : lexer.Drives cursor state steps)
    (hmoves : lexer.MovesCursor) {front token back : List Char}
    (h : cursor.Stands front token back) :
    lexer.tokensFrom cursor state = (steps.map (·.1), lastState state steps) := by
  induction hdrives generalizing front token back with
  | done hend => rw [tokensFrom_of_atEnd hend, List.map_nil, lastState_nil]
  | @more cursor state steps hend hrest ih =>
      have hback := h.atEnd_eq_false_iff.mp hend
      obtain ⟨text, rest, -, -, -, hmoved⟩ := hmoves.stepOn h hback state
      rw [tokensFrom_of_left_lt hend (hmoves.left_stepOn_lt h hback state), ih hmoved,
        List.map_cons, lastState_cons]

/-- The tokens make up what was left of the line. -/
theorem Drives.flatMap_text (hdrives : lexer.Drives cursor state steps)
    (hmoves : lexer.MovesCursor) {front token back : List Char}
    (h : cursor.Stands front token back) :
    (steps.map (·.1)).flatMap Token.text = back := by
  induction hdrives generalizing front token back with
  | done hend =>
      rw [h.atEnd_iff.mp hend]
      rfl
  | @more cursor state steps hend hrest ih =>
      obtain ⟨text, rest, rfl, -, htext, hmoved⟩ :=
        hmoves.stepOn h (h.atEnd_eq_false_iff.mp hend) state
      rw [List.map_cons, List.flatMap_cons, ih hmoved, htext]

/-- Each token is a piece of the line. -/
theorem Drives.slices (hdrives : lexer.Drives cursor state steps)
    (hmoves : lexer.MovesCursor) {front token back : List Char}
    (h : cursor.Stands front token back) : ∀ step ∈ steps, Slices cursor.line step := by
  induction hdrives generalizing front token back with
  | done hend =>
      intro step hstep
      exact absurd hstep List.not_mem_nil
  | @more cursor state steps hend hrest ih =>
      obtain ⟨text, rest, rfl, hne, htext, hmoved⟩ :=
        hmoves.stepOn h (h.atEnd_eq_false_iff.mp hend) state
      have hline : (lexer.stepOn cursor state).2.1.line = cursor.line := by
        rw [hmoved.line_eq, h.line_eq, List.append_assoc]
      have hfirst : Slices cursor.line (lexer.stepOn cursor state) := by
        refine ⟨hline, ?_, ?_, ?_, ?_⟩
        · rw [← hline]
          exact hmoved.isBoundary_start
        · rw [← hline]
          exact hmoved.isBoundary_pos
        · rw [← hline, htext]
          exact hmoved.between?_eq
        · rw [htext]
          exact hne
      intro step hstep
      rcases List.mem_cons.mp hstep with rfl | hstep
      · exact hfirst
      · rw [← hline]
        exact ih hmoved step hstep

end Drives

/-! ## Whole lines -/

/-- Reading the line comes to its end without a guard, and each token is a piece of the
line. -/
def Completes (lexer : Lexer σ) (line : List Char) (state : σ) : Prop :=
  ∃ steps, lexer.Drives (.ofLine line) state steps ∧
    lexer.tokens line state = (steps.map (·.1), lastState state steps) ∧
    ∀ step ∈ steps, Slices line step

theorem MovesCursor.completes {lexer : Lexer σ} (hmoves : lexer.MovesCursor) (line : List Char)
    (state : σ) : lexer.Completes line state := by
  have hstart := Cursor.stands_ofLine line
  obtain ⟨steps, hsteps⟩ := hmoves.exists_drives hstart state
  exact ⟨steps, hsteps, hsteps.tokensFrom_eq hmoves hstart, hsteps.slices hmoves hstart⟩

/-- The tokens make up the line. -/
theorem MovesCursor.flatMap_text_tokens {lexer : Lexer σ} (hmoves : lexer.MovesCursor)
    (line : List Char) (state : σ) : (lexer.tokens line state).1.flatMap Token.text = line := by
  have hstart := Cursor.stands_ofLine line
  obtain ⟨steps, hsteps⟩ := hmoves.exists_drives hstart state
  unfold tokens
  rw [hsteps.tokensFrom_eq hmoves hstart]
  exact hsteps.flatMap_text hmoves hstart

/-- No token is empty. -/
theorem Completes.text_ne_nil {lexer : Lexer σ} {line : List Char} {state : σ}
    (h : lexer.Completes line state) : ∀ token ∈ (lexer.tokens line state).1, token.text ≠ [] := by
  obtain ⟨steps, -, htokens, hslices⟩ := h
  rw [htokens]
  intro token htoken
  obtain ⟨step, hstep, rfl⟩ := List.mem_map.mp htoken
  exact (hslices step hstep).text_ne_nil

end Lexer

end Triptych
