import Triptych.Proofs.Lexer.Coverage

/-!
# Reading a whole text

A text is read line after line, each token with the state that the token before has left, and
the line feeds between the lines leave the state as it is.  `Walks` is this loop, with the
states that classifying does not tell.

From any token on, the walk is again a walk: from a cursor in some line and over the lines
after it.  What stands BEFORE that cursor in its line is not lost, since a lexer may look at it.
-/

namespace Triptych

open Text

namespace Lexer

variable {σ : Type} {lexer : Lexer σ}

/-- A token that has been read, and the states before and after it. -/
structure Reading (σ : Type) where
  before : σ
  token : Token
  after : σ

/-- The text that some tokens make up. -/
def textOf (readings : List (Reading σ)) : List Char := readings.flatMap (·.token.text)

/-- The state after some tokens. -/
def finalState (state : σ) (readings : List (Reading σ)) : σ :=
  (readings.map (·.after)).getLastD state

/-- Reading on from a cursor, to the end of its line and then over other lines: each token with
the states before and after it. -/
inductive Walks (lexer : Lexer σ) :
    Cursor → σ → List (List Char) → List (Reading σ) → Prop where
  | done {cursor : Cursor} {state : σ} (hend : cursor.atEnd = true) : Walks lexer cursor state [] []
  | feed {cursor : Cursor} {state : σ} {line : List Char} {others : List (List Char)}
      {readings : List (Reading σ)} (hend : cursor.atEnd = true)
      (hrest : Walks lexer (.ofLine line) state others readings) :
      Walks lexer cursor state (line :: others) (⟨state, .plain ['\n'], state⟩ :: readings)
  | token {cursor : Cursor} {state : σ} {others : List (List Char)}
      {readings : List (Reading σ)} (hend : cursor.atEnd = false)
      (hrest : Walks lexer (lexer.stepOn cursor state).2.1 (lexer.stepOn cursor state).2.2 others
        readings) :
      Walks lexer cursor state others
        (⟨state, (lexer.stepOn cursor state).1, (lexer.stepOn cursor state).2.2⟩ :: readings)

/-- Reading a whole text from the start state. -/
def WalksThrough (lexer : Lexer σ) (text : List Char) (readings : List (Reading σ)) : Prop :=
  ∃ first others, pieces text = first :: others ∧
    lexer.Walks (.ofLine first) lexer.start others readings

theorem textOf_nil : textOf ([] : List (Reading σ)) = [] := rfl

theorem textOf_cons (reading : Reading σ) (readings : List (Reading σ)) :
    textOf (reading :: readings) = reading.token.text ++ textOf readings := List.flatMap_cons

theorem textOf_append (front back : List (Reading σ)) :
    textOf (front ++ back) = textOf front ++ textOf back := List.flatMap_append

theorem finalState_cons (state : σ) (reading : Reading σ) (readings : List (Reading σ)) :
    finalState state (reading :: readings) = finalState reading.after readings := by
  unfold finalState
  rw [List.map_cons, List.getLastD_cons]

/-! ## The end is reached -/

/-- A walk to the end of a line can be gone on with. -/
theorem Drives.exists_walks {cursor : Cursor} {state : σ} {steps : List (Token × Cursor × σ)}
    (h : lexer.Drives cursor state steps) {others : List (List Char)}
    (hothers : ∀ moved state', moved.atEnd = true →
      ∃ readings, lexer.Walks moved state' others readings) :
    ∃ readings, lexer.Walks cursor state others readings := by
  induction h with
  | @done cursor state hend => exact hothers cursor state hend
  | more hend hrest ih =>
      obtain ⟨readings, hwalks⟩ := ih
      exact ⟨_, .token hend hwalks⟩

theorem MovesCursor.exists_walks (hmoves : lexer.MovesCursor) (line : List Char)
    (others : List (List Char)) (state : σ) :
    ∃ readings, lexer.Walks (.ofLine line) state others readings := by
  induction others generalizing line state with
  | nil =>
      obtain ⟨steps, hsteps⟩ := hmoves.exists_drives (Cursor.stands_ofLine line) state
      exact hsteps.exists_walks fun _ _ hend => ⟨[], .done hend⟩
  | cons next others ih =>
      obtain ⟨steps, hsteps⟩ := hmoves.exists_drives (Cursor.stands_ofLine line) state
      refine hsteps.exists_walks fun moved state' hend => ?_
      obtain ⟨readings, hwalks⟩ := ih next state'
      exact ⟨_, .feed hend hwalks⟩

/-- Every text is read to its end. -/
theorem MovesCursor.exists_walksThrough (hmoves : lexer.MovesCursor) (text : List Char) :
    ∃ readings, lexer.WalksThrough text readings := by
  obtain ⟨first, others, hpieces⟩ := exists_pieces_eq_cons text
  obtain ⟨readings, hwalks⟩ := hmoves.exists_walks first others lexer.start
  exact ⟨readings, first, others, hpieces, hwalks⟩

/-! ## Walks and tokens -/

section Walks

variable {cursor : Cursor} {state : σ} {others : List (List Char)} {readings : List (Reading σ)}
  {front token back : List Char}

/-- The tokens of a walk are those of the lines, with line feeds between them. -/
theorem Walks.map_token (h : lexer.Walks cursor state others readings)
    (hmoves : lexer.MovesCursor) (hstands : cursor.Stands front token back) :
    readings.map (·.token) =
      [Token.plain ['\n']].intercalate ((lexer.tokensFrom cursor state).1 ::
        (lexer.tokensOfLines others (lexer.tokensFrom cursor state).2).1) := by
  induction h generalizing front token back with
  | done hend =>
      rw [tokensFrom_of_atEnd hend]
      exact List.intercalate_singleton.symm
  | @feed cursor state line others readings hend hrest ih =>
      rw [tokensFrom_of_atEnd hend, tokensOfLines_cons, List.intercalate_cons_cons, List.map_cons,
        ih (Cursor.stands_ofLine line)]
      rfl
  | @token cursor state others readings hend hrest ih =>
      have hback := hstands.atEnd_eq_false_iff.mp hend
      obtain ⟨text, rest, -, -, -, hmoved⟩ := hmoves.stepOn hstands hback state
      rw [tokensFrom_of_left_lt hend (hmoves.left_stepOn_lt hstands hback state), List.map_cons,
        ih hmoved]
      cases (lexer.tokensOfLines others (lexer.tokensFrom (lexer.stepOn cursor state).2.1
        (lexer.stepOn cursor state).2.2).2).1 with
      | nil => rw [List.intercalate_singleton, List.intercalate_singleton]
      | cons tokens more => rw [List.intercalate_cons_cons, List.intercalate_cons_cons]; rfl

/-- Classifying a text is walking through it without telling the states. -/
theorem WalksThrough.map_token {text : List Char} (h : lexer.WalksThrough text readings)
    (hmoves : lexer.MovesCursor) : readings.map (·.token) = lexer.classify text := by
  obtain ⟨first, others, hpieces, hwalks⟩ := h
  rw [hwalks.map_token hmoves (Cursor.stands_ofLine first)]
  unfold classify
  rw [hpieces, tokensOfLines_cons]
  rfl

/-- The tokens of a walk make up what was left of the lines. -/
theorem Walks.textOf_eq (h : lexer.Walks cursor state others readings)
    (hmoves : lexer.MovesCursor) (hstands : cursor.Stands front token back) :
    textOf readings = joinLines (back :: others) := by
  induction h generalizing front token back with
  | done hend =>
      rw [hstands.atEnd_iff.mp hend]
      rfl
  | @feed cursor state line others readings hend hrest ih =>
      rw [hstands.atEnd_iff.mp hend, textOf_cons, ih (Cursor.stands_ofLine line)]
      rfl
  | token hend hrest ih =>
      obtain ⟨text, rest, rfl, -, htext, hmoved⟩ :=
        hmoves.stepOn hstands (hstands.atEnd_eq_false_iff.mp hend) _
      rw [textOf_cons, ih hmoved, joinLines_append_cons, htext]

/-- From any token on, a walk is a walk from somewhere. -/
theorem Walks.from_token {earlier later : List (Reading σ)} {reading : Reading σ}
    (h : lexer.Walks cursor state others (earlier ++ reading :: later))
    (hmoves : lexer.MovesCursor) (hstands : cursor.Stands front token back) :
    ∃ cursor' others' front' token' back', cursor'.Stands front' token' back' ∧
      lexer.Walks cursor' reading.before others' (reading :: later) := by
  generalize hreadings : earlier ++ reading :: later = readings at h
  induction h generalizing earlier front token back with
  | done hend => exact absurd hreadings (by simp)
  | @feed cursor state line others readings hend hrest ih =>
      cases earlier with
      | nil =>
          obtain ⟨rfl, rfl⟩ := List.cons.inj hreadings
          exact ⟨cursor, line :: others, front, token, back, hstands, .feed hend hrest⟩
      | cons first earlier =>
          exact ih (Cursor.stands_ofLine line) (List.cons.inj hreadings).2
  | @token cursor state others readings hend hrest ih =>
      cases earlier with
      | nil =>
          obtain ⟨rfl, rfl⟩ := List.cons.inj hreadings
          exact ⟨cursor, others, front, token, back, hstands, .token hend hrest⟩
      | cons first earlier =>
          obtain ⟨text, rest, -, -, -, hmoved⟩ :=
            hmoves.stepOn hstands (hstands.atEnd_eq_false_iff.mp hend) state
          exact ih hmoved (List.cons.inj hreadings).2

end Walks

end Lexer

end Triptych
