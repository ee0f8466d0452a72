import Mathlib.Data.List.Forall2
import Triptych.Proofs.Lexer.Driving

/-!
# States that read alike

A lexer need not look at all of its state.  If it respects a relation, it reads the same from
related states and comes to related states again; so it cannot tell the two apart in the
course of a line, however long it is.

The two loops are treated in turn.  Where the loop without a guard never ends from one of the
states, it does NOT end from the other either.
-/

namespace Triptych.Lexer

variable {σ : Type} {lexer : Lexer σ} {alike : σ → σ → Prop}

/-- From related states the lexer reads the same, and the states after that are related. -/
def Respects (lexer : Lexer σ) (alike : σ → σ → Prop) : Prop :=
  ∀ cursor state state', alike state state' →
    (lexer.read cursor state).kind = (lexer.read cursor state').kind ∧
      (lexer.read cursor state).cursor = (lexer.read cursor state').cursor ∧
      alike (lexer.read cursor state).state (lexer.read cursor state').state

/-- Two steps with one token that lead to one cursor and to related states. -/
structure SameStep (alike : σ → σ → Prop) (step step' : Token × Cursor × σ) : Prop where
  token_eq : step.1 = step'.1
  cursor_eq : step.2.1 = step'.2.1
  state_alike : alike step.2.2 step'.2.2

/-! ## One step -/

theorem Respects.step (h : lexer.Respects alike) (cursor : Cursor) {state state' : σ}
    (hstate : alike state state') :
    SameStep alike (lexer.step cursor state) (lexer.step cursor state') := by
  obtain ⟨hkind, hcursor, hafter⟩ := h cursor.beginToken state state' hstate
  refine ⟨?_, hcursor, hafter⟩
  unfold Lexer.step
  dsimp only
  rw [hkind, hcursor]

theorem Respects.stepOn (h : lexer.Respects alike) (cursor : Cursor) {state state' : σ}
    (hstate : alike state state') :
    SameStep alike (lexer.stepOn cursor state) (lexer.stepOn cursor state') := by
  obtain ⟨hkind, hcursor, hafter⟩ := h cursor.beginToken state state' hstate
  refine ⟨?_, congrArg Cursor.bumpIfStalled hcursor, hafter⟩
  unfold Lexer.stepOn
  dsimp only
  rw [hkind, hcursor]

/-! ## The rest of a line -/

theorem Respects.tokensFrom (h : lexer.Respects alike) (cursor : Cursor) {state state' : σ}
    (hstate : alike state state') :
    (lexer.tokensFrom cursor state).1 = (lexer.tokensFrom cursor state').1 ∧
      alike (lexer.tokensFrom cursor state).2 (lexer.tokensFrom cursor state').2 := by
  induction hn : cursor.left using Nat.strongRecOn generalizing cursor state state' with
  | _ n ih =>
      by_cases hend : cursor.atEnd = true
      · rw [tokensFrom_of_atEnd hend, tokensFrom_of_atEnd hend]
        exact ⟨rfl, hstate⟩
      · have hstep := h.stepOn cursor hstate
        rw [Lexer.tokensFrom, Lexer.tokensFrom, if_neg hend, if_neg hend]
        dsimp only
        -- the two cursors are one, so both go on or both give up
        rw [← hstep.cursor_eq, ← hstep.token_eq]
        by_cases hlt : (lexer.stepOn cursor state).2.1.left < cursor.left
        · obtain ⟨htokens, hlast⟩ := ih _ (hn ▸ hlt) _ hstep.state_alike rfl
          rw [if_pos hlt, if_pos hlt]
          exact ⟨congrArg (List.cons _) htokens, hlast⟩
        · rw [if_neg hlt, if_neg hlt]
          exact ⟨rfl, hstep.state_alike⟩

/-- Reading to the end of a line from one state can be followed step by step from the
other. -/
theorem Respects.exists_drives (h : lexer.Respects alike) {cursor : Cursor} {state state' : σ}
    {steps : List (Token × Cursor × σ)} (hdrives : lexer.Drives cursor state steps)
    (hstate : alike state state') :
    ∃ steps', lexer.Drives cursor state' steps' ∧
      List.Forall₂ (SameStep alike) steps steps' := by
  induction hdrives generalizing state' with
  | done hend => exact ⟨[], .done hend, .nil⟩
  | @more cursor state steps hend hrest ih =>
      have hstep := h.stepOn cursor hstate
      obtain ⟨steps', hdrives', hsteps⟩ := ih hstep.state_alike
      rw [hstep.cursor_eq] at hdrives'
      exact ⟨_, .more hend hdrives', .cons hstep hsteps⟩

theorem alike_lastState {state state' : σ} {steps steps' : List (Token × Cursor × σ)}
    (hstate : alike state state') (h : List.Forall₂ (SameStep alike) steps steps') :
    alike (lastState state steps) (lastState state' steps') := by
  induction h generalizing state state' with
  | nil => exact hstate
  | cons hstep _ ih =>
      rw [lastState_cons, lastState_cons]
      exact ih hstep.state_alike

theorem map_token_eq {steps steps' : List (Token × Cursor × σ)}
    (h : List.Forall₂ (SameStep alike) steps steps') :
    steps.map (·.1) = steps'.map (·.1) := by
  induction h with
  | nil => rfl
  | cons hstep _ ih => rw [List.map_cons, List.map_cons, hstep.token_eq, ih]

end Triptych.Lexer
