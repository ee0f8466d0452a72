import Triptych.Cursor
import Triptych.Proofs.Text.Offsets

/-!
# Where a cursor stands

A cursor cuts its line in three: the text before the token that is being read, what has
been read of the token, and what is left.  `Stands` says this in characters where the
cursor says it in bytes, so a cursor that stands somewhere is on boundaries.

Each operation takes characters from the front of what is left, or none.  A target
inside a character is NOT where a move ends: the whole character is taken.
-/

namespace Triptych

open Text

namespace Cursor

/-- The line is `front`, what has been read of the token, and what is left. -/
structure Stands (cursor : Cursor) (front token back : List Char) : Prop where
  line_eq : cursor.line = front ++ token ++ back
  start_eq : cursor.start = byteSize front
  pos_eq : cursor.pos = byteSize (front ++ token)

theorem stands_ofLine (line : List Char) : (ofLine line).Stands [] [] line :=
  ⟨rfl, rfl, rfl⟩

section Stands

variable {cursor : Cursor} {front token back : List Char}

theorem Stands.byteSize_line (h : cursor.Stands front token back) :
    byteSize cursor.line = cursor.pos + byteSize back := by
  rw [h.line_eq, h.pos_eq, byteSize_append]

/-! ## What the cursor sees -/

theorem Stands.between?_eq (h : cursor.Stands front token back) :
    between? cursor.line cursor.start cursor.pos = some token := by
  rw [h.line_eq, h.start_eq, h.pos_eq, between?_append]

theorem Stands.current_eq (h : cursor.Stands front token back) : cursor.current = token := by
  unfold current
  rw [h.between?_eq]
  rfl

theorem Stands.rest_eq (h : cursor.Stands front token back) : cursor.rest = back := by
  unfold rest from?
  rw [h.line_eq, h.pos_eq, splitAt?_append]
  rfl

theorem Stands.left_eq (h : cursor.Stands front token back) : cursor.left = byteSize back := by
  unfold left
  rw [h.byteSize_line]
  omega

theorem Stands.atEnd_iff (h : cursor.Stands front token back) :
    cursor.atEnd = true ↔ back = [] := by
  unfold atEnd
  rw [decide_eq_true_iff, h.byteSize_line]
  constructor
  · intro hsize
    by_cases hback : back = []
    · exact hback
    · have := byteSize_pos hback
      omega
  · rintro rfl
    rw [byteSize_nil]
    omega

theorem Stands.atEnd_eq_false_iff (h : cursor.Stands front token back) :
    cursor.atEnd = false ↔ back ≠ [] := by
  rw [← Bool.not_eq_true, h.atEnd_iff]

/-- The token starts at a boundary. -/
theorem Stands.isBoundary_start (h : cursor.Stands front token back) :
    isBoundary cursor.line cursor.start = true := by
  rw [h.line_eq, h.start_eq, List.append_assoc, isBoundary_append]

/-- The cursor is on a boundary. -/
theorem Stands.isBoundary_pos (h : cursor.Stands front token back) :
    isBoundary cursor.line cursor.pos = true := by
  rw [h.line_eq, h.pos_eq, isBoundary_append]

/-! ## What the operations take -/

theorem Stands.beginToken (h : cursor.Stands front token back) :
    cursor.beginToken.Stands (front ++ token) [] back := by
  refine ⟨?_, h.pos_eq, ?_⟩
  · rw [List.append_nil]
    exact h.line_eq
  · rw [List.append_nil]
    exact h.pos_eq

theorem Stands.skipToEnd (h : cursor.Stands front token back) :
    cursor.skipToEnd.Stands front (token ++ back) [] := by
  have hline : cursor.line = front ++ (token ++ back) := by
    rw [h.line_eq, List.append_assoc]
  refine ⟨?_, h.start_eq, ?_⟩
  · rw [List.append_nil]
    exact hline
  · show byteSize cursor.line = _
    rw [hline]

theorem Stands.nextChar_cons {c : Char} (h : cursor.Stands front token (c :: back)) :
    cursor.nextChar.1 = some c ∧ cursor.nextChar.2.Stands front (token ++ [c]) back := by
  have hpeek : cursor.peek? = some c := by
    unfold peek?
    rw [h.rest_eq]
    rfl
  unfold nextChar
  rw [hpeek]
  refine ⟨rfl, ?_, h.start_eq, ?_⟩
  · show cursor.line = _
    rw [h.line_eq]
    simp
  · show cursor.pos + c.utf8Size = _
    rw [h.pos_eq, ← List.append_assoc, byteSize_append _ [c], byteSize, byteSize_nil, Nat.add_zero]

theorem Stands.nextChar_nil (h : cursor.Stands front token []) :
    cursor.nextChar = (none, cursor) := by
  have hpeek : cursor.peek? = none := by
    unfold peek?
    rw [h.rest_eq]
    rfl
  unfold nextChar
  rw [hpeek]

/-- Moving on to a target takes whole characters, wherever the target is. -/
theorem Stands.advanceTo (h : cursor.Stands front token back) (target : Nat) :
    ∃ more rest, back = more ++ rest ∧
      (cursor.advanceTo target).Stands front (token ++ more) rest := by
  have hsize := h.byteSize_line
  have hline : cursor.line = (front ++ token) ++ back := h.line_eq
  obtain ⟨n, hn⟩ : ∃ n, n = max cursor.pos (min target (byteSize cursor.line)) := ⟨_, rfl⟩
  have hle : byteSize (front ++ token) ≤ n := by
    rw [← h.pos_eq, hn]
    omega
  have hrest : n - byteSize (front ++ token) ≤ byteSize back := by
    rw [← h.pos_eq]
    omega
  obtain ⟨more, rest, rfl, hround⟩ := exists_roundUp_eq hrest
  refine ⟨more, rest, rfl, ?_, h.start_eq, ?_⟩
  · show cursor.line = _
    rw [hline]
    simp
  · show roundUp cursor.line _ = _
    rw [← hn, hline, roundUp_append _ hle, hround, ← byteSize_append, List.append_assoc]

/-- Moving on to a boundary leads there, unless it is behind the cursor. -/
theorem advanceTo_boundary {cursor : Cursor} {front back : List Char}
    (hline : cursor.line = front ++ back) (hpos : cursor.pos ≤ byteSize front) :
    cursor.advanceTo (byteSize front) = { cursor with pos := byteSize front } := by
  have htarget : max cursor.pos (min (byteSize front) (byteSize cursor.line)) = byteSize front := by
    rw [hline, byteSize_append]
    omega
  unfold Cursor.advanceTo
  rw [htarget, hline, roundUp_byteSize]

/-- Moving on to a boundary takes what stands before it. -/
theorem Stands.advanceTo_append {more rest : List Char}
    (h : cursor.Stands front token (more ++ rest)) :
    (cursor.advanceTo (byteSize (front ++ token ++ more))).Stands front (token ++ more) rest := by
  have hline : cursor.line = (front ++ token ++ more) ++ rest := by
    rw [h.line_eq, List.append_assoc (front ++ token)]
  have hpos : cursor.pos ≤ byteSize (front ++ token ++ more) := by
    rw [h.pos_eq, byteSize_append (front ++ token) more]
    omega
  rw [advanceTo_boundary hline hpos]
  exact ⟨by simpa using hline, h.start_eq, by simp⟩

/-- A cursor that has read something of the token is not stalled. -/
theorem Stands.isStalled_eq_false (h : cursor.Stands front token back) (htoken : token ≠ []) :
    cursor.isStalled = false := by
  have hmoved : cursor.pos ≠ cursor.start := by
    have := byteSize_pos htoken
    rw [h.pos_eq, h.start_eq, byteSize_append]
    omega
  unfold isStalled
  rw [beq_false_of_ne hmoved, Bool.false_and]

theorem Stands.bumpIfStalled_of_ne_nil (h : cursor.Stands front token back) (htoken : token ≠ []) :
    cursor.bumpIfStalled = cursor := by
  unfold bumpIfStalled
  rw [if_neg (by simp [h.isStalled_eq_false htoken])]

/-- A stalled cursor takes one character. -/
theorem Stands.bumpIfStalled_cons {c : Char} (h : cursor.Stands front [] (c :: back)) :
    cursor.bumpIfStalled.Stands front [c] back := by
  have hstalled : cursor.isStalled = true := by
    have hpos : cursor.pos = cursor.start := by
      rw [h.pos_eq, h.start_eq, List.append_nil]
    unfold isStalled
    rw [h.atEnd_eq_false_iff.mpr (List.cons_ne_nil c back)]
    simp [hpos]
  unfold bumpIfStalled
  rw [if_pos hstalled]
  exact h.nextChar_cons.2

/-- Whatever has been read of the token, after this it is not empty unless the line ends. -/
theorem Stands.bumpIfStalled (h : cursor.Stands front token back) (hmore : token ++ back ≠ []) :
    ∃ text rest, token ++ back = text ++ rest ∧ text ≠ [] ∧
      cursor.bumpIfStalled.Stands front text rest := by
  by_cases htoken : token = []
  · subst htoken
    obtain ⟨c, rest, rfl⟩ := List.exists_cons_of_ne_nil hmore
    exact ⟨[c], rest, rfl, List.cons_ne_nil c [], h.bumpIfStalled_cons⟩
  · refine ⟨token, back, rfl, htoken, ?_⟩
    rw [h.bumpIfStalled_of_ne_nil htoken]
    exact h

end Stands

/-! ## Moves -/

/-- What may be done to a cursor to read on. -/
inductive Move where
  | advanceTo (target : Nat)
  | nextChar
  | skipToEnd
  deriving DecidableEq, Repr

/-- The cursor after a move. -/
def move (cursor : Cursor) : Move → Cursor
  | .advanceTo target => cursor.advanceTo target
  | .nextChar => cursor.nextChar.2
  | .skipToEnd => cursor.skipToEnd

theorem move_line (cursor : Cursor) (step : Move) : (cursor.move step).line = cursor.line := by
  cases step with
  | advanceTo target => rfl
  | nextChar =>
      show cursor.nextChar.2.line = cursor.line
      unfold nextChar
      cases cursor.peek? <;> rfl
  | skipToEnd => rfl

/-- No move leaves the line. -/
theorem foldl_move_line (cursor : Cursor) (moves : List Move) :
    (moves.foldl move cursor).line = cursor.line := by
  induction moves generalizing cursor with
  | nil => rfl
  | cons step moves ih => rw [List.foldl_cons, ih, move_line]

/-- A move takes some of what is left, from its front. -/
theorem Stands.move {cursor : Cursor} {front token back : List Char}
    (h : cursor.Stands front token back) (step : Move) :
    ∃ more rest, back = more ++ rest ∧ (cursor.move step).Stands front (token ++ more) rest := by
  cases step with
  | advanceTo target => exact h.advanceTo target
  | nextChar =>
      cases back with
      | nil =>
          refine ⟨[], [], rfl, ?_⟩
          rw [List.append_nil]
          show cursor.nextChar.2.Stands front token []
          rw [h.nextChar_nil]
          exact h
      | cons c back => exact ⟨[c], back, rfl, h.nextChar_cons.2⟩
  | skipToEnd => exact ⟨back, [], (List.append_nil back).symm, h.skipToEnd⟩

/-- Any number of moves take some of what is left, from its front. -/
theorem Stands.foldl_move {cursor : Cursor} {front token back : List Char}
    (h : cursor.Stands front token back) (moves : List Move) :
    ∃ more rest, back = more ++ rest ∧
      (moves.foldl Cursor.move cursor).Stands front (token ++ more) rest := by
  induction moves generalizing cursor token back with
  | nil => exact ⟨[], back, rfl, by rw [List.append_nil]; exact h⟩
  | cons first moves ih =>
      obtain ⟨more, rest, rfl, hfirst⟩ := h.move first
      obtain ⟨later, rest', rfl, hlater⟩ := ih hfirst
      refine ⟨more ++ later, rest', by rw [List.append_assoc], ?_⟩
      rw [← List.append_assoc token]
      exact hlater

end Cursor

end Triptych
