import Triptych.Proofs.Cursor.Moves
import Triptych.Proofs.Text.Rounding

/-!
# Whatever is done to a cursor

A cursor slices its line at its two positions, puts bounds on the targets it is given and
looks for boundaries byte by byte.  Each of these may fail, or not end, on a cursor that
stands nowhere.  `Performs` is what an operation does with nothing to fall back on: where a
slice or the bounds fail, or the loop does not end, there is no outcome.

A cursor that begins at the start of a line never comes to that.  After any operations it
cuts the line in three at boundaries, every operation has exactly one outcome, and none
leads back; see `invariant_after_operations`.
-/

namespace Triptych

open Text

namespace Cursor

/-! ## What is done -/

/-- What may be done to a cursor. -/
inductive Operation where
  | move (step : Move)
  | beginToken
  | bumpIfStalled
  deriving DecidableEq, Repr

/-- The cursor after an operation. -/
def perform (cursor : Cursor) : Operation → Cursor
  | .move step => cursor.move step
  | .beginToken => cursor.beginToken
  | .bumpIfStalled => cursor.bumpIfStalled

/-- What an operation does by slices that may fail, bounds that may be in the wrong order,
and a loop that need not end. -/
inductive Performs (cursor : Cursor) : Operation → Cursor → Prop where
  | beginToken : Performs cursor .beginToken { cursor with start := cursor.pos }
  | skipToEnd : Performs cursor (.move .skipToEnd) { cursor with pos := byteSize cursor.line }
  | nextChar {c : Char} {rest : List Char}
      (hrest : from? cursor.line cursor.pos = some (c :: rest)) :
      Performs cursor (.move .nextChar) { cursor with pos := cursor.pos + c.utf8Size }
  | noChar (hrest : from? cursor.line cursor.pos = some []) :
      Performs cursor (.move .nextChar) cursor
  | advanceTo {target n pos : Nat}
      (hbounds : clamp? cursor.pos (byteSize cursor.line) target = some n)
      (hround : RoundsUp cursor.line n pos) :
      Performs cursor (.move (.advanceTo target)) { cursor with pos := pos }
  | bump {next : Cursor} (hstart : cursor.pos = cursor.start)
      (hleft : cursor.pos < byteSize cursor.line)
      (hnext : Performs cursor (.move .nextChar) next) : Performs cursor .bumpIfStalled next
  | stay (h : cursor.pos = cursor.start → byteSize cursor.line ≤ cursor.pos) :
      Performs cursor .bumpIfStalled cursor

/-! ## What a cursor keeps -/

/-- The cursor cuts a line in three at boundaries. -/
structure WellPlaced (cursor : Cursor) (line : List Char) : Prop where
  line_eq : cursor.line = line
  start_le_pos : cursor.start ≤ cursor.pos
  pos_le : cursor.pos ≤ byteSize line
  isBoundary_start : isBoundary line cursor.start = true
  isBoundary_pos : isBoundary line cursor.pos = true
  /-- Slicing gives the three parts, and they make up the line. -/
  slices : ∃ front, between? line 0 cursor.start = some front ∧
    between? line cursor.start cursor.pos = some cursor.current ∧
    from? line cursor.pos = some cursor.rest ∧ front ++ cursor.current ++ cursor.rest = line
  atEnd_iff : cursor.atEnd = true ↔ cursor.rest = []

section Stands

variable {cursor : Cursor} {front token back : List Char}

theorem Stands.from?_eq (h : cursor.Stands front token back) :
    from? cursor.line cursor.pos = some back := by
  rw [h.line_eq, h.pos_eq, from?, splitAt?_append, Option.map_some]

theorem Stands.start_le_pos (h : cursor.Stands front token back) : cursor.start ≤ cursor.pos := by
  rw [h.start_eq, h.pos_eq, byteSize_append]
  omega

theorem Stands.pos_le (h : cursor.Stands front token back) :
    cursor.pos ≤ byteSize cursor.line := by
  rw [h.byteSize_line]
  omega

theorem Stands.pos_eq_start_iff (h : cursor.Stands front token back) :
    cursor.pos = cursor.start ↔ token = [] := by
  rw [h.pos_eq, h.start_eq, byteSize_append]
  constructor
  · intro heq
    by_contra hne
    have := byteSize_pos hne
    omega
  · rintro rfl
    simp [byteSize_nil]

theorem Stands.isStalled_iff (h : cursor.Stands front token back) :
    cursor.isStalled = true ↔ token = [] ∧ back ≠ [] := by
  unfold isStalled
  rw [Bool.and_eq_true, beq_iff_eq, h.pos_eq_start_iff, Bool.not_eq_true', h.atEnd_eq_false_iff]

theorem Stands.bumpIfStalled_of_not (h : cursor.Stands front token back)
    (hmoved : ¬ (token = [] ∧ back ≠ [])) : cursor.bumpIfStalled = cursor := by
  unfold Cursor.bumpIfStalled
  rw [if_neg (mt h.isStalled_iff.mp hmoved)]

theorem Stands.bumpIfStalled_ne_iff (h : cursor.Stands front token back) :
    cursor.bumpIfStalled ≠ cursor ↔ cursor.current = [] ∧ cursor.rest ≠ [] := by
  rw [h.current_eq, h.rest_eq]
  constructor
  · intro hmoved
    by_contra hstalled
    exact hmoved (h.bumpIfStalled_of_not hstalled)
  · rintro ⟨rfl, hback⟩ heq
    obtain ⟨c, rest, rfl⟩ := List.exists_cons_of_ne_nil hback
    have hcurrent := h.bumpIfStalled_cons.current_eq
    rw [heq, h.current_eq] at hcurrent
    simp at hcurrent

/-- A cursor that is bumped takes one character. -/
theorem Stands.exists_bumped (h : cursor.Stands front token back)
    (hmoved : cursor.bumpIfStalled ≠ cursor) :
    ∃ c, cursor.bumpIfStalled.current = [c] ∧ cursor.rest = c :: cursor.bumpIfStalled.rest := by
  have hstalled := h.bumpIfStalled_ne_iff.mp hmoved
  rw [h.current_eq, h.rest_eq] at hstalled
  obtain ⟨rfl, hback⟩ := hstalled
  obtain ⟨c, rest, rfl⟩ := List.exists_cons_of_ne_nil hback
  have hbump := h.bumpIfStalled_cons
  exact ⟨c, hbump.current_eq, by rw [h.rest_eq, hbump.rest_eq]⟩

theorem Stands.wellPlaced (h : cursor.Stands front token back) :
    cursor.WellPlaced cursor.line where
  line_eq := rfl
  start_le_pos := h.start_le_pos
  pos_le := h.pos_le
  isBoundary_start := h.isBoundary_start
  isBoundary_pos := h.isBoundary_pos
  slices := by
    refine ⟨front, ?_, ?_, ?_, ?_⟩
    · have hfront := between?_append [] front (token ++ back)
      rw [h.start_eq, h.line_eq, List.append_assoc]
      exact hfront
    · rw [h.current_eq, h.between?_eq]
    · rw [h.rest_eq, h.from?_eq]
    · rw [h.current_eq, h.rest_eq, h.line_eq]
  atEnd_iff := by rw [h.rest_eq, h.atEnd_iff]

/-! ## One operation -/

/-- An operation takes some of what is left, from its front, or begins a token. -/
theorem Stands.perform (h : cursor.Stands front token back) (operation : Operation) :
    ∃ front' token' more back', front' ++ token' = front ++ token ++ more ∧
      back = more ++ back' ∧ (cursor.perform operation).Stands front' token' back' := by
  cases operation with
  | move step =>
      obtain ⟨more, rest, hback, hmove⟩ := h.move step
      exact ⟨front, token ++ more, more, rest, by simp, hback, hmove⟩
  | beginToken => exact ⟨front ++ token, [], [], back, by simp, rfl, h.beginToken⟩
  | bumpIfStalled =>
      by_cases hstalled : token = [] ∧ back ≠ []
      · obtain ⟨rfl, hback⟩ := hstalled
        obtain ⟨c, rest, rfl⟩ := List.exists_cons_of_ne_nil hback
        exact ⟨front, [c], [c], rest, by simp, rfl, h.bumpIfStalled_cons⟩
      · refine ⟨front, token, [], back, by simp, rfl, ?_⟩
        show cursor.bumpIfStalled.Stands front token back
        rw [h.bumpIfStalled_of_not hstalled]
        exact h

/-- No operation leads back. -/
theorem Stands.pos_le_perform (h : cursor.Stands front token back) (operation : Operation) :
    cursor.pos ≤ (cursor.perform operation).pos := by
  obtain ⟨front', token', more, back', hread, -, hafter⟩ := h.perform operation
  rw [h.pos_eq, hafter.pos_eq, hread, byteSize_append (front ++ token)]
  omega

theorem Stands.performs_nextChar_iff (h : cursor.Stands front token back) {next : Cursor} :
    Performs cursor (.move .nextChar) next ↔ next = cursor.nextChar.2 := by
  have hrest := h.from?_eq
  constructor
  · intro hnext
    cases hnext with
    | nextChar htail =>
        obtain rfl := Option.some.inj (hrest.symm.trans htail)
        simp [Cursor.nextChar, peek?, h.rest_eq]
    | noChar htail =>
        obtain rfl := Option.some.inj (hrest.symm.trans htail)
        rw [h.nextChar_nil]
  · rintro rfl
    cases back with
    | nil =>
        rw [h.nextChar_nil]
        exact .noChar hrest
    | cons c back =>
        have hnext : cursor.nextChar.2 = { cursor with pos := cursor.pos + c.utf8Size } := by
          simp [Cursor.nextChar, peek?, h.rest_eq]
        rw [hnext]
        exact .nextChar hrest

/-- The bounds are in the right order, and the loop ends at one offset. -/
theorem Stands.performs_advanceTo_iff (h : cursor.Stands front token back) {target : Nat}
    {next : Cursor} :
    Performs cursor (.move (.advanceTo target)) next ↔ next = cursor.advanceTo target := by
  have hclamp := clamp?_eq h.pos_le target
  have hbounded : max cursor.pos (min target (byteSize cursor.line)) ≤ byteSize cursor.line := by
    have := h.pos_le
    omega
  constructor
  · intro hnext
    cases hnext with
    | advanceTo hbounds hround =>
        obtain rfl := Option.some.inj (hclamp.symm.trans hbounds)
        rw [(roundsUp_iff hbounded).mp hround]
        rfl
  · rintro rfl
    exact .advanceTo hclamp ((roundsUp_iff hbounded).mpr rfl)

/-- An operation has one outcome: no slice and no bounds fail, and the loop ends. -/
theorem Stands.performs_iff (h : cursor.Stands front token back) (operation : Operation)
    (next : Cursor) : Performs cursor operation next ↔ next = cursor.perform operation := by
  cases operation with
  | beginToken =>
      constructor
      · rintro ⟨⟩
        rfl
      · rintro rfl
        exact .beginToken
  | move step =>
      cases step with
      | advanceTo target => exact h.performs_advanceTo_iff
      | nextChar => exact h.performs_nextChar_iff
      | skipToEnd =>
          constructor
          · rintro ⟨⟩
            rfl
          · rintro rfl
            exact .skipToEnd
  | bumpIfStalled =>
      have hstart := h.pos_eq_start_iff
      have hsize := h.byteSize_line
      show _ ↔ next = cursor.bumpIfStalled
      by_cases hstalled : token = [] ∧ back ≠ []
      · have hback := byteSize_pos hstalled.2
        have hbump : cursor.bumpIfStalled = cursor.nextChar.2 := by
          unfold Cursor.bumpIfStalled
          rw [if_pos (h.isStalled_iff.mpr hstalled)]
        rw [hbump, ← h.performs_nextChar_iff]
        constructor
        · intro hnext
          cases hnext with
          | bump _ _ hchar => exact hchar
          | stay hend =>
              have := hend (hstart.mpr hstalled.1)
              omega
        · exact .bump (hstart.mpr hstalled.1) (by omega)
      · rw [h.bumpIfStalled_of_not hstalled]
        -- with an empty token nothing is left, as the cursor is not stalled
        have hend : cursor.pos = cursor.start → byteSize cursor.line ≤ cursor.pos := by
          intro heq
          have hback : back = [] := by
            by_contra hback
            exact hstalled ⟨hstart.mp heq, hback⟩
          rw [hsize, hback, byteSize_nil]
          omega
        constructor
        · intro hnext
          cases hnext with
          | bump hpos hleft _ =>
              have := hend hpos
              omega
          | stay _ => rfl
        · rintro rfl
          exact .stay hend

end Stands

/-! ## Any number of operations -/

theorem perform_line (cursor : Cursor) (operation : Operation) :
    (cursor.perform operation).line = cursor.line := by
  cases operation with
  | move step => exact move_line cursor step
  | beginToken => rfl
  | bumpIfStalled =>
      show cursor.bumpIfStalled.line = cursor.line
      unfold Cursor.bumpIfStalled
      split
      · exact move_line cursor .nextChar
      · rfl

theorem foldl_perform_line (cursor : Cursor) (operations : List Operation) :
    (operations.foldl perform cursor).line = cursor.line := by
  induction operations generalizing cursor with
  | nil => rfl
  | cons operation operations ih => rw [List.foldl_cons, ih, perform_line]

/-- After any operations the cursor stands somewhere. -/
theorem Stands.foldl_perform {cursor : Cursor} {front token back : List Char}
    (h : cursor.Stands front token back) (operations : List Operation) :
    ∃ front' token' back', (operations.foldl Cursor.perform cursor).Stands front' token' back' := by
  induction operations generalizing cursor front token back with
  | nil => exact ⟨front, token, back, h⟩
  | cons operation operations ih =>
      obtain ⟨front', token', more, back', -, -, hafter⟩ := h.perform operation
      exact ih hafter

/-- Whatever is done to a cursor from the start of a line on: it cuts the line in three at
boundaries, every operation has one outcome and none leads back, moving on to a target leads
to the least boundary that is not before it, and a stalled cursor takes one character while
any other one stays. -/
theorem invariant_after_operations (line : List Char) (operations : List Operation) :
    let cursor := operations.foldl perform (ofLine line)
    cursor.WellPlaced line ∧
      (∀ operation next, Performs cursor operation next ↔ next = cursor.perform operation) ∧
      (∀ operation, cursor.pos ≤ (cursor.perform operation).pos) ∧
      (∀ target,
        clamp? cursor.pos (byteSize line) target =
            some (max cursor.pos (min target (byteSize line))) ∧
          IsLeast (boundariesFrom line (max cursor.pos (min target (byteSize line))))
            (cursor.advanceTo target).pos) ∧
      (cursor.bumpIfStalled ≠ cursor ↔ cursor.current = [] ∧ cursor.rest ≠ []) ∧
      (cursor.bumpIfStalled ≠ cursor → ∃ c, cursor.bumpIfStalled.current = [c] ∧
        cursor.rest = c :: cursor.bumpIfStalled.rest) := by
  intro cursor
  have hline : cursor.line = line := foldl_perform_line (ofLine line) operations
  obtain ⟨front, token, back, hstands⟩ := (stands_ofLine line).foldl_perform operations
  have h : cursor.Stands front token back := hstands
  have hplaced := h.wellPlaced
  rw [hline] at hplaced
  refine ⟨hplaced, h.performs_iff, h.pos_le_perform, ?_, h.bumpIfStalled_ne_iff, h.exists_bumped⟩
  intro target
  have hpos := hplaced.pos_le
  refine ⟨clamp?_eq hpos target, ?_⟩
  show IsLeast _ (roundUp cursor.line (max cursor.pos (min target (byteSize cursor.line))))
  rw [hline]
  exact isLeast_roundUp (by omega)

/-- A target inside a character leads behind it, and a stalled cursor takes all of it. -/
example :
    ([.bumpIfStalled, .beginToken, .move (.advanceTo 2)].foldl perform
      (ofLine ['é', '→', 'x'])) = ⟨['é', '→', 'x'], 2, 2⟩ ∧
    ((ofLine ['é', '→', 'x']).advanceTo 3).pos = 5 := by
  decide

end Cursor

end Triptych
