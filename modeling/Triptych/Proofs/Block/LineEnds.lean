import Triptych.Proofs.Block.Split
import Triptych.Proofs.Text.LineEnds

/-!
# Blocks with carriage returns

The two ways of cutting a text into lines find the same sentinel lines, and the same
texts between them up to the line ends.

The lines in the groups are NOT the same: a last piece without anything in it is no
line, and a last line keeps its carriage return.  Both stand at the end of a group, so
trimming takes them away.
-/

namespace Triptych

open Text

namespace Block

theorem isSentinel_dropReturn (line : List Char) : isSentinel (dropReturn line) = isSentinel line :=
  isSentinel_congr (trim_dropReturn line)

/-- Lines without their carriage returns are grouped as they were. -/
theorem group_map_dropReturn (lines : List (List Char)) (k : Nat) :
    group (lines.map dropReturn) k = (group lines k).map dropReturn := by
  induction lines generalizing k with
  | nil => simp [group_nil]
  | cons line rest ih =>
      rw [List.map_cons, group_cons, group_cons, isSentinel_dropReturn]
      cases isSentinel line with
      | true =>
          cases k with
          | zero => rfl
          | succ k => exact ih k
      | false =>
          cases k with
          | zero => exact congrArg (dropReturn line :: ·) (ih 0)
          | succ k => exact ih (k + 1)

/-- Two texts that differ in blanks at the end and in nothing else. -/
def SameButEnd (s t : List Char) : Prop :=
  ∃ front back back', Blank back ∧ Blank back' ∧ s = front ++ back ∧ t = front ++ back'

theorem SameButEnd.refl (s : List Char) : SameButEnd s s :=
  ⟨s, [], [], blank_nil, blank_nil, (List.append_nil s).symm, (List.append_nil s).symm⟩

theorem SameButEnd.append_left {s t : List Char} (h : SameButEnd s t) (u : List Char) :
    SameButEnd (u ++ s) (u ++ t) := by
  obtain ⟨front, back, back', hback, hback', rfl, rfl⟩ := h
  exact ⟨u ++ front, back, back', hback, hback', by simp, by simp⟩

theorem SameButEnd.endLines_cons {lines lines' : List (List Char)}
    (h : SameButEnd (endLines lines) (endLines lines')) (line : List Char) :
    SameButEnd (endLines (line :: lines)) (endLines (line :: lines')) := by
  rw [Text.endLines_cons, Text.endLines_cons]
  exact (h.append_left ['\n']).append_left line

theorem SameButEnd.trim_eq {s t : List Char} (h : SameButEnd s t) : trim s = trim t := by
  obtain ⟨front, back, back', hback, hback', rfl, rfl⟩ := h
  rw [trim_append_right hback, trim_append_right hback']

/-- One line differs from the same line without its carriage return, if it is the last. -/
theorem sameButEnd_group_last (last : List Char) (k : Nat) :
    SameButEnd (endLines (group (linesOfPieces [last]) k))
      (endLines (group [dropReturn last] k)) := by
  -- an empty last piece is no line, any other is one
  by_cases hempty : last = []
  · subst hempty
    show SameButEnd (endLines (group [] k)) (endLines (group [[]] k))
    rw [group_nil]
    cases k with
    | zero => exact ⟨[], [], ['\n'], blank_nil, blank_lineFeed, rfl, rfl⟩
    | succ k => exact .refl _
  · have hlines : linesOfPieces [last] = [last] := by simp [linesOfPieces, hempty]
    rw [hlines, group_cons, group_cons, isSentinel_dropReturn, group_nil]
    cases isSentinel last with
    | true =>
        cases k with
        | zero => exact .refl _
        | succ k => exact .refl _
    | false =>
        cases k with
        | zero =>
            obtain ⟨back, hback, hsplit⟩ := exists_dropReturn_append last
            refine ⟨dropReturn last, back ++ ['\n'], ['\n'],
              blank_append.mpr ⟨hback, blank_lineFeed⟩, blank_lineFeed, ?_, ?_⟩
            · rw [← List.append_assoc, ← hsplit]
              exact endLines_cons last []
            · exact endLines_cons (dropReturn last) []
        | succ k => exact .refl _

/-- The groups of the lines of a text are those of its pieces without their carriage
returns, but for the end. -/
theorem sameButEnd_group_linesOfPieces (cut : List (List Char)) (k : Nat) :
    SameButEnd (endLines (group (linesOfPieces cut) k))
      (endLines (group (cut.map dropReturn) k)) := by
  -- on the pieces as `linesOfPieces` takes them: the last one alone, the others in front
  induction cut generalizing k with
  | nil => exact .refl _
  | cons piece others ih =>
      cases others with
      | nil => exact sameButEnd_group_last piece k
      | cons next others =>
          show SameButEnd (endLines (group (dropReturn piece :: _) k))
            (endLines (group (dropReturn piece :: _) k))
          rw [group_cons, group_cons]
          cases isSentinel (dropReturn piece) with
          | true =>
              cases k with
              | zero => exact .refl _
              | succ k => exact ih k
          | false =>
              cases k with
              | zero => exact (ih 0).endLines_cons (dropReturn piece)
              | succ k => exact ih (k + 1)

/-- The text of a group of the lines is that of the pieces, with unified line ends. -/
theorem groupText_lines (raw : List Char) (k : Nat) :
    groupText (lines raw) k = unifyLineEnds (groupText (pieces raw) k) := by
  have hfeed : ∀ line ∈ group (pieces raw) k, '\n' ∉ line := by
    intro line hline
    exact lineFeed_not_mem_of_mem_pieces (mem_of_mem_group hline).1
  calc
    groupText (lines raw) k = trim (endLines (group (lines raw) k)) := (trim_endLines _).symm
    _ = trim (endLines (group ((pieces raw).map dropReturn) k)) :=
      (sameButEnd_group_linesOfPieces (pieces raw) k).trim_eq
    _ = trim (joinLines ((group (pieces raw) k).map dropReturn)) := by
      rw [trim_endLines, group_map_dropReturn]
    _ = unifyLineEnds (groupText (pieces raw) k) := trim_joinLines_map_dropReturn hfeed

/-- The two ways of cutting find as many sentinel lines. -/
theorem countP_linesOfPieces (cut : List (List Char)) :
    (linesOfPieces cut).countP isSentinel = cut.countP isSentinel := by
  induction cut with
  | nil => rfl
  | cons piece others ih =>
      cases others with
      | nil =>
          by_cases hempty : piece = []
          · subst hempty
            rfl
          · simp [linesOfPieces, hempty]
      | cons next others =>
          show (dropReturn piece :: linesOfPieces (next :: others)).countP isSentinel = _
          rw [List.countP_cons, List.countP_cons, isSentinel_dropReturn, ih]

end Block

end Triptych
