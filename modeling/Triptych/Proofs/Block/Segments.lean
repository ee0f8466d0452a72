import Triptych.Proofs.Block.LineEnds
import Triptych.Proofs.Tokenizer.Lines

/-!
# The lines of a segment

Reading lines one after the other, one is in some segment, and a sentinel line moves on
to the next.  As long as there is room for the sentinel lines, the lines that are read
in a segment are a group of lines, the groups and the segments being counted alike.

Without this room the statement is NOT true: the script is never left, so that it
would take all groups from the third on.
-/

namespace Triptych

open Text

namespace Segment

/-- The lines that are read in the segment `kind` if reading starts in the segment
`first`, without the sentinel lines. -/
def linesIn (kind : Segment) : Segment → List (List Char) → List (List Char)
  | _, [] => []
  | first, line :: others =>
      if isSentinel line then linesIn kind first.advance others
      else if first = kind then line :: linesIn kind first others
      else linesIn kind first others

theorem linesIn_eq_group {kind first : Segment} {lines : List (List Char)}
    (hroom : first.index + lines.countP isSentinel ≤ 2) :
    linesIn kind first lines =
      if kind.index < first.index then []
      else Block.group lines (kind.index - first.index) := by
  induction lines generalizing first with
  | nil =>
      rw [Block.group_nil, ite_self]
      rfl
  | cons line others ih =>
      rw [linesIn, Block.group_cons]
      cases hline : isSentinel line with
      | true =>
          -- the room is needed here: the segment that follows counts one more
          rw [List.countP_cons_of_pos hline] at hroom
          have hindex : first.advance.index = first.index + 1 := by
            rw [index_advance]
            omega
          rw [if_pos rfl, ih (by omega), hindex]
          rcases Nat.lt_trichotomy kind.index first.index with h | h | h
          · have hlater : kind.index < first.index + 1 := by omega
            rw [if_pos hlater, if_pos h]
          · have hlater : kind.index < first.index + 1 := by omega
            have hzero : kind.index - first.index = 0 := by omega
            rw [if_pos hlater, if_neg (by omega), hzero]
          · have hnot : ¬ kind.index < first.index + 1 := by omega
            have hsucc : kind.index - first.index = kind.index - (first.index + 1) + 1 := by omega
            rw [if_neg hnot, if_neg (by omega), hsucc]
      | false =>
          rw [List.countP_cons_of_neg (by simp [hline])] at hroom
          rw [if_neg (by simp), ih hroom]
          -- the line goes to the segment that is being read and to no other
          rcases Nat.lt_trichotomy kind.index first.index with h | h | h
          · have hne : ¬ first = kind := by
              rintro rfl
              omega
            rw [if_neg hne, if_pos h, if_pos h]
          · have hnot : ¬ kind.index < first.index := by omega
            have hzero : kind.index - first.index = 0 := by omega
            rw [if_pos (index_injective h.symm), if_neg hnot, if_neg hnot, hzero]
          · have hnot : ¬ kind.index < first.index := by omega
            have hne : ¬ first = kind := by
              rintro rfl
              omega
            have hsucc : kind.index - first.index = kind.index - (first.index + 1) + 1 := by omega
            rw [if_neg hne, if_neg hnot, if_neg hnot, hsucc]

/-- From the start of a block on. -/
theorem linesIn_markup {lines : List (List Char)} (hroom : lines.countP isSentinel ≤ 2)
    (kind : Segment) : linesIn kind .markup lines = Block.group lines kind.index := by
  have hstart : Segment.markup.index + lines.countP isSentinel ≤ 2 := by
    show 0 + lines.countP isSentinel ≤ 2
    omega
  rw [linesIn_eq_group hstart]
  rfl

end Segment

end Triptych
