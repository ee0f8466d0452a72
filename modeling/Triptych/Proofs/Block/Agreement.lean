import Triptych.Proofs.Listing.Rows

/-!
# Three readings of a block

A block can be cut as a whole, its lines can be read by a tokenizer, and they can be
listed.  All three agree on which lines make up which segment: see
`segments_agree_of_split`.

The listing cuts lines in its own way, so it agrees only up to the line ends.  For a
text that is NO block the three do not agree, since a tokenizer does not count beyond
the last segment.
-/

namespace Triptych

open Text

namespace Tokenizer

variable {μ σ κ : Type}

/-- The lines that a tokenizer reads in a segment and that leave it in that segment. -/
def keptIn (tokenizer : Tokenizer μ σ κ) (kind : Segment) :
    List (List Char) → State μ σ κ → List (List Char)
  | [], _ => []
  | line :: others, state =>
      let after := tokenizer.stateAfter state line
      if state.segment = kind ∧ after.segment = state.segment then
        line :: keptIn tokenizer kind others after
      else keptIn tokenizer kind others after

/-- A segment is left at a sentinel line and nowhere else, as long as there is a segment
to move on to. -/
theorem keptIn_eq_linesIn (tokenizer : Tokenizer μ σ κ) (hforward : tokenizer.Forward)
    (kind : Segment) {lines : List (List Char)} {state : State μ σ κ}
    (hroom : state.segment.index + lines.countP isSentinel ≤ 2) :
    tokenizer.keptIn kind lines state = Segment.linesIn kind state.segment lines := by
  induction lines generalizing state with
  | nil => rfl
  | cons line others ih =>
      have hafter : (tokenizer.stateAfter state line).segment = _ :=
        tokenizer.segment_tokens hforward line state
      rw [keptIn, Segment.linesIn]
      by_cases hline : isSentinel line = true
      · rw [List.countP_cons_of_pos hline] at hroom
        rw [if_pos hline] at hafter ⊢
        have hindex : state.segment.advance.index = state.segment.index + 1 := by
          rw [Segment.index_advance]
          omega
        -- with room left the next segment is another one
        have hleft : state.segment.advance ≠ state.segment := by
          intro hsame
          rw [hsame] at hindex
          omega
        rw [if_neg (by simp [hafter, hleft]), ih (by rw [hafter]; omega), hafter]
      · rw [List.countP_cons_of_neg hline] at hroom
        rw [if_neg hline] at hafter ⊢
        have hrest := ih (by rw [hafter]; exact hroom)
        rw [hafter] at hrest
        by_cases hkind : state.segment = kind
        · rw [if_pos ⟨hkind, hafter⟩, if_pos hkind, hrest]
        · rw [if_neg (by simp [hkind]), if_neg hkind, hrest]

end Tokenizer

namespace Block

variable {μ σ κ : Type}

/-- The segments that a text is cut into hold the lines that a tokenizer reads in them,
and the lines that a listing labels with them. -/
theorem segments_agree_of_split {tokenizer : Tokenizer μ σ κ} (hforward : tokenizer.Forward)
    {raw : List Char} {block : Block} (h : split raw = .ok block) :
    (∀ kind, trim (joinLines (tokenizer.keptIn kind (pieces raw) tokenizer.start)) =
        block.get kind) ∧
      Listing.write tokenizer raw =
        (Listing.rows tokenizer raw).flatMap Listing.Row.text ∧
      (Listing.rows tokenizer raw).map Listing.Row.line = lines raw ∧
      (∀ row ∈ Listing.rows tokenizer raw, row.segment.isSome) ∧
      ∀ kind, trim (joinLines (Listing.linesLabelled kind (Listing.rows tokenizer raw))) =
        unifyLineEnds (block.get kind) := by
  obtain ⟨hroom, hget⟩ := get_eq_groupText h
  have hroom' : (lines raw).countP isSentinel ≤ 2 := by
    unfold lines
    rw [countP_linesOfPieces]
    exact hroom
  refine ⟨fun kind => ?_, Listing.write_eq_flatMap_rows tokenizer raw, ?_, ?_, fun kind => ?_⟩
  · have hstart : tokenizer.start.segment.index + (pieces raw).countP isSentinel ≤ 2 := by
      show 0 + (pieces raw).countP isSentinel ≤ 2
      omega
    rw [tokenizer.keptIn_eq_linesIn hforward kind hstart, hget]
    show trim (joinLines (Segment.linesIn kind .markup (pieces raw))) = _
    rw [Segment.linesIn_markup hroom]
    rfl
  · rw [Listing.rows_eq_rowsAfter, Listing.map_line_rowsAfter]
  · intro row hrow
    rw [Listing.rows_eq_rowsAfter] at hrow
    exact Listing.isSome_segment_of_mem_rowsAfter hrow
  · rw [Listing.rows_eq_rowsAfter, Listing.linesLabelled_rowsAfter tokenizer hforward, hget,
      ← groupText_lines]
    show trim (joinLines (Segment.linesIn kind .markup (lines raw))) = _
    rw [Segment.linesIn_markup hroom']
    rfl

/-- The sentinel stands in an open comment, and the lines end with carriage returns. -/
theorem segments_agree_in_comment :
    split "<!--\r\n ---*---\r\na\r\nb\r\n".toList = .ok ⟨"<!--".toList, "a\r\nb".toList, []⟩ ∧
      trim (joinLines (Tokenizer.standard.keptIn .style
        (pieces "<!--\r\n ---*---\r\na\r\nb\r\n".toList) Tokenizer.standard.start)) =
        "a\r\nb".toList ∧
      trim (joinLines (Listing.linesLabelled .style
        (Listing.rows Tokenizer.standard "<!--\r\n ---*---\r\na\r\nb\r\n".toList))) =
        "a\nb".toList := by
  have hsplit : split "<!--\r\n ---*---\r\na\r\nb\r\n".toList =
      .ok ⟨"<!--".toList, "a\r\nb".toList, []⟩ := by
    rw [split_eq_ofPieces_texts]
    rfl
  obtain ⟨hkept, -, -, -, hlabelled⟩ :=
    segments_agree_of_split Tokenizer.standard_forward hsplit
  exact ⟨hsplit, hkept .style, hlabelled .style⟩

end Block

end Triptych
