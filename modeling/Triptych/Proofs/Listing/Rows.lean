import Triptych.Listing
import Triptych.Proofs.Block.Segments
import Triptych.Proofs.Session.Knowledge

/-!
# The rows of a listing

A listing is written row by row, and each row holds what the session answers for its
line.  The session never has to read a line a second time, so the rows are those that
one gets by following the state of the tokenizer from line to line.

A row tells the segment after its line, so a sentinel line is labelled with the segment
that it opens and NOT with the one that it ends.
-/

namespace Triptych

open Text

namespace Listing

variable {μ σ κ : Type}

/-- What one line of a listing tells. -/
structure Row where
  number : Nat
  segment : Option Segment
  line : List Char
  spans : List Span

/-- A row as it is written. -/
def Row.text (row : Row) : List Char :=
  entry row.number row.segment row.line row.spans

/-- The rows from a line on, with the session that knows the lines before it. -/
def rowsFrom (lines : List (List Char)) (session : Session μ σ κ) (index : Nat) :
    List (List Char) → List Row
  | [] => []
  | line :: rest =>
      let (spans, session) := session.highlight lines index
      ⟨index + 1, session.segmentAt? index, line, spans⟩ ::
        rowsFrom lines session (index + 1) rest

/-- The rows of the listing of a text. -/
def rows (tokenizer : Tokenizer μ σ κ) (text : List Char) : List Row :=
  rowsFrom (lines text) (.start tokenizer) 0 (lines text)

theorem entriesFrom_eq_flatMap (lines : List (List Char)) (session : Session μ σ κ) (index : Nat)
    (rest : List (List Char)) :
    entriesFrom lines session index rest = (rowsFrom lines session index rest).flatMap Row.text := by
  induction rest generalizing session index with
  | nil => rfl
  | cons line rest ih =>
      rw [rowsFrom, List.flatMap_cons, ← ih]
      rfl

/-- A listing is its rows and nothing else. -/
theorem write_eq_flatMap_rows (tokenizer : Tokenizer μ σ κ) (text : List Char) :
    write tokenizer text = (rows tokenizer text).flatMap Row.text :=
  entriesFrom_eq_flatMap (lines text) (.start tokenizer) 0 (lines text)

/-! ## The rows without a session -/

/-- The rows from a line on, with the state of the tokenizer before it. -/
def rowsAfter (tokenizer : Tokenizer μ σ κ) (index : Nat) (state : Tokenizer.State μ σ κ) :
    List (List Char) → List Row
  | [] => []
  | line :: rest =>
      let after := tokenizer.stateAfter state line
      ⟨index + 1, some after.segment, line, tokenizer.spansOf state line⟩ ::
        rowsAfter tokenizer (index + 1) after rest

theorem rowsFrom_ofLines (tokenizer : Tokenizer μ σ κ) (front rest : List (List Char)) :
    rowsFrom (front ++ rest) (.ofLines tokenizer front) front.length rest =
      rowsAfter tokenizer front.length (front.foldl tokenizer.stateAfter tokenizer.start) rest := by
  -- on the lines that are left, while those that the session has read grow by one
  induction rest generalizing front with
  | nil => rfl
  | cons line rest ih =>
      have hlt : front.length < (front ++ line :: rest).length := by simp
      have hfront : (front ++ line :: rest).take front.length = front := List.take_left
      have hmax : max front.length (front.length + 1) = front.length + 1 := by omega
      have hread : (Session.ofLines tokenizer front).highlight (front ++ line :: rest) front.length =
          (tokenizer.spansOf (front.foldl tokenizer.stateAfter tokenizer.start) line,
            .ofLines tokenizer ((front ++ line :: rest).take (front.length + 1))) := by
        have hanswer := Session.highlight_ofLines_take tokenizer (n := front.length) hlt
        rw [hfront, Session.ofLines_spans_append, hmax] at hanswer
        exact hanswer
      have hsplit : front ++ line :: rest = (front ++ [line]) ++ rest := by simp
      have hsegment : (Session.ofLines tokenizer
          ((front ++ line :: rest).take (front.length + 1))).segmentAt? front.length =
          some (tokenizer.stateAfter (front.foldl tokenizer.stateAfter tokenizer.start)
            line).segment := by
        rw [Session.segmentAt?_ofLines_take tokenizer (by omega) hlt, hsplit]
        have hstate := Session.ofLines_checkpoints_append tokenizer (front ++ [line]) rest
        rw [List.length_append, List.length_singleton, List.foldl_append] at hstate
        rw [hstate]
        rfl
      rw [rowsFrom, hread]
      dsimp only
      rw [hsegment, hsplit]
      have htake : ((front ++ [line]) ++ rest).take (front.length + 1) = front ++ [line] :=
        List.take_left' (by simp)
      have hnext := ih (front ++ [line])
      rw [List.length_append, List.length_singleton, List.foldl_append] at hnext
      rw [htake, hnext]
      rfl

/-- The listing follows the tokenizer from line to line. -/
theorem rows_eq_rowsAfter (tokenizer : Tokenizer μ σ κ) (text : List Char) :
    rows tokenizer text = rowsAfter tokenizer 0 tokenizer.start (lines text) := by
  unfold rows
  rw [Session.start_eq_ofLines]
  exact rowsFrom_ofLines tokenizer [] (lines text)

/-! ## What the rows tell of the segments -/

theorem map_line_rowsAfter (tokenizer : Tokenizer μ σ κ) (index : Nat)
    (state : Tokenizer.State μ σ κ) (rest : List (List Char)) :
    (rowsAfter tokenizer index state rest).map Row.line = rest := by
  induction rest generalizing index state with
  | nil => rfl
  | cons line rest ih => rw [rowsAfter, List.map_cons, ih]

/-- No row is without a segment. -/
theorem isSome_segment_of_mem_rowsAfter {tokenizer : Tokenizer μ σ κ} {index : Nat}
    {state : Tokenizer.State μ σ κ} {rest : List (List Char)} {row : Row}
    (h : row ∈ rowsAfter tokenizer index state rest) : row.segment.isSome := by
  induction rest generalizing index state with
  | nil => exact absurd h List.not_mem_nil
  | cons line rest ih =>
      rcases List.mem_cons.mp h with rfl | h
      · rfl
      · exact ih h

/-- The lines that the rows label with a segment, without the sentinel lines. -/
def linesLabelled (kind : Segment) (rows : List Row) : List (List Char) :=
  (rows.filter fun row => row.segment = some kind && !isSentinel row.line).map Row.line

theorem linesLabelled_rowsAfter (tokenizer : Tokenizer μ σ κ) (hforward : tokenizer.Forward)
    (kind : Segment) (index : Nat) (state : Tokenizer.State μ σ κ) (rest : List (List Char)) :
    linesLabelled kind (rowsAfter tokenizer index state rest) =
      Segment.linesIn kind state.segment rest := by
  induction rest generalizing index state with
  | nil => rfl
  | cons line rest ih =>
      have hafter : (tokenizer.stateAfter state line).segment = _ :=
        tokenizer.segment_tokens hforward line state
      have hrest := ih (index + 1) (tokenizer.stateAfter state line)
      unfold linesLabelled at hrest ⊢
      rw [rowsAfter, Segment.linesIn]
      by_cases hline : isSentinel line = true
      · rw [if_pos hline] at hafter ⊢
        rw [List.filter_cons_of_neg (by simp [hline]), hrest, hafter]
      · rw [if_neg hline] at hafter ⊢
        rw [hafter] at hrest
        by_cases hkind : state.segment = kind
        · rw [if_pos hkind, List.filter_cons_of_pos (by simp [hafter, hkind, hline]),
            List.map_cons, hrest]
        · rw [if_neg hkind, List.filter_cons_of_neg (by simp [hafter, hkind]), hrest]

end Listing

end Triptych
