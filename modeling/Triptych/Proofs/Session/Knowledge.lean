import Triptych.Session

/-!
# What a session knows

Everything in a session follows from its tokenizer and the lines that it has read:
`ofLines` is the session that has read some lines and nothing else.  Each operation
takes such a session to such a session, so that a session can be followed through any
history by following a list of lines.

The lines that a session has read need NOT be lines of the document any more.  What
follows when they are is said by `highlight_ofLines_take` and
`segmentAt?_ofLines_take`.
-/

namespace Triptych

namespace Tokenizer

variable {μ σ κ : Type}

/-- The state after a line. -/
def stateAfter (tokenizer : Tokenizer μ σ κ) (state : State μ σ κ) (line : List Char) :
    State μ σ κ :=
  (tokenizer.tokens line state).2

/-- The spans of a line. -/
def spansOf (tokenizer : Tokenizer μ σ κ) (state : State μ σ κ) (line : List Char) :
    List Span :=
  Span.ofTokens (tokenizer.tokens line state).1

end Tokenizer

namespace Session

variable {μ σ κ : Type}

/-- The session that has read some lines. -/
def ofLines (tokenizer : Tokenizer μ σ κ) (seen : List (List Char)) : Session μ σ κ where
  tokenizer := tokenizer
  checkpoints := seen.scanl tokenizer.stateAfter tokenizer.start
  spans := List.zipWith tokenizer.spansOf (seen.scanl tokenizer.stateAfter tokenizer.start) seen
  invalidFrom := seen.length

@[simp] theorem ofLines_invalidFrom (tokenizer : Tokenizer μ σ κ) (seen : List (List Char)) :
    (ofLines tokenizer seen).invalidFrom = seen.length := rfl

@[simp] theorem ofLines_tokenizer (tokenizer : Tokenizer μ σ κ) (seen : List (List Char)) :
    (ofLines tokenizer seen).tokenizer = tokenizer := rfl

theorem ofLines_checkpoints_length (tokenizer : Tokenizer μ σ κ) (seen : List (List Char)) :
    (ofLines tokenizer seen).checkpoints.length = seen.length + 1 := by
  simp [ofLines]

/-! ## What the operations do to the lines read -/

theorem start_eq_ofLines (tokenizer : Tokenizer μ σ κ) :
    start tokenizer = ofLines tokenizer [] := by
  simp [start, ofLines]

theorem restart_ofLines (tokenizer : Tokenizer μ σ κ) (seen : List (List Char)) :
    (ofLines tokenizer seen).restart = ofLines tokenizer [] :=
  start_eq_ofLines tokenizer

theorem ofLines_checkpoints_take (tokenizer : Tokenizer μ σ κ) (seen : List (List Char))
    (n : Nat) :
    (ofLines tokenizer (seen.take n)).checkpoints =
      (ofLines tokenizer seen).checkpoints.take (n + 1) := by
  show (seen.take n).scanl _ _ = (seen.scanl _ _).take (n + 1)
  rw [List.take_scanl]

theorem ofLines_spans_take (tokenizer : Tokenizer μ σ κ) (seen : List (List Char)) (n : Nat) :
    (ofLines tokenizer (seen.take n)).spans = (ofLines tokenizer seen).spans.take n := by
  show List.zipWith _ ((seen.take n).scanl _ _) _ = (List.zipWith _ (seen.scanl _ _) _).take n
  apply List.ext_getElem?
  intro i
  -- the state before a line does not depend on that line nor on later ones
  by_cases hi : i < n
  · have hs : i < n + 1 := by omega
    rw [List.getElem?_take_of_lt hi, List.getElem?_zipWith, List.getElem?_zipWith,
      ← List.take_scanl, List.getElem?_take_of_lt hs, List.getElem?_take_of_lt hi]
  · rw [List.getElem?_eq_none, List.getElem?_eq_none]
    · rw [List.length_take]
      omega
    · simp only [List.length_zipWith, List.length_scanl, List.length_take]
      omega

/-- Forgetting all from a line on keeps what was read before that line. -/
theorem invalidateFrom_ofLines (tokenizer : Tokenizer μ σ κ) (seen : List (List Char))
    (line : Nat) :
    (ofLines tokenizer seen).invalidateFrom line = ofLines tokenizer (seen.take line) := by
  unfold invalidateFrom
  split
  · next h => rw [List.take_of_length_le h]
  · next h =>
      have hlen : (seen.take line).length = line := by
        rw [ofLines_invalidFrom] at h
        simp only [List.length_take]
        omega
      rw [← ofLines_checkpoints_take, ← ofLines_spans_take]
      simp only [ofLines, hlen]

/-- What a scan pairs with one element more at the end. -/
theorem zipWith_scanl_concat {α β γ : Type} (f : α → β → γ) (g : α → β → α) (a : α)
    (l : List β) (b : β) :
    List.zipWith f ((l ++ [b]).scanl g a) (l ++ [b]) =
      List.zipWith f (l.scanl g a) l ++ [f (l.foldl g a) b] := by
  induction l generalizing a with
  | nil => simp
  | cons c l ih =>
      simp only [List.cons_append, List.scanl_cons, List.zipWith_cons_cons, List.foldl_cons]
      rw [ih]

/-- Reading one line more. -/
theorem learn_ofLines (tokenizer : Tokenizer μ σ κ) (seen : List (List Char))
    (line : List Char) :
    (ofLines tokenizer seen).learn line = ofLines tokenizer (seen ++ [line]) := by
  have hbefore : (ofLines tokenizer seen).checkpoints[seen.length]?.getD tokenizer.start =
      seen.foldl tokenizer.stateAfter tokenizer.start := by
    simp [ofLines]
  unfold learn
  rw [ofLines_invalidFrom, ofLines_tokenizer, hbefore]
  unfold ofLines
  rw [zipWith_scanl_concat, List.scanl_append, List.length_append]
  rfl

theorem foldl_learn_ofLines (tokenizer : Tokenizer μ σ κ) (seen more : List (List Char)) :
    more.foldl learn (ofLines tokenizer seen) = ofLines tokenizer (seen ++ more) := by
  induction more generalizing seen with
  | nil => simp
  | cons line more ih =>
      rw [List.foldl_cons, learn_ofLines, ih, List.append_assoc, List.singleton_append]

/-- Reading up to a line takes the lines of the document from the first that the session
has not read, whatever the session has read before. -/
theorem learnThrough_ofLines (tokenizer : Tokenizer μ σ κ) (seen lines : List (List Char))
    (last : Nat) :
    (ofLines tokenizer seen).learnThrough lines last =
      ofLines tokenizer
        (seen ++ (lines.drop seen.length).take (last + 1 - seen.length)) := by
  unfold learnThrough
  rw [foldl_learn_ofLines]
  rfl

/-- The state after the lines that have been read. -/
theorem ofLines_checkpoints_append (tokenizer : Tokenizer μ σ κ) (front rest : List (List Char)) :
    (ofLines tokenizer (front ++ rest)).checkpoints[front.length]? =
      some (front.foldl tokenizer.stateAfter tokenizer.start) := by
  have hread : front.length ≤ (front ++ rest).length := by simp
  show ((front ++ rest).scanl _ _)[front.length]? = _
  rw [List.getElem?_scanl, if_pos hread, List.take_left]

/-- The spans of a line that has been read. -/
theorem ofLines_spans_append (tokenizer : Tokenizer μ σ κ) (front : List (List Char))
    (line : List Char) (rest : List (List Char)) :
    (ofLines tokenizer (front ++ line :: rest)).spans[front.length]? =
      some (tokenizer.spansOf (front.foldl tokenizer.stateAfter tokenizer.start) line) := by
  show (List.zipWith _ (ofLines tokenizer (front ++ line :: rest)).checkpoints _)[_]? = _
  rw [List.getElem?_zipWith, ofLines_checkpoints_append]
  simp

/-! ## Sessions that have read the first lines of a document -/

theorem learnThrough_ofLines_take (tokenizer : Tokenizer μ σ κ) {lines : List (List Char)}
    {n line : Nat} (hn : n ≤ line) (hline : line < lines.length) :
    (ofLines tokenizer (lines.take n)).learnThrough lines line =
      ofLines tokenizer (lines.take (line + 1)) := by
  have hlen : (lines.take n).length = n := by
    rw [List.length_take]
    omega
  rw [learnThrough_ofLines, hlen]
  -- what is read goes on where the lines read so far end
  congr 1
  have hsplit : line + 1 = n + (line + 1 - n) := by omega
  rw [hsplit, List.take_add, ← hsplit]

/-- A session that has read the first lines of the document answers with the spans that
the whole document gives, and has then read on as far as the line asked for. -/
theorem highlight_ofLines_take (tokenizer : Tokenizer μ σ κ) {lines : List (List Char)}
    {n line : Nat} (hline : line < lines.length) :
    (ofLines tokenizer (lines.take n)).highlight lines line =
      ((ofLines tokenizer lines).spans[line]?.getD [],
        ofLines tokenizer (lines.take (max n (line + 1)))) := by
  have hspan : ∀ m, line < m → (ofLines tokenizer (lines.take m)).spans[line]? =
      (ofLines tokenizer lines).spans[line]? := by
    intro m hm
    rw [ofLines_spans_take, List.getElem?_take_of_lt hm]
  unfold highlight
  rw [if_neg (by omega), ofLines_invalidFrom, List.length_take]
  by_cases hread : n ≤ line
  · have hmax : max n (line + 1) = line + 1 := by omega
    have hmin : min n lines.length ≤ line := by omega
    rw [if_pos hmin, learnThrough_ofLines_take tokenizer hread hline, hmax,
      ← hspan (line + 1) (by omega)]
  · have hmax : max n (line + 1) = n := by omega
    have hmin : ¬ min n lines.length ≤ line := by omega
    rw [if_neg hmin, hmax, ← hspan n (by omega)]

/-- The segment of a line that has been read is the one that the whole document gives. -/
theorem segmentAt?_ofLines_take (tokenizer : Tokenizer μ σ κ) {lines : List (List Char)}
    {n line : Nat} (hn : line < n) (hline : line < lines.length) :
    (ofLines tokenizer (lines.take n)).segmentAt? line =
      ((ofLines tokenizer lines).checkpoints[line + 1]?).map fun state => state.segment := by
  have hread : ¬ min n lines.length ≤ line := by omega
  unfold segmentAt?
  rw [ofLines_invalidFrom, List.length_take, if_neg hread, ofLines_checkpoints_take,
    List.getElem?_take_of_lt (by omega)]

/-- A session knows the segment of each line that it has read and of no other. -/
theorem isSome_segmentAt?_ofLines (tokenizer : Tokenizer μ σ κ) (seen : List (List Char))
    (line : Nat) :
    ((ofLines tokenizer seen).segmentAt? line).isSome ↔ line < seen.length := by
  unfold segmentAt?
  rw [ofLines_invalidFrom]
  split
  · next h => simpa using h
  · next h =>
      have hlt : line + 1 < (ofLines tokenizer seen).checkpoints.length := by
        rw [ofLines_checkpoints_length]
        omega
      rw [List.getElem?_eq_getElem hlt]
      simpa using h

end Session

end Triptych
