import Triptych.Proofs.Lexer.Spans
import Triptych.Proofs.Session.Cache
import Triptych.Proofs.Tokenizer.Coverage

/-!
# What a session marks

The spans that a session comes to for a line stand for the tokens of the line, read from the state
that the lines before it lead to.  The offsets are sums of the sizes of tokens, and this is enough:
no token is lost, and none is longer than what it was read from.

The lines before are those that the session has read, and then lines of the document.  They are
the lines of the document alone where the host has told of its edits.  A line that the session has
read BEFORE is answered from then, and nothing is said of it here.
-/

namespace Triptych

namespace Session

variable {μ σ κ : Type}

/-- The lines from one that is read up to another one: those before a line between them, and from
that line on. -/
theorem exists_drop_take_eq {lines : List (List Char)} {line : List Char} {n j k : Nat}
    (hn : n ≤ j) (hj : j ≤ k) (hline : lines[j]? = some line) :
    ∃ later, (lines.take (k + 1)).drop n = (lines.take j).drop n ++ line :: later := by
  obtain ⟨hlt, rfl⟩ := List.getElem?_eq_some_iff.mp hline
  have hlength : n ≤ (lines.take j).length := by
    rw [List.length_take]
    omega
  have hsplit : lines.take (k + 1) =
      lines.take j ++ lines[j] :: (lines.drop (j + 1)).take (k - j) := by
    have hcount : k + 1 = j + (k - j + 1) := by omega
    rw [hcount, List.take_add, List.drop_eq_getElem_cons hlt, List.take_succ_cons]
  exact ⟨_, by rw [hsplit, List.drop_append_of_le_length hlength]⟩

/-- Asking for a line makes the session read each line up to it that it does not know, from the
state that the lines before lead to. -/
theorem highlight_ofLines (tokenizer : Tokenizer μ σ κ) {seen lines : List (List Char)}
    {line : List Char} {j k : Nat} (hfresh : seen.length ≤ j) (hj : j ≤ k) (hk : k < lines.length)
    (hline : lines[j]? = some line) :
    let before := (seen ++ (lines.take j).drop seen.length).foldl tokenizer.stateAfter
      tokenizer.start
    let answer := (ofLines tokenizer seen).highlight lines k
    answer.2.checkpoints[j]? = some before ∧
      answer.2.spans[j]? = some (tokenizer.spansOf before line) := by
  intro before answer
  obtain ⟨later, hlater⟩ := exists_drop_take_eq hfresh hj hline
  have hseen : seenAfter seen (.highlight lines k) =
      (seen ++ (lines.take j).drop seen.length) ++ line :: later := by
    show (if seen.length ≤ k ∧ k < lines.length then _ else seen) = _
    rw [if_pos ⟨Nat.le_trans hfresh hj, hk⟩, hlater, List.append_assoc]
  have hanswer : answer.2 = ofLines tokenizer
      ((seen ++ (lines.take j).drop seen.length) ++ line :: later) := by
    rw [← hseen]
    exact serve_ofLines tokenizer seen (.highlight lines k)
  have hlength : (seen ++ (lines.take j).drop seen.length).length = j := by
    rw [List.length_append, List.length_drop, List.length_take]
    omega
  rw [hanswer]
  constructor
  · have hcheckpoint := ofLines_checkpoints_append tokenizer
      (seen ++ (lines.take j).drop seen.length) (line :: later)
    rwa [hlength] at hcheckpoint
  · have hspans := ofLines_spans_append tokenizer
      (seen ++ (lines.take j).drop seen.length) line later
    rwa [hlength] at hspans

/-- What is answered for a line is what the session then holds of it. -/
theorem highlight_fst (session : Session μ σ κ) {lines : List (List Char)} {k : Nat}
    (hk : k < lines.length) :
    (session.highlight lines k).1 = (session.highlight lines k).2.spans[k]?.getD [] := by
  unfold highlight
  rw [if_neg (by omega)]

/-- The lines before one that is not known are those of the document, if the lines that the session
has read are its first ones. -/
theorem append_drop_take_eq {seen lines : List (List Char)} {j : Nat} (h : seen <+: lines)
    (hj : seen.length ≤ j) : seen ++ (lines.take j).drop seen.length = lines.take j := by
  have htake : (lines.take j).take seen.length = seen := by
    rw [List.take_take, Nat.min_eq_left hj]
    exact (List.prefix_iff_eq_take.mp h).symm
  rw [← congrArg (· ++ (lines.take j).drop seen.length) htake]
  exact List.take_append_drop seen.length (lines.take j)

/-- Whatever a session has been asked before: when it is asked for a line of a document, each line
up to that one that it does not know is read from the state that the lines before lead to.  The
spans that it then holds mark the line: they are pieces of it that do not overlap, with the texts
and the classes of the classified tokens, and what they leave out are the plain tokens.  A sentinel
line has no spans. -/
theorem spans_mark_fresh_line {tokenizer : Tokenizer μ σ κ} (hmoves : tokenizer.MovesCursor)
    (requests : List Request) {lines : List (List Char)} {line : List Char} {j k : Nat}
    (hfresh : (requests.foldl serve (start tokenizer)).invalidFrom ≤ j) (hj : j ≤ k)
    (hk : k < lines.length) (hline : lines[j]? = some line) :
    let seen := requests.foldl seenAfter []
    let preceding := seen ++ (lines.take j).drop seen.length
    let before := preceding.foldl tokenizer.stateAfter tokenizer.start
    let answer := (requests.foldl serve (start tokenizer)).highlight lines k
    ∃ spans, answer.2.checkpoints[j]? = some before ∧ answer.2.spans[j]? = some spans ∧
      (j = k → answer.1 = spans) ∧
      Span.Marks spans line (tokenizer.tokens line before).1 ∧
      (isSentinel line = true → spans = []) ∧
      (seen <+: lines → preceding = lines.take j) := by
  intro seen preceding before answer
  have hsession : requests.foldl serve (start tokenizer) = ofLines tokenizer seen := by
    rw [start_eq_ofLines, foldl_serve_ofLines]
  rw [hsession, ofLines_invalidFrom] at hfresh
  obtain ⟨hcheckpoint, hspans⟩ := highlight_ofLines tokenizer hfresh hj hk hline
  rw [← hsession] at hcheckpoint hspans
  refine ⟨tokenizer.spansOf before line, hcheckpoint, hspans, ?_, ?_, ?_, ?_⟩
  · rintro rfl
    have hanswer := highlight_fst (requests.foldl serve (start tokenizer)) hk
    rwa [hspans] at hanswer
  · exact Span.marks_ofTokens (hmoves.lexer.covers line before)
  · intro hsentinel
    show Span.ofTokens (tokenizer.tokens line before).1 = []
    rw [tokenizer.tokens_of_isSentinel hsentinel]
    rfl
  · exact fun hprefix => append_drop_take_eq hprefix hfresh

/-- A line in the style segment, of a document whose first line the session has read otherwise.
The lexer of the segment stops inside the first character. -/
theorem spans_mark_fresh_line_sluggish :
    let requests := [Request.highlight [['a'], ['b']] 1, .invalidate 1]
    let lines := [['c'], sentinel, ['é', '-']]
    let session := requests.foldl serve (start Tokenizer.sluggish)
    let before := [['a'], sentinel].foldl Tokenizer.sluggish.stateAfter Tokenizer.sluggish.start
    Tokenizer.sluggish.MovesCursor ∧ session.invalidFrom ≤ 2 ∧
      (session.highlight lines 2).2.checkpoints[2]? = some before ∧
      Span.Marks (session.highlight lines 2).1 ['é', '-']
        (Tokenizer.sluggish.tokens ['é', '-'] before).1 := by
  intro requests lines session before
  have hmoves := Tokenizer.sluggish_movesCursor
  have hseen : requests.foldl seenAfter [] = [['a']] := by decide
  have hfresh : session.invalidFrom ≤ 2 := by
    show (requests.foldl serve (start Tokenizer.sluggish)).invalidFrom ≤ 2
    rw [start_eq_ofLines, foldl_serve_ofLines, hseen, ofLines_invalidFrom]
    decide
  have hk : 2 < lines.length := by decide
  have hline : lines[2]? = some ['é', '-'] := rfl
  obtain ⟨spans, hcheckpoint, -, hanswer, hmarks, -, -⟩ :=
    spans_mark_fresh_line hmoves requests hfresh (Nat.le_refl 2) hk hline
  rw [hseen] at hcheckpoint hmarks
  refine ⟨hmoves, hfresh, hcheckpoint, ?_⟩
  rw [hanswer rfl]
  exact hmarks

end Session

end Triptych
