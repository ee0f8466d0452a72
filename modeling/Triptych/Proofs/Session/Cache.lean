import Triptych.Proofs.Session.Knowledge

/-!
# Sessions without the help of a host

A host may ask a session for lines of ever other documents, with edits that the session
is never told of.  What the session holds is then still the outcome of reading some lines
from a fresh state, each with the state that the lines before it lead to: `Knows` says
so, and `seenAfter` says which lines these are.

The lines need NOT be those of any one document.  A line is read once, and from then on
it is answered from what was read.

The second part is about look-ups by number.  `highlight?` looks up each checkpoint and
each list of spans and fails where there is none; it never does.
-/

namespace Triptych

namespace Session

variable {μ σ κ : Type}

/-! ## What is held -/

/-- The session holds what reading these lines from a fresh state gives. -/
structure Knows (session : Session μ σ κ) (tokenizer : Tokenizer μ σ κ)
    (seen : List (List Char)) : Prop where
  tokenizer_eq : session.tokenizer = tokenizer
  length_seen : seen.length = session.invalidFrom
  length_spans : session.spans.length = session.invalidFrom
  length_checkpoints : session.checkpoints.length = session.invalidFrom + 1
  /-- The first checkpoint is the fresh state. -/
  checkpoint_zero : session.checkpoints[0]? = some tokenizer.start
  /-- Each other one is the state after the lines up to it. -/
  checkpoint_succ : ∀ i < seen.length, session.checkpoints[i + 1]? =
    some ((seen.take (i + 1)).foldl tokenizer.stateAfter tokenizer.start)
  /-- The spans of a line are read from the checkpoint before it. -/
  spans_eq : ∀ (i : Nat) (line : List Char), seen[i]? = some line →
    ∃ state, session.checkpoints[i]? = some state ∧
      session.spans[i]? = some (Span.ofTokens (tokenizer.tokens line state).1)

theorem ofLines_checkpoints_getElem? (tokenizer : Tokenizer μ σ κ) (seen : List (List Char))
    {i : Nat} (hi : i ≤ seen.length) :
    (ofLines tokenizer seen).checkpoints[i]? =
      some ((seen.take i).foldl tokenizer.stateAfter tokenizer.start) := by
  show (seen.scanl _ _)[i]? = _
  rw [List.getElem?_scanl, if_pos hi]

theorem ofLines_knows (tokenizer : Tokenizer μ σ κ) (seen : List (List Char)) :
    (ofLines tokenizer seen).Knows tokenizer seen where
  tokenizer_eq := rfl
  length_seen := rfl
  length_spans := by simp [ofLines]
  length_checkpoints := ofLines_checkpoints_length tokenizer seen
  checkpoint_zero := ofLines_checkpoints_getElem? tokenizer seen (Nat.zero_le _)
  checkpoint_succ := fun _ hi => ofLines_checkpoints_getElem? tokenizer seen hi
  spans_eq := by
    intro i line hline
    obtain ⟨hi, -⟩ := List.getElem?_eq_some_iff.mp hline
    have hstate := ofLines_checkpoints_getElem? tokenizer seen (Nat.le_of_lt hi)
    refine ⟨_, hstate, ?_⟩
    show (List.zipWith _ (ofLines tokenizer seen).checkpoints seen)[i]? = _
    rw [List.getElem?_zipWith, hstate, hline]
    rfl

/-! ## What is asked -/

/-- What a host may ask of a session.  Each time it may come with another document. -/
inductive Request where
  | highlight (lines : List (List Char)) (line : Nat)
  | invalidate (line : Nat)
  | restart
  | segment (line : Nat)
  deriving DecidableEq, Repr

/-- The session after a request. -/
def serve (session : Session μ σ κ) : Request → Session μ σ κ
  | .highlight lines line => (session.highlight lines line).2
  | .invalidate line => session.invalidateFrom line
  | .restart => session.restart
  | .segment _ => session

/-- The lines that a session has read after a request. -/
def seenAfter (seen : List (List Char)) : Request → List (List Char)
  | .highlight lines line =>
      if seen.length ≤ line ∧ line < lines.length then
        seen ++ (lines.take (line + 1)).drop seen.length
      else seen
  | .invalidate line => seen.take line
  | .restart => []
  | .segment _ => seen

/-- What one request does to the lines that have been read. -/
theorem serve_ofLines (tokenizer : Tokenizer μ σ κ) (seen : List (List Char)) (request : Request) :
    (ofLines tokenizer seen).serve request = ofLines tokenizer (seenAfter seen request) := by
  cases request with
  | highlight lines line =>
      show ((ofLines tokenizer seen).highlight lines line).2 =
        ofLines tokenizer (if seen.length ≤ line ∧ line < lines.length then
          seen ++ (lines.take (line + 1)).drop seen.length else seen)
      unfold highlight
      by_cases hpast : lines.length ≤ line
      · rw [if_pos hpast, if_neg (by omega)]
      · rw [if_neg hpast, ofLines_invalidFrom]
        by_cases hunknown : seen.length ≤ line
        · rw [if_pos hunknown, if_pos ⟨hunknown, by omega⟩, List.drop_take]
          exact learnThrough_ofLines tokenizer seen lines line
        · rw [if_neg hunknown, if_neg (by omega)]
  | invalidate line => exact invalidateFrom_ofLines tokenizer seen line
  | restart => exact restart_ofLines tokenizer seen
  | segment line => rfl

/-- What any number of requests do. -/
theorem foldl_serve_ofLines (tokenizer : Tokenizer μ σ κ) (seen : List (List Char))
    (requests : List Request) :
    requests.foldl serve (ofLines tokenizer seen) =
      ofLines tokenizer (requests.foldl seenAfter seen) := by
  induction requests generalizing seen with
  | nil => rfl
  | cons request requests ih => rw [List.foldl_cons, List.foldl_cons, serve_ofLines, ih]

/-! ## Look-ups by number -/

/-- Read the line with a number, from the checkpoint with that number; nothing if there
is no such checkpoint. -/
def learnAt? (session : Session μ σ κ) (entry : List Char × Nat) : Option (Session μ σ κ) :=
  session.checkpoints[entry.2]?.map fun before =>
    let (tokens, after) := session.tokenizer.tokens entry.1 before
    { session with
      checkpoints := session.checkpoints ++ [after]
      spans := session.spans ++ [Span.ofTokens tokens] }

/-- Read the numbered lines up to a line, leaving out the known ones, and note afterwards
how far this went. -/
def learnThrough? (session : Session μ σ κ) (lines : List (List Char)) (last : Nat) :
    Option (Session μ σ κ) :=
  (((lines.zipIdx.take (last + 1)).drop session.invalidFrom).foldlM learnAt? session).map
    fun session => { session with invalidFrom := last + 1 }

/-- The spans of a line, looked up after reading up to it. -/
def highlight? (session : Session μ σ κ) (lines : List (List Char)) (line : Nat) :
    Option (List Span × Session μ σ κ) :=
  if lines.length ≤ line then some ([], session)
  else
    (if session.invalidFrom ≤ line then session.learnThrough? lines line else some session).bind
      fun session => session.spans[line]?.map (·, session)

/-- There is a checkpoint before each known line and one after the last. -/
structure Balanced (session : Session μ σ κ) : Prop where
  length_spans : session.spans.length = session.invalidFrom
  length_checkpoints : session.checkpoints.length = session.invalidFrom + 1

theorem Knows.balanced {session : Session μ σ κ} {tokenizer : Tokenizer μ σ κ}
    {seen : List (List Char)} (h : session.Knows tokenizer seen) : session.Balanced :=
  ⟨h.length_spans, h.length_checkpoints⟩

section Balanced

variable {session : Session μ σ κ}

theorem Balanced.learn (h : session.Balanced) (line : List Char) :
    (session.learn line).Balanced := by
  have hspans := h.length_spans
  have hcheckpoints := h.length_checkpoints
  constructor
  · show (session.spans ++ [_]).length = session.invalidFrom + 1
    rw [List.length_append, List.length_singleton, hspans]
  · show (session.checkpoints ++ [_]).length = session.invalidFrom + 1 + 1
    rw [List.length_append, List.length_singleton, hcheckpoints]

theorem Balanced.foldl_learn (h : session.Balanced) (lines : List (List Char)) :
    (lines.foldl Session.learn session).Balanced := by
  induction lines generalizing session with
  | nil => exact h
  | cons line lines ih => exact ih (h.learn line)

theorem invalidFrom_foldl_learn (session : Session μ σ κ) (lines : List (List Char)) :
    (lines.foldl learn session).invalidFrom = session.invalidFrom + lines.length := by
  induction lines generalizing session with
  | nil => rfl
  | cons line lines ih =>
      rw [List.foldl_cons, ih, List.length_cons]
      show session.invalidFrom + 1 + lines.length = _
      omega

/-- The checkpoint of the first unknown line is there.  How far the session knows the
document is noted later, so the number `n` that stands for it does not matter. -/
theorem Balanced.learnAt?_eq (h : session.Balanced) (line : List Char) (n : Nat) :
    { session with invalidFrom := n }.learnAt? (line, session.invalidFrom) =
      some { session.learn line with invalidFrom := n } := by
  have hlt : session.invalidFrom < session.checkpoints.length := by
    have := h.length_checkpoints
    omega
  have hbefore := List.getElem?_eq_getElem hlt
  unfold learnAt? Session.learn
  dsimp only
  rw [hbefore]
  rfl

/-- No checkpoint is missing in the course of reading on. -/
theorem Balanced.foldlM_learnAt? (h : session.Balanced) (lines : List (List Char)) (n : Nat) :
    (lines.zipIdx session.invalidFrom).foldlM learnAt? { session with invalidFrom := n } =
      some { lines.foldl Session.learn session with invalidFrom := n } := by
  induction lines generalizing session with
  | nil => rfl
  | cons line lines ih =>
      rw [List.zipIdx_cons, List.foldlM_cons, h.learnAt?_eq, List.foldl_cons]
      exact ih (h.learn line)

/-- Numbering lines and leaving out the first ones is numbering the others. -/
theorem drop_take_zipIdx (lines : List (List Char)) (m n : Nat) :
    (lines.zipIdx.take m).drop n = ((lines.drop n).take (m - n)).zipIdx n := by
  apply List.ext_getElem?
  intro i
  rw [List.drop_take, List.getElem?_take, List.getElem?_zipIdx, List.getElem?_take,
    List.getElem?_drop, List.getElem?_drop, List.getElem?_zipIdx]
  split
  · rw [Nat.zero_add]
  · rfl

theorem Balanced.learnThrough?_eq (h : session.Balanced) {lines : List (List Char)} {last : Nat}
    (hunknown : session.invalidFrom ≤ last) (hlast : last < lines.length) :
    session.learnThrough? lines last = some (session.learnThrough lines last) := by
  have hfold := h.foldlM_learnAt? ((lines.drop session.invalidFrom).take
    (last + 1 - session.invalidFrom)) session.invalidFrom
  have hreached : (session.learnThrough lines last).invalidFrom = last + 1 := by
    unfold learnThrough
    rw [invalidFrom_foldl_learn, List.length_take, List.length_drop]
    omega
  unfold learnThrough?
  rw [drop_take_zipIdx]
  show (List.foldlM learnAt? { session with invalidFrom := session.invalidFrom } _).map _ = _
  rw [hfold]
  show some { session.learnThrough lines last with invalidFrom := last + 1 } = _
  rw [← hreached]

/-- No look-up fails. -/
theorem Balanced.highlight?_eq (h : session.Balanced) (lines : List (List Char)) (line : Nat) :
    session.highlight? lines line = some (session.highlight lines line) := by
  unfold highlight? highlight
  by_cases hpast : lines.length ≤ line
  · rw [if_pos hpast, if_pos hpast]
  · rw [if_neg hpast, if_neg hpast]
    by_cases hunknown : session.invalidFrom ≤ line
    · have hlearnt : (session.learnThrough lines line).Balanced := h.foldl_learn _
      have hlt : line < (session.learnThrough lines line).spans.length := by
        rw [hlearnt.length_spans]
        unfold learnThrough
        rw [invalidFrom_foldl_learn, List.length_take, List.length_drop]
        omega
      rw [if_pos hunknown, if_pos hunknown, h.learnThrough?_eq hunknown (by omega)]
      dsimp only [Option.bind_some]
      rw [List.getElem?_eq_getElem hlt]
      rfl
    · have hlt : line < session.spans.length := by
        rw [h.length_spans]
        omega
      rw [if_neg hunknown, if_neg hunknown]
      dsimp only [Option.bind_some]
      rw [List.getElem?_eq_getElem hlt]
      rfl

/-- A known line is answered from what is held. -/
theorem Balanced.highlight_known (h : session.Balanced) {lines : List (List Char)} {line : Nat}
    (hknown : line < session.invalidFrom) (hline : line < lines.length) :
    ∃ spans, session.spans[line]? = some spans ∧
      session.highlight lines line = (spans, session) := by
  have hlt : line < session.spans.length := by
    rw [h.length_spans]
    exact hknown
  refine ⟨session.spans[line], List.getElem?_eq_getElem hlt, ?_⟩
  unfold highlight
  rw [if_neg (by omega), if_neg (by omega)]
  dsimp only
  rw [List.getElem?_eq_getElem hlt]
  rfl

/-- Of the known lines nothing is read: only the others and their number count. -/
theorem highlight_congr (session : Session μ σ κ) {lines lines' : List (List Char)}
    (hlength : lines.length = lines'.length)
    (hunknown : lines.drop session.invalidFrom = lines'.drop session.invalidFrom) (line : Nat) :
    session.highlight lines line = session.highlight lines' line := by
  unfold highlight learnThrough
  rw [hlength, hunknown]

end Balanced

/-! ## Whatever is asked -/

/-- After any requests the session holds what reading the lines in `seen` gives, no
look-up fails, known lines are answered as they were read, and they are not read again. -/
theorem knows_after_requests (tokenizer : Tokenizer μ σ κ) (requests : List Request) :
    let session := requests.foldl serve (start tokenizer)
    let seen := requests.foldl seenAfter []
    session.Knows tokenizer seen ∧
      (∀ lines line, session.highlight? lines line = some (session.highlight lines line)) ∧
      (∀ lines line, line < session.invalidFrom → line < lines.length →
        ∃ spans, session.spans[line]? = some spans ∧
          session.highlight lines line = (spans, session)) ∧
      ∀ lines lines' line, lines.length = lines'.length →
        lines.drop session.invalidFrom = lines'.drop session.invalidFrom →
          session.highlight lines line = session.highlight lines' line := by
  intro session seen
  have hknows : session.Knows tokenizer seen := by
    have hsession : session = ofLines tokenizer seen := by
      show requests.foldl serve (start tokenizer) = _
      rw [start_eq_ofLines, foldl_serve_ofLines]
    rw [hsession]
    exact ofLines_knows tokenizer seen
  refine ⟨hknows, hknows.balanced.highlight?_eq, ?_, ?_⟩
  · intro lines line hknown hline
    exact hknows.balanced.highlight_known hknown hline
  · intro lines lines' line hlength hunknown
    exact session.highlight_congr hlength hunknown line

end Session

end Triptych
