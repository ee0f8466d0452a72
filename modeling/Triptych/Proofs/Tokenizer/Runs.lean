import Mathlib.Data.List.Chain
import Mathlib.Data.List.Forall2
import Triptych.Proofs.Tokenizer.Coverage

/-!
# Segments in the course of a run

A host calls a tokenizer for single tokens, at any cursors, and for whole lines.  Each
token moves on to the next segment or changes the state of one lexer, that of the segment
that is being read: this is `Next`, and all else follows from it.  Hence a segment that
has not been reached is as it was at the start, and one that has been left stays as it
is.

What a run does in the course of a line counts too, so that the lexers need NOT stay on
their line.  Only for counting sentinel lines it matters that no lexer puts one in the place
of another line; a lexer that moves forward does not.
-/

namespace Triptych

open Text

theorem Segment.advance_eq_or (kind : Segment) :
    kind.advance = kind ∨ kind.next? = some kind.advance := by
  cases kind with
  | markup => exact Or.inr rfl
  | style => exact Or.inr rfl
  | script => exact Or.inl rfl

namespace Tokenizer

variable {μ σ κ : Type}

/-- What a host may ask of a tokenizer. -/
inductive Call where
  /-- One token from a cursor. -/
  | step (cursor : Cursor)
  /-- The tokens of a line. -/
  | line (line : List Char)
  deriving DecidableEq, Repr

/-- What a call comes to: the tokens, each with the cursor and the state after it.  A line
has an answer only if reading it ends. -/
inductive Answers (tokenizer : Tokenizer μ σ κ) (state : State μ σ κ) :
    Call → List (Token × Cursor × State μ σ κ) → Prop where
  | step (cursor : Cursor) :
      Answers tokenizer state (.step cursor) [tokenizer.step cursor state]
  | line {line : List Char} {steps : List (Token × Cursor × State μ σ κ)}
      (hdrives : tokenizer.lexer.Drives (.ofLine line) state steps) :
      Answers tokenizer state (.line line) steps

/-- Some calls, one after the other, with what each of them comes to. -/
inductive Run (tokenizer : Tokenizer μ σ κ) :
    State μ σ κ → List Call → List (List (Token × Cursor × State μ σ κ)) → Prop where
  | nil {state : State μ σ κ} : Run tokenizer state [] []
  | cons {state : State μ σ κ} {call : Call} {calls : List Call}
      {answer : List (Token × Cursor × State μ σ κ)}
      {answers : List (List (Token × Cursor × State μ σ κ))}
      (hanswer : tokenizer.Answers state call answer)
      (hrest : Run tokenizer (Lexer.lastState state answer) calls answers) :
      Run tokenizer state (call :: calls) (answer :: answers)

/-- The states in the course of a run: the one it begins with, and the one after each
token. -/
def visited (state : State μ σ κ) (answers : List (List (Token × Cursor × State μ σ κ))) :
    List (State μ σ κ) :=
  state :: answers.flatten.map fun step => step.2.2

/-! ## One token -/

/-- What one token may do to a state. -/
def Next (tokenizer : Tokenizer μ σ κ) (before after : State μ σ κ) : Prop :=
  after = before.advance ∨ ∃ own, after = (tokenizer.part before.segment).put own before

theorem step_of_isSentinel (tokenizer : Tokenizer μ σ κ) {cursor : Cursor}
    (h : isSentinel cursor.line = true) (state : State μ σ κ) :
    (tokenizer.step cursor state).2.2 = state.advance := by
  have hbegin : isSentinel cursor.beginToken.line = true := h
  unfold step Lexer.step
  rw [tokenizer.read_of_isSentinel hbegin]

theorem exists_step_eq_put (tokenizer : Tokenizer μ σ κ) {cursor : Cursor}
    (h : isSentinel cursor.line = false) (state : State μ σ κ) :
    ∃ own, (tokenizer.step cursor state).2.2 =
      (tokenizer.part state.segment).put own state := by
  have hbegin : isSentinel cursor.beginToken.line = false := h
  unfold step Lexer.step
  rw [tokenizer.read_of_not_isSentinel hbegin]
  exact ⟨_, rfl⟩

theorem next_step (tokenizer : Tokenizer μ σ κ) (cursor : Cursor) (state : State μ σ κ) :
    tokenizer.Next state (tokenizer.step cursor state).2.2 := by
  cases h : isSentinel cursor.line with
  | true => exact Or.inl (tokenizer.step_of_isSentinel h state)
  | false => exact Or.inr (tokenizer.exists_step_eq_put h state)

section Next

variable {tokenizer : Tokenizer μ σ κ} {before after : State μ σ κ}

theorem Next.segment_eq_or (h : tokenizer.Next before after) :
    after.segment = before.segment ∨ before.segment.next? = some after.segment := by
  obtain rfl | ⟨own, rfl⟩ := h
  · exact before.segment.advance_eq_or
  · exact Or.inl (tokenizer.part_put_segment before.segment own before)

theorem Next.index_le (h : tokenizer.Next before after) :
    before.segment.index ≤ after.segment.index := by
  obtain rfl | ⟨own, rfl⟩ := h
  · exact before.segment.index_le_advance
  · exact Nat.le_of_eq (by rw [part_put_segment])

/-- Only the lexer of the segment changes its state. -/
theorem Next.get_eq (h : tokenizer.Next before after) {kind : Segment}
    (hkind : kind ≠ before.segment) :
    (tokenizer.part kind).get after = (tokenizer.part kind).get before := by
  obtain rfl | ⟨own, rfl⟩ := h
  · exact tokenizer.part_get_advance kind before
  · exact tokenizer.part_get_put_of_ne hkind own before

end Next

/-! ## What every run preserves -/

/-- The lexers of the segments to come are at their start. -/
def Fresh (tokenizer : Tokenizer μ σ κ) (state : State μ σ κ) : Prop :=
  ∀ kind, state.segment.index < kind.index →
    (tokenizer.part kind).get state = (tokenizer.part kind).lexer.start

/-- The segment is the same or a later one, and the lexers of the segments before it have
kept their states. -/
def Follows (tokenizer : Tokenizer μ σ κ) (earlier later : State μ σ κ) : Prop :=
  earlier.segment.index ≤ later.segment.index ∧
    ∀ kind, kind.index < earlier.segment.index →
      (tokenizer.part kind).get later = (tokenizer.part kind).get earlier

theorem ne_of_index_lt {kind kind' : Segment} (h : kind.index < kind'.index) : kind ≠ kind' := by
  rintro rfl
  exact Nat.lt_irrefl _ h

theorem fresh_start (tokenizer : Tokenizer μ σ κ) : tokenizer.Fresh tokenizer.start := by
  intro kind _
  cases kind <;> rfl

theorem Next.fresh {tokenizer : Tokenizer μ σ κ} {before after : State μ σ κ}
    (h : tokenizer.Next before after) (hfresh : tokenizer.Fresh before) :
    tokenizer.Fresh after := by
  intro kind hkind
  have hlt : before.segment.index < kind.index := Nat.lt_of_le_of_lt h.index_le hkind
  rw [h.get_eq (ne_of_index_lt hlt).symm, hfresh kind hlt]

theorem Next.follows {tokenizer : Tokenizer μ σ κ} {before after : State μ σ κ}
    (h : tokenizer.Next before after) : tokenizer.Follows before after :=
  ⟨h.index_le, fun _ hkind => h.get_eq (ne_of_index_lt hkind)⟩

theorem Follows.trans {tokenizer : Tokenizer μ σ κ} {first second third : State μ σ κ}
    (h : tokenizer.Follows first second) (h' : tokenizer.Follows second third) :
    tokenizer.Follows first third := by
  refine ⟨Nat.le_trans h.1 h'.1, fun kind hkind => ?_⟩
  rw [h'.2 kind (Nat.lt_of_lt_of_le hkind h.1), h.2 kind hkind]

instance (tokenizer : Tokenizer μ σ κ) :
    Trans tokenizer.Follows tokenizer.Follows tokenizer.Follows :=
  ⟨Follows.trans⟩

/-- The lexers of the segments to come are at their start all along. -/
theorem fresh_of_isChain {tokenizer : Tokenizer μ σ κ} {state : State μ σ κ}
    {states : List (State μ σ κ)} (h : (state :: states).IsChain tokenizer.Next)
    (hfresh : tokenizer.Fresh state) : ∀ state' ∈ state :: states, tokenizer.Fresh state' := by
  induction states generalizing state with
  | nil =>
      intro state' hstate'
      rw [List.mem_singleton.mp hstate']
      exact hfresh
  | cons next states ih =>
      obtain ⟨hnext, hrest⟩ := List.isChain_cons_cons.mp h
      intro state' hstate'
      rcases List.mem_cons.mp hstate' with rfl | hstate'
      · exact hfresh
      · exact ih hrest (hnext.fresh hfresh) state' hstate'

/-! ## Runs as chains of tokens -/

theorem isChain_of_drives {tokenizer : Tokenizer μ σ κ} {cursor : Cursor} {state : State μ σ κ}
    {steps : List (Token × Cursor × State μ σ κ)}
    (h : tokenizer.lexer.Drives cursor state steps) :
    (state :: steps.map fun step => step.2.2).IsChain tokenizer.Next := by
  induction h with
  | done hend => exact .singleton _
  | @more cursor state steps hend hrest ih =>
      -- making up a token to a character changes the cursor and not the state
      exact .cons_cons (tokenizer.next_step cursor state) ih

theorem Answers.isChain {tokenizer : Tokenizer μ σ κ} {state : State μ σ κ} {call : Call}
    {answer : List (Token × Cursor × State μ σ κ)} (h : tokenizer.Answers state call answer) :
    (state :: answer.map fun step => step.2.2).IsChain tokenizer.Next := by
  cases h with
  | step cursor => exact .cons_cons (tokenizer.next_step cursor state) (.singleton _)
  | line hdrives => exact isChain_of_drives hdrives

/-- Where one chain ends the next one may begin. -/
theorem isChain_append_of_lastState {tokenizer : Tokenizer μ σ κ} {state : State μ σ κ}
    {answer : List (Token × Cursor × State μ σ κ)} {states : List (State μ σ κ)}
    (h : (state :: answer.map fun step => step.2.2).IsChain tokenizer.Next)
    (hrest : (Lexer.lastState state answer :: states).IsChain tokenizer.Next) :
    (state :: ((answer.map fun step => step.2.2) ++ states)).IsChain tokenizer.Next := by
  induction answer generalizing state with
  | nil => exact hrest
  | cons step answer ih =>
      obtain ⟨hnext, hlater⟩ := List.isChain_cons_cons.mp h
      rw [Lexer.lastState_cons] at hrest
      exact .cons_cons hnext (ih hlater hrest)

theorem Run.isChain {tokenizer : Tokenizer μ σ κ} {state : State μ σ κ} {calls : List Call}
    {answers : List (List (Token × Cursor × State μ σ κ))} (h : tokenizer.Run state calls answers) :
    (visited state answers).IsChain tokenizer.Next := by
  induction h with
  | nil => exact .singleton _
  | cons hanswer hrest ih =>
      unfold visited at ih ⊢
      rw [List.flatten_cons, List.map_append]
      exact isChain_append_of_lastState hanswer.isChain ih

/-- Calls of a tokenizer that reads every line to its end have a run. -/
theorem MovesCursor.exists_run {tokenizer : Tokenizer μ σ κ} (h : tokenizer.MovesCursor)
    (calls : List Call) (state : State μ σ κ) : ∃ answers, tokenizer.Run state calls answers := by
  induction calls generalizing state with
  | nil => exact ⟨[], .nil⟩
  | cons call calls ih =>
      have hanswer : ∃ answer, tokenizer.Answers state call answer := by
        cases call with
        | step cursor => exact ⟨_, .step cursor⟩
        | line line =>
            obtain ⟨steps, hdrives, -, -⟩ := h.lexer.completes line state
            exact ⟨steps, .line hdrives⟩
      obtain ⟨answer, hanswer⟩ := hanswer
      obtain ⟨answers, hanswers⟩ := ih (Lexer.lastState state answer)
      exact ⟨answer :: answers, .cons hanswer hanswers⟩

/-! ## Runs over lines -/

/-- A sentinel line is read in one step. -/
theorem steps_of_isSentinel {tokenizer : Tokenizer μ σ κ} {line : List Char}
    (hline : isSentinel line = true) {state : State μ σ κ}
    {steps : List (Token × Cursor × State μ σ κ)}
    (h : tokenizer.lexer.Drives (.ofLine line) state steps) :
    steps = [(Token.plain line, (Cursor.ofLine line).skipToEnd, state.advance)] := by
  have hstart := Cursor.stands_ofLine line
  have hend : (Cursor.ofLine line).skipToEnd.atEnd = true :=
    hstart.skipToEnd.atEnd_iff.mpr rfl
  cases h with
  | done hdone => exact absurd (hstart.atEnd_iff.mp hdone) (ne_nil_of_isSentinel hline)
  | more hmore hrest =>
      rw [tokenizer.stepOn_of_isSentinel hline] at hrest ⊢
      cases hrest with
      | done _ => rfl
      | more hmore' _ => exact absurd hend (by simp [hmore'])

/-- The segment after a line, where reading it ends. -/
theorem AddsNoSentinel.segment_lastState {tokenizer : Tokenizer μ σ κ}
    (hsentinel : tokenizer.AddsNoSentinel) {line : List Char} {state : State μ σ κ}
    {steps : List (Token × Cursor × State μ σ κ)}
    (h : tokenizer.lexer.Drives (.ofLine line) state steps) :
    (Lexer.lastState state steps).segment =
      if isSentinel line then state.segment.advance else state.segment := by
  by_cases hline : isSentinel line = true
  · rw [if_pos hline, steps_of_isSentinel hline h]
    rfl
  · rw [if_neg hline]
    have hstart : isSentinel (Cursor.ofLine line).line = false ∧
        state.segment = state.segment := ⟨by simpa [Cursor.ofLine] using hline, rfl⟩
    obtain ⟨-, -, hsegment⟩ := h.invariant hsentinel.stepOn hstart
    exact hsegment

/-- A line counts if it is a sentinel, as far as there is a segment to move on to. -/
theorem min_index_add_countP (kind : Segment) (line : List Char) (others : List (List Char)) :
    min 2 ((if isSentinel line then kind.advance else kind).index + others.countP isSentinel) =
      min 2 (kind.index + (line :: others).countP isSentinel) := by
  by_cases hline : isSentinel line = true
  · rw [if_pos hline, Segment.index_advance, List.countP_cons_of_pos hline]
    omega
  · rw [if_neg hline, List.countP_cons_of_neg hline]

theorem index_le_two (kind : Segment) : kind.index ≤ 2 := by
  cases kind <;> decide

theorem AddsNoSentinel.index_of_run {tokenizer : Tokenizer μ σ κ}
    (hsentinel : tokenizer.AddsNoSentinel) {lines : List (List Char)} {state : State μ σ κ}
    {answers : List (List (Token × Cursor × State μ σ κ))}
    (h : tokenizer.Run state (lines.map .line) answers) :
    (Lexer.lastState state answers.flatten).segment.index =
      min 2 (state.segment.index + lines.countP isSentinel) := by
  induction lines generalizing state answers with
  | nil =>
      cases h
      have := index_le_two state.segment
      rw [List.countP_nil]
      show state.segment.index = _
      omega
  | cons line others ih =>
      cases h with
      | cons hanswer hrest =>
          cases hanswer with
          | line hdrives =>
              rw [List.flatten_cons, Lexer.lastState_append, ih hrest,
                hsentinel.segment_lastState hdrives, min_index_add_countP]

theorem Forward.index_of_run {tokenizer : Tokenizer μ σ κ} (hforward : tokenizer.Forward)
    {lines : List (List Char)} {state : State μ σ κ}
    {answers : List (List (Token × Cursor × State μ σ κ))}
    (h : tokenizer.Run state (lines.map .line) answers) :
    (Lexer.lastState state answers.flatten).segment.index =
      min 2 (state.segment.index + lines.countP isSentinel) :=
  hforward.addsNoSentinel.index_of_run h

/-- Each sentinel line is one plain token. -/
theorem tokens_of_run {tokenizer : Tokenizer μ σ κ} {lines : List (List Char)}
    {state : State μ σ κ} {answers : List (List (Token × Cursor × State μ σ κ))}
    (h : tokenizer.Run state (lines.map .line) answers) :
    List.Forall₂ (fun line answer => isSentinel line = true →
      answer.map (·.1) = [Token.plain line]) lines answers := by
  induction lines generalizing state answers with
  | nil =>
      cases h
      exact .nil
  | cons line others ih =>
      cases h with
      | cons hanswer hrest =>
          cases hanswer with
          | line hdrives =>
              refine .cons (fun hline => ?_) (ih hrest)
              rw [steps_of_isSentinel hline hdrives]
              rfl

theorem AddsNoSentinel.index_tokensOfLines {tokenizer : Tokenizer μ σ κ}
    (hsentinel : tokenizer.AddsNoSentinel) (lines : List (List Char)) (state : State μ σ κ) :
    (tokenizer.lexer.tokensOfLines lines state).2.segment.index =
      min 2 (state.segment.index + lines.countP isSentinel) := by
  induction lines generalizing state with
  | nil =>
      have := index_le_two state.segment
      rw [List.countP_nil]
      show state.segment.index = _
      omega
  | cons line others ih =>
      have hsegment : (tokenizer.lexer.tokens line state).2.segment = _ :=
        hsentinel.segment_tokens line state
      rw [Lexer.tokensOfLines_cons, ih, hsegment, min_index_add_countP]

theorem Forward.index_tokensOfLines {tokenizer : Tokenizer μ σ κ} (hforward : tokenizer.Forward)
    (lines : List (List Char)) (state : State μ σ κ) :
    (tokenizer.lexer.tokensOfLines lines state).2.segment.index =
      min 2 (state.segment.index + lines.countP isSentinel) :=
  hforward.addsNoSentinel.index_tokensOfLines lines state

theorem tokens_tokensOfLines (tokenizer : Tokenizer μ σ κ) (lines : List (List Char))
    (state : State μ σ κ) :
    List.Forall₂ (fun line tokens => isSentinel line = true → tokens = [Token.plain line]) lines
      (tokenizer.lexer.tokensOfLines lines state).1 := by
  induction lines generalizing state with
  | nil => exact .nil
  | cons line others ih =>
      rw [Lexer.tokensOfLines_cons]
      refine .cons (fun hline => ?_) (ih _)
      exact congrArg Prod.fst (tokenizer.tokens_of_isSentinel hline state)

/-! ## The segments of a run -/

/-- One token moves on to the next segment, at a sentinel line, or changes the state of
the lexer of the segment and nothing else.  So in the course of a run no segment is gone
back to or left out, the lexers of the segments to come are at their start, and those of
the segments before are left as they are.  Over lines, sentinel lines are counted. -/
theorem segments_of_run (tokenizer : Tokenizer μ σ κ) :
    (∀ cursor state,
        (isSentinel cursor.line = true →
          (tokenizer.step cursor state).2.2 =
            { state with segment := state.segment.advance }) ∧
        (isSentinel cursor.line = false →
          (tokenizer.step cursor state).2.2.segment = state.segment ∧
            ∀ kind, kind ≠ state.segment →
              (tokenizer.part kind).get (tokenizer.step cursor state).2.2 =
                (tokenizer.part kind).get state)) ∧
      (∀ calls answers, tokenizer.Run tokenizer.start calls answers →
        (visited tokenizer.start answers).IsChain (fun before after =>
            after.segment = before.segment ∨ before.segment.next? = some after.segment) ∧
          (visited tokenizer.start answers).Pairwise tokenizer.Follows ∧
          ∀ state ∈ visited tokenizer.start answers, tokenizer.Fresh state) ∧
      (tokenizer.Forward → ∀ lines,
        (∀ answers, tokenizer.Run tokenizer.start (lines.map .line) answers →
          (Lexer.lastState tokenizer.start answers.flatten).segment.index =
              min 2 (lines.countP isSentinel) ∧
            List.Forall₂ (fun line answer => isSentinel line = true →
              answer.map (·.1) = [Token.plain line]) lines answers) ∧
        (tokenizer.lexer.tokensOfLines lines tokenizer.start).2.segment.index =
            min 2 (lines.countP isSentinel) ∧
          List.Forall₂ (fun line tokens => isSentinel line = true →
            tokens = [Token.plain line]) lines
            (tokenizer.lexer.tokensOfLines lines tokenizer.start).1) := by
  refine ⟨fun cursor state => ⟨fun h => ?_, fun h => ?_⟩, fun calls answers h => ?_,
    fun hforward lines => ⟨fun answers h => ⟨?_, tokens_of_run h⟩, ?_, ?_⟩⟩
  · exact tokenizer.step_of_isSentinel h state
  · obtain ⟨own, hown⟩ := tokenizer.exists_step_eq_put h state
    rw [hown]
    exact ⟨tokenizer.part_put_segment _ own state,
      fun kind hkind => tokenizer.part_get_put_of_ne hkind own state⟩
  · have hchain := h.isChain
    refine ⟨hchain.imp fun _ _ hnext => hnext.segment_eq_or, ?_, ?_⟩
    · exact (hchain.imp fun _ _ hnext => hnext.follows).pairwise
    · exact fresh_of_isChain hchain tokenizer.fresh_start
  · rw [hforward.index_of_run h]
    exact congrArg (min 2) (Nat.zero_add _)
  · rw [hforward.index_tokensOfLines]
    exact congrArg (min 2) (Nat.zero_add _)
  · exact tokenizer.tokens_tokensOfLines lines tokenizer.start

/-- A run that steps at the end of a sentinel line, and five lines with three sentinels. -/
theorem segments_of_run_standard :
    (∃ answers,
        standard.Run standard.start
            [.line sentinel, .step (Cursor.ofLine sentinel).skipToEnd, .line ['a']] answers ∧
          (visited standard.start answers).Pairwise standard.Follows) ∧
      standard.Forward ∧
      (standard.lexer.tokensOfLines [['a'], sentinel, ['b'], sentinel, sentinel]
        standard.start).2.segment.index = 2 := by
  obtain ⟨-, hruns, hlines⟩ := segments_of_run standard
  have hmoves : standard.MovesCursor :=
    ⟨Language.lexer_movesCursor _, Language.lexer_movesCursor _, Language.lexer_movesCursor _⟩
  obtain ⟨answers, hrun⟩ := hmoves.exists_run
    [.line sentinel, .step (Cursor.ofLine sentinel).skipToEnd, .line ['a']] standard.start
  refine ⟨⟨answers, hrun, (hruns _ _ hrun).2.1⟩, standard_forward, ?_⟩
  obtain ⟨-, hindex, -⟩ := hlines standard_forward [['a'], sentinel, ['b'], sentinel, sentinel]
  rw [hindex]
  decide

end Tokenizer

end Triptych
