import Triptych.Proofs.Lexer.Alike
import Triptych.Proofs.Tokenizer.Runs

/-!
# What a segment leaves behind

Two states are the same ahead if they have come to the same segment and the lexers from that
segment on are in the same states.  The lexers of the segments before may have been left in
any states, with anything open in them, and no token to come shows which.

Behind the sentinel line that ends a segment all that lies ahead is at its start, whatever
has been read before.  So two texts that end the same segment are followed alike by any text,
by further sentinel lines too.

To know which segment a text ends, its sentinel lines are counted.  This is NOT possible if a
lexer puts a sentinel line in the place of another line; nothing else is asked of the lexers.
-/

namespace Triptych

namespace Tokenizer

variable {μ σ κ : Type}

/-! ## States that are the same ahead -/

/-- The same segment, and the same states of the lexers from this segment on. -/
structure SameAhead (tokenizer : Tokenizer μ σ κ) (state state' : State μ σ κ) : Prop where
  segment_eq : state.segment = state'.segment
  get_eq : ∀ kind, state.segment.index ≤ kind.index →
    (tokenizer.part kind).get state = (tokenizer.part kind).get state'

theorem SameAhead.advance {tokenizer : Tokenizer μ σ κ} {state state' : State μ σ κ}
    (h : tokenizer.SameAhead state state') :
    tokenizer.SameAhead state.advance state'.advance where
  segment_eq := congrArg Segment.advance h.segment_eq
  get_eq kind hkind := by
    have hle : state.segment.index ≤ kind.index :=
      Nat.le_trans state.segment.index_le_advance hkind
    rw [part_get_advance, part_get_advance, h.get_eq kind hle]

/-- One lexer goes on to the same state. -/
theorem SameAhead.put {tokenizer : Tokenizer μ σ κ} {state state' : State μ σ κ}
    (h : tokenizer.SameAhead state state') (kind : Segment) (own : (tokenizer.part kind).Own) :
    tokenizer.SameAhead ((tokenizer.part kind).put own state)
      ((tokenizer.part kind).put own state') where
  segment_eq := by rw [part_put_segment, part_put_segment, h.segment_eq]
  get_eq other hother := by
    rw [part_put_segment] at hother
    by_cases hsame : other = kind
    · rw [hsame, part_get_put, part_get_put]
    · rw [tokenizer.part_get_put_of_ne hsame, tokenizer.part_get_put_of_ne hsame,
        h.get_eq other hother]

/-- What is read does not depend on what lies behind. -/
theorem respects_sameAhead (tokenizer : Tokenizer μ σ κ) :
    tokenizer.lexer.Respects tokenizer.SameAhead := by
  intro cursor state state' h
  cases hline : isSentinel cursor.line with
  | true =>
      rw [tokenizer.read_of_isSentinel hline, tokenizer.read_of_isSentinel hline]
      exact ⟨rfl, rfl, h.advance⟩
  | false =>
      -- the lexer of the segment is in one state, so it reads one token and changes it alike
      have hown := h.get_eq state.segment (Nat.le_refl _)
      rw [tokenizer.read_of_not_isSentinel hline, tokenizer.read_of_not_isSentinel hline,
        ← h.segment_eq, ← hown]
      exact ⟨rfl, rfl, h.put state.segment _⟩

/-! ## What a host sees -/

/-- The tokens of each line, and the segment after it. -/
def readings (tokenizer : Tokenizer μ σ κ) :
    List (List Char) → State μ σ κ → List (List Token × Segment)
  | [], _ => []
  | line :: others, state =>
      let (tokens, after) := tokenizer.tokens line state
      (tokens, after.segment) :: readings tokenizer others after

theorem readings_cons (tokenizer : Tokenizer μ σ κ) (line : List Char)
    (others : List (List Char)) (state : State μ σ κ) :
    tokenizer.readings (line :: others) state =
      ((tokenizer.tokens line state).1, (tokenizer.tokens line state).2.segment) ::
        tokenizer.readings others (tokenizer.tokens line state).2 := rfl

/-- The tokens that each call of a run comes to, and the segment after them. -/
def seen (state : State μ σ κ) :
    List (List (Token × Cursor × State μ σ κ)) → List (List Token × Segment)
  | [] => []
  | answer :: answers =>
      let after := Lexer.lastState state answer
      (answer.map (·.1), after.segment) :: seen after answers

theorem seen_cons (state : State μ σ κ) (answer : List (Token × Cursor × State μ σ κ))
    (answers : List (List (Token × Cursor × State μ σ κ))) :
    seen state (answer :: answers) =
      (answer.map (·.1), (Lexer.lastState state answer).segment) ::
        seen (Lexer.lastState state answer) answers := rfl

theorem SameAhead.tokens {tokenizer : Tokenizer μ σ κ} {state state' : State μ σ κ}
    (h : tokenizer.SameAhead state state') (line : List Char) :
    (tokenizer.tokens line state).1 = (tokenizer.tokens line state').1 ∧
      tokenizer.SameAhead (tokenizer.tokens line state).2 (tokenizer.tokens line state').2 :=
  tokenizer.respects_sameAhead.tokensFrom (.ofLine line) h

theorem SameAhead.readings_eq {tokenizer : Tokenizer μ σ κ} {state state' : State μ σ κ}
    (h : tokenizer.SameAhead state state') (lines : List (List Char)) :
    tokenizer.readings lines state = tokenizer.readings lines state' := by
  induction lines generalizing state state' with
  | nil => rfl
  | cons line others ih =>
      obtain ⟨htokens, hafter⟩ := h.tokens line
      rw [readings_cons, readings_cons, htokens, hafter.segment_eq, ih hafter]

/-- A call from one state can be followed from the other. -/
theorem SameAhead.exists_answers {tokenizer : Tokenizer μ σ κ} {state state' : State μ σ κ}
    (h : tokenizer.SameAhead state state') {call : Call}
    {answer : List (Token × Cursor × State μ σ κ)} (hanswer : tokenizer.Answers state call answer) :
    ∃ answer', tokenizer.Answers state' call answer' ∧
      List.Forall₂ (Lexer.SameStep tokenizer.SameAhead) answer answer' := by
  cases hanswer with
  | step cursor =>
      exact ⟨_, .step cursor, .cons (tokenizer.respects_sameAhead.step cursor h) .nil⟩
  | line hdrives =>
      obtain ⟨steps, hdrives', hsteps⟩ := tokenizer.respects_sameAhead.exists_drives hdrives h
      exact ⟨steps, .line hdrives', hsteps⟩

/-- A run from one state can be followed from the other, and a host sees no difference. -/
theorem SameAhead.exists_run {tokenizer : Tokenizer μ σ κ} {state state' : State μ σ κ}
    (h : tokenizer.SameAhead state state') {calls : List Call}
    {answers : List (List (Token × Cursor × State μ σ κ))}
    (hrun : tokenizer.Run state calls answers) :
    ∃ answers', tokenizer.Run state' calls answers' ∧
      seen state answers = seen state' answers' := by
  induction hrun generalizing state' with
  | nil => exact ⟨[], .nil, rfl⟩
  | cons hanswer hrest ih =>
      obtain ⟨answer', hanswer', hsteps⟩ := h.exists_answers hanswer
      have hafter := Lexer.alike_lastState h hsteps
      obtain ⟨answers', hrun', hseen⟩ := ih hafter
      refine ⟨answer' :: answers', .cons hanswer' hrun', ?_⟩
      rw [seen_cons, seen_cons, Lexer.map_token_eq hsteps, hafter.segment_eq, hseen]

/-! ## Where a segment begins -/

/-- The segment with this index has been reached, and the lexers from it on are at their
start. -/
structure BeginsAt (tokenizer : Tokenizer μ σ κ) (n : Nat) (state : State μ σ κ) : Prop where
  index_eq : state.segment.index = n
  get_eq : ∀ kind, n ≤ kind.index →
    (tokenizer.part kind).get state = (tokenizer.part kind).lexer.start

/-- Moving on from a segment leaves nothing behind that counts, unless it is the last. -/
theorem Fresh.beginsAt_advance {tokenizer : Tokenizer μ σ κ} {state : State μ σ κ} {n : Nat}
    (h : tokenizer.Fresh state) (hindex : state.segment.index + 1 = n) (hn : n ≤ 2) :
    tokenizer.BeginsAt n state.advance where
  index_eq := by
    show state.segment.advance.index = n
    rw [Segment.index_advance]
    omega
  get_eq kind hkind := by
    rw [part_get_advance, h kind (by omega)]

theorem BeginsAt.sameAhead {tokenizer : Tokenizer μ σ κ} {n : Nat} {state state' : State μ σ κ}
    (h : tokenizer.BeginsAt n state) (h' : tokenizer.BeginsAt n state') :
    tokenizer.SameAhead state state' where
  segment_eq := Segment.index_injective (h.index_eq.trans h'.index_eq.symm)
  get_eq kind hkind := by
    rw [h.index_eq] at hkind
    rw [h.get_eq kind hkind, h'.get_eq kind hkind]

/-! ## Behind a sentinel line -/

theorem Fresh.tokensOfLines {tokenizer : Tokenizer μ σ κ} {state : State μ σ κ}
    (h : tokenizer.Fresh state) (lines : List (List Char)) :
    tokenizer.Fresh (tokenizer.lexer.tokensOfLines lines state).2 := by
  induction lines generalizing state with
  | nil => exact h
  | cons line others ih =>
      have hstep : ∀ cursor state, cursor.atEnd = false → tokenizer.Fresh state →
          tokenizer.Fresh (tokenizer.lexer.stepOn cursor state).2.2 :=
        fun cursor state _ hfresh => (tokenizer.next_step cursor state).fresh hfresh
      obtain ⟨-, hline⟩ := Lexer.tokensFrom_invariant (P := fun _ => tokenizer.Fresh) hstep h
      exact ih hline

theorem Fresh.of_run {tokenizer : Tokenizer μ σ κ} {state : State μ σ κ} {calls : List Call}
    {answers : List (List (Token × Cursor × State μ σ κ))} (h : tokenizer.Fresh state)
    (hrun : tokenizer.Run state calls answers) :
    tokenizer.Fresh (Lexer.lastState state answers.flatten) :=
  fresh_of_isChain hrun.isChain h _ List.getLastD_mem_cons

/-- A run over more calls is a run over the first of them and one over the others. -/
theorem Run.exists_append {tokenizer : Tokenizer μ σ κ} {state : State μ σ κ}
    {calls more : List Call} {answers : List (List (Token × Cursor × State μ σ κ))}
    (h : tokenizer.Run state (calls ++ more) answers) :
    ∃ front back, answers = front ++ back ∧ tokenizer.Run state calls front ∧
      tokenizer.Run (Lexer.lastState state front.flatten) more back := by
  induction calls generalizing state answers with
  | nil => exact ⟨[], answers, rfl, .nil, h⟩
  | cons call calls ih =>
      cases h with
      | @cons _ _ _ answer _ hanswer hrest =>
          obtain ⟨front, back, rfl, hfront, hback⟩ := ih hrest
          refine ⟨answer :: front, back, rfl, .cons hanswer hfront, ?_⟩
          rw [List.flatten_cons, Lexer.lastState_append]
          exact hback

end Tokenizer

/-- The lines hold this many sentinel lines, and the last line is one of them. -/
structure EndsSegment (n : Nat) (lines : List (List Char)) : Prop where
  countP_eq : lines.countP isSentinel = n
  exists_last : ∃ front last, lines = front ++ [last] ∧ isSentinel last = true

theorem EndsSegment.exists_front {n : Nat} {lines : List (List Char)} (h : EndsSegment n lines) :
    ∃ front last, lines = front ++ [last] ∧ isSentinel last = true ∧
      front.countP isSentinel + 1 = n := by
  obtain ⟨hcount, front, last, rfl, hlast⟩ := h
  refine ⟨front, last, rfl, hlast, ?_⟩
  rw [← hcount, List.countP_append, List.countP_cons_of_pos hlast, List.countP_nil]

namespace Tokenizer

variable {μ σ κ : Type}

/-- Lines that end a segment lead to where the next one begins. -/
theorem AddsNoSentinel.beginsAt_tokensOfLines {tokenizer : Tokenizer μ σ κ}
    (hsentinel : tokenizer.AddsNoSentinel) {n : Nat} (hn : n ≤ 2) {lines : List (List Char)}
    (h : EndsSegment n lines) :
    tokenizer.BeginsAt n (tokenizer.lexer.tokensOfLines lines tokenizer.start).2 := by
  obtain ⟨front, last, rfl, hlast, hcount⟩ := h.exists_front
  have hfresh := tokenizer.fresh_start.tokensOfLines front
  have hindex : (tokenizer.lexer.tokensOfLines front tokenizer.start).2.segment.index =
      min 2 (0 + front.countP isSentinel) :=
    hsentinel.index_tokensOfLines front tokenizer.start
  have hstate : (tokenizer.lexer.tokensOfLines (front ++ [last]) tokenizer.start).2 =
      (tokenizer.lexer.tokensOfLines front tokenizer.start).2.advance := by
    rw [Lexer.tokensOfLines_append]
    exact congrArg Prod.snd (tokenizer.tokens_of_isSentinel hlast _)
  rw [hstate]
  exact hfresh.beginsAt_advance (by omega) hn

theorem AddsNoSentinel.beginsAt_of_run {tokenizer : Tokenizer μ σ κ}
    (hsentinel : tokenizer.AddsNoSentinel) {n : Nat} (hn : n ≤ 2) {lines : List (List Char)}
    (h : EndsSegment n lines) {answers : List (List (Token × Cursor × State μ σ κ))}
    (hrun : tokenizer.Run tokenizer.start (lines.map .line) answers) :
    tokenizer.BeginsAt n (Lexer.lastState tokenizer.start answers.flatten) := by
  obtain ⟨front, last, rfl, hlast, hcount⟩ := h.exists_front
  rw [List.map_append] at hrun
  obtain ⟨answers, answers', rfl, hfront, hback⟩ := hrun.exists_append
  have hfresh := tokenizer.fresh_start.of_run hfront
  have hindex : (Lexer.lastState tokenizer.start answers.flatten).segment.index =
      min 2 (0 + front.countP isSentinel) := hsentinel.index_of_run hfront
  have hstate : Lexer.lastState tokenizer.start (answers ++ answers').flatten =
      (Lexer.lastState tokenizer.start answers.flatten).advance := by
    rw [List.flatten_append, Lexer.lastState_append]
    -- the last call is answered by the one step that reads a sentinel line
    cases hback with
    | cons hanswer hnone =>
        cases hnone
        cases hanswer with
        | line hdrives =>
            rw [steps_of_isSentinel hlast hdrives]
            rfl
  rw [hstate]
  exact hfresh.beginsAt_advance (by omega) hn

end Tokenizer

end Triptych
