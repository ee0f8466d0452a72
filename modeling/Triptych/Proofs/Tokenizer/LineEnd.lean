import Mathlib.Logic.Function.Iterate
import Triptych.Proofs.Language.PlainRuns
import Triptych.Proofs.Language.Resuming
import Triptych.Proofs.Tokenizer.Runs

/-!
# Steps at the end of a line

A host may take steps on a cursor that is at the end of its line already.  The rules of a language
are idle there: nothing is read, and the state stays as it is, provided that it names no construct
that the language does not have.  Reading never leads to such a state.

A sentinel line is NOT idle.  Whether the line is a sentinel is asked at every step and of the
whole line, so each step at its end moves on to the next segment once more, as long as there is
one.  A loop that stops at the end of the line never comes to this.
-/

namespace Triptych

open Text

namespace Language

/-! ## The end of a text -/

section End

variable {language : Language} {p q : Place} {state : LineState}

/-- Nothing begins at the end. -/
theorem not_begins_of_after_nil (hp : p.after = []) : ¬ language.Begins p := by
  rintro ⟨r, -, q, htakes⟩
  exact htakes.precedes.after_ne_nil hp

/-- A state in which no construct is open names none, if the language knows it. -/
theorem Knows.eq_normal (h : language.Knows state) (hopen : language.openConstruct? state = none) :
    state = .normal := by
  obtain ⟨id⟩ := state
  by_cases hid : id = 0
  · rw [hid]
    rfl
  · rcases h with h | ⟨rule, hrule, h⟩
    · exact absurd h hid
    · unfold openConstruct? at hopen
      rw [if_pos (by simpa [LineState.isInside] using hid)] at hopen
      exact absurd h.symm (by simpa using List.find?_eq_none.mp hopen rule hrule)

/-- At the end of a text nothing is read, and a state that the language knows stays. -/
theorem Knows.scan_of_after_nil (h : language.Knows state) (hp : p.after = []) :
    (language.scan p state).stop = p ∧ (language.scan p state).state = state := by
  cases hopen : language.openConstruct? state with
  | some rule =>
      have hclosing : rule.findClosing? p = none :=
        Option.eq_none_iff_forall_ne_some.mpr fun stop hsome => Construct.after_ne_nil hsome hp
      have hinside : language.scan p state = ⟨p.finish, some rule.kind, state⟩ := by
        rw [scan, hopen]
        dsimp only
        rw [scanInside, hclosing]
      rw [hinside]
      exact ⟨Place.finish_of_after_nil hp, rfl⟩
  | none =>
      rw [h.eq_normal hopen, scan_of_not_begins (not_begins_of_after_nil hp)]
      obtain ⟨xs, hread⟩ := language.exists_reads_nextStart p
      obtain rfl := hread.eq_nil hp
      exact ⟨Place.reads_nil.mp hread, rfl⟩

/-- At the end of a line the lexer leaves its cursor and its state as they are. -/
theorem Knows.read_of_pos_eq (h : language.Knows state) {cursor : Cursor}
    (hend : cursor.pos = byteSize cursor.line) :
    ∃ kind, language.lexer.read cursor state = ⟨kind, cursor, state⟩ := by
  have hplace : Place.ofOffset cursor.line cursor.pos = .between cursor.line [] := by
    have hline := Place.ofOffset_append cursor.line []
    rwa [List.append_nil, ← hend] at hline
  obtain ⟨hstop, hstate⟩ := h.scan_of_after_nil (Place.after_between cursor.line [])
  have hmoved : cursor.advanceTo (byteSize cursor.line) = cursor := by
    rw [Cursor.advanceTo_boundary (List.append_nil cursor.line).symm (Nat.le_of_eq hend), ← hend]
  refine ⟨(language.scan (.between cursor.line []) state).kind, ?_⟩
  unfold lexer
  dsimp only
  rw [hplace, hstop, hstate, Place.offset_between, hmoved]

end End

end Language

namespace Tokenizer

variable {μ σ κ : Type}

/-! ## Steps in a row -/

/-- The cursor and the state after some steps on one cursor. -/
def afterSteps (tokenizer : Tokenizer μ σ κ) :
    Nat → Cursor → State μ σ κ → Cursor × State μ σ κ
  | 0, cursor, state => (cursor, state)
  | n + 1, cursor, state =>
      let (_, moved, state') := tokenizer.step cursor state
      afterSteps tokenizer n moved state'

theorem afterSteps_succ (tokenizer : Tokenizer μ σ κ) (n : Nat) (cursor : Cursor)
    (state : State μ σ κ) :
    tokenizer.afterSteps (n + 1) cursor state =
      tokenizer.afterSteps n (tokenizer.step cursor state).2.1
        (tokenizer.step cursor state).2.2 := rfl

/-! ## Moving on several times -/

theorem index_iterate_advance (n : Nat) (state : State μ σ κ) :
    (State.advance^[n] state).segment.index = min 2 (state.segment.index + n) := by
  induction n generalizing state with
  | zero =>
      have := index_le_two state.segment
      show state.segment.index = _
      omega
  | succ n ih =>
      rw [Function.iterate_succ_apply, ih]
      show min 2 (state.segment.advance.index + n) = _
      rw [Segment.index_advance]
      omega

theorem part_get_iterate_advance (tokenizer : Tokenizer μ σ κ) (kind : Segment) (n : Nat)
    (state : State μ σ κ) :
    (tokenizer.part kind).get (State.advance^[n] state) = (tokenizer.part kind).get state := by
  induction n generalizing state with
  | zero => rfl
  | succ n ih => rw [Function.iterate_succ_apply, ih, part_get_advance]

/-- Only the last segment is not moved on from. -/
theorem advance_eq_self_iff {state : State μ σ κ} :
    state.advance = state ↔ state.segment = .script := by
  constructor
  · intro h
    have hsegment : state.segment.advance = state.segment := congrArg State.segment h
    cases hkind : state.segment with
    | markup => simp [hkind, Segment.advance, Segment.next?] at hsegment
    | style => simp [hkind, Segment.advance, Segment.next?] at hsegment
    | script => rfl
  · intro h
    unfold State.advance
    rw [h]
    show { state with segment := Segment.script } = state
    rw [← h]

/-- Each step on a sentinel line moves on, wherever in the line it is taken. -/
theorem afterSteps_of_isSentinel (tokenizer : Tokenizer μ σ κ) {cursor : Cursor}
    (h : isSentinel cursor.line = true) (n : Nat) (state : State μ σ κ) :
    (tokenizer.afterSteps n cursor state).2 = State.advance^[n] state := by
  induction n generalizing cursor state with
  | zero => rfl
  | succ n ih =>
      have hbegin : isSentinel cursor.beginToken.line = true := h
      have hline : (tokenizer.step cursor state).2.1.line = cursor.line := by
        unfold step Lexer.step
        rw [tokenizer.read_of_isSentinel hbegin]
        rfl
      rw [afterSteps_succ, ih (hline.symm ▸ h), tokenizer.step_of_isSentinel h,
        Function.iterate_succ_apply]

/-! ## What every step preserves -/

section Preserved

variable {tokenizer : Tokenizer μ σ κ} {P : State μ σ κ → Prop} {state : State μ σ κ}

theorem forall_of_drives
    (hstep : ∀ cursor state, P state → P (tokenizer.step cursor state).2.2) {cursor : Cursor}
    {steps : List (Token × Cursor × State μ σ κ)}
    (h : tokenizer.lexer.Drives cursor state steps) (hstate : P state) :
    ∀ step ∈ steps, P step.2.2 := by
  induction h with
  | done hend => simp
  | @more cursor state steps hend hrest ih =>
      -- making up a token to a character changes the cursor and not the state
      have hnext : P (tokenizer.lexer.stepOn cursor state).2.2 := hstep cursor state hstate
      exact List.forall_mem_cons.mpr ⟨hnext, ih hnext⟩

theorem Answers.forall_state
    (hstep : ∀ cursor state, P state → P (tokenizer.step cursor state).2.2) {call : Call}
    {answer : List (Token × Cursor × State μ σ κ)} (h : tokenizer.Answers state call answer)
    (hstate : P state) : ∀ step ∈ answer, P step.2.2 := by
  cases h with
  | step cursor => exact List.forall_mem_singleton.mpr (hstep cursor state hstate)
  | line hdrives => exact forall_of_drives hstep hdrives hstate

theorem lastState_of_forall {answer : List (Token × Cursor × State μ σ κ)} (hstate : P state)
    (h : ∀ step ∈ answer, P step.2.2) : P (Lexer.lastState state answer) := by
  induction answer generalizing state with
  | nil => exact hstate
  | cons step answer ih =>
      obtain ⟨hfirst, hrest⟩ := List.forall_mem_cons.mp h
      rw [Lexer.lastState_cons]
      exact ih hfirst hrest

/-- What every step preserves holds in the course of every run. -/
theorem Run.forall_visited
    (hstep : ∀ cursor state, P state → P (tokenizer.step cursor state).2.2) {calls : List Call}
    {answers : List (List (Token × Cursor × State μ σ κ))}
    (h : tokenizer.Run state calls answers) (hstate : P state) :
    ∀ state' ∈ visited state answers, P state' := by
  induction h with
  | nil => exact List.forall_mem_singleton.mpr hstate
  | @cons state call calls answer answers hanswer hrest ih =>
      have hfirst := hanswer.forall_state hstep hstate
      obtain ⟨-, hlater⟩ := List.forall_mem_cons.mp (ih (lastState_of_forall hstate hfirst))
      unfold visited
      rw [List.flatten_cons, List.map_append]
      refine List.forall_mem_cons.mpr ⟨hstate, List.forall_mem_append.mpr ⟨?_, hlater⟩⟩
      exact List.forall_mem_map.mpr hfirst

end Preserved

/-! ## Known states -/

/-- The state of each lexer is known to its language. -/
structure Knows (markup style script : Language) (state : State LineState LineState LineState) :
    Prop where
  markup : markup.Knows state.markup
  style : style.Knows state.style
  script : script.Knows state.script

section Languages

variable {markup style script : Language} {state : State LineState LineState LineState}

theorem knows_start (markup style script : Language) :
    Knows markup style script (ofLanguages markup style script).start :=
  ⟨Or.inl rfl, Or.inl rfl, Or.inl rfl⟩

/-- No step leads to a state that is not known. -/
theorem Knows.step (h : Knows markup style script state) (cursor : Cursor) :
    Knows markup style script ((ofLanguages markup style script).step cursor state).2.2 := by
  cases hline : isSentinel cursor.line with
  | true =>
      rw [step_of_isSentinel _ hline]
      exact ⟨h.markup, h.style, h.script⟩
  | false =>
      have hbegin : isSentinel cursor.beginToken.line = false := hline
      unfold Tokenizer.step Lexer.step
      rw [read_of_not_isSentinel _ hbegin]
      obtain ⟨segment, own, own', own''⟩ := state
      cases segment with
      | markup => exact ⟨markup.knows_scan _ own, h.style, h.script⟩
      | style => exact ⟨h.markup, style.knows_scan _ own', h.script⟩
      | script => exact ⟨h.markup, h.style, script.knows_scan _ own''⟩

/-! ## At the end of a line -/

theorem Knows.read_part_of_pos_eq (h : Knows markup style script state) (kind : Segment)
    {cursor : Cursor} (hend : cursor.pos = byteSize cursor.line) :
    let part := (ofLanguages markup style script).part kind
    ∃ cls, part.lexer.read cursor (part.get state) = ⟨cls, cursor, part.get state⟩ := by
  cases kind with
  | markup => exact h.markup.read_of_pos_eq hend
  | style => exact h.style.read_of_pos_eq hend
  | script => exact h.script.read_of_pos_eq hend

/-- At the end of a line a step reads nothing.  On a sentinel line it moves on to the next segment,
and on any other line it leaves the whole state as it is. -/
theorem Knows.step_of_pos_eq (h : Knows markup style script state) {cursor : Cursor}
    (hend : cursor.pos = byteSize cursor.line) :
    ∃ cls, (ofLanguages markup style script).step cursor state =
      (⟨cls, []⟩, cursor.beginToken,
        if isSentinel cursor.line then state.advance else state) := by
  have hbegin : cursor.beginToken.pos = byteSize cursor.beginToken.line := hend
  have hcurrent : cursor.beginToken.current = [] := by
    have hnothing := between?_append cursor.line [] []
    simp only [List.append_nil] at hnothing
    show (between? cursor.line cursor.pos cursor.pos).getD [] = []
    rw [hend, hnothing]
    rfl
  have hread : ∃ cls, (ofLanguages markup style script).lexer.read cursor.beginToken state =
      ⟨cls, cursor.beginToken, if isSentinel cursor.line then state.advance else state⟩ := by
    cases hline : isSentinel cursor.line with
    | true =>
        have hsentinel : isSentinel cursor.beginToken.line = true := hline
        have hskip : cursor.beginToken.skipToEnd = cursor.beginToken := by
          unfold Cursor.skipToEnd
          rw [← hbegin]
        rw [read_of_isSentinel _ hsentinel, hskip]
        exact ⟨none, rfl⟩
    | false =>
        have hother : isSentinel cursor.beginToken.line = false := hline
        obtain ⟨cls, hread⟩ := h.read_part_of_pos_eq state.segment hbegin
        rw [read_of_not_isSentinel _ hother]
        dsimp only
        rw [hread, part_put_get]
        exact ⟨cls, rfl⟩
  obtain ⟨cls, hread⟩ := hread
  refine ⟨cls, ?_⟩
  unfold Tokenizer.step Lexer.step
  rw [hread]
  dsimp only
  rw [hcurrent]

/-- Any number of steps at the end of a line leaves the cursor there. -/
theorem Knows.afterSteps_of_pos_eq (h : Knows markup style script state) {cursor : Cursor}
    (hend : cursor.pos = byteSize cursor.line) (n : Nat) :
    let after := (ofLanguages markup style script).afterSteps n cursor state
    after.1.line = cursor.line ∧ after.1.pos = cursor.pos ∧
      Knows markup style script after.2 ∧
      after.2 = if isSentinel cursor.line then State.advance^[n] state else state := by
  induction n generalizing cursor state with
  | zero => exact ⟨rfl, rfl, h, by split <;> rfl⟩
  | succ n ih =>
      obtain ⟨cls, hstep⟩ := h.step_of_pos_eq hend
      have hknows := h.step cursor
      have hbegin : cursor.beginToken.pos = byteSize cursor.beginToken.line := hend
      rw [hstep] at hknows
      obtain ⟨hline, hpos, hknows', hstate⟩ := ih hknows hbegin
      rw [afterSteps_succ, hstep]
      refine ⟨hline, hpos, hknows', hstate.trans ?_⟩
      show (if isSentinel cursor.line then _ else _) = _
      split <;> rfl

/-- Steps at the end of a line never change the state, unless the line is a sentinel with a segment
to move on to. -/
theorem Knows.forall_afterSteps_eq_iff (h : Knows markup style script state) {cursor : Cursor}
    (hend : cursor.pos = byteSize cursor.line) :
    (∀ n, ((ofLanguages markup style script).afterSteps n cursor state).2 = state) ↔
      isSentinel cursor.line = false ∨ state.segment = .script := by
  have hafter := fun n => (h.afterSteps_of_pos_eq hend n).2.2.2
  cases hline : isSentinel cursor.line with
  | false =>
      refine iff_of_true (fun n => ?_) (Or.inl rfl)
      rw [hafter n, hline]
      rfl
  | true =>
      rw [hline] at hafter
      constructor
      · intro hall
        exact Or.inr (advance_eq_self_iff.mp ((hafter 1).symm.trans (hall 1)))
      · rintro (hline | hscript) n
        · cases hline
        · rw [hafter n, if_pos rfl,
            Function.iterate_fixed (advance_eq_self_iff.mpr hscript) n]

/-- Steps at the end of a line read nothing, and leave the cursor and the states of the lexers as
they are.  The segment stays, or moves on once at each step. -/
theorem Knows.afterSteps_at_end (h : Knows markup style script state) {cursor : Cursor}
    (hend : cursor.pos = byteSize cursor.line) (n : Nat) :
    let tokenizer := ofLanguages markup style script
    let after := tokenizer.afterSteps n cursor state
    after.1.line = cursor.line ∧ after.1.pos = cursor.pos ∧
      (tokenizer.step after.1 after.2).1.text = [] ∧
      (∀ kind, (tokenizer.part kind).get after.2 = (tokenizer.part kind).get state) ∧
      after.2.segment.index =
        if isSentinel cursor.line then min 2 (state.segment.index + n)
        else state.segment.index := by
  intro tokenizer after
  obtain ⟨hline, hpos, hknows, hafter⟩ := h.afterSteps_of_pos_eq hend n
  obtain ⟨cls, hstep⟩ := hknows.step_of_pos_eq (by rw [hline, hpos, hend])
  refine ⟨hline, hpos, congrArg (·.1.text) hstep, fun kind => ?_, ?_⟩
  · rw [hafter]
    split
    · exact tokenizer.part_get_iterate_advance kind n state
    · rfl
  · rw [hafter]
    split
    · exact index_iterate_advance n state
    · rfl

end Languages

/-- In the course of any run, any number of steps at the end of a line reads nothing, leaves the
cursor where it is, and leaves the states of the three lexers as they are.  On a line that is no
sentinel it leaves the segment as it is too.  On a sentinel line each step moves on to the next
segment, at the end of the line as at any other place; so the steps change nothing only in the last
segment.  Reading the whole line in a loop moves on once. -/
theorem steps_at_line_end (markup style script : Language) {calls : List Call}
    {answers : List (List (Token × Cursor × State LineState LineState LineState))}
    (hrun : (ofLanguages markup style script).Run (ofLanguages markup style script).start calls
      answers)
    {state : State LineState LineState LineState}
    (hstate : state ∈ visited (ofLanguages markup style script).start answers)
    {cursor : Cursor} (hend : cursor.pos = byteSize cursor.line) :
    let tokenizer := ofLanguages markup style script
    (∀ n,
      let after := tokenizer.afterSteps n cursor state
      after.1.line = cursor.line ∧ after.1.pos = cursor.pos ∧
        (tokenizer.step after.1 after.2).1.text = [] ∧
        (∀ kind, (tokenizer.part kind).get after.2 = (tokenizer.part kind).get state) ∧
        after.2.segment.index =
          if isSentinel cursor.line then min 2 (state.segment.index + n)
          else state.segment.index) ∧
      ((∀ n, (tokenizer.afterSteps n cursor state).2 = state) ↔
        isSentinel cursor.line = false ∨ state.segment = .script) ∧
      ∀ other, isSentinel other = true →
        (∀ n place, place.line = other →
          (tokenizer.afterSteps n place state).2.segment.index =
            min 2 (state.segment.index + n)) ∧
          (tokenizer.tokens other state).2.segment.index = min 2 (state.segment.index + 1) := by
  intro tokenizer
  have hknows : Knows markup style script state :=
    hrun.forall_visited (fun cursor _ h => h.step cursor) (knows_start markup style script) state
      hstate
  refine ⟨hknows.afterSteps_at_end hend, hknows.forall_afterSteps_eq_iff hend,
    fun other hother => ⟨?_, ?_⟩⟩
  · rintro n place rfl
    rw [tokenizer.afterSteps_of_isSentinel hother, index_iterate_advance]
  · rw [tokenizer.tokens_of_isSentinel hother]
    exact index_iterate_advance 1 state

/-- A comment is left open in the style segment, and its line is no sentinel. -/
theorem steps_at_line_end_open_comment :
    let line := ['/', '*']
    let first := standard.step (.ofLine sentinel) standard.start
    let second := standard.step (.ofLine line) first.2.2
    standard.Run standard.start [.step (.ofLine sentinel), .step (.ofLine line)]
        [[first], [second]] ∧
      second.2.2 ∈ visited standard.start [[first], [second]] ∧
      (⟨line, 0, 2⟩ : Cursor).pos = byteSize line ∧
      ∀ n, (standard.afterSteps n ⟨line, 0, 2⟩ second.2.2).2 = second.2.2 := by
  intro line first second
  have hrun : standard.Run standard.start [.step (.ofLine sentinel), .step (.ofLine line)]
      [[first], [second]] := .cons (.step _) (.cons (.step _) .nil)
  have hvisited : second.2.2 ∈ visited standard.start [[first], [second]] := by
    simp [visited]
  have hend : (⟨line, 0, 2⟩ : Cursor).pos = byteSize line := by decide
  obtain ⟨-, hinert, -⟩ :=
    steps_at_line_end Language.html Language.css Language.javaScript hrun hvisited hend
  exact ⟨hrun, hvisited, hend, hinert.mpr (Or.inl (by decide))⟩

/-- A second step on one sentinel line is taken at its end, reads nothing, and moves on again. -/
theorem sentinel_moves_on_twice :
    let first := standard.step (.ofLine sentinel) standard.start
    let second := standard.step first.2.1 first.2.2
    first.2.1.pos = byteSize first.2.1.line ∧ second.2.1.pos = first.2.1.pos ∧
      second.1.text = [] ∧ first.2.2.segment = .style ∧ second.2.2.segment = .script :=
  ⟨rfl, rfl, rfl, rfl, rfl⟩

end Tokenizer

end Triptych
