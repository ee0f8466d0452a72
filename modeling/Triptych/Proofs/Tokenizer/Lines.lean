import Triptych.Proofs.Lexer.Forward
import Triptych.Proofs.Cursor.Moves
import Triptych.Proofs.Block.Groups
import Triptych.Tokenizer

/-!
# What a tokenizer does to a line

A sentinel line is one plain token and moves on to the next segment; the states of the
three lexers stay as they are.  Any other line is read by the lexer of the segment as if
that lexer were alone, and the segment stays.

The lexers must move forward, since a lexer that leaves its line could lead the
tokenizer to another one.  For the segment it is enough that no lexer puts a sentinel line
in the place of another.  That a line is a sentinel is asked of the line alone, so a
construct that is open does NOT keep the segment from ending.
-/

namespace Triptych

open Text

theorem Segment.index_injective {a b : Segment} (h : a.index = b.index) : a = b := by
  cases a <;> cases b <;> first | rfl | simp [Segment.index] at h

theorem Segment.index_advance (kind : Segment) : kind.advance.index = min (kind.index + 1) 2 := by
  cases kind <;> rfl

theorem Segment.index_le_advance (kind : Segment) : kind.index ≤ kind.advance.index := by
  cases kind <;> decide

namespace Tokenizer

variable {μ σ κ : Type}

/-! ## The three lexers alike -/

/-- One of the lexers of a tokenizer, and where its state stands in the whole state. -/
structure Part (μ σ κ : Type) where
  Own : Type
  lexer : Lexer Own
  get : State μ σ κ → Own
  put : Own → State μ σ κ → State μ σ κ

/-- The lexer of a segment. -/
def part (tokenizer : Tokenizer μ σ κ) : Segment → Part μ σ κ
  | .markup => ⟨μ, tokenizer.markup, State.markup, fun own state => { state with markup := own }⟩
  | .style => ⟨σ, tokenizer.style, State.style, fun own state => { state with style := own }⟩
  | .script => ⟨κ, tokenizer.script, State.script, fun own state => { state with script := own }⟩

section Part

variable (tokenizer : Tokenizer μ σ κ) (kind : Segment)

@[simp] theorem part_put_segment (own : (tokenizer.part kind).Own) (state : State μ σ κ) :
    ((tokenizer.part kind).put own state).segment = state.segment := by
  cases kind <;> rfl

@[simp] theorem part_put_get (state : State μ σ κ) :
    (tokenizer.part kind).put ((tokenizer.part kind).get state) state = state := by
  cases kind <;> rfl

@[simp] theorem part_get_put (own : (tokenizer.part kind).Own) (state : State μ σ κ) :
    (tokenizer.part kind).get ((tokenizer.part kind).put own state) = own := by
  cases kind <;> rfl

/-- The state of another lexer is left alone. -/
theorem part_get_put_of_ne {kind kind' : Segment} (h : kind ≠ kind')
    (own : (tokenizer.part kind').Own) (state : State μ σ κ) :
    (tokenizer.part kind).get ((tokenizer.part kind').put own state) =
      (tokenizer.part kind).get state := by
  cases kind <;> cases kind' <;> first | rfl | exact absurd rfl h

/-- Moving on to the next segment leaves the states of all lexers alone. -/
theorem part_get_advance (state : State μ σ κ) :
    (tokenizer.part kind).get state.advance = (tokenizer.part kind).get state := by
  cases kind <;> rfl

theorem classify_eq_part (text : List Char) :
    tokenizer.classify kind text = (tokenizer.part kind).lexer.classify text := by
  cases kind <;> rfl

end Part

/-- A token is read by the lexer of the segment, with the state of that lexer. -/
theorem delegate_eq_part (tokenizer : Tokenizer μ σ κ) (cursor : Cursor) (state : State μ σ κ) :
    tokenizer.delegate cursor state =
      let lexeme := (tokenizer.part state.segment).lexer.read cursor
        ((tokenizer.part state.segment).get state)
      ⟨lexeme.kind, lexeme.cursor,
        (tokenizer.part state.segment).put lexeme.state state⟩ := by
  obtain ⟨segment, markup, style, script⟩ := state
  cases segment <;> rfl

theorem read_of_isSentinel (tokenizer : Tokenizer μ σ κ) {cursor : Cursor}
    (h : isSentinel cursor.line = true) (state : State μ σ κ) :
    tokenizer.lexer.read cursor state = ⟨none, cursor.skipToEnd, state.advance⟩ :=
  if_pos h

theorem read_of_not_isSentinel (tokenizer : Tokenizer μ σ κ) {cursor : Cursor}
    (h : isSentinel cursor.line = false) (state : State μ σ κ) :
    tokenizer.lexer.read cursor state =
      let lexeme := (tokenizer.part state.segment).lexer.read cursor
        ((tokenizer.part state.segment).get state)
      ⟨lexeme.kind, lexeme.cursor,
        (tokenizer.part state.segment).put lexeme.state state⟩ := by
  rw [← delegate_eq_part]
  exact if_neg (by simp [h])

/-- Each of the three lexers moves forward. -/
structure Forward (tokenizer : Tokenizer μ σ κ) : Prop where
  markup : tokenizer.markup.Forward
  style : tokenizer.style.Forward
  script : tokenizer.script.Forward

theorem Forward.part {tokenizer : Tokenizer μ σ κ} (h : tokenizer.Forward) (kind : Segment) :
    (tokenizer.part kind).lexer.Forward := by
  cases kind with
  | markup => exact h.markup
  | style => exact h.style
  | script => exact h.script

theorem standard_forward : standard.Forward :=
  ⟨Language.lexer_forward _, Language.lexer_forward _, Language.lexer_forward _⟩

/-- No lexer puts a sentinel line in the place of another line.  Without this the segment after
some lines is NOT known from these lines, see `tokens_straying`. -/
def AddsNoSentinel (tokenizer : Tokenizer μ σ κ) : Prop :=
  ∀ kind cursor own, cursor.atEnd = false → isSentinel cursor.line = false →
    isSentinel ((tokenizer.part kind).lexer.read cursor own).cursor.line = false

theorem Forward.addsNoSentinel {tokenizer : Tokenizer μ σ κ} (h : tokenizer.Forward) :
    tokenizer.AddsNoSentinel := by
  intro kind cursor own hend hline
  rw [(h.part kind cursor own hend).1]
  exact hline

/-- The lexers go over to a sentinel line, whatever line they are given. -/
def straying : Tokenizer Unit Unit Unit :=
  let lexer : Lexer Unit := ⟨(), fun _ state => ⟨none, .ofLine sentinel, state⟩⟩
  ⟨lexer, lexer, lexer⟩

theorem not_addsNoSentinel_straying : ¬ straying.AddsNoSentinel := by
  intro h
  have hstrays := h .markup (.ofLine ['x']) () rfl rfl
  exact absurd hstrays (by decide)

/-! ## Sentinel lines -/

theorem ne_nil_of_isSentinel {line : List Char} (h : isSentinel line = true) : line ≠ [] := by
  rintro rfl
  simp [isSentinel_of_blank blank_nil] at h

/-- One step takes the whole sentinel line. -/
theorem stepOn_of_isSentinel (tokenizer : Tokenizer μ σ κ) {line : List Char}
    (h : isSentinel line = true) (state : State μ σ κ) :
    tokenizer.lexer.stepOn (Cursor.ofLine line) state =
      (Token.plain line, (Cursor.ofLine line).skipToEnd, state.advance) := by
  have hstands : (Cursor.ofLine line).skipToEnd.Stands [] line [] :=
    (Cursor.stands_ofLine line).skipToEnd
  have hread : tokenizer.lexer.read (Cursor.ofLine line).beginToken state =
      ⟨none, (Cursor.ofLine line).skipToEnd, state.advance⟩ :=
    tokenizer.read_of_isSentinel h state
  unfold Lexer.stepOn
  rw [hread]
  dsimp only
  rw [hstands.bumpIfStalled_of_ne_nil (ne_nil_of_isSentinel h), hstands.current_eq]
  rfl

/-- A sentinel line is one plain token, and the segment after it is the next one. -/
theorem tokens_of_isSentinel (tokenizer : Tokenizer μ σ κ) {line : List Char}
    (h : isSentinel line = true) (state : State μ σ κ) :
    tokenizer.tokens line state = ([Token.plain line], state.advance) := by
  have hne := ne_nil_of_isSentinel h
  have hstart := Cursor.stands_ofLine line
  have hbegin : (Cursor.ofLine line).atEnd = false := hstart.atEnd_eq_false_iff.mpr hne
  have hend : (Cursor.ofLine line).skipToEnd.atEnd = true :=
    hstart.skipToEnd.atEnd_iff.mpr rfl
  -- one step takes the whole line, and there is no second
  have hlt : (Cursor.ofLine line).skipToEnd.left < (Cursor.ofLine line).left := by
    rw [hstart.left_eq, hstart.skipToEnd.left_eq, byteSize_nil]
    exact byteSize_pos hne
  unfold tokens Lexer.tokens
  rw [Lexer.tokensFrom, if_neg (by simp [hbegin]), tokenizer.stepOn_of_isSentinel h]
  dsimp only
  rw [if_pos hlt, Lexer.tokensFrom_of_atEnd hend]

/-! ## Other lines -/

/-- On a line that is no sentinel the tokenizer carries the lexer of its segment. -/
theorem carries_part (tokenizer : Tokenizer μ σ κ) {line : List Char}
    (h : isSentinel line = false) (state : State μ σ κ) :
    tokenizer.lexer.Carries (tokenizer.part state.segment).lexer
      (fun own => (tokenizer.part state.segment).put own state) line := by
  rintro cursor own rfl
  rw [tokenizer.read_of_not_isSentinel h]
  obtain ⟨segment, markup, style, script⟩ := state
  cases segment <;> rfl

/-- The lexer of the segment reads the line as if it were alone. -/
theorem tokens_of_not_isSentinel (tokenizer : Tokenizer μ σ κ) (hforward : tokenizer.Forward)
    {line : List Char} (h : isSentinel line = false) (state : State μ σ κ) :
    tokenizer.tokens line state =
      let read := (tokenizer.part state.segment).lexer.tokens line
        ((tokenizer.part state.segment).get state)
      (read.1, (tokenizer.part state.segment).put read.2 state) := by
  have htokens := (tokenizer.carries_part h state).tokens (hforward.part state.segment)
    ((tokenizer.part state.segment).get state)
  rw [part_put_get] at htokens
  exact htokens

/-- A step on a line that is no sentinel leads to no sentinel and stays in the segment. -/
theorem AddsNoSentinel.stepOn {tokenizer : Tokenizer μ σ κ}
    (hsentinel : tokenizer.AddsNoSentinel) {kind : Segment} (cursor : Cursor)
    (state : State μ σ κ) (hend : cursor.atEnd = false)
    (h : isSentinel cursor.line = false ∧ state.segment = kind) :
    isSentinel (tokenizer.lexer.stepOn cursor state).2.1.line = false ∧
      (tokenizer.lexer.stepOn cursor state).2.2.segment = kind := by
  obtain ⟨hline, rfl⟩ := h
  have hbegin : isSentinel cursor.beginToken.line = false := hline
  unfold Lexer.stepOn
  rw [tokenizer.read_of_not_isSentinel hbegin]
  dsimp only
  rw [Cursor.bumpIfStalled_line, part_put_segment]
  exact ⟨hsentinel state.segment cursor.beginToken _ hend hline, rfl⟩

/-- The segment after a line is known from the line alone. -/
theorem AddsNoSentinel.segment_tokens {tokenizer : Tokenizer μ σ κ}
    (hsentinel : tokenizer.AddsNoSentinel) (line : List Char) (state : State μ σ κ) :
    (tokenizer.tokens line state).2.segment =
      if isSentinel line then state.segment.advance else state.segment := by
  by_cases h : isSentinel line = true
  · rw [if_pos h, tokens_of_isSentinel tokenizer h]
    rfl
  · rw [if_neg h]
    have hstart : isSentinel (Cursor.ofLine line).line = false ∧
        state.segment = state.segment := ⟨by simpa [Cursor.ofLine] using h, rfl⟩
    obtain ⟨-, -, hsegment⟩ := Lexer.tokensFrom_invariant hsentinel.stepOn hstart
    exact hsegment

/-- A line that is longer than what is left of the sentinel line leads to the next segment, though
it is no sentinel line itself. -/
theorem tokens_straying {line : List Char} (hline : isSentinel line = false)
    (hlong : 6 < byteSize line) (state : State Unit Unit Unit) :
    (straying.tokens line state).2 = state.advance := by
  have hstart := Cursor.stands_ofLine line
  have hbegin : (Cursor.ofLine line).atEnd = false := by
    rw [hstart.atEnd_eq_false_iff]
    rintro rfl
    simp [byteSize_nil] at hlong
  -- the first step takes one character of the sentinel line, the second one the rest of it
  have hfirst : straying.lexer.stepOn (Cursor.ofLine line) state =
      (Token.plain ['-'], ⟨sentinel, 0, 1⟩, state) := by
    unfold Lexer.stepOn
    rw [straying.read_of_not_isSentinel hline]
    obtain ⟨segment, markup, style, script⟩ := state
    cases segment <;> rfl
  have hsecond : straying.lexer.stepOn ⟨sentinel, 0, 1⟩ state =
      (Token.plain "--*---".toList, ⟨sentinel, 1, 7⟩, state.advance) := rfl
  have hleft : (Cursor.mk sentinel 0 1).left < (Cursor.ofLine line).left := by
    rw [hstart.left_eq]
    exact hlong
  unfold tokens Lexer.tokens
  rw [Lexer.tokensFrom, if_neg (by simp [hbegin]), hfirst]
  dsimp only
  rw [if_pos hleft, Lexer.tokensFrom, if_neg (by decide), hsecond]
  dsimp only
  rw [if_pos (by decide), Lexer.tokensFrom_of_atEnd (by decide)]

theorem segment_tokens (tokenizer : Tokenizer μ σ κ) (hforward : tokenizer.Forward)
    (line : List Char) (state : State μ σ κ) :
    (tokenizer.tokens line state).2.segment =
      if isSentinel line then state.segment.advance else state.segment :=
  hforward.addsNoSentinel.segment_tokens line state

end Tokenizer

end Triptych
