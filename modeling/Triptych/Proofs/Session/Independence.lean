import Triptych.Proofs.Session.Editing
import Triptych.Proofs.Tokenizer.Independence

/-!
# Segments do not interfere

What is seen behind a sentinel line depends on how many sentinel lines there have been and on
nothing else that stands before it.  This holds of reading line by line and of what an editor
shows, see `continuations_agree`.

It does NOT hold of the third sentinel line and of those after it: they end no segment, and
the script goes on with what was left open in it.  Nor does it hold of lexers that go over to
a sentinel line by themselves, see `continuations_differ_straying`.
-/

namespace Triptych

namespace Tokenizer

variable {μ σ κ : Type}

theorem foldl_stateAfter (tokenizer : Tokenizer μ σ κ) (lines : List (List Char))
    (state : State μ σ κ) :
    lines.foldl tokenizer.stateAfter state = (tokenizer.lexer.tokensOfLines lines state).2 := by
  induction lines generalizing state with
  | nil => rfl
  | cons line others ih =>
      rw [List.foldl_cons, Lexer.tokensOfLines_cons, ih]
      rfl

theorem SameAhead.foldl {tokenizer : Tokenizer μ σ κ} {state state' : State μ σ κ}
    (h : tokenizer.SameAhead state state') (lines : List (List Char)) :
    tokenizer.SameAhead (lines.foldl tokenizer.stateAfter state)
      (lines.foldl tokenizer.stateAfter state') := by
  induction lines generalizing state state' with
  | nil => exact h
  | cons line others ih => exact ih (h.tokens line).2

end Tokenizer

namespace Session.Editor

variable {μ σ κ : Type}

/-- What is shown of a line: its spans, and then its segment. -/
def shown (editor : Editor μ σ κ) (line : Nat) : List Span × Option Segment :=
  let (spans, session) := editor.session.highlight editor.lines line
  (spans, session.segmentAt? line)

/-- A line is shown as the tokenizer reads it behind the lines before it. -/
theorem UpToDate.shown_eq {tokenizer : Tokenizer μ σ κ} {editor : Editor μ σ κ}
    (h : editor.UpToDate tokenizer) {front rest : List (List Char)} {line : List Char}
    (hlines : editor.lines = front ++ line :: rest) :
    editor.shown front.length =
      (tokenizer.spansOf (front.foldl tokenizer.stateAfter tokenizer.start) line,
        some (tokenizer.stateAfter (front.foldl tokenizer.stateAfter tokenizer.start)
          line).segment) := by
  obtain ⟨lines, session⟩ := editor
  obtain ⟨seen, rfl, hprefix⟩ := h
  obtain rfl : lines = front ++ line :: rest := hlines
  have hline : front.length < (front ++ line :: rest).length := by simp
  have hafter : (ofLines tokenizer (front ++ line :: rest)).checkpoints[front.length + 1]? =
      some (tokenizer.stateAfter (front.foldl tokenizer.stateAfter tokenizer.start) line) := by
    have hread := ofLines_checkpoints_append tokenizer (front ++ [line]) rest
    rw [List.append_assoc, List.length_append, List.foldl_append] at hread
    exact hread
  unfold shown
  rw [List.prefix_iff_eq_take.mp hprefix, highlight_ofLines_take tokenizer hline]
  dsimp only
  rw [segmentAt?_ofLines_take tokenizer (by omega) hline, ofLines_spans_append, hafter]
  rfl

theorem upToDate_after (tokenizer : Tokenizer μ σ κ) (document : List (List Char))
    {actions : List Action} (h : Announced actions) :
    (after tokenizer document actions).UpToDate tokenizer := by
  have htracks : (after tokenizer document actions).Tracks tokenizer [] :=
    tracks_after tokenizer document (by rwa [List.append_nil])
  exact htracks.upToDate fun _ => id

/-- Two documents whose lines up to here lead to states that are the same ahead are shown
alike from here on. -/
theorem UpToDate.shown_append {tokenizer : Tokenizer μ σ κ} {editor editor' : Editor μ σ κ}
    (h : editor.UpToDate tokenizer) (h' : editor'.UpToDate tokenizer)
    {front front' rest : List (List Char)} (hlines : editor.lines = front ++ rest)
    (hlines' : editor'.lines = front' ++ rest)
    (hahead : tokenizer.SameAhead (front.foldl tokenizer.stateAfter tokenizer.start)
      (front'.foldl tokenizer.stateAfter tokenizer.start)) {i : Nat} (hi : i < rest.length) :
    editor.shown (front.length + i) = editor'.shown (front'.length + i) := by
  have hsplit : rest = rest.take i ++ rest[i] :: rest.drop (i + 1) := by
    rw [List.getElem_cons_drop, List.take_append_drop]
  have hlength : (rest.take i).length = i := by
    rw [List.length_take]
    omega
  have hcut (front : List (List Char)) :
      front ++ rest = (front ++ rest.take i) ++ rest[i] :: rest.drop (i + 1) := by
    rw [List.append_assoc, ← hsplit]
  have hshown := h.shown_eq (hlines.trans (hcut front))
  have hshown' := h'.shown_eq (hlines'.trans (hcut front'))
  rw [List.length_append, hlength, List.foldl_append] at hshown hshown'
  obtain ⟨htokens, hafter⟩ := (hahead.foldl (rest.take i)).tokens rest[i]
  rw [hshown, hshown']
  exact Prod.ext (congrArg Span.ofTokens htokens) (congrArg some hafter.segment_eq)

/-- Two texts with the same number of sentinel lines, one or two, each of which ends with a
sentinel line, are followed alike by any text: line by line, in every run, and in editors
that are told of their edits. -/
theorem continuations_agree {tokenizer : Tokenizer μ σ κ} (hsentinel : tokenizer.AddsNoSentinel)
    {n : Nat} (hn : n = 1 ∨ n = 2) {front front' : List (List Char)} (h : EndsSegment n front)
    (h' : EndsSegment n front') :
    (∀ lines,
        tokenizer.readings lines (tokenizer.lexer.tokensOfLines front tokenizer.start).2 =
          tokenizer.readings lines (tokenizer.lexer.tokensOfLines front' tokenizer.start).2) ∧
      (∀ before before', tokenizer.Run tokenizer.start (front.map .line) before →
        tokenizer.Run tokenizer.start (front'.map .line) before' →
        ∀ calls answers,
          tokenizer.Run (Lexer.lastState tokenizer.start before.flatten) calls answers →
          ∃ answers',
            tokenizer.Run (Lexer.lastState tokenizer.start before'.flatten) calls answers' ∧
            Tokenizer.seen (Lexer.lastState tokenizer.start before.flatten) answers =
              Tokenizer.seen (Lexer.lastState tokenizer.start before'.flatten) answers') ∧
      ∀ lines document document' actions actions', Announced actions → Announced actions' →
        (after tokenizer document actions).lines = front ++ lines →
        (after tokenizer document' actions').lines = front' ++ lines →
        ∀ i < lines.length,
          (after tokenizer document actions).shown (front.length + i) =
            (after tokenizer document' actions').shown (front'.length + i) := by
  have hn : n ≤ 2 := by omega
  have hahead : tokenizer.SameAhead
      (tokenizer.lexer.tokensOfLines front tokenizer.start).2
      (tokenizer.lexer.tokensOfLines front' tokenizer.start).2 :=
    (hsentinel.beginsAt_tokensOfLines hn h).sameAhead (hsentinel.beginsAt_tokensOfLines hn h')
  refine ⟨hahead.readings_eq, ?_, ?_⟩
  · intro before before' hbefore hbefore' calls answers hrun
    have hahead' := (hsentinel.beginsAt_of_run hn h hbefore).sameAhead
      (hsentinel.beginsAt_of_run hn h' hbefore')
    exact hahead'.exists_run hrun
  · intro lines document document' actions actions' hactions hactions' hlines hlines' i hi
    rw [← Tokenizer.foldl_stateAfter, ← Tokenizer.foldl_stateAfter] at hahead
    exact (upToDate_after tokenizer document hactions).shown_append
      (upToDate_after tokenizer document' hactions') hlines hlines' hahead hi

/-- Two sentinel lines behind different texts, of which one is edited; then an open comment
in the script, and a sentinel line in it. -/
theorem continuations_agree_sluggish :
    let lines := ["/* c".toList, sentinel, ['d']]
    let actions := [.highlight 5, .edit (.replace 2 ['b', 'c']), .invalidate 1]
    Tokenizer.sluggish.AddsNoSentinel ∧
      EndsSegment 2 [['a'], sentinel, ['b', 'c'], sentinel] ∧ EndsSegment 2 [sentinel, sentinel] ∧
      Announced actions ∧ Announced [] ∧
      Tokenizer.sluggish.readings lines
          (Tokenizer.sluggish.lexer.tokensOfLines [['a'], sentinel, ['b', 'c'], sentinel]
            Tokenizer.sluggish.start).2 =
        Tokenizer.sluggish.readings lines
          (Tokenizer.sluggish.lexer.tokensOfLines [sentinel, sentinel]
            Tokenizer.sluggish.start).2 ∧
      (after .sluggish ([['a'], sentinel, ['b'], sentinel] ++ lines) actions).shown (4 + 2) =
        (after .sluggish ([sentinel, sentinel] ++ lines) []).shown (2 + 2) := by
  intro lines actions
  have hsentinel := Tokenizer.sluggish_movesCursor.addsNoSentinel
  have hfront : EndsSegment 2 [['a'], sentinel, ['b', 'c'], sentinel] :=
    ⟨by decide, [['a'], sentinel, ['b', 'c']], sentinel, rfl, by decide⟩
  have hfront' : EndsSegment 2 [sentinel, sentinel] :=
    ⟨by decide, [sentinel], sentinel, rfl, by decide⟩
  have hactions : Announced actions := by decide
  have hnone : Announced [] := trivial
  obtain ⟨hreadings, -, hshown⟩ := continuations_agree hsentinel (Or.inr rfl) hfront hfront'
  exact ⟨hsentinel, hfront, hfront', hactions, hnone, hreadings lines,
    hshown lines _ _ actions [] hactions hnone rfl rfl 2 (by decide)⟩

/-- The condition on the lexers is needed: where a long line leads to the next segment by itself,
a text in which it stands before the sentinel line is followed otherwise than one without it. -/
theorem continuations_differ_straying {line : List Char} (hline : isSentinel line = false)
    (hlong : 6 < Text.byteSize line) :
    EndsSegment 1 [line, sentinel] ∧ EndsSegment 1 [sentinel] ∧
      Tokenizer.straying.readings [[]]
          (Tokenizer.straying.lexer.tokensOfLines [line, sentinel] Tokenizer.straying.start).2 ≠
        Tokenizer.straying.readings [[]]
          (Tokenizer.straying.lexer.tokensOfLines [sentinel] Tokenizer.straying.start).2 := by
  have hsentinel : isSentinel sentinel = true := by decide
  have hstray := Tokenizer.tokens_straying hline hlong
  have hmoves := Tokenizer.straying.tokens_of_isSentinel hsentinel
  have hfront : (Tokenizer.straying.lexer.tokensOfLines [line, sentinel]
      Tokenizer.straying.start).2 = Tokenizer.straying.start.advance.advance := by
    show (Tokenizer.straying.tokens sentinel (Tokenizer.straying.tokens line _).2).2 = _
    rw [hstray, hmoves]
  have hfront' : (Tokenizer.straying.lexer.tokensOfLines [sentinel]
      Tokenizer.straying.start).2 = Tokenizer.straying.start.advance := by
    show (Tokenizer.straying.tokens sentinel _).2 = _
    rw [hmoves]
  have hempty := Tokenizer.straying.lexer.tokens_nil
  refine ⟨⟨by simp [hline, hsentinel], [line], sentinel, rfl, hsentinel⟩,
    ⟨by simp [hsentinel], [], sentinel, rfl, hsentinel⟩, ?_⟩
  rw [hfront, hfront', Tokenizer.readings_cons, Tokenizer.readings_cons, Tokenizer.tokens,
    Tokenizer.tokens, hempty, hempty]
  decide

end Session.Editor

end Triptych
