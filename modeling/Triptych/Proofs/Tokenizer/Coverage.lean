import Triptych.Proofs.Lexer.Coverage
import Triptych.Proofs.Tokenizer.Lines

/-!
# No text is lost

A tokenizer whose lexers move the cursor by its operations moves it so itself.  Hence it
reads every line to its end, from every state, and its tokens make up the line; and the
tokens that it classifies the text of a segment with make up that text.

Nothing is asked of the lexers besides: they may stall, stop inside a character, and
change their states and the classes of their tokens as they please.
-/

namespace Triptych

open Text

/-- Reading by the rules of a language moves the cursor once, to where the rule stops. -/
theorem Language.lexer_movesCursor (language : Language) : language.lexer.MovesCursor := by
  intro cursor state
  exact ⟨[.advanceTo (language.scan (.ofOffset cursor.line cursor.pos) state).stop.offset], rfl⟩

namespace Tokenizer

variable {μ σ κ : Type}

/-- Each of the three lexers moves the cursor by its operations only. -/
structure MovesCursor (tokenizer : Tokenizer μ σ κ) : Prop where
  markup : tokenizer.markup.MovesCursor
  style : tokenizer.style.MovesCursor
  script : tokenizer.script.MovesCursor

theorem MovesCursor.part {tokenizer : Tokenizer μ σ κ} (h : tokenizer.MovesCursor)
    (kind : Segment) : (tokenizer.part kind).lexer.MovesCursor := by
  cases kind with
  | markup => exact h.markup
  | style => exact h.style
  | script => exact h.script

/-- No sentinel line comes from a lexer that only moves the cursor. -/
theorem MovesCursor.addsNoSentinel {tokenizer : Tokenizer μ σ κ} (h : tokenizer.MovesCursor) :
    tokenizer.AddsNoSentinel := by
  intro kind cursor own _ hline
  obtain ⟨moves, hread⟩ := h.part kind cursor own
  rw [hread, Cursor.foldl_move_line]
  exact hline

theorem MovesCursor.lexer {tokenizer : Tokenizer μ σ κ} (h : tokenizer.MovesCursor) :
    tokenizer.lexer.MovesCursor := by
  intro cursor state
  cases hline : isSentinel cursor.line with
  | true =>
      refine ⟨[.skipToEnd], ?_⟩
      rw [tokenizer.read_of_isSentinel hline]
      rfl
  | false =>
      obtain ⟨moves, hmoves⟩ := h.part state.segment cursor
        ((tokenizer.part state.segment).get state)
      refine ⟨moves, ?_⟩
      rw [tokenizer.read_of_not_isSentinel hline]
      exact hmoves

/-- Lines and texts are read to their ends, and the tokens make them up.  The line feeds
of a text are tokens of their own, and no other token holds one. -/
theorem covers_of_movesCursor {tokenizer : Tokenizer μ σ κ} (h : tokenizer.MovesCursor) :
    (∀ line state, tokenizer.lexer.Completes line state ∧
        Covers line (tokenizer.tokens line state).1) ∧
      ∀ kind text,
        (∀ line state, (tokenizer.part kind).lexer.Completes line state) ∧
          (tokenizer.classify kind text).flatMap Token.text = text ∧
          (∀ front back, text = front ++ '\n' :: back ↔
            ∃ before after,
              tokenizer.classify kind text = before ++ Token.plain ['\n'] :: after ∧
                before.flatMap Token.text = front ∧ after.flatMap Token.text = back) ∧
          ∀ token ∈ tokenizer.classify kind text, '\n' ∈ token.text →
            token = Token.plain ['\n'] := by
  refine ⟨fun line state => ⟨h.lexer.completes line state, h.lexer.covers line state⟩, ?_⟩
  intro kind text
  have hpart := h.part kind
  rw [classify_eq_part]
  refine ⟨hpart.completes, hpart.flatMap_text_classify text, hpart.lineFeed_iff_classify text, ?_⟩
  intro token htoken hfeed
  exact hpart.eq_plain_of_lineFeed_mem htoken hfeed

/-- A markup lexer that reads nothing, a style lexer that reads on by one byte and counts
its tokens, and the language of scripts. -/
def sluggish : Tokenizer Unit Nat LineState where
  markup := ⟨(), fun cursor state => ⟨some .metadata, cursor, state⟩⟩
  style := ⟨0, fun cursor count => ⟨some .comment, cursor.advanceTo (cursor.pos + 1), count + 1⟩⟩
  script := Language.javaScript.lexer

theorem sluggish_movesCursor : sluggish.MovesCursor where
  markup := fun _ _ => ⟨[], rfl⟩
  style := fun cursor _ => ⟨[.advanceTo (cursor.pos + 1)], rfl⟩
  script := Language.lexer_movesCursor _

/-- The style lexer stops inside the first character, and the markup lexer stalls. -/
theorem sluggish_covers :
    sluggish.MovesCursor ∧
      Covers "é-".toList (sluggish.tokens "é-".toList ⟨.style, (), 7, .normal⟩).1 ∧
      (sluggish.classify .markup "é\n\nb".toList).flatMap Token.text = "é\n\nb".toList := by
  obtain ⟨hlines, htexts⟩ := covers_of_movesCursor sluggish_movesCursor
  refine ⟨sluggish_movesCursor, (hlines _ _).2, ?_⟩
  exact (htexts .markup "é\n\nb".toList).2.1

end Tokenizer

end Triptych
