import Triptych.Proofs.Lexer.Forward
import Triptych.Proofs.Text.Cutting

/-!
# The tokens of a whole text

A lexer that moves forward takes the text of each token from the line that it reads, so
no token of a line is a line feed.  The line feeds that a whole text is classified with
can therefore be told from its other tokens, and without them the tokens are those of
the lines.

A lexer that leaves its line may make tokens out of ANY text, line feeds too.
-/

namespace Triptych

open Text

namespace Lexer

variable {σ : Type}

/-- Where a token must not be empty, it is what one step reads, moved on by a character
if the step has stalled. -/
theorem stepOn_eq_step (lexer : Lexer σ) (cursor : Cursor) (state : σ) :
    lexer.stepOn cursor state =
      let (token, read, state') := lexer.step cursor state
      if read.isStalled then
        ({ token with text := read.bumpIfStalled.current }, read.bumpIfStalled, state')
      else (token, read, state') := by
  unfold stepOn step
  dsimp only
  split
  · rfl
  · next hmoved =>
      have hkept : (lexer.read cursor.beginToken state).cursor.bumpIfStalled =
          (lexer.read cursor.beginToken state).cursor := if_neg hmoved
      rw [hkept]

/-! ## Where the text of a token comes from -/

theorem mem_of_mem_current {cursor : Cursor} {c : Char} (h : c ∈ cursor.current) :
    c ∈ cursor.line := by
  unfold Cursor.current at h
  cases hbetween : between? cursor.line cursor.start cursor.pos with
  | none =>
      rw [hbetween] at h
      exact absurd h List.not_mem_nil
  | some between =>
      rw [hbetween] at h
      exact mem_of_mem_between? hbetween h

theorem Forward.text_subset_of_mem_tokensFrom {lexer : Lexer σ} (hforward : lexer.Forward)
    {cursor : Cursor} {state : σ} {token : Token}
    (h : token ∈ (lexer.tokensFrom cursor state).1) : token.text ⊆ cursor.line := by
  -- on what is left of the line, which stays the same line from token to token
  induction hn : cursor.left using Nat.strongRecOn generalizing cursor state with
  | _ n ih =>
      rw [tokensFrom] at h
      split at h
      · exact absurd h List.not_mem_nil
      · next hend =>
          have hline := hforward.stepOn_line (by simpa using hend) state
          have hfirst : (lexer.stepOn cursor state).1.text ⊆ cursor.line := by
            intro c hc
            rw [← hline]
            exact mem_of_mem_current hc
          dsimp only at h
          split at h
          · next hlt =>
              rcases List.mem_cons.mp h with rfl | h
              · exact hfirst
              · have hlater := ih _ (hn ▸ hlt) h rfl
                rw [hline] at hlater
                exact hlater
          · rw [List.mem_singleton.mp h]
            exact hfirst

/-- No token of a piece of a text is a line feed. -/
theorem Forward.lineFeed_not_mem_tokensOfLines {lexer : Lexer σ} (hforward : lexer.Forward)
    {lines : List (List Char)} (hlines : ∀ line ∈ lines, '\n' ∉ line) (state : σ) :
    ∀ tokens ∈ (lexer.tokensOfLines lines state).1, Token.plain ['\n'] ∉ tokens := by
  induction lines generalizing state with
  | nil =>
      intro tokens htokens
      exact absurd htokens List.not_mem_nil
  | cons line others ih =>
      obtain ⟨hline, hothers⟩ := List.forall_mem_cons.mp hlines
      intro tokens htokens hfeed
      rw [tokensOfLines_cons] at htokens
      rcases List.mem_cons.mp htokens with rfl | htokens
      · have hsubset := hforward.text_subset_of_mem_tokensFrom hfeed
        exact hline (hsubset List.mem_cons_self)
      · exact ih hothers _ tokens htokens hfeed

/-! ## Classifying -/

/-- Taking away what has been put between lists that do not hold it. -/
theorem filter_intercalate {α : Type} [DecidableEq α] {x : α} {lists : List (List α)}
    (h : ∀ list ∈ lists, x ∉ list) :
    ([x].intercalate lists).filter (· ≠ x) = lists.flatten := by
  have hall : ∀ {list : List α}, x ∉ list → list.filter (· ≠ x) = list := by
    intro list hlist
    rw [List.filter_eq_self]
    intro y hy
    have hne : y ≠ x := by
      rintro rfl
      exact hlist hy
    simpa using hne
  induction lists with
  | nil => rfl
  | cons list others ih =>
      obtain ⟨hlist, hothers⟩ := List.forall_mem_cons.mp h
      cases others with
      | nil =>
          rw [List.intercalate_singleton, hall hlist]
          simp
      | cons next others =>
          rw [List.intercalate_cons_cons, List.filter_append, List.filter_append, hall hlist,
            ih hothers]
          simp

/-- Without the line feeds, the tokens of a text are those of its pieces. -/
theorem Forward.filter_classify {lexer : Lexer σ} (hforward : lexer.Forward) (text : List Char) :
    (lexer.classify text).filter (· ≠ Token.plain ['\n']) =
      (lexer.tokensOfLines (pieces text) lexer.start).1.flatten := by
  have hlines : ∀ line ∈ pieces text, '\n' ∉ line := by
    intro line hline
    exact lineFeed_not_mem_of_mem_pieces hline
  unfold classify
  exact filter_intercalate (hforward.lineFeed_not_mem_tokensOfLines hlines lexer.start)

end Lexer

end Triptych
