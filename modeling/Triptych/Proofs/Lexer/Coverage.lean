import Triptych.Proofs.Lexer.Driving
import Triptych.Proofs.Text.Cutting

/-!
# Tokens make up the text

Where the tokens of each line make up the line, the tokens of a whole text make up the
text: the line feeds between the lines are tokens of their own, see
`lineFeed_iff_classify`.

No other token holds a line feed.  This is NOT so for a line that is read alone, since
such a line may hold line feeds of its own.
-/

namespace Triptych

open Text

/-- The tokens are pieces of the line of at least a character each, and make it up. -/
structure Covers (line : List Char) (tokens : List Token) : Prop where
  flatMap_text : tokens.flatMap Token.text = line
  text_ne_nil : ∀ token ∈ tokens, token.text ≠ []
  length_le : tokens.length ≤ line.length

/-- There are no more tokens than characters, since no token is empty. -/
theorem length_le_length_flatMap_text {tokens : List Token}
    (h : ∀ token ∈ tokens, token.text ≠ []) :
    tokens.length ≤ (tokens.flatMap Token.text).length := by
  induction tokens with
  | nil => exact Nat.le_refl 0
  | cons token rest ih =>
      obtain ⟨htoken, hrest⟩ := List.forall_mem_cons.mp h
      have hpos := List.length_pos_iff.mpr htoken
      have hlater := ih hrest
      rw [List.length_cons, List.flatMap_cons, List.length_append]
      omega

namespace Lexer

variable {σ : Type} {lexer : Lexer σ}

theorem MovesCursor.covers (hmoves : lexer.MovesCursor) (line : List Char) (state : σ) :
    Covers line (lexer.tokens line state).1 := by
  have htext := hmoves.flatMap_text_tokens line state
  have hne := (hmoves.completes line state).text_ne_nil
  refine ⟨htext, hne, ?_⟩
  calc (lexer.tokens line state).1.length
      ≤ ((lexer.tokens line state).1.flatMap Token.text).length :=
        length_le_length_flatMap_text hne
    _ = line.length := by rw [htext]

/-! ## Lines one after the other -/

theorem tokensOfLines_append (lexer : Lexer σ) (front back : List (List Char)) (state : σ) :
    lexer.tokensOfLines (front ++ back) state =
      ((lexer.tokensOfLines front state).1 ++
          (lexer.tokensOfLines back (lexer.tokensOfLines front state).2).1,
        (lexer.tokensOfLines back (lexer.tokensOfLines front state).2).2) := by
  induction front generalizing state with
  | nil => rfl
  | cons line front ih =>
      rw [List.cons_append, tokensOfLines_cons, tokensOfLines_cons, ih]
      rfl

/-- The tokens of each line make up the line. -/
theorem MovesCursor.map_flatMap_text_tokensOfLines (hmoves : lexer.MovesCursor)
    (lines : List (List Char)) (state : σ) :
    (lexer.tokensOfLines lines state).1.map (fun tokens => tokens.flatMap Token.text) = lines := by
  induction lines generalizing state with
  | nil => rfl
  | cons line others ih =>
      rw [tokensOfLines_cons, List.map_cons, ih, hmoves.flatMap_text_tokens]

theorem MovesCursor.tokensOfLines_ne_nil (hmoves : lexer.MovesCursor) {lines : List (List Char)}
    (h : lines ≠ []) (state : σ) : (lexer.tokensOfLines lines state).1 ≠ [] := by
  intro hnone
  have hlines := hmoves.map_flatMap_text_tokensOfLines lines state
  rw [hnone] at hlines
  exact h hlines.symm

/-! ## Whole texts -/

theorem intercalate_append {α : Type} (separator : List α) {front back : List (List α)}
    (hfront : front ≠ []) (hback : back ≠ []) :
    separator.intercalate (front ++ back) =
      separator.intercalate front ++ separator ++ separator.intercalate back := by
  obtain ⟨next, later, rfl⟩ := List.exists_cons_of_ne_nil hback
  induction front with
  | nil => exact absurd rfl hfront
  | cons list front ih =>
      cases front with
      | nil => simp
      | cons list' front =>
          have hne : list' :: front ≠ [] := List.cons_ne_nil _ _
          rw [List.cons_append, List.cons_append, List.intercalate_cons_cons, ← List.cons_append,
            ih hne, List.intercalate_cons_cons]
          simp only [List.append_assoc]

theorem mem_of_mem_intercalate {α : Type} {separator : List α} {lists : List (List α)} {x : α}
    (h : x ∈ separator.intercalate lists) : x ∈ separator ∨ ∃ list ∈ lists, x ∈ list := by
  induction lists with
  | nil => exact absurd h List.not_mem_nil
  | cons list others ih =>
      cases others with
      | nil =>
          rw [List.intercalate_singleton] at h
          exact Or.inr ⟨list, List.mem_cons_self, h⟩
      | cons next others =>
          rw [List.intercalate_cons_cons, List.append_assoc, List.mem_append, List.mem_append] at h
          rcases h with hlist | hseparator | hothers
          · exact Or.inr ⟨list, List.mem_cons_self, hlist⟩
          · exact Or.inl hseparator
          · rcases ih hothers with hseparator | ⟨list', hlist', hx⟩
            · exact Or.inl hseparator
            · exact Or.inr ⟨list', List.mem_cons_of_mem list hlist', hx⟩

/-- Line feeds put between tokens are line feeds between their texts. -/
theorem flatMap_text_intercalate (lists : List (List Token)) :
    ([Token.plain ['\n']].intercalate lists).flatMap Token.text =
      joinLines (lists.map fun tokens => tokens.flatMap Token.text) := by
  induction lists with
  | nil => rfl
  | cons tokens others ih =>
      cases others with
      | nil => simp [joinLines]
      | cons next others =>
          have hne : (next :: others).map (fun tokens => tokens.flatMap Token.text) ≠ [] :=
            List.cons_ne_nil _ _
          rw [List.intercalate_cons_cons, List.flatMap_append, List.flatMap_append, ih,
            List.append_assoc]
          exact (joinLines_cons _ hne).symm

theorem MovesCursor.flatMap_text_intercalate_tokensOfLines (hmoves : lexer.MovesCursor)
    (text : List Char) (state : σ) :
    ([Token.plain ['\n']].intercalate (lexer.tokensOfLines (pieces text) state).1).flatMap
      Token.text = text := by
  rw [flatMap_text_intercalate, hmoves.map_flatMap_text_tokensOfLines, joinLines_pieces]

/-- The tokens of a text make up the text. -/
theorem MovesCursor.flatMap_text_classify (hmoves : lexer.MovesCursor) (text : List Char) :
    (lexer.classify text).flatMap Token.text = text :=
  hmoves.flatMap_text_intercalate_tokensOfLines text lexer.start

/-- A token that holds a line feed is one that was put between the lines. -/
theorem MovesCursor.eq_plain_of_lineFeed_mem (hmoves : lexer.MovesCursor) {text : List Char}
    {token : Token} (htoken : token ∈ lexer.classify text) (hfeed : '\n' ∈ token.text) :
    token = Token.plain ['\n'] := by
  have hlines := hmoves.map_flatMap_text_tokensOfLines (pieces text) lexer.start
  have hnone : ∀ tokens ∈ (lexer.tokensOfLines (pieces text) lexer.start).1, token ∉ tokens := by
    intro tokens htokens hmem
    have hline : tokens.flatMap Token.text ∈ pieces text := by
      rw [← hlines]
      exact List.mem_map_of_mem htokens
    exact lineFeed_not_mem_of_mem_pieces hline (List.mem_flatMap.mpr ⟨token, hmem, hfeed⟩)
  unfold classify at htoken
  rcases mem_of_mem_intercalate htoken with hplain | ⟨tokens, htokens, hmem⟩
  · exact List.mem_singleton.mp hplain
  · exact absurd hmem (hnone tokens htokens)

/-- The line feeds of a text are the line feeds among its tokens. -/
theorem MovesCursor.lineFeed_iff_classify (hmoves : lexer.MovesCursor)
    (text front back : List Char) :
    text = front ++ '\n' :: back ↔
      ∃ before after, lexer.classify text = before ++ Token.plain ['\n'] :: after ∧
        before.flatMap Token.text = front ∧ after.flatMap Token.text = back := by
  constructor
  · rintro rfl
    -- the text is cut at this line feed, and each side is read on its own
    unfold classify
    rw [pieces_lineFeed_append, tokensOfLines_append,
      intercalate_append _ (hmoves.tokensOfLines_ne_nil (pieces_ne_nil front) _)
        (hmoves.tokensOfLines_ne_nil (pieces_ne_nil back) _), List.append_assoc]
    exact ⟨_, _, rfl, hmoves.flatMap_text_intercalate_tokensOfLines front _,
      hmoves.flatMap_text_intercalate_tokensOfLines back _⟩
  · rintro ⟨before, after, htokens, rfl, rfl⟩
    have htext := hmoves.flatMap_text_classify text
    rw [htokens, List.flatMap_append, List.flatMap_cons] at htext
    exact htext.symm

end Lexer

end Triptych
