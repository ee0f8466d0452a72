import Triptych.Proofs.Block.Joining
import Triptych.Proofs.Lexer.Classify
import Triptych.Proofs.Tokenizer.Lines

/-!
# Reading the segments of a block

A block can be read in two ways: each segment on its own, from a fresh state, or line by
line with one state that goes through all segments.  The tokens are the same, see
`flatten_tokensOfBlock`.

What carries the proof is that no line of a segment is a sentinel line, so that reading
stays in the segment, and that the state of a lexer is NOT touched before its segment
begins, whatever the segments before it have left open.
-/

namespace Triptych

open Text

namespace Tokenizer

variable {μ σ κ : Type}

/-- Lines without a sentinel among them are read by the lexer of the segment as if it
were alone. -/
theorem tokensOfLines_of_not_isSentinel (tokenizer : Tokenizer μ σ κ)
    (hforward : tokenizer.Forward) {lines : List (List Char)}
    (h : ∀ line ∈ lines, isSentinel line = false) (state : State μ σ κ) :
    tokenizer.lexer.tokensOfLines lines state =
      let read := (tokenizer.part state.segment).lexer.tokensOfLines lines
        ((tokenizer.part state.segment).get state)
      (read.1, (tokenizer.part state.segment).put read.2 state) := by
  have hcarries : ∀ line ∈ lines, tokenizer.lexer.Carries (tokenizer.part state.segment).lexer
      (fun own => (tokenizer.part state.segment).put own state) line := by
    intro line hline
    exact tokenizer.carries_part (h line hline) state
  have htokens := Lexer.Carries.tokensOfLines hcarries (hforward.part state.segment)
    ((tokenizer.part state.segment).get state)
  rw [part_put_get] at htokens
  exact htokens

/-- The tokens of a block that is read line by line: those of the lines of each segment,
and those of the two sentinel lines between them. -/
structure BlockTokens where
  markup : List (List Token)
  afterMarkup : List Token
  style : List (List Token)
  afterStyle : List Token
  script : List (List Token)

/-- The tokens of the lines of a segment. -/
def BlockTokens.get (tokens : BlockTokens) : Segment → List (List Token)
  | .markup => tokens.markup
  | .style => tokens.style
  | .script => tokens.script

/-- Read the lines of the three segments, with a sentinel line after each of the first
two. -/
def tokensOfBlock (tokenizer : Tokenizer μ σ κ) (block : Block) : BlockTokens :=
  let (markup, state) := tokenizer.lexer.tokensOfLines (pieces block.markup) tokenizer.start
  let (afterMarkup, state) := tokenizer.tokens sentinel state
  let (style, state) := tokenizer.lexer.tokensOfLines (pieces block.style) state
  let (afterStyle, state) := tokenizer.tokens sentinel state
  let (script, _) := tokenizer.lexer.tokensOfLines (pieces block.script) state
  ⟨markup, afterMarkup, style, afterStyle, script⟩

/-- Each segment of a block is read from the start state of its lexer. -/
theorem tokensOfBlock_eq (tokenizer : Tokenizer μ σ κ) (hforward : tokenizer.Forward)
    {block : Block} (h : ∀ kind, ∀ line ∈ pieces (block.get kind), isSentinel line = false) :
    tokenizer.tokensOfBlock block =
      ⟨(tokenizer.markup.tokensOfLines (pieces block.markup) tokenizer.markup.start).1,
        [Token.plain sentinel],
        (tokenizer.style.tokensOfLines (pieces block.style) tokenizer.style.start).1,
        [Token.plain sentinel],
        (tokenizer.script.tokensOfLines (pieces block.script) tokenizer.script.start).1⟩ := by
  have hsentinel : isSentinel sentinel = true := by decide
  have hmarkup : ∀ line ∈ pieces block.markup, isSentinel line = false := h .markup
  have hstyle : ∀ line ∈ pieces block.style, isSentinel line = false := h .style
  have hscript : ∀ line ∈ pieces block.script, isSentinel line = false := h .script
  unfold tokensOfBlock
  rw [tokenizer.tokensOfLines_of_not_isSentinel hforward hmarkup]
  dsimp only
  rw [tokenizer.tokens_of_isSentinel hsentinel]
  dsimp only
  rw [tokenizer.tokensOfLines_of_not_isSentinel hforward hstyle]
  dsimp only
  rw [tokenizer.tokens_of_isSentinel hsentinel]
  dsimp only
  rw [tokenizer.tokensOfLines_of_not_isSentinel hforward hscript]
  -- what is left open in one segment stands beside what the next one starts from
  rfl

/-- Reading a block line by line gives the tokens that classifying each of its segments
gives, without the line feeds. -/
theorem flatten_tokensOfBlock {tokenizer : Tokenizer μ σ κ} (hforward : tokenizer.Forward)
    {raw : List Char} {block : Block} (h : Block.split raw = .ok block) :
    (∀ kind, ((tokenizer.tokensOfBlock block).get kind).flatten =
        (tokenizer.classify kind (block.get kind)).filter (· ≠ Token.plain ['\n'])) ∧
      (tokenizer.tokensOfBlock block).afterMarkup = [Token.plain sentinel] ∧
      (tokenizer.tokensOfBlock block).afterStyle = [Token.plain sentinel] := by
  rw [tokenizer.tokensOfBlock_eq hforward (Block.isSentinel_eq_false_of_mem_get h)]
  refine ⟨fun kind => ?_, rfl, rfl⟩
  rw [classify_eq_part, (hforward.part kind).filter_classify]
  cases kind with
  | markup => rfl
  | style => rfl
  | script => rfl

/-- Markup and style are left with an open comment each. -/
theorem flatten_tokensOfBlock_open_comments :
    Block.split "<!-- a\n---*---\nb /*\nc\n---*---\nd".toList =
        .ok ⟨"<!-- a".toList, "b /*\nc".toList, "d".toList⟩ ∧
      ((standard.tokensOfBlock
          ⟨"<!-- a".toList, "b /*\nc".toList, "d".toList⟩).get .style).flatten =
        (standard.classify .style "b /*\nc".toList).filter (· ≠ Token.plain ['\n']) ∧
      ((standard.tokensOfBlock
          ⟨"<!-- a".toList, "b /*\nc".toList, "d".toList⟩).get .script).flatten =
        (standard.classify .script "d".toList).filter (· ≠ Token.plain ['\n']) := by
  have hsplit : Block.split "<!-- a\n---*---\nb /*\nc\n---*---\nd".toList =
      .ok ⟨"<!-- a".toList, "b /*\nc".toList, "d".toList⟩ := by
    rw [Block.split_eq_ofPieces_texts]
    rfl
  obtain ⟨htokens, -, -⟩ := flatten_tokensOfBlock standard_forward hsplit
  exact ⟨hsplit, htokens .style, htokens .script⟩

end Tokenizer

end Triptych
