import Triptych.Proofs.Block.Joining
import Triptych.Proofs.Tokenizer.Coverage
import Triptych.Render

/-!
# All or nothing

Rendering a text calls one of its two collaborators, and calls it once: the preview if the
text is a block, with the three texts of the block, and the report if it is not, with what
is wrong.  See `render_recorded`.  The collaborators may do anything in their monad, and
their calls are recorded beside what they do.

The panes are those of the block that the preview is given, and each shows the source of its
segment to the last character.  For this the lexers need only move the cursor by its
operations: they may stall, and they may give any class to any piece of a line.
-/

namespace Triptych

open Text

namespace Block

variable {μ σ κ : Type}

/-! ## Panes -/

/-- The three segments in their order, without those that are empty. -/
theorem nonEmpty_eq (block : Block) :
    block.nonEmpty =
      [(Segment.markup, block.markup), (Segment.style, block.style),
        (Segment.script, block.script)].filter fun segment => segment.2 ≠ [] := by
  refine List.filter_congr ?_
  rintro ⟨kind, text⟩ -
  cases text with
  | nil => rfl
  | cons c text => rfl

theorem mem_nonEmpty {block : Block} {kind : Segment} {text : List Char}
    (h : (kind, text) ∈ block.nonEmpty) : text = block.get kind ∧ text ≠ [] := by
  unfold nonEmpty at h
  rw [List.mem_filter, List.mem_map] at h
  obtain ⟨⟨segment, -, hsegment⟩, htext⟩ := h
  obtain ⟨rfl, rfl⟩ := Prod.mk.inj hsegment
  exact ⟨rfl, by simpa using htext⟩

theorem mem_panes {block : Block} {tokenizer : Tokenizer μ σ κ} {pane : Pane}
    (h : pane ∈ block.panes tokenizer) :
    (pane.text = block.get pane.kind ∧ pane.text ≠ []) ∧
      pane.tokens = tokenizer.classify pane.kind pane.text := by
  obtain ⟨⟨kind, text⟩, hsegment, rfl⟩ := List.mem_map.mp h
  exact ⟨mem_nonEmpty hsegment, rfl⟩

/-- The panes that are due to a block. -/
structure ShownBy (block : Block) (panes : List Pane) : Prop where
  /-- One for each segment that holds something, in the order of the segments. -/
  segments : panes.map (fun pane => (pane.kind, pane.text)) =
    [(Segment.markup, block.markup), (Segment.style, block.style),
      (Segment.script, block.script)].filter fun segment => segment.2 ≠ []
  head : panes.head?.map Pane.kind = some .markup
  text_ne_nil : ∀ pane ∈ panes, pane.text ≠ []
  trim_text : ∀ pane ∈ panes, trim pane.text = pane.text
  flatMap_text : ∀ pane ∈ panes, pane.tokens.flatMap Token.text = pane.text
  lineFeed_not_mem : ∀ pane ∈ panes, ∀ token ∈ pane.tokens, token.kind ≠ none → '\n' ∉ token.text

theorem Canonical.shownBy_panes {block : Block} (h : block.Canonical)
    {tokenizer : Tokenizer μ σ κ} (hmoves : tokenizer.MovesCursor) :
    block.ShownBy (block.panes tokenizer) where
  segments := by
    rw [← nonEmpty_eq]
    unfold panes
    rw [List.map_map]
    exact List.map_id _
  head := by
    unfold panes
    rw [nonEmpty_eq, List.filter_cons_of_pos (by simpa using h.markup_ne_nil)]
    rfl
  text_ne_nil pane hpane := (mem_panes hpane).1.2
  trim_text pane hpane := by
    rw [(mem_panes hpane).1.1]
    exact h.trim_get pane.kind
  flatMap_text pane hpane := by
    rw [(mem_panes hpane).2, Tokenizer.classify_eq_part]
    exact (hmoves.part pane.kind).flatMap_text_classify pane.text
  lineFeed_not_mem pane hpane token htoken hstyled hfeed := by
    rw [(mem_panes hpane).2, Tokenizer.classify_eq_part] at htoken
    -- the only token with a line feed is one that belongs to no class
    have hplain := (hmoves.part pane.kind).eq_plain_of_lineFeed_mem htoken hfeed
    rw [hplain] at hstyled
    exact hstyled rfl

end Block

/-! ## Calls -/

namespace Rendering

/-- A call of a collaborator. -/
inductive Call where
  | preview (markup style script : List Char)
  | report (message : String)
  deriving DecidableEq, Repr

variable {m : Type → Type} [Monad m] {α δ : Type}

/-- Act, and write down the call. -/
def recorded (call : Call) (act : m α) : StateT (List Call) m α := do
  modify (· ++ [call])
  act

theorem run_recorded [LawfulMonad m] (call : Call) (act : m α) (calls : List Call) :
    (recorded call act).run calls = (·, calls ++ [call]) <$> act := by
  simp [recorded]

/-- A preview whose calls are written down. -/
def recordedPreview (preview : List Char → List Char → List Char → m δ)
    (markup style script : List Char) : StateT (List Call) m δ :=
  recorded (.preview markup style script) (preview markup style script)

/-- A report whose calls are written down. -/
def recordedReport (report : String → m Unit) (message : String) : StateT (List Call) m Unit :=
  recorded (.report message) (report message)

end Rendering

open Rendering

variable {m : Type → Type} [Monad m] [LawfulMonad m] {μ σ κ δ : Type}

theorem render_of_split_ok {raw : List Char} {block : Block} (h : Block.split raw = .ok block)
    (tokenizer : Tokenizer μ σ κ) (preview : List Char → List Char → List Char → m δ)
    (report : String → m Unit) :
    render raw tokenizer preview report =
      (fun document => some ⟨block.panes tokenizer, document⟩) <$>
        preview block.markup block.style block.script := by
  simp [render, h, Block.render]

theorem render_of_split_error {raw : List Char} {e : BlockError} (h : Block.split raw = .error e)
    (tokenizer : Tokenizer μ σ κ) (preview : List Char → List Char → List Char → m δ)
    (report : String → m Unit) :
    render raw tokenizer preview report = (fun _ => none) <$> report e.message := by
  simp [render, h]

/-- A block gives its panes and one call of the preview with its texts; any other text gives
no panes and one call of the report with what is wrong. -/
theorem render_recorded {tokenizer : Tokenizer μ σ κ} (hmoves : tokenizer.MovesCursor)
    (raw : List Char) (preview : List Char → List Char → List Char → m δ)
    (report : String → m Unit) :
    (∃ block, Block.split raw = .ok block ∧ block.ShownBy (block.panes tokenizer) ∧
        ∀ calls,
          (render raw tokenizer (recordedPreview preview) (recordedReport report)).run calls =
            (fun document => (some ⟨block.panes tokenizer, document⟩,
              calls ++ [.preview block.markup block.style block.script])) <$>
              preview block.markup block.style block.script) ∨
      ∃ e, Block.split raw = .error e ∧
        ∀ calls,
          (render raw tokenizer (recordedPreview preview) (recordedReport report)).run calls =
            (fun _ => (none, calls ++ [.report e.message])) <$> report e.message := by
  cases hsplit : Block.split raw with
  | ok block =>
      refine Or.inl ⟨block, rfl, (Block.canonical_of_split hsplit).shownBy_panes hmoves, ?_⟩
      intro calls
      rw [render_of_split_ok hsplit, StateT.run_map, recordedPreview, run_recorded]
      simp
  | error e =>
      refine Or.inr ⟨e, rfl, ?_⟩
      intro calls
      rw [render_of_split_error hsplit, StateT.run_map, recordedReport, run_recorded]
      simp

/-- A block without a style, read by lexers that stall, and a text without markup. -/
theorem render_recorded_empty_style :
    let preview : List Char → List Char → List Char → Id (List Char) :=
      fun markup _ script => markup ++ script
    let report : String → Id Unit := fun _ => ()
    Tokenizer.sluggish.MovesCursor ∧
      Block.ShownBy ⟨['a'], [], ['b']⟩ (Block.panes ⟨['a'], [], ['b']⟩ Tokenizer.sluggish) ∧
      (render "a\n---*---\n---*---\nb".toList Tokenizer.sluggish (recordedPreview preview)
          (recordedReport report)).run [] =
        (some ⟨Block.panes ⟨['a'], [], ['b']⟩ Tokenizer.sluggish, ['a', 'b']⟩,
          [.preview ['a'] [] ['b']]) ∧
      (render "---*---\nred".toList Tokenizer.sluggish (recordedPreview preview)
          (recordedReport report)).run [] =
        (none, [.report "first segment (markup) is empty"]) := by
  intro preview report
  have hmoves := Tokenizer.sluggish_movesCursor
  have hblock : Block.split "a\n---*---\n---*---\nb".toList = .ok ⟨['a'], [], ['b']⟩ := by
    rw [Block.split_eq_ofPieces_texts]
    rfl
  have hnone : Block.split "---*---\nred".toList = .error .missingMarkup := by
    rw [Block.split_eq_ofPieces_texts]
    rfl
  obtain ⟨block, hsplit, hshown, hrun⟩ | ⟨e, hsplit, -⟩ :=
    render_recorded hmoves "a\n---*---\n---*---\nb".toList preview report
  · obtain rfl := Except.ok.inj (hsplit.symm.trans hblock)
    obtain ⟨block, hsplit', -⟩ | ⟨e, hsplit', hrun'⟩ :=
      render_recorded hmoves "---*---\nred".toList preview report
    · rw [hnone] at hsplit'
      cases hsplit'
    · obtain rfl := Except.error.inj (hsplit'.symm.trans hnone)
      exact ⟨hmoves, hshown, hrun [], hrun' []⟩
  · rw [hblock] at hsplit
    cases hsplit

end Triptych
