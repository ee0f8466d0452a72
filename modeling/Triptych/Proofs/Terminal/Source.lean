import Triptych.Proofs.Block.Rendering
import Triptych.Proofs.Terminal.Panes

/-!
# The source comes back

Without colours nothing but the source is written, with its badges and with blanks in the
place of tabs, see `writePanes_render`.  It makes no difference where tokens begin and end
or which classes they belong to, as tabs are replaced character by character and line feeds
are the tokens of no class.

The source is that of the segments and NOT that of the whole text: sentinel lines, and the
blanks around them, are not written.
-/

namespace Triptych.Terminal

/-! ## Panes without colours -/

/-- The tabs of a text can be replaced token by token. -/
theorem expandTabs_flatMap (width : Nat) (tokens : List Token) :
    expandTabs width (tokens.flatMap Token.text) =
      tokens.flatMap fun token => expandTabs width token.text :=
  List.flatMap_assoc

/-- The line over a source: a rule with the badge at its end. -/
def badgeLine (settings : Settings) (kind : Segment) (text : List Char) : List Char :=
  badgeRule (textWidth settings text) (badgeLabel kind) ++ badgeLabel kind ++ ['\n']

/-- The source of a segment, under its badge if badges are on, with blanks in the place of
its tabs. -/
def sourceOf (settings : Settings) (kind : Segment) (text : List Char) : List Char :=
  (if settings.badges then badgeLine settings kind text else []) ++
    (expandTabs settings.tabWidth text ++ ['\n'])

theorem writePanes_cons_cons (settings : Settings) (pane next : Pane) (others : List Pane) :
    writePanes settings (pane :: next :: others) =
      encode (drawPane settings pane) ++ ['\n'] ++ writePanes settings (next :: others) := by
  show encode (drawPane settings pane ++ ([.shown ['\n']] ++ drawPanes settings _)) = _
  rw [encode_append, encode_append, encode_shown, List.append_assoc]
  rfl

section WithoutColor

variable {settings : Settings} (hcolor : settings.color = false)
include hcolor

theorem styleOf_without_color (token : Token) : styleOf settings token = {} := by
  rw [← Look.of_token]
  simp [Look.of, Look.plain, hcolor]

theorem encode_drawToken (token : Token) :
    encode (drawToken settings token) = expandTabs settings.tabWidth token.text := by
  unfold drawToken
  rw [styleOf_without_color hcolor]
  exact encode_shown _

/-- Tokens that make up a text are sent as that text. -/
theorem encode_flatMap_drawToken {tokens : List Token} {text : List Char}
    (htext : tokens.flatMap Token.text = text) :
    encode (tokens.flatMap (drawToken settings)) = expandTabs settings.tabWidth text := by
  rw [encode_flatMap, ← htext, expandTabs_flatMap]
  simp only [encode_drawToken hcolor]

theorem encode_drawBadge (kind : Segment) (width : Nat) :
    encode (drawBadge settings kind width) =
      badgeRule width (badgeLabel kind) ++ badgeLabel kind ++ ['\n'] := by
  simp [drawBadge, encode, Stroke.encode, hcolor]

/-- A pane is sent as the source of its segment. -/
theorem encode_drawPane {pane : Pane} (htext : pane.tokens.flatMap Token.text = pane.text) :
    encode (drawPane settings pane) = sourceOf settings pane.kind pane.text := by
  have hbadge : encode (if settings.badges then
      drawBadge settings pane.kind (textWidth settings pane.text) else []) =
        if settings.badges then badgeLine settings pane.kind pane.text else [] := by
    split
    · exact encode_drawBadge hcolor pane.kind _
    · rfl
  unfold drawPane sourceOf
  rw [encode_append, encode_append, encode_flatMap_drawToken hcolor htext, hbadge, encode_shown]

/-- Panes are sent one after the other, with an empty line between them. -/
theorem writePanes_eq_intercalate {panes : List Pane}
    (htext : ∀ pane ∈ panes, pane.tokens.flatMap Token.text = pane.text) :
    writePanes settings panes =
      ['\n'].intercalate (panes.map fun pane => sourceOf settings pane.kind pane.text) := by
  induction panes with
  | nil => rfl
  | cons pane others ih =>
      have hpane := encode_drawPane hcolor (htext pane List.mem_cons_self)
      cases others with
      | nil =>
          rw [List.map_singleton, List.intercalate_singleton]
          exact hpane
      | cons next others =>
          have hothers := ih fun other hother => htext other (List.mem_cons_of_mem pane hother)
          rw [writePanes_cons_cons, hpane, hothers]
          exact List.intercalate_cons_cons.symm

end WithoutColor

/-! ## From a text to what is written -/

/-- Without colours, what is written for a block is the source of its segments, without those
that are empty and with an empty line between the others. -/
theorem writePanes_render {m : Type → Type} [Monad m] [LawfulMonad m] {μ σ κ δ : Type}
    {tokenizer : Tokenizer μ σ κ} (hmoves : tokenizer.MovesCursor) {raw : List Char}
    {block : Block} (hsplit : Block.split raw = .ok block) {settings : Settings}
    (hcolor : settings.color = false) (preview : List Char → List Char → List Char → m δ)
    (report : String → m Unit) :
    (Option.map fun rendered => writePanes settings rendered.panes) <$>
        render raw tokenizer preview report =
      (fun _ => some (['\n'].intercalate
        (([(Segment.markup, block.markup), (Segment.style, block.style),
            (Segment.script, block.script)].filter fun segment => segment.2 ≠ []).map
          fun segment => sourceOf settings segment.1 segment.2))) <$>
        preview block.markup block.style block.script := by
  have hshown := (Block.canonical_of_split hsplit).shownBy_panes hmoves
  have hwrite : writePanes settings (block.panes tokenizer) = _ :=
    writePanes_eq_intercalate hcolor hshown.flatMap_text
  rw [render_of_split_ok hsplit, ← comp_map, ← hshown.segments, List.map_map]
  simp only [Function.comp_def, Option.map_some, hwrite]

/-- A lexer that stalls and one that stops at every byte, tabs inside lines, and no script. -/
theorem writePanes_render_tabs :
    let settings : Settings := { color := false, tabWidth := 2 }
    let preview : List Char → List Char → List Char → Id Unit := fun _ _ _ => ()
    let report : String → Id Unit := fun _ => ()
    Tokenizer.sluggish.MovesCursor ∧
      Block.split "a\tb\n---*---\né\t-\ttrue\n\t1".toList =
        .ok ⟨"a\tb".toList, "é\t-\ttrue\n\t1".toList, []⟩ ∧
      settings.color = false ∧
      (render "a\tb\n---*---\né\t-\ttrue\n\t1".toList Tokenizer.sluggish preview
          report).run.map (fun rendered => writePanes settings rendered.panes) =
        some "── HTML \na  b\n\n───── CSS \né  -  true\n  1\n".toList := by
  intro settings preview report
  have hmoves := Tokenizer.sluggish_movesCursor
  have hsplit : Block.split "a\tb\n---*---\né\t-\ttrue\n\t1".toList =
      .ok ⟨"a\tb".toList, "é\t-\ttrue\n\t1".toList, []⟩ := by
    rw [Block.split_eq_ofPieces_texts]
    rfl
  have hcolor : settings.color = false := rfl
  have hwritten := writePanes_render hmoves hsplit hcolor preview report
  exact ⟨hmoves, hsplit, hcolor, hwritten.trans (congrArg some (by decide +kernel))⟩

end Triptych.Terminal
