import Triptych.Proofs.Terminal.Reading
import Triptych.Terminal.Drawing

/-!
# Every piece of a pane in its own style

Panes are drawn piece by piece: badges, tokens, and the line breaks after and between
panes.  `Piece.shown` says which characters a piece puts on the screen and in which
styles, and it does NOT speak of escape sequences.  A screen in the default style that
reads what is sent for a piece shows just that, and is in the default style again; so no
style reaches the piece that follows.

The characters are the same with and without colours, whatever is shown in which style.
Only an escape character in the text of a token could change this, as it is sent as it
is.
-/

namespace Triptych.Terminal

/-! ## Strokes from the default style and back to it -/

theorem encode_append (strokes others : List Stroke) :
    encode (strokes ++ others) = encode strokes ++ encode others := by
  simp [encode]

theorem encode_flatMap {α : Type} (draw : α → List Stroke) (items : List α) :
    encode (items.flatMap draw) = items.flatMap fun item => encode (draw item) :=
  List.flatMap_assoc

theorem encode_shown (text : List Char) : encode [.shown text] = text := List.append_nil text

/-- On a screen in the default style the strokes show these characters in these styles,
and the screen is left as it was. -/
def Draws (strokes : List Stroke) (shown : List (Char × Style)) : Prop :=
  display {} (encode strokes) = (shown, {})

namespace Draws

theorem nil : Draws [] [] := rfl

theorem append {strokes others : List Stroke} {shown rest : List (Char × Style)}
    (h : Draws strokes shown) (hothers : Draws others rest) :
    Draws (strokes ++ others) (shown ++ rest) := by
  unfold Draws at *
  rw [encode_append, display_append, h, hothers]

theorem flatMap {α : Type} {draw : α → List Stroke} {shown : α → List (Char × Style)}
    {items : List α} (h : ∀ item ∈ items, Draws (draw item) (shown item)) :
    Draws (items.flatMap draw) (items.flatMap shown) := by
  induction items with
  | nil => exact nil
  | cons item items ih =>
      rw [List.flatMap_cons, List.flatMap_cons]
      exact (h item List.mem_cons_self).append
        (ih fun other hother => h other (List.mem_cons_of_mem item hother))

end Draws

/-- The characters of a text, all in one style. -/
def inStyle (style : Style) (text : List Char) : List (Char × Style) := text.map (·, style)

theorem map_fst_inStyle (style : Style) (text : List Char) :
    (inStyle style text).map Prod.fst = text := by
  simp [inStyle, Function.comp_def]

theorem draws_shown {text : List Char} (htext : '\x1b' ∉ text) :
    Draws [.shown text] (inStyle {} text) := by
  unfold Draws
  rw [encode_shown]
  exact display_text {} htext

/-- The text is shown in the style that the changes make; then everything is reset. -/
theorem draws_drawBetween (changes : List Change) {text : List Char} (htext : '\x1b' ∉ text) :
    Draws (drawBetween changes text) (inStyle (changes.foldl Change.apply {}) text) := by
  have hresets (style : Style) :
      display { style := style } (encode [.control .reset, .control .reset]) = ([], {}) :=
    display_changes style [.reset, .reset]
  show display {} (encode (changes.map Stroke.control ++
    ([.shown text] ++ [.control .reset, .control .reset]))) = _
  rw [encode_append, encode_append, encode_shown, display_append, display_changes, display_append,
    display_text _ htext, hresets]
  simp [inStyle]

/-- Each field of a style that is not the default one has its change. -/
theorem foldl_apply_changesTo (style : Style) :
    (changesTo style).foldl Change.apply {} = style := by
  obtain ⟨foreground, background, bold, italic, underline⟩ := style
  have hforeground : (if foreground = .default then [] else [.foreground foreground]).foldl
      Change.apply {} = { foreground } := by
    split
    · next h => rw [h]; rfl
    · rfl
  have hbackground : (if background = .default then [] else [.background background]).foldl
      Change.apply { foreground } = { foreground, background } := by
    split
    · next h => rw [h]; rfl
    · rfl
  have hbold : (if bold then [.bold] else []).foldl Change.apply { foreground, background } =
      { foreground, background, bold } := by
    cases bold <;> rfl
  have hitalic : (if italic then [.italic] else []).foldl Change.apply
      { foreground, background, bold } = { foreground, background, bold, italic } := by
    cases italic <;> rfl
  have hunderline : (if underline then [.underline] else []).foldl Change.apply
      { foreground, background, bold, italic } =
        { foreground, background, bold, italic, underline } := by
    cases underline <;> rfl
  simp only [changesTo, List.foldl_append, hforeground, hbackground, hbold, hitalic, hunderline]

theorem draws_drawStyled (style : Style) {text : List Char} (htext : '\x1b' ∉ text) :
    Draws (drawStyled style text) (inStyle style text) := by
  unfold drawStyled
  by_cases hdefault : style.isDefault
  · rw [if_pos hdefault, show style = {} from eq_of_beq hdefault]
    exact draws_shown htext
  · rw [if_neg hdefault]
    have hdraws := draws_drawBetween (changesTo style) htext
    rwa [foldl_apply_changesTo] at hdraws

theorem escape_not_mem_expandTabs (width : Nat) {text : List Char} (htext : '\x1b' ∉ text) :
    '\x1b' ∉ expandTabs width text := by
  unfold expandTabs
  rw [List.mem_flatMap]
  rintro ⟨c, hc, hescape⟩
  by_cases htab : c = '\t'
  · rw [if_pos htab] at hescape
    exact absurd (List.eq_of_mem_replicate hescape) (by decide)
  · rw [if_neg htab, List.mem_singleton] at hescape
    exact htext (hescape ▸ hc)

/-! ## Pieces -/

/-- What panes are made of. -/
inductive Piece where
  | badge (kind : Segment) (width : Nat)
  | source (token : Token)
  | lineFeed
  deriving DecidableEq, Repr

/-- Draw a piece. -/
def Piece.draw (settings : Settings) : Piece → List Stroke
  | .badge kind width => drawBadge settings kind width
  | .source token => drawToken settings token
  | .lineFeed => [.shown ['\n']]

/-- The pieces of a pane. -/
def piecesOf (settings : Settings) (pane : Pane) : List Piece :=
  (if settings.badges then [.badge pane.kind (textWidth settings pane.text)] else []) ++
    (pane.tokens.map .source ++ [.lineFeed])

/-- The pieces of panes, with an empty line between the panes. -/
def pieces (settings : Settings) : List Pane → List Piece
  | [] => []
  | [pane] => piecesOf settings pane
  | pane :: others => piecesOf settings pane ++ .lineFeed :: pieces settings others

theorem pieces_cons_cons (settings : Settings) (pane next : Pane) (others : List Pane) :
    pieces settings (pane :: next :: others) =
      piecesOf settings pane ++ .lineFeed :: pieces settings (next :: others) := rfl

theorem flatMap_draw_piecesOf (settings : Settings) (pane : Pane) :
    (piecesOf settings pane).flatMap (Piece.draw settings) = drawPane settings pane := by
  unfold piecesOf drawPane
  rw [List.flatMap_append, List.flatMap_append, List.flatMap_map]
  by_cases hbadges : settings.badges
  · simp [hbadges, Piece.draw]
  · simp [hbadges, Piece.draw]

/-- Panes are drawn piece by piece. -/
theorem flatMap_draw_pieces (settings : Settings) (panes : List Pane) :
    (pieces settings panes).flatMap (Piece.draw settings) = drawPanes settings panes := by
  induction panes with
  | nil => rfl
  | cons pane others ih =>
      cases others with
      | nil => exact flatMap_draw_piecesOf settings pane
      | cons next others =>
          rw [pieces_cons_cons, List.flatMap_append, List.flatMap_cons, flatMap_draw_piecesOf, ih]
          rfl

theorem writePanes_eq_flatMap (settings : Settings) (panes : List Pane) :
    writePanes settings panes =
      (pieces settings panes).flatMap fun piece => encode (piece.draw settings) := by
  unfold writePanes
  rw [← flatMap_draw_pieces, encode_flatMap]

/-- A token among the pieces is a token of a pane. -/
theorem exists_mem_tokens_of_mem_pieces {settings : Settings} {panes : List Pane} {token : Token}
    (h : Piece.source token ∈ pieces settings panes) : ∃ pane ∈ panes, token ∈ pane.tokens := by
  have hpane {pane : Pane} (h : Piece.source token ∈ piecesOf settings pane) :
      token ∈ pane.tokens := by
    unfold piecesOf at h
    split at h <;> simpa using h
  induction panes with
  | nil => cases h
  | cons pane others ih =>
      cases others with
      | nil => exact ⟨pane, List.mem_cons_self, hpane h⟩
      | cons next others =>
          rw [pieces_cons_cons, List.mem_append, List.mem_cons] at h
          obtain h | h | h := h
          · exact ⟨pane, List.mem_cons_self, hpane h⟩
          · cases h
          · obtain ⟨other, hother, htoken⟩ := ih h
            exact ⟨other, List.mem_cons_of_mem pane hother, htoken⟩

/-! ## Styles -/

/-- The styles in which tokens and the labels of badges are shown. -/
structure Look where
  token : Token → Style
  badge : Segment → Style

namespace Look

/-- Everything in the default style. -/
def plain : Look := ⟨fun _ => {}, fun _ => {}⟩

/-- Tokens as the settings say of their class, labels in bold and in their colour. -/
def colored (settings : Settings) : Look where
  token token :=
    match token.kind with
    | some kind => settings.styleFor kind
    | none => {}
  badge kind := { foreground := kind.badgeColor, bold := true }

/-- The styles under some settings. -/
def of (settings : Settings) : Look := if settings.color then colored settings else plain

theorem of_token (settings : Settings) (token : Token) :
    (of settings).token token = styleOf settings token := by
  obtain ⟨kind, text⟩ := token
  by_cases hcolor : settings.color <;> cases kind <;> simp [of, styleOf, colored, plain, hcolor]

end Look

/-- The characters that a piece shows, and their styles. -/
def Piece.shown (settings : Settings) (look : Look) : Piece → List (Char × Style)
  | .badge kind width =>
      inStyle {} (badgeRule width (badgeLabel kind)) ++
        (inStyle (look.badge kind) (badgeLabel kind) ++ inStyle {} ['\n'])
  | .source token => inStyle (look.token token) (expandTabs settings.tabWidth token.text)
  | .lineFeed => inStyle {} ['\n']

theorem draws_lineFeed : Draws [.shown ['\n']] (inStyle {} ['\n']) :=
  draws_shown (by decide)

theorem escape_not_mem_badgeLabel (kind : Segment) : '\x1b' ∉ badgeLabel kind := by
  cases kind <;> decide

theorem escape_not_mem_badgeRule (width : Nat) (label : List Char) :
    '\x1b' ∉ badgeRule width label := fun h =>
  absurd (List.eq_of_mem_replicate h) (by decide)

theorem draws_badge (settings : Settings) (kind : Segment) (width : Nat) :
    Draws (drawBadge settings kind width)
      ((Piece.badge kind width).shown settings (.of settings)) := by
  have hlabel : Draws
      (if settings.color then drawBetween [.foreground kind.badgeColor, .bold] (badgeLabel kind)
        else [.shown (badgeLabel kind)])
      (inStyle ((Look.of settings).badge kind) (badgeLabel kind)) := by
    unfold Look.of
    by_cases hcolor : settings.color
    · rw [if_pos hcolor, if_pos hcolor]
      exact draws_drawBetween [.foreground kind.badgeColor, .bold] (escape_not_mem_badgeLabel kind)
    · rw [if_neg hcolor, if_neg hcolor]
      exact draws_shown (escape_not_mem_badgeLabel kind)
  exact (draws_shown (escape_not_mem_badgeRule width (badgeLabel kind))).append
    (hlabel.append draws_lineFeed)

/-- A piece shows its characters in its styles, and leaves the default style. -/
theorem draws_piece (settings : Settings) (piece : Piece)
    (hpiece : ∀ token, piece = .source token → '\x1b' ∉ token.text) :
    Draws (piece.draw settings) (piece.shown settings (.of settings)) := by
  cases piece with
  | badge kind width => exact draws_badge settings kind width
  | source token =>
      show Draws (drawStyled (styleOf settings token) _)
        (inStyle ((Look.of settings).token token) _)
      rw [Look.of_token]
      exact draws_drawStyled _ (escape_not_mem_expandTabs _ (hpiece token rfl))
  | lineFeed => exact draws_lineFeed

/-- The characters of a piece are what is sent for it without colours. -/
theorem map_fst_shown (settings : Settings) (look : Look) (piece : Piece) :
    (piece.shown settings look).map Prod.fst =
      encode (piece.draw { settings with color := false }) := by
  cases piece with
  | badge kind width =>
      simp [Piece.shown, Piece.draw, drawBadge, encode, Stroke.encode, map_fst_inStyle]
  | source token =>
      have hstyle : styleOf { settings with color := false } token = {} := by
        rw [← Look.of_token]
        rfl
      show (inStyle _ _).map Prod.fst = encode (drawStyled (styleOf _ token) _)
      rw [map_fst_inStyle, hstyle]
      exact (encode_shown _).symm
  | lineFeed => rfl

theorem style_eq_of_mem_shown_plain {settings : Settings} {piece : Piece} {entry : Char × Style}
    (h : entry ∈ piece.shown settings .plain) : entry.2 = {} := by
  have hinStyle {text : List Char} (h : entry ∈ inStyle {} text) : entry.2 = {} := by
    obtain ⟨c, -, rfl⟩ := List.mem_map.mp h
    rfl
  cases piece with
  | badge kind width =>
      obtain h | h | h := by simpa [Piece.shown] using h
      · exact hinStyle h
      · exact hinStyle h
      · exact hinStyle h
  | source token => exact hinStyle h
  | lineFeed => exact hinStyle h

theorem pieces_without_color (settings : Settings) (panes : List Pane) :
    pieces { settings with color := false } panes = pieces settings panes := by
  induction panes with
  | nil => rfl
  | cons pane others ih =>
      cases others with
      | nil => rfl
      | cons next others =>
          rw [pieces_cons_cons, pieces_cons_cons, ih]
          rfl

/-! ## Whole outputs -/

/-- A screen that reads written panes shows what is written without colours, each
character in the style of its own piece, and it is in the default style again after
every piece. -/
theorem display_writePanes (settings : Settings) (panes : List Pane)
    (htokens : ∀ pane ∈ panes, ∀ token ∈ pane.tokens, '\x1b' ∉ token.text) :
    (display {} (writePanes settings panes)).1.map Prod.fst =
        writePanes { settings with color := false } panes ∧
      (settings.color = true → (display {} (writePanes settings panes)).1 =
        (pieces settings panes).flatMap (Piece.shown settings (.colored settings))) ∧
      (settings.color = false →
        ∀ entry ∈ (display {} (writePanes settings panes)).1, entry.2 = {}) ∧
      writePanes settings panes =
        (pieces settings panes).flatMap (fun piece => encode (piece.draw settings)) ∧
      ∀ n, (display {} (((pieces settings panes).take n).flatMap fun piece =>
        encode (piece.draw settings))).2 = {} := by
  have hdraws : ∀ piece ∈ pieces settings panes,
      Draws (piece.draw settings) (piece.shown settings (.of settings)) := by
    intro piece hpiece
    refine draws_piece settings piece ?_
    rintro token rfl
    obtain ⟨pane, hpane, htoken⟩ := exists_mem_tokens_of_mem_pieces hpiece
    exact htokens pane hpane token htoken
  have hshown : display {} (writePanes settings panes) =
      ((pieces settings panes).flatMap (Piece.shown settings (.of settings)), {}) := by
    unfold writePanes
    rw [← flatMap_draw_pieces]
    exact Draws.flatMap hdraws
  refine ⟨?_, ?_, ?_, writePanes_eq_flatMap settings panes, ?_⟩
  · rw [hshown, writePanes_eq_flatMap, pieces_without_color, List.map_flatMap]
    simp only [map_fst_shown]
  · intro hcolor
    rw [hshown]
    simp only [Look.of, hcolor, if_true]
  · intro hcolor entry hentry
    rw [hshown, List.mem_flatMap] at hentry
    obtain ⟨piece, -, hentry⟩ := hentry
    simp only [Look.of, hcolor] at hentry
    exact style_eq_of_mem_shown_plain hentry
  · intro n
    have htake : Draws (((pieces settings panes).take n).flatMap (Piece.draw settings)) _ :=
      Draws.flatMap fun piece hpiece => hdraws piece (List.mem_of_mem_take hpiece)
    rw [← encode_flatMap, htake]

/-- Comments that have lost their colour keep their italics, and what follows them does
not get any. -/
theorem display_writePanes_without_comment_color :
    let settings : Settings :=
      { tabWidth := 2, palette := fun kind => if kind = .comment then some .default else none }
    let panes : List Pane := [⟨.script, "\t//if".toList,
      [.plain ['\t'], ⟨some .comment, ['/', '/']⟩, ⟨some .keyword, ['i', 'f']⟩]⟩]
    (∀ pane ∈ panes, ∀ token ∈ pane.tokens, '\x1b' ∉ token.text) ∧
      (display {} (writePanes settings panes)).1 =
        inStyle {} "──".toList ++
          inStyle { foreground := .rgb 0xf0 0xdb 0x4f, bold := true } " JS ".toList ++
          inStyle {} ['\n', ' ', ' '] ++ inStyle { italic := true } ['/', '/'] ++
          inStyle { foreground := .magenta, bold := true } ['i', 'f'] ++ inStyle {} ['\n'] := by
  intro settings panes
  have htokens : ∀ pane ∈ panes, ∀ token ∈ pane.tokens, '\x1b' ∉ token.text := by decide
  exact ⟨htokens, ((display_writePanes settings panes htokens).2.1 rfl).trans rfl⟩

end Triptych.Terminal
