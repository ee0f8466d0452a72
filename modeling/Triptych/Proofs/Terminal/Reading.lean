import Triptych.Terminal.Escape

/-!
# What a terminal shows

The other side of the escape sequences.  A `Screen` reads what is sent one character
at a time: outside of a sequence it shows the character in its current style, and a
sequence that ends in `m` changes that style.  `display` reads a whole text, and gives
every character that is shown together with the style that it is shown in.

The screen is told nothing of strokes.  That the sequence of a change has the effect
of that change, from any style on, is `display_change`; that a text without an escape
character is shown as it is, is `display_text`.
-/

namespace Triptych

namespace Color

/-- The colour with a number among the sixteen of a terminal. -/
def ofIndex? (n : Nat) : Option Color :=
  [.black, .red, .green, .yellow, .blue, .magenta, .cyan, .white, .brightBlack, .brightRed,
    .brightGreen, .brightYellow, .brightBlue, .brightMagenta, .brightCyan, .brightWhite][n]?

end Color

namespace Terminal

/-! ## Reading -/

/-- The style after the parameters of a sequence.  Parameters that are not known here,
and colours that are not among the sixteen, change nothing. -/
def select (style : Style) : List Nat → Style
  | [] => style
  | 38 :: 5 :: n :: rest =>
      select { style with foreground := (Color.ofIndex? n).getD style.foreground } rest
  | 48 :: 5 :: n :: rest =>
      select { style with background := (Color.ofIndex? n).getD style.background } rest
  | 38 :: 2 :: r :: g :: b :: rest =>
      select { style with foreground := .rgb (.ofNat r) (.ofNat g) (.ofNat b) } rest
  | 48 :: 2 :: r :: g :: b :: rest =>
      select { style with background := .rgb (.ofNat r) (.ofNat g) (.ofNat b) } rest
  | 39 :: rest => select { style with foreground := .default } rest
  | 49 :: rest => select { style with background := .default } rest
  | 0 :: rest => select {} rest
  | 1 :: rest => select { style with bold := true } rest
  | 3 :: rest => select { style with italic := true } rest
  | 4 :: rest => select { style with underline := true } rest
  | _ :: rest => select style rest

/-- What the next character is part of. -/
inductive Mode where
  | text
  /-- An escape character was read. -/
  | escape
  /-- A sequence: its complete parameters, and the one that is being read. -/
  | sequence (parameters : List Nat) (n : Nat)
  deriving DecidableEq, Repr

/-- A screen that reads what is sent. -/
structure Screen where
  style : Style := {}
  mode : Mode := .text
  deriving DecidableEq, Repr

/-- Read one character: what is shown, and the screen after it. -/
def Screen.read (screen : Screen) (c : Char) : List (Char × Style) × Screen :=
  match screen.mode with
  | .text =>
      if c = '\x1b' then ([], { screen with mode := .escape }) else ([(c, screen.style)], screen)
  | .escape => ([], { screen with mode := if c = '[' then .sequence [] 0 else .text })
  | .sequence parameters n =>
      if c.isDigit then
        ([], { screen with mode := .sequence parameters (10 * n + (c.toNat - '0'.toNat)) })
      else if c = ';' then ([], { screen with mode := .sequence (parameters ++ [n]) 0 })
      else if c = 'm' then ([], { style := select screen.style (parameters ++ [n]) })
      else ([], { screen with mode := .text })

/-- Read a text: what is shown, and the screen after it. -/
def display (screen : Screen) : List Char → List (Char × Style) × Screen
  | [] => ([], screen)
  | c :: rest =>
      let (shown, after) := screen.read c
      let (others, last) := display after rest
      (shown ++ others, last)

theorem display_append (screen : Screen) (text others : List Char) :
    display screen (text ++ others) =
      ((display screen text).1 ++ (display (display screen text).2 others).1,
        (display (display screen text).2 others).2) := by
  induction text generalizing screen with
  | nil => simp [display]
  | cons c text ih => simp [display, ih, List.append_assoc]

/-- A text without an escape character is shown as it is, in the current style. -/
theorem display_text (style : Style) {text : List Char} (htext : '\x1b' ∉ text) :
    display { style := style } text = (text.map (·, style), { style := style }) := by
  induction text with
  | nil => rfl
  | cons c text ih =>
      rw [List.mem_cons, not_or] at htext
      have hread : Screen.read { style := style } c = ([(c, style)], { style := style }) :=
        if_neg (Ne.symm htext.1)
      simp only [display, hread, ih htext.2]
      rfl

/-! ## Parameters -/

theorem display_digits (style : Style) (parameters : List Nat) (n : Nat) {digits : List Char}
    (hdigits : ∀ c ∈ digits, c.isDigit) :
    display ⟨style, .sequence parameters n⟩ digits =
      ([], ⟨style, .sequence parameters (Nat.ofDigitChars 10 digits n)⟩) := by
  induction digits generalizing n with
  | nil => rfl
  | cons c digits ih =>
      have hread : Screen.read ⟨style, .sequence parameters n⟩ c =
          ([], ⟨style, .sequence parameters (10 * n + (c.toNat - '0'.toNat))⟩) :=
        if_pos (hdigits c List.mem_cons_self)
      simp only [display, hread, List.nil_append, Nat.ofDigitChars_cons]
      exact ih _ fun d hd => hdigits d (List.mem_cons_of_mem c hd)

/-- Reading a number in base ten gives the number. -/
theorem display_toDigits (style : Style) (parameters : List Nat) (n : Nat) :
    display ⟨style, .sequence parameters 0⟩ (Nat.toDigits 10 n) =
      ([], ⟨style, .sequence parameters n⟩) := by
  have hdigits : ∀ c ∈ Nat.toDigits 10 n, c.isDigit := fun c hc =>
    Nat.isDigit_of_mem_toDigits (by decide) (by decide) hc
  rw [display_digits style parameters 0 hdigits, Nat.ofDigitChars_ten_toDigits]

/-- Written parameters are read back, and take effect at the end of the sequence. -/
theorem display_writeParameters (style : Style) (parameters : List Nat) (n : Nat)
    (others : List Nat) :
    display ⟨style, .sequence parameters 0⟩ (Change.writeParameters (n :: others) ++ ['m']) =
      ([], { style := select style (parameters ++ n :: others) }) := by
  induction others generalizing parameters n with
  | nil =>
      rw [Change.writeParameters, display_append, display_toDigits]
      rfl
  | cons m others ih =>
      have hread : Screen.read ⟨style, .sequence parameters n⟩ ';' =
          ([], ⟨style, .sequence (parameters ++ [n]) 0⟩) := rfl
      show display _ ((Nat.toDigits 10 n ++ ';' :: Change.writeParameters (m :: others)) ++ ['m']) = _
      rw [List.append_assoc, display_append, display_toDigits]
      simp only [List.cons_append, display, hread, List.nil_append]
      rw [ih, List.append_assoc, List.singleton_append]

example : (display {} "a\x1b[1;38;5;2mb\x1b[0mc".toList).1 =
    [('a', {}), ('b', { foreground := .green, bold := true }), ('c', {})] := by decide

/-! ## Changes -/

namespace Change

/-- The style after a change. -/
def apply (style : Style) : Change → Style
  | .foreground color => { style with foreground := color }
  | .background color => { style with background := color }
  | .bold => style.withBold
  | .italic => style.withItalic
  | .underline => style.withUnderline
  | .reset => {}

/-- A colour is written in one of three ways: by its channels, by its number among the
sixteen, or as the default one. -/
theorem colorParameters_cases (target : Nat) (color : Color) :
    (∃ r g b, colorParameters target color = [target, 2, r.toNat, g.toNat, b.toNat] ∧
        color = .rgb r g b) ∨
      (∃ n, colorParameters target color = [target, 5, n] ∧ Color.ofIndex? n = some color) ∨
      colorParameters target color = [target + 1] ∧ color = .default := by
  cases color with
  | default => exact .inr (.inr ⟨rfl, rfl⟩)
  | rgb r g b => exact .inl ⟨r, g, b, rfl, rfl⟩
  | _ => exact .inr (.inl ⟨_, rfl, rfl⟩)

/-- The parameters of a change, read from any style, make that change. -/
theorem select_parameters (change : Change) (style : Style) :
    select style change.parameters = change.apply style := by
  cases change with
  | foreground color =>
      show select style (colorParameters 38 color) = _
      obtain ⟨r, g, b, hwritten, rfl⟩ | ⟨n, hwritten, hcolor⟩ | ⟨hwritten, rfl⟩ :=
        colorParameters_cases 38 color
      · simp [hwritten, select, apply]
      · simp [hwritten, select, apply, hcolor]
      · simp [hwritten, select, apply]
  | background color =>
      show select style (colorParameters 48 color) = _
      obtain ⟨r, g, b, hwritten, rfl⟩ | ⟨n, hwritten, hcolor⟩ | ⟨hwritten, rfl⟩ :=
        colorParameters_cases 48 color
      · simp [hwritten, select, apply]
      · simp [hwritten, select, apply, hcolor]
      · simp [hwritten, select, apply]
  | bold | italic | underline | reset => rfl

theorem colorParameters_ne_nil (target : Nat) (color : Color) :
    colorParameters target color ≠ [] := by
  obtain ⟨_, _, _, hwritten, -⟩ | ⟨_, hwritten, -⟩ | ⟨hwritten, -⟩ :=
    colorParameters_cases target color <;> simp [hwritten]

theorem parameters_ne_nil (change : Change) : change.parameters ≠ [] := by
  cases change with
  | foreground color => exact colorParameters_ne_nil 38 color
  | background color => exact colorParameters_ne_nil 48 color
  | bold | italic | underline | reset => exact List.cons_ne_nil _ _

end Change

/-- The escape sequence of a change shows nothing and makes the change. -/
theorem display_change (style : Style) (change : Change) :
    display { style := style } change.encode = ([], { style := change.apply style }) := by
  obtain ⟨n, others, hparameters⟩ := List.exists_cons_of_ne_nil change.parameters_ne_nil
  have hescape : Screen.read { style := style } '\x1b' = ([], ⟨style, .escape⟩) := rfl
  have hbracket : Screen.read ⟨style, .escape⟩ '[' = ([], ⟨style, .sequence [] 0⟩) := rfl
  rw [Change.encode, hparameters]
  simp only [display, hescape, hbracket, List.nil_append]
  rw [display_writeParameters, List.nil_append, ← hparameters, change.select_parameters]

/-- Several changes one after the other. -/
theorem display_changes (style : Style) (changes : List Change) :
    display { style := style } (encode (changes.map Stroke.control)) =
      ([], { style := changes.foldl Change.apply style }) := by
  induction changes generalizing style with
  | nil => rfl
  | cons change changes ih =>
      show display { style := style } (change.encode ++ encode (changes.map Stroke.control)) = _
      rw [display_append, display_change, ih]
      rfl

end Terminal

end Triptych
