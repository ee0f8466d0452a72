import Triptych.Color
import Triptych.Proofs.Keys
import Triptych.Proofs.Text.Hexadecimal
import Triptych.Proofs.Text.Offsets

/-!
# Which texts name a colour

A text is read after trimming and in lower case.  Then it is one of the listed names, with
underscores or hyphens, or a number sign and three channels, and nothing else; see
`ofName?_iff_written`.

A channel is read as a number.  So it may be written with two digits, and also with a plus
sign and one digit: `#+1+2+3` is a colour.  Without plus signs, colours are written with
exactly six digits.

The channels are cut out of the text at byte offsets.  `sliceChannels?` fails where an
offset is inside a character; it never does, as a text of six ASCII characters has a
boundary everywhere.
-/

namespace Triptych

namespace Color

open Text

/-! ## Channels -/

/-- The two digits of a byte. -/
def digitPair (b : UInt8) : List Char :=
  [Nat.digitChar (b.toNat / 16), Nat.digitChar (b.toNat % 16)]

/-- What is read as a byte: its two digits, or its one digit behind a plus sign. -/
def WritesChannel (b : UInt8) (chars : List Char) : Prop :=
  chars = digitPair b ∨ (b.toNat < 16 ∧ chars = ['+', Nat.digitChar b.toNat])

/-- What is read as three channels, behind a number sign. -/
def WritesChannels (r g b : UInt8) (text : List Char) : Prop :=
  ∃ rs gs bs, WritesChannel r rs ∧ WritesChannel g gs ∧ WritesChannel b bs ∧
    text = '#' :: (rs ++ gs ++ bs)

theorem digitChar_ne_plus {n : Nat} (hn : n < 16) : Nat.digitChar n ≠ '+' := by
  have h : ∀ n < 16, Nat.digitChar n ≠ '+' := by decide
  exact h n hn

theorem plus_not_mem_digitPair (b : UInt8) : '+' ∉ digitPair b := by
  have hb := b.toNat_lt
  have hhigh := digitChar_ne_plus (n := b.toNat / 16) (by omega)
  have hlow := digitChar_ne_plus (n := b.toNat % 16) (by omega)
  simp [digitPair, hhigh.symm, hlow.symm]

theorem WritesChannel.eq_digitPair {b : UInt8} {chars : List Char} (h : WritesChannel b chars)
    (hplus : '+' ∉ chars) : chars = digitPair b := by
  rcases h with h | ⟨-, rfl⟩
  · exact h
  · simp at hplus

theorem WritesChannel.exists_pair {b : UInt8} {chars : List Char} (h : WritesChannel b chars) :
    ∃ high low, chars = [high, low] := by
  rcases h with rfl | ⟨-, rfl⟩
  · exact ⟨_, _, rfl⟩
  · exact ⟨_, _, rfl⟩

/-- Without plus signs there are exactly six digits. -/
theorem writesChannels_iff_of_not_mem {r g b : UInt8} {text : List Char} (hplus : '+' ∉ text) :
    WritesChannels r g b text ↔ text = '#' :: (digitPair r ++ digitPair g ++ digitPair b) := by
  constructor
  · rintro ⟨rs, gs, bs, hr, hg, hb, rfl⟩
    simp only [List.mem_cons, List.mem_append, not_or] at hplus
    rw [hr.eq_digitPair hplus.2.1.1, hg.eq_digitPair hplus.2.1.2, hb.eq_digitPair hplus.2.2]
  · rintro rfl
    exact ⟨_, _, _, Or.inl rfl, Or.inl rfl, Or.inl rfl, rfl⟩

/-- A channel is read as it is written. -/
theorem channel?_eq_some_iff {high low : Char} (hhigh : isLatinCapital high = false)
    (hlow : isLatinCapital low = false) {b : UInt8} :
    channel? high low = some b ↔ WritesChannel b [high, low] := by
  have hb := b.toNat_lt
  constructor
  · intro h
    unfold channel? at h
    split at h
    · simp at h
    · next units hunits =>
        obtain ⟨hunits, rfl⟩ := (hexDigit?_eq_some_iff hlow).mp hunits
        -- a plus sign takes the place of the first digit
        split at h
        · next hplus =>
            obtain rfl := Option.some.inj h
            have hvalue : (UInt8.ofNat units).toNat = units := by
              rw [UInt8.toNat_ofNat']
              omega
            exact Or.inr ⟨by omega, by rw [hvalue, hplus]⟩
        · obtain ⟨sixteens, hsixteens, rfl⟩ := Option.map_eq_some_iff.mp h
          obtain ⟨hsixteens, rfl⟩ := (hexDigit?_eq_some_iff hhigh).mp hsixteens
          have hvalue : (UInt8.ofNat (16 * sixteens + units)).toNat = 16 * sixteens + units := by
            rw [UInt8.toNat_ofNat']
            omega
          have hdiv : (16 * sixteens + units) / 16 = sixteens := by omega
          have hmod : (16 * sixteens + units) % 16 = units := by omega
          exact Or.inl (by rw [digitPair, hvalue, hdiv, hmod])
  · rintro (h | ⟨hsmall, h⟩)
    · obtain ⟨rfl, rfl⟩ : high = Nat.digitChar (b.toNat / 16) ∧
          low = Nat.digitChar (b.toNat % 16) := by
        simpa [digitPair] using h
      have hvalue : 16 * (b.toNat / 16) + b.toNat % 16 = b.toNat := by omega
      unfold channel?
      rw [hexDigit?_digitChar (by omega), hexDigit?_digitChar (by omega)]
      dsimp only
      rw [if_neg (digitChar_ne_plus (by omega)), Option.map_some, hvalue, UInt8.ofNat_toNat]
    · obtain ⟨rfl, rfl⟩ : high = '+' ∧ low = Nat.digitChar b.toNat := by simpa using h
      unfold channel?
      rw [hexDigit?_digitChar hsmall]
      dsimp only
      rw [if_pos rfl, UInt8.ofNat_toNat]

theorem ofChannels?_eq_some_iff {channels : List Char}
    (hlower : ∀ c ∈ channels, isLatinCapital c = false) {color : Color} :
    ofChannels? channels = some color ↔
      ∃ r g b, color = .rgb r g b ∧ WritesChannels r g b ('#' :: channels) := by
  constructor
  · intro h
    unfold ofChannels? at h
    split at h
    · next r₁ r₀ g₁ g₀ b₁ b₀ =>
        simp only [List.mem_cons, List.not_mem_nil, or_false, forall_eq_or_imp, forall_eq] at hlower
        obtain ⟨hr₁, hr₀, hg₁, hg₀, hb₁, hb₀⟩ := hlower
        split at h
        · next r g b hr hg hb =>
            obtain rfl := Option.some.inj h
            exact ⟨r, g, b, rfl, _, _, _, (channel?_eq_some_iff hr₁ hr₀).mp hr,
              (channel?_eq_some_iff hg₁ hg₀).mp hg, (channel?_eq_some_iff hb₁ hb₀).mp hb, rfl⟩
        · simp at h
    · simp at h
  · rintro ⟨r, g, b, rfl, rs, gs, bs, hr, hg, hb, heq⟩
    obtain ⟨r₁, r₀, rfl⟩ := hr.exists_pair
    obtain ⟨g₁, g₀, rfl⟩ := hg.exists_pair
    obtain ⟨b₁, b₀, rfl⟩ := hb.exists_pair
    obtain rfl : channels = [r₁, r₀, g₁, g₀, b₁, b₀] := by simpa using heq
    simp only [List.mem_cons, List.not_mem_nil, or_false, forall_eq_or_imp, forall_eq] at hlower
    obtain ⟨hr₁, hr₀, hg₁, hg₀, hb₁, hb₀⟩ := hlower
    have hred := (channel?_eq_some_iff hr₁ hr₀).mpr hr
    have hgreen := (channel?_eq_some_iff hg₁ hg₀).mpr hg
    have hblue := (channel?_eq_some_iff hb₁ hb₀).mpr hb
    simp only [ofChannels?, hred, hgreen, hblue]

/-! ## Channels by offsets -/

/-- The byte that a text writes in base sixteen, with a plus sign in front or without. -/
def byteOf? (s : List Char) : Option UInt8 :=
  (number? 16 (if s.head? = some '+' then s.tail else s)).bind fun n =>
    if n < 256 then some (UInt8.ofNat n) else none

/-- Read the channels of six bytes of ASCII by cutting them out at their offsets; nothing if
an offset is inside a character. -/
def sliceChannels? (channels : List Char) : Option (Option Color) :=
  if byteSize channels ≠ 6 ∨ ¬ channels.all fun c => c.toNat < 0x80 then some none
  else do
    let r ← between? channels 0 2
    let g ← between? channels 2 4
    let b ← between? channels 4 6
    return do return .rgb (← byteOf? r) (← byteOf? g) (← byteOf? b)

theorem byteOf?_pair (high low : Char) : byteOf? [high, low] = channel? high low := by
  have hunits (units : Nat) (h : hexDigit? low = some units) := (bounds_of_hexDigit? h).1
  by_cases hplus : high = '+'
  · subst hplus
    cases hlow : hexDigit? low with
    | none => simp [byteOf?, number?, channel?, digit?_sixteen, hlow]
    | some units =>
        have : units < 256 := by
          have := hunits units hlow
          omega
        simp [byteOf?, number?, channel?, digit?_sixteen, hlow, this]
  · cases hhigh : hexDigit? high with
    | none => cases hlow : hexDigit? low <;> simp [byteOf?, number?, channel?, digit?_sixteen, *]
    | some sixteens =>
        cases hlow : hexDigit? low with
        | none => simp [byteOf?, number?, channel?, digit?_sixteen, *]
        | some units =>
            have : 16 * sixteens + units < 256 := by
              have := (bounds_of_hexDigit? hhigh).1
              have := hunits units hlow
              omega
            simp [byteOf?, number?, channel?, digit?_sixteen, *]

/-- In ASCII every character is one byte. -/
theorem byteSize_of_ascii {s : List Char} (h : ∀ c ∈ s, c.toNat < 0x80) :
    byteSize s = s.length := by
  induction s with
  | nil => rfl
  | cons c s ih =>
      rw [List.forall_mem_cons] at h
      have hc : c.utf8Size = 1 := by
        have hpoint : c.val.toNat < 0x80 := h.1
        rw [Char.utf8Size_eq_one_iff, UInt32.le_iff_toNat_le]
        show c.val.toNat ≤ 127
        omega
      rw [byteSize, hc, ih h.2, List.length_cons]
      omega

/-- In ASCII a text is cut where its characters are counted. -/
theorem between?_of_ascii {front part back : List Char}
    (h : ∀ c ∈ front ++ part ++ back, c.toNat < 0x80) :
    between? (front ++ part ++ back) front.length (front ++ part).length = some part := by
  have hboth : ∀ c ∈ front ++ part, c.toNat < 0x80 := fun c hc =>
    h c (List.mem_append_left back hc)
  have hfront : ∀ c ∈ front, c.toNat < 0x80 := fun c hc => hboth c (List.mem_append_left part hc)
  rw [← byteSize_of_ascii hfront, ← byteSize_of_ascii hboth, between?_append]

/-- Two characters of a channel are ASCII. -/
theorem ascii_of_channel? {high low : Char} {b : UInt8} (h : channel? high low = some b) :
    high.toNat < 0x80 ∧ low.toNat < 0x80 := by
  unfold channel? at h
  split at h
  · simp at h
  · next units hunits =>
      refine ⟨?_, (bounds_of_hexDigit? hunits).2⟩
      split at h
      · next hplus =>
          rw [hplus]
          decide
      · obtain ⟨sixteens, hsixteens, -⟩ := Option.map_eq_some_iff.mp h
        exact (bounds_of_hexDigit? hsixteens).2

theorem ascii_of_ofChannels? {channels : List Char} {color : Color}
    (h : ofChannels? channels = some color) :
    channels.length = 6 ∧ ∀ c ∈ channels, c.toNat < 0x80 := by
  unfold ofChannels? at h
  split at h
  · split at h
    · next r g b hr hg hb =>
        have hr := ascii_of_channel? hr
        have hg := ascii_of_channel? hg
        have hb := ascii_of_channel? hb
        refine ⟨rfl, ?_⟩
        simp only [List.mem_cons, List.not_mem_nil, or_false, forall_eq_or_imp, forall_eq]
        exact ⟨hr.1, hr.2, hg.1, hg.2, hb.1, hb.2⟩
    · simp at h
  · simp at h

/-- No offset is inside a character, and cutting at offsets reads the same channels. -/
theorem sliceChannels?_eq (channels : List Char) :
    sliceChannels? channels = some (ofChannels? channels) := by
  unfold sliceChannels?
  split
  · next hrefused =>
      -- reading asks for six characters, and all that it reads are ASCII
      simp only [List.all_eq_true, decide_eq_true_eq] at hrefused
      cases hread : ofChannels? channels with
      | none => rfl
      | some color =>
          obtain ⟨hlength, hascii⟩ := ascii_of_ofChannels? hread
          rw [byteSize_of_ascii hascii, hlength] at hrefused
          rcases hrefused with hsize | hforeign
          · exact absurd rfl hsize
          · exact absurd hascii hforeign
  · next haccepted =>
      simp only [List.all_eq_true, decide_eq_true_eq, not_or, not_not] at haccepted
      obtain ⟨hsize, hascii⟩ := haccepted
      have hlength : channels.length = 6 := (byteSize_of_ascii hascii).symm.trans hsize
      obtain ⟨r₁, r₀, g₁, g₀, b₁, b₀, rfl⟩ :
          ∃ r₁ r₀ g₁ g₀ b₁ b₀, channels = [r₁, r₀, g₁, g₀, b₁, b₀] := by
        match channels, hlength with
        | [r₁, r₀, g₁, g₀, b₁, b₀], _ => exact ⟨r₁, r₀, g₁, g₀, b₁, b₀, rfl⟩
      have hred : between? [r₁, r₀, g₁, g₀, b₁, b₀] 0 2 = some [r₁, r₀] :=
        @between?_of_ascii [] [r₁, r₀] _ hascii
      have hgreen : between? [r₁, r₀, g₁, g₀, b₁, b₀] 2 4 = some [g₁, g₀] :=
        @between?_of_ascii [r₁, r₀] [g₁, g₀] _ hascii
      have hblue : between? [r₁, r₀, g₁, g₀, b₁, b₀] 4 6 = some [b₁, b₀] :=
        @between?_of_ascii [r₁, r₀, g₁, g₀] [b₁, b₀] [] hascii
      simp only [hred, hgreen, hblue, byteOf?_pair, ofChannels?, Option.bind_eq_bind,
        Option.bind_some]
      cases channel? r₁ r₀ <;> cases channel? g₁ g₀ <;> cases channel? b₁ b₀ <;> rfl

/-! ## Names -/

/-- A text that begins with a number sign is no name, and no name stands for channels. -/
theorem of_mem_names {name : List Char} {color : Color} (h : (name, color) ∈ names) :
    name.head? ≠ some '#' ∧ ∀ r g b, color ≠ .rgb r g b := by
  have hnames : ∀ entry ∈ names, entry.1.head? ≠ some '#' := by decide +kernel
  refine ⟨hnames _ h, ?_⟩
  rintro r g b rfl
  simp [names] at h

theorem nodup_names : (names.map Prod.fst).Nodup := by decide +kernel

theorem head?_hyphenated (text : List Char) :
    (hyphenated text).head? = some '#' ↔ text.head? = some '#' := by
  cases text with
  | nil => simp [hyphenated]
  | cons c text =>
      simp only [hyphenated, List.map_cons, List.head?_cons, Option.some.injEq]
      split
      · next h => simp [h]
      · rfl

theorem ofName?_of_channels {name channels : List Char}
    (h : lowercase (trim name) = '#' :: channels) : ofName? name = ofChannels? channels := by
  simp only [ofName?, h]

theorem isLatinCapital_of_mem_channels {name channels : List Char}
    (h : lowercase (trim name) = '#' :: channels) : ∀ c ∈ channels, isLatinCapital c = false := by
  intro c hc
  exact not_isLatinCapital_of_mem_lowercase (by rw [h]; exact List.mem_cons_of_mem _ hc)

theorem ofName?_of_plain {name : List Char} (h : (lowercase (trim name)).head? ≠ some '#') :
    ofName? name = names.lookup (hyphenated (lowercase (trim name))) := by
  unfold ofName?
  split
  · next heq => simp [heq] at h
  · rfl

/-- A text in lower case writes channels exactly if it is read as channels. -/
theorem ofName?_eq_some_rgb_iff (name : List Char) (r g b : UInt8) :
    ofName? name = some (.rgb r g b) ↔ WritesChannels r g b (lowercase (trim name)) := by
  by_cases hsign : (lowercase (trim name)).head? = some '#'
  · obtain ⟨channels, hchannels⟩ := List.head?_eq_some_iff.mp hsign
    have hlower := isLatinCapital_of_mem_channels hchannels
    rw [ofName?_of_channels hchannels, ofChannels?_eq_some_iff hlower, hchannels]
    constructor
    · rintro ⟨r', g', b', heq, hwrites⟩
      obtain ⟨rfl, rfl, rfl⟩ := Color.rgb.inj heq
      exact hwrites
    · intro hwrites
      exact ⟨r, g, b, rfl, hwrites⟩
  · rw [ofName?_of_plain hsign, lookup_eq_some_iff_mem nodup_names]
    constructor
    · intro hmem
      exact absurd rfl ((of_mem_names hmem).2 r g b)
    · rintro ⟨rs, gs, bs, -, -, -, htext⟩
      simp [htext] at hsign

/-- A color that is not given by channels is read from its names. -/
theorem ofName?_eq_some_iff_mem_names (name : List Char) {color : Color}
    (hcolor : ∀ r g b, color ≠ .rgb r g b) :
    ofName? name = some color ↔ (hyphenated (lowercase (trim name)), color) ∈ names := by
  by_cases hsign : (lowercase (trim name)).head? = some '#'
  · obtain ⟨channels, hchannels⟩ := List.head?_eq_some_iff.mp hsign
    have hlower := isLatinCapital_of_mem_channels hchannels
    rw [ofName?_of_channels hchannels, ofChannels?_eq_some_iff hlower]
    constructor
    · rintro ⟨r, g, b, heq, -⟩
      exact absurd heq (hcolor r g b)
    · intro hmem
      exact absurd ((head?_hyphenated _).mpr hsign) (of_mem_names hmem).1
  · rw [ofName?_of_plain hsign, lookup_eq_some_iff_mem nodup_names]

/-- There are no other colours. -/
theorem ofName?_eq_none_iff (name : List Char) :
    ofName? name = none ↔ (∀ r g b, ¬ WritesChannels r g b (lowercase (trim name))) ∧
      hyphenated (lowercase (trim name)) ∉ names.map Prod.fst := by
  have hchannels := ofName?_eq_some_rgb_iff name
  have hnames (color : Color) (hcolor : ∀ r g b, color ≠ .rgb r g b) :=
    ofName?_eq_some_iff_mem_names name hcolor
  constructor
  · intro hnone
    refine ⟨fun r g b hwrites => ?_, fun hmem => ?_⟩
    · have := (hchannels r g b).mpr hwrites
      simp [hnone] at this
    · obtain ⟨⟨listed, color⟩, hentry, rfl⟩ := List.mem_map.mp hmem
      have := (hnames color (of_mem_names hentry).2).mpr hentry
      simp [hnone] at this
  · rintro ⟨hwrites, hlisted⟩
    cases hread : ofName? name with
    | none => rfl
    | some color =>
        by_cases hcolor : ∀ r g b, color ≠ .rgb r g b
        · have hentry := (hnames color hcolor).mp hread
          exact absurd (List.mem_map.mpr ⟨_, hentry, rfl⟩) hlisted
        · simp only [not_forall, not_not] at hcolor
          obtain ⟨r, g, b, rfl⟩ := hcolor
          exact absurd ((hchannels r g b).mp hread) (hwrites r g b)

/-- The grammar of colours.  A text is trimmed and written in lower case.  It is a colour with
three channels if these are written behind a number sign, which takes exactly six digits unless
there are plus signs; it is another colour if it is a name of that colour; and there are no other
colours.  No channel is cut off inside a character. -/
theorem ofName?_iff_written (name : List Char) :
    let text := lowercase (trim name)
    (∀ r g b, ofName? name = some (.rgb r g b) ↔ WritesChannels r g b text) ∧
      ('+' ∉ text → ∀ r g b, ofName? name = some (.rgb r g b) ↔
        text = '#' :: (digitPair r ++ digitPair g ++ digitPair b)) ∧
      (∀ color, (∀ r g b, color ≠ .rgb r g b) →
        (ofName? name = some color ↔ (hyphenated text, color) ∈ names)) ∧
      (ofName? name = none ↔
        (∀ r g b, ¬ WritesChannels r g b text) ∧ hyphenated text ∉ names.map Prod.fst) ∧
      ∀ channels, text = '#' :: channels → sliceChannels? channels = some (ofName? name) := by
  intro text
  refine ⟨ofName?_eq_some_rgb_iff name, ?_,
    fun _ hcolor => ofName?_eq_some_iff_mem_names name hcolor, ofName?_eq_none_iff name, ?_⟩
  · intro hplus r g b
    rw [ofName?_eq_some_rgb_iff, writesChannels_iff_of_not_mem hplus]
  · intro channels htext
    rw [ofName?_of_channels htext]
    exact sliceChannels?_eq channels

/-- A plus sign and a digit are read where two digits should stand: this text is a colour, and
it is NOT a number sign with six digits. -/
theorem plus_signs_read :
    ofName? ['#', '+', '1', '+', '2', '+', '3'] = some (.rgb 1 2 3) ∧
      lowercase (trim ['#', '+', '1', '+', '2', '+', '3']) = ['#', '+', '1', '+', '2', '+', '3'] ∧
      ∀ r g b, ['#', '+', '1', '+', '2', '+', '3'] ≠
        '#' :: (digitPair r ++ digitPair g ++ digitPair b) := by
  refine ⟨by decide +kernel, by decide +kernel, ?_⟩
  intro r g b heq
  have hpair : '+' ∈ digitPair r ++ digitPair g ++ digitPair b := by
    rw [← List.cons.inj heq |>.2]
    decide
  simp [plus_not_mem_digitPair] at hpair

end Color

end Triptych
