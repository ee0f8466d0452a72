import Triptych.Text.Width.Classes

/-!
# The width of a text in a terminal

A text is measured from its end to its start, since the columns a character takes
depend on what FOLLOWS it: a selector, a joiner, a tone, the other half of a flag,
a letter it is drawn together with.  What follows is summed up in a `Context`.

One step may take columns back, so single steps count in integers.  Control
characters take one column each, a carriage return before a line feed none.
-/

namespace Triptych.Text.Width

/-- What a text goes on with, as far as the character in front of it is concerned. -/
inductive Tail where
  | plain
  | lineFeed
  /-- A character that is shown as an emoji. -/
  | emoji
  | tone
  /-- One half of a flag. -/
  | indicator
  /-- Two halves of flags or more. -/
  | indicators
  /-- A joiner and an emoji. -/
  | joinedEmoji
  /-- The mark of a key cap that is joined to an emoji. -/
  | joinedKeycap
  /-- One half of a flag that is joined to an emoji. -/
  | joinedIndicator
  /-- An even number of halves of flags, joined to an emoji. -/
  | joinedEven
  /-- An odd number of halves of flags, three or more, joined to an emoji. -/
  | joinedOdd
  /-- The end of a tag that is joined to an emoji, with that many letters. -/
  | tagLetters (count : Nat)
  /-- The end of a tag that is joined to an emoji, with that many digits in front. -/
  | tagDigits (count : Nat)
  | alef
  | lamed
  | buginese
  /-- A Buginese vowel sign before a joined letter. -/
  | bugineseSign
  | khmer
  | tifinagh
  /-- A sign that joins a Tifinagh consonant to the one before. -/
  | tifinaghJoiner
  | lisu
  | turkic
  | kirat
  /-- A pair of Kirat Rai vowel signs. -/
  | kiratPair
  deriving DecidableEq, Repr

/-- The letters of a script are drawn together with what stands in front of them. -/
def Tail.isLigature : Tail → Bool
  | .lamed | .buginese | .bugineseSign | .khmer | .tifinagh | .tifinaghJoiner | .lisu
  | .turkic => true
  | _ => false

/-- A presentation that a selector asks for. -/
inductive Presentation where
  | text
  | emoji
  deriving DecidableEq, Repr

/-- What a text goes on with, behind a selector and a joiner. -/
structure Context where
  tail : Tail := .plain
  selector : Option Presentation := none
  joined : Bool := false
  deriving DecidableEq, Repr

/-- The columns that a character takes, and the context it makes. -/
abbrev Step := Int × Context

/-- A step that leaves a tail without a selector. -/
def leaving (columns : Int) (tail : Tail) : Step := (columns, { tail := tail })

namespace Context

/-- The selector has no effect on the character in front of it. -/
def ignoreEmojiSelector (k : Context) : Context :=
  if k.tail.isLigature || k.tail = .alef then { k with selector := none } else {}

/-- The selector has no effect on the character in front of it. -/
def ignoreTextSelector (k : Context) : Context := { k with selector := none }

/-- A selector for the presentation as an emoji. -/
def selectEmoji (k : Context) : Context :=
  if k.tail.isLigature || k.tail = .alef || k.tail = .joinedEmoji || k.tail = .joinedKeycap then
    { k with selector := some .emoji }
  else { selector := some .emoji }

/-- A selector for the presentation as text. -/
def selectText (k : Context) : Context :=
  if k.tail.isLigature then { k with selector := some .text }
  else { selector := some .text }

end Context

/-- A character alone. -/
def alone (c : Char) : Step :=
  match c.toNat with
  | 0x5DC => leaving 1 .lamed
  | 0x17D8 => leaving 3 .plain
  | 0x1A10 => leaving 1 .buginese
  | 0x2D7F => leaving 1 .plain
  | 0xA4FC | 0xA4FD => leaving 1 .lisu
  | 0xFE0E => (0, { selector := some .text })
  | 0xFE0F => (0, { selector := some .emoji })
  | 0x10C03 => leaving 1 .turkic
  | 0x16D67 => leaving 1 .kirat
  | 0x16D68 => leaving 1 .kiratPair
  | _ =>
      if isAlef c then leaving 1 .alef
      else if isKhmerSubscript c then leaving 1 .khmer
      else if isTifinagh c then leaving 1 .tifinagh
      else if isIndicator c then leaving 1 .indicator
      else if isTone c then leaving 2 .tone
      else if emojiPoints.contains c then leaving 2 .emoji
      else if zeroPoints.contains c then leaving 0 .plain
      else if widePoints.contains c then leaving 2 .plain
      else leaving 1 .plain

/-- A character in front of a letter that it is drawn together with. -/
def ligature? (c : Char) (k : Context) : Option Step :=
  match k.tail with
  | .alef =>
      if isLam c then some (leaving 0 .plain)
      else if isTransparent c then some (leaving 0 .alef)
      else none
  | .lamed => if k.joined && c.toNat == 0x5D0 then some (leaving 0 .plain) else none
  | .buginese => if k.joined && c.toNat == 0x1A17 then some (leaving 0 .bugineseSign) else none
  | .bugineseSign => if c.toNat == 0x1A15 then some (leaving 0 .plain) else none
  | .khmer => if c.toNat == 0x17D2 then some (leaving (-1) .plain) else none
  | .tifinagh =>
      if c.toNat == 0x2D7F then some (leaving 1 .tifinaghJoiner)
      else if k.joined && isTifinagh c then some (leaving 0 .plain)
      else none
  | .tifinaghJoiner => if isTifinagh c then some (leaving (-1) .plain) else none
  | .lisu => if between c 0xA4F8 0xA4FB then some (leaving 0 .plain) else none
  | .turkic => if k.joined && c.toNat == 0x10C32 then some (leaving 0 .plain) else none
  | .kirat =>
      if c.toNat == 0x16D63 || c.toNat == 0x16D69 then some (leaving 0 .plain)
      else if c.toNat == 0x16D67 then some (leaving 0 .kiratPair)
      else if c.toNat == 0x16D68 then some (leaving 1 .kirat)
      else none
  | .kiratPair => if c.toNat == 0x16D63 then some (leaving 0 .plain) else none
  | _ => none

/-- A character in front of a tag that is joined to an emoji. -/
def tagged? (c : Char) : Tail → Option Step
  | .tagLetters count =>
      if isTagLetter c && count < 6 then some (leaving 0 (.tagLetters (count + 1)))
      else if isTagDigit c && count < 5 then some (leaving 0 (.tagDigits 1))
      else if c.toNat == 0x1F3F4 && 3 ≤ count then some (leaving 0 .emoji)
      else none
  | .tagDigits count =>
      if isTagDigit c && count < 3 then some (leaving 0 (.tagDigits (count + 1)))
      else if c.toNat == 0x1F3F4 && count == 3 then some (leaving 0 .emoji)
      else none
  | _ => none

/-- A character in front of an emoji, of one half of a flag or of a tone. -/
def emojiSequence? (c : Char) (k : Context) : Option Step :=
  let joiner := c.toNat == 0x200D
  match k.tail with
  | .emoji => if joiner then some (leaving 0 .joinedEmoji) else none
  | .tone =>
      if joiner then some (leaving 0 .joinedEmoji)
      else if tonedPoints.contains c then some (leaving 0 .emoji)
      else none
  | .indicator => if isIndicator c then some (leaving 1 .indicators) else none
  | .indicators =>
      if joiner then some (leaving 0 .joinedEmoji)
      else if isIndicator c then some (leaving 1 .indicators)
      else none
  | .joinedEmoji =>
      if c.toNat == 0x20E3 then some (leaving 0 .joinedKeycap)
      else if isIndicator c then some (leaving 1 .joinedIndicator)
      else if isTone c then some (leaving 0 .tone)
      else if c.toNat == 0xE007F then some (leaving 0 (.tagLetters 0))
      else if emojiPoints.contains c then some (leaving 0 .emoji)
      else none
  | .joinedIndicator => if isIndicator c then some (leaving (-1) .joinedEven) else none
  | .joinedEven =>
      if joiner then some (leaving 0 .joinedEmoji)
      else if isIndicator c then some (leaving 3 .joinedOdd)
      else none
  | .joinedOdd =>
      if joiner then some (leaving 0 .joinedEmoji)
      else if isIndicator c then some (leaving (-3) .joinedEven)
      else none
  | tail => tagged? c tail

/-- A character that changes nothing but the joining of the letter behind it. -/
def passing? (c : Char) (k : Context) : Option Step :=
  if !k.tail.isLigature then none
  else if c.toNat == 0x200D then some (0, { k with joined := true })
  else if isIgnorableMark c then some (0, k)
  else none

/-- A character that is no control character, when no selector is left to look at. -/
def drawn (c : Char) (k : Context) : Step :=
  match passing? c k with
  | some step => step
  | none =>
      match ligature? c k with
      | some step => step
      | none => (emojiSequence? c k).getD (alone c)

/-- A character in front of what an emoji selector does not change. -/
def unselected (c : Char) (k : Context) : Step :=
  if c = '\n' then leaving 1 .lineFeed
  else if c = '\r' && k.tail = .lineFeed then leaving 0 .plain
  else if c.toNat ≤ 0xA0 then leaving 1 .plain
  else if k = {} then alone c
  else if c.toNat == 0xFE0F then (0, k.selectEmoji)
  else if c.toNat == 0xFE0E then (0, k.selectText)
  else if k.selector = some .text then
    if isNarrowedByTextSelector c then leaving 1 .plain else drawn c k.ignoreTextSelector
  else drawn c k

/-- The columns that a character takes before a context, and the context it makes. -/
def step (c : Char) (k : Context) : Step :=
  if k.selector = some .emoji then
    if selectablePoints.contains c then
      leaving (if k.tail = .joinedEmoji || k.tail = .joinedKeycap then 0 else 2) .emoji
    else unselected c k.ignoreEmojiSelector
  else unselected c k

/-- The columns of a text, and the context it makes for what stands in front of it. -/
def measure : List Char → Step
  | [] => (0, {})
  | c :: rest =>
      let (columns, k) := measure rest
      let (own, before) := step c k
      (columns + own, before)

end Width

/-- The number of columns that a text takes in a terminal. -/
def displayWidth (s : List Char) : Nat := (Width.measure s).1.toNat

end Triptych.Text
