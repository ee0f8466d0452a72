import Triptych.Text.Digits
import Triptych.Toml.Value

/-!
# TOML scalars

Readers for strings, numbers, dates and times.  Each takes a scalar from the front of
a text and gives back the rest.  A reader takes as much as it can, and what it leaves
need NOT be well formed: whoever calls it looks at the rest.
-/

namespace Triptych.Toml

/-! ## Characters -/

/-- The blanks within a line. -/
def isBlank (c : Char) : Bool := c == ' ' || c == '\t'

/-- The characters that a text within a line may hold: no control but the tab. -/
def isPrintable (c : Char) : Bool := c == '\t' || (0x20 ≤ c.toNat && c.toNat != 0x7F)

/-- Leave out the blanks in front. -/
def skipBlanks (s : List Char) : List Char := s.dropWhile isBlank

/-- Read the end of a line. -/
def readLineEnd? : List Char → Option (List Char)
  | '\n' :: rest => some rest
  | '\r' :: '\n' :: rest => some rest
  | _ => none

/-! ## Strings -/

/-- Read a character by its code point, in `digits` hexadecimal digits. -/
def readCodePoint? (digits : Nat) (s : List Char) : Option (Char × List Char) :=
  if s.length < digits then none
  else do
    let n ← Text.number? 16 (s.take digits)
    return (← Text.charOfPoint? n, s.drop digits)

/-- Read an escape after its backslash. -/
def readEscape? : List Char → Option (Char × List Char)
  | 'b' :: rest => some ('\x08', rest)
  | 't' :: rest => some ('\t', rest)
  | 'n' :: rest => some ('\n', rest)
  | 'f' :: rest => some ('\x0c', rest)
  | 'r' :: rest => some ('\r', rest)
  | '"' :: rest => some ('"', rest)
  | '\\' :: rest => some ('\\', rest)
  | 'u' :: rest => readCodePoint? 4 rest
  | 'U' :: rest => readCodePoint? 8 rest
  | _ => none

/-- Read a string with escapes, after its opening quote. -/
def readBasic? (s : List Char) : Option (List Char × List Char) :=
  match s with
  | [] => none
  | '"' :: rest => some ([], rest)
  | '\\' :: rest =>
      match readEscape? rest with
      | some (c, more) =>
          if more.length ≤ rest.length then
            (readBasic? more).map fun (text, after) => (c :: text, after)
          else none
      | none => none
  | c :: rest =>
      if isPrintable c then (readBasic? rest).map fun (text, after) => (c :: text, after)
      else none
termination_by s.length
decreasing_by all_goals (simp only [List.length_cons]; omega)

/-- Read a string without escapes, after its opening quote. -/
def readLiteral? : List Char → Option (List Char × List Char)
  | [] => none
  | c :: rest =>
      if c = '\'' then some ([], rest)
      else if isPrintable c then
        (readLiteral? rest).map fun (text, after) => (c :: text, after)
      else none

/-- After a backslash at the end of a line, leave out everything up to the next
character that is neither a blank nor the end of a line. -/
def continueLine? (s : List Char) : Option (List Char) :=
  (readLineEnd? (skipBlanks s)).map skipAll
where
  /-- Leave out blanks and ends of lines. -/
  skipAll : List Char → List Char
    | '\n' :: rest => skipAll rest
    | '\r' :: '\n' :: rest => skipAll rest
    | c :: rest => if isBlank c then skipAll rest else c :: rest
    | [] => []

/-- Read a string of several lines with escapes, after its opening quotes.  Up to two
quotes may stand before the closing ones. -/
def readLongBasic? (s : List Char) : Option (List Char × List Char) :=
  match s with
  | [] => none
  | '"' :: '"' :: '"' :: '"' :: '"' :: rest => some (['"', '"'], rest)
  | '"' :: '"' :: '"' :: '"' :: rest => some (['"'], rest)
  | '"' :: '"' :: '"' :: rest => some ([], rest)
  | '\n' :: rest => (readLongBasic? rest).map fun (text, after) => ('\n' :: text, after)
  | '\r' :: '\n' :: rest =>
      (readLongBasic? rest).map fun (text, after) => ('\n' :: text, after)
  | '\\' :: rest =>
      match continueLine? rest with
      | some more =>
          if more.length ≤ rest.length then readLongBasic? more else none
      | none =>
          match readEscape? rest with
          | some (c, more) =>
              if more.length ≤ rest.length then
                (readLongBasic? more).map fun (text, after) => (c :: text, after)
              else none
          | none => none
  | c :: rest =>
      if isPrintable c then (readLongBasic? rest).map fun (text, after) => (c :: text, after)
      else none
termination_by s.length
decreasing_by all_goals (simp only [List.length_cons]; omega)

/-- Read a string of several lines without escapes, after its opening quotes. -/
def readLongLiteral? : List Char → Option (List Char × List Char)
  | [] => none
  | '\'' :: '\'' :: '\'' :: '\'' :: '\'' :: rest => some (['\'', '\''], rest)
  | '\'' :: '\'' :: '\'' :: '\'' :: rest => some (['\''], rest)
  | '\'' :: '\'' :: '\'' :: rest => some ([], rest)
  | '\n' :: rest => (readLongLiteral? rest).map fun (text, after) => ('\n' :: text, after)
  | '\r' :: '\n' :: rest =>
      (readLongLiteral? rest).map fun (text, after) => ('\n' :: text, after)
  | c :: rest =>
      if isPrintable c then (readLongLiteral? rest).map fun (text, after) => (c :: text, after)
      else none

/-- Leave out the end of a line, if the text begins with one. -/
def skipFirstLineEnd (s : List Char) : List Char := (readLineEnd? s).getD s

/-- Read a string of any kind. -/
def readString? : List Char → Option (List Char × List Char)
  | '"' :: '"' :: '"' :: rest => readLongBasic? (skipFirstLineEnd rest)
  | '"' :: rest => readBasic? rest
  | '\'' :: '\'' :: '\'' :: rest => readLongLiteral? (skipFirstLineEnd rest)
  | '\'' :: rest => readLiteral? rest
  | _ => none

/-! ## Numbers -/

/-- Read digits, with single underscores between them. -/
def readDigits? (isDigit : Char → Bool) : List Char → Option (List Char × List Char)
  | [] => none
  | c :: rest => if isDigit c then (more rest).map fun (ds, after) => (c :: ds, after) else none
where
  /-- Read the digits after the first one. -/
  more : List Char → Option (List Char × List Char)
    | '_' :: c :: rest =>
        if isDigit c then (more rest).map fun (ds, after) => (c :: ds, after) else none
    | '_' :: [] => none
    | c :: rest =>
        if isDigit c then (more rest).map fun (ds, after) => (c :: ds, after)
        else some ([], c :: rest)
    | [] => some ([], [])

/-- Read a sign: whether it is a minus. -/
def readSign : List Char → Bool × List Char
  | '-' :: rest => (true, rest)
  | '+' :: rest => (false, rest)
  | s => (false, s)

/-- Read a decimal integer without its sign.  A zero in front stands alone. -/
def readDecimal? : List Char → Option (List Char × List Char)
  | '0' :: rest => some (['0'], rest)
  | s => readDigits? Char.isDigit s

/-- The integers of 64 bits. -/
def fits64 (n : Int) : Bool := -0x8000000000000000 ≤ n && n < 0x8000000000000000

/-- Read an integer of 64 bits.  Only decimal ones have a sign. -/
def readInteger? (s : List Char) : Option (Int × List Char) :=
  let unsigned (base : Nat) (rest : List Char) : Option (Int × List Char) := do
    let (digits, more) ← readDigits? (fun c => (Text.digit? base c).isSome) rest
    let n ← Text.number? base digits
    if fits64 n then return ((n : Int), more) else none
  match s with
  | '0' :: 'x' :: rest => unsigned 16 rest
  | '0' :: 'o' :: rest => unsigned 8 rest
  | '0' :: 'b' :: rest => unsigned 2 rest
  | _ => do
      let (negative, rest) := readSign s
      let (digits, more) ← readDecimal? rest
      let n ← Text.number? 10 digits
      let value : Int := if negative then -(n : Int) else n
      if fits64 value then return (value, more) else none

/-- Read an exponent: its value and the rest. -/
def readExponent? : List Char → Option (Int × List Char)
  | c :: rest =>
      if c = 'e' ∨ c = 'E' then do
        let (negative, unsigned) := readSign rest
        let (digits, more) ← readDigits? Char.isDigit unsigned
        let n ← Text.number? 10 digits
        return (if negative then -(n : Int) else n, more)
      else none
  | [] => none

/-- The least number that is too large for a float of 64 bits. -/
def floatBound : Nat := Nat.pow 2 1024 - Nat.pow 2 970

/-- The number that digits write, times a power of ten, is too large for a float.  Far
from the bound, counting digits is enough. -/
def isHuge (digits : List Char) (exponent : Int) : Bool :=
  let digits := digits.dropWhile (· == '0')
  let magnitude : Int := digits.length + exponent
  match Text.number? 10 digits with
  | none => false
  | some n =>
      if 310 < magnitude then true
      else if magnitude < 300 then false
      else if 0 ≤ exponent then floatBound ≤ n * Nat.pow 10 exponent.toNat
      else floatBound * Nat.pow 10 (-exponent).toNat ≤ n

/-- Read a decimal float: it has a fraction, an exponent or both.  A positive one that
is too large is refused; a negative one is NOT. -/
def readDecimalFloat? (s : List Char) : Option (List Char) := do
  let (negative, unsigned) := readSign s
  let (whole, rest) ← readDecimal? unsigned
  let (digits, exponent, more) ← match rest with
    | '.' :: fraction => do
        let (part, after) ← readDigits? Char.isDigit fraction
        match after with
        | 'e' :: _ | 'E' :: _ => do
            let (exponent, more) ← readExponent? after
            pure (whole ++ part, exponent - part.length, more)
        | _ => pure (whole ++ part, -(part.length : Int), after)
    | _ => do
        let (exponent, more) ← readExponent? rest
        pure (whole, exponent, more)
  if isHuge digits exponent && !negative then none else return more

/-- Read a float that is no number or no finite one. -/
def readSpecialFloat? (s : List Char) : Option (List Char) :=
  match (readSign s).2 with
  | 'i' :: 'n' :: 'f' :: rest => some rest
  | 'n' :: 'a' :: 'n' :: rest => some rest
  | _ => none

/-- Read a float. -/
def readFloat? (s : List Char) : Option (List Char) :=
  (readDecimalFloat? s).or (readSpecialFloat? s)

/-! ## Dates and times -/

/-- Read a number of two digits within bounds. -/
def readPair? (low high : Nat) : List Char → Option (Nat × List Char)
  | a :: b :: rest => do
      let n ← Text.number? 10 [a, b]
      if low ≤ n ∧ n ≤ high then return (n, rest) else none
  | _ => none

/-- The number of days of a month. -/
def daysOfMonth (year month : Nat) : Nat :=
  if month = 2 then
    if year % 4 = 0 ∧ (year % 100 ≠ 0 ∨ year % 400 = 0) then 29 else 28
  else if month = 4 ∨ month = 6 ∨ month = 9 ∨ month = 11 then 30
  else 31

/-- Read one character that must be there. -/
def expect? (c : Char) : List Char → Option (List Char)
  | d :: rest => if d = c then some rest else none
  | [] => none

/-- Read a date. -/
def readDate? (s : List Char) : Option (List Char) :=
  match s with
  | a :: b :: c :: d :: '-' :: rest => do
      let year ← Text.number? 10 [a, b, c, d]
      let (month, rest) ← readPair? 1 12 rest
      let rest ← expect? '-' rest
      let (_, rest) ← readPair? 1 (daysOfMonth year month) rest
      return rest
  | _ => none

/-- Read a time of day.  Seconds may be sixty, and they may have a fraction. -/
def readTime? (s : List Char) : Option (List Char) := do
  let (_, rest) ← readPair? 0 23 s
  let rest ← expect? ':' rest
  let (_, rest) ← readPair? 0 59 rest
  let rest ← expect? ':' rest
  let (_, rest) ← readPair? 0 60 rest
  match rest with
  | '.' :: c :: more =>
      if c.isDigit then return more.dropWhile Char.isDigit else return rest
  | _ => return rest

/-- Read the offset of a time zone. -/
def readZone? : List Char → Option (List Char)
  | c :: rest =>
      if c = 'Z' ∨ c = 'z' then some rest
      else if c = '+' ∨ c = '-' then do
        let (_, rest) ← readPair? 0 23 rest
        let rest ← expect? ':' rest
        let (_, rest) ← readPair? 0 59 rest
        return rest
      else none
  | [] => none

/-- Read a date, a time, or both; only both together have a time zone. -/
def readDatetime? (s : List Char) : Option (List Char) :=
  match readDate? s with
  | none => readTime? s
  | some rest =>
      match rest with
      | c :: more =>
          if c = 'T' ∨ c = 't' ∨ c = ' ' then
            match readTime? more with
            | some after => some ((readZone? after).getD after)
            | none => some rest
          else some rest
      | [] => some rest

/-! ## All together -/

/-- What was read of a text, when this is the rest. -/
def taken (s rest : List Char) : List Char := s.take (s.length - rest.length)

/-- Read a number, a date or a time. -/
def readNumber? (s : List Char) : Option (Value × List Char) :=
  match readDatetime? s with
  | some rest => some (.datetime (taken s rest), rest)
  | none =>
      match readFloat? s with
      | some rest => some (.float (taken s rest), rest)
      | none => (readInteger? s).map fun (n, rest) => (.integer n, rest)

/-- Read a value that has no parts. -/
def readScalar? (s : List Char) : Option (Value × List Char) :=
  match s with
  | 't' :: 'r' :: 'u' :: 'e' :: rest => some (.boolean true, rest)
  | 'f' :: 'a' :: 'l' :: 's' :: 'e' :: rest => some (.boolean false, rest)
  | '"' :: _ | '\'' :: _ => (readString? s).map fun (text, rest) => (.string text, rest)
  | _ => readNumber? s

end Triptych.Toml
