import Triptych.Regex.Basic
import Triptych.Text.Digits

/-!
# How patterns are written

The parts of the notation that do not nest: escapes, counts, flags and the head of
a group.  Each reader takes what it reads from the front of a text and gives back
the rest, or gives nothing if the text does not begin with such a part.
-/

namespace Triptych.Regex

/-! ## Escapes -/

/-- Read a character given by `digits` hexadecimal digits or by some in braces. -/
def readHex? (digits : Nat) (s : List Char) : Option (Char × List Char) :=
  match s with
  | '{' :: rest =>
      match rest.dropWhile (· != '}') with
      | '}' :: more => do
          let n ← Text.number? 16 (rest.takeWhile (· != '}'))
          return (← Text.charOfPoint? n, more)
      | _ => none
  | _ =>
      if s.length < digits then none
      else do
        let n ← Text.number? 16 (s.take digits)
        return (← Text.charOfPoint? n, s.drop digits)

/-- What a backslash and the characters after it stand for. -/
inductive Escape where
  | literal (c : Char)
  | set (members : CharSet)
  | anchor (condition : Anchor)

/-- ASCII characters that a backslash leaves as they are. -/
def isPlainEscape (c : Char) : Bool :=
  c.toNat < 128 && !c.isAlphanum && c != '<' && c != '>'

/-- Read an escape after its backslash. -/
def readEscape? : List Char → Option (Escape × List Char)
  | [] => none
  | c :: rest =>
      match c with
      | 'd' => some (.set .digit, rest)
      | 'D' => some (.set (.compl .digit), rest)
      | 's' => some (.set .blank, rest)
      | 'S' => some (.set (.compl .blank), rest)
      | 'w' => some (.set .word, rest)
      | 'W' => some (.set (.compl .word), rest)
      | 'A' => some (.anchor .textStart, rest)
      | 'z' => some (.anchor .textEnd, rest)
      | 'b' => some (.anchor .wordBoundary, rest)
      | 'B' => some (.anchor .notWordBoundary, rest)
      | '<' => some (.anchor .wordStart, rest)
      | '>' => some (.anchor .wordEnd, rest)
      | 'a' => some (.literal '\x07', rest)
      | 'f' => some (.literal '\x0c', rest)
      | 't' => some (.literal '\t', rest)
      | 'n' => some (.literal '\n', rest)
      | 'r' => some (.literal '\r', rest)
      | 'v' => some (.literal '\x0b', rest)
      | 'x' => (readHex? 2 rest).map fun (d, more) => (.literal d, more)
      | 'u' => (readHex? 4 rest).map fun (d, more) => (.literal d, more)
      | 'U' => (readHex? 8 rest).map fun (d, more) => (.literal d, more)
      | _ => if isPlainEscape c then some (.literal c, rest) else none

/-! ## Counts -/

/-- Read a decimal number with blanks around it. -/
def readCount? (s : List Char) : Option (Nat × List Char) := do
  let s := Text.trimStart s
  let n ← Text.number? 10 (s.takeWhile Char.isDigit)
  if n < 0x100000000 then return (n, Text.trimStart (s.dropWhile Char.isDigit)) else none

/-- Read the bounds of a counted repetition after its opening brace.  The upper
bound is left out when there is none. -/
def readBounds? (s : List Char) : Option ((Nat × Option Nat) × List Char) :=
  match readCount? s with
  | some (low, '}' :: rest) => some ((low, some low), rest)
  | some (low, ',' :: '}' :: rest) => some ((low, none), rest)
  | some (low, ',' :: rest) =>
      match readCount? rest with
      | some (high, '}' :: more) =>
          if low ≤ high then some ((low, some high), more) else none
      | _ => none
  | _ => none

/-! ## Flags and groups -/

/-- The settings in force while a pattern is read. -/
structure Flags where
  /-- Case makes no difference. -/
  ignoreCase : Bool := false
  /-- `^` and `$` hold at line breaks too. -/
  multiLine : Bool := false
  /-- `.` takes the line feed too. -/
  dotAll : Bool := false
  /-- Repetitions are lazy, and greedy when a question mark follows. -/
  lazyFirst : Bool := false
  deriving DecidableEq

/-- Switch one flag; nothing for a letter that is no flag.  The flag `u` is always
on and can only be switched on. -/
def Flags.switch? (flags : Flags) (letter : Char) (on : Bool) : Option Flags :=
  match letter with
  | 'i' => some { flags with ignoreCase := on }
  | 'm' => some { flags with multiLine := on }
  | 's' => some { flags with dotAll := on }
  | 'U' => some { flags with lazyFirst := on }
  | 'u' => if on then some flags else none
  | _ => none

/-- Switch the flags that a run of letters names, each at most once; those after a
hyphen are switched off, and there must be some. -/
def Flags.switchAll? (flags : Flags) (letters : List Char) : Option Flags :=
  let on := letters.takeWhile (· != '-')
  let off := letters.dropWhile (· != '-')
  if letters.isEmpty || letters.getLast? == some '-' || !decide letters.Nodup then none
  else do
    let flags ← on.foldlM (fun f c => f.switch? c true) flags
    off.tail.foldlM (fun f c => f.switch? c false) flags

/-- What an opening parenthesis begins. -/
inductive GroupHead where
  | group (name : Option (List Char)) (flags : Flags)
  | directive (flags : Flags)

/-- A character that may stand in the name of a group. -/
def isNameChar (first : Bool) (c : Char) : Bool :=
  if first then c == '_' || (Text.isWord c && !Text.isDigit c)
  else Text.isWord c || c == '.' || c == '[' || c == ']'

/-- Read the name of a group up to the closing angle bracket. -/
def readName? (s : List Char) : Option (List Char × List Char) :=
  let name := s.takeWhile (· != '>')
  match name, s.dropWhile (· != '>') with
  | first :: others, '>' :: rest =>
      if isNameChar true first && others.all (isNameChar false) then some (name, rest) else none
  | _, _ => none

/-- Read the head of a group after its opening parenthesis.  Looking ahead or
behind is no part of the notation. -/
def readGroupHead? (flags : Flags) (s : List Char) : Option (GroupHead × List Char) :=
  match s with
  | '?' :: '<' :: '=' :: _ | '?' :: '<' :: '!' :: _ => none
  | '?' :: 'P' :: '<' :: rest | '?' :: '<' :: rest =>
      (readName? rest).map fun (name, more) => (.group (some name) flags, more)
  | '?' :: ':' :: rest => some (.group none flags, rest)
  | '?' :: rest =>
      let letters := rest.takeWhile fun c => c != ':' && c != ')'
      match rest.dropWhile fun c => c != ':' && c != ')' with
      | ':' :: more =>
          (flags.switchAll? letters).map fun inner => (.group none inner, more)
      | ')' :: more =>
          (flags.switchAll? letters).map fun inner => (.directive inner, more)
      | _ => none
  | _ => some (.group none flags, s)

end Triptych.Regex
