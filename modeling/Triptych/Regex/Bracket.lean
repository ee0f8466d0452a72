import Triptych.Regex.Notation

/-!
# Bracketed sets

The notation for a set between square brackets.  Brackets nest, a caret in front
takes the complement, and `&&`, `--` and `~~` work on everything to their left.
A hyphen is a range only between two single characters.
-/

namespace Triptych.Regex

/-! ## Named sets -/

/-- The union of some ranges. -/
def ofRanges : List (Char × Char) → CharSet
  | [] => .empty
  | [(first, last)] => .range first last
  | (first, last) :: others => .union (.range first last) (ofRanges others)

/-- The sets of ASCII characters that have a name. -/
def namedSet? (name : String) : Option CharSet :=
  match name with
  | "alnum" => some (ofRanges [('0', '9'), ('A', 'Z'), ('a', 'z')])
  | "alpha" => some (ofRanges [('A', 'Z'), ('a', 'z')])
  | "ascii" => some (ofRanges [('\x00', '\x7f')])
  | "blank" => some (ofRanges [('\t', '\t'), (' ', ' ')])
  | "cntrl" => some (ofRanges [('\x00', '\x1f'), ('\x7f', '\x7f')])
  | "digit" => some (ofRanges [('0', '9')])
  | "graph" => some (ofRanges [('!', '~')])
  | "lower" => some (ofRanges [('a', 'z')])
  | "print" => some (ofRanges [(' ', '~')])
  | "punct" => some (ofRanges [('!', '/'), (':', '@'), ('[', '\x60'), ('\x7b', '~')])
  | "space" => some (ofRanges [('\t', '\r'), (' ', ' ')])
  | "upper" => some (ofRanges [('A', 'Z')])
  | "word" => some (ofRanges [('0', '9'), ('A', 'Z'), ('_', '_'), ('a', 'z')])
  | "xdigit" => some (ofRanges [('0', '9'), ('A', 'F'), ('a', 'f')])
  | _ => none

/-- Read a named set after its opening bracket. -/
def readNamedSet? (s : List Char) : Option (CharSet × List Char) :=
  match s with
  | ':' :: rest =>
      let negated := rest.head? == some '^'
      let body := if negated then rest.tail else rest
      match body.dropWhile (· != ':') with
      | ':' :: ']' :: more =>
          (namedSet? (String.ofList (body.takeWhile (· != ':')))).map fun set =>
            (if negated then .compl set else set, more)
      | _ => none
  | _ => none

/-! ## Members -/

/-- Read a single character or a set that is a member; conditions are none. -/
def readMember? : List Char → Option (Escape × List Char)
  | [] => none
  | '\\' :: rest =>
      match readEscape? rest with
      | some (.anchor _, _) => none
      | result => result
  | c :: rest => some (.literal c, rest)

/-- The set that a member stands for. -/
def Escape.toSet : Escape → CharSet
  | .literal c => .oneOf [c]
  | .set members => members
  | .anchor _ => .empty

/-- Read a member or a range. -/
def readRange? (s : List Char) : Option (CharSet × List Char) :=
  match readMember? s with
  | none => none
  | some (member, rest) =>
      match rest with
      | '-' :: ']' :: _ | '-' :: '-' :: _ => some (member.toSet, rest)
      | '-' :: more =>
          match member, readMember? more with
          | .literal first, some (.literal last, rest') =>
              if first ≤ last then some (.range first last, rest') else none
          | _, _ => none
      | _ => some (member.toSet, rest)

/-! ## Brackets -/

/-- An operator between the parts of a bracketed set. -/
inductive SetOperator where
  | inter
  | diff
  | symmDiff

/-- The set that an operator makes of two. -/
def SetOperator.apply : SetOperator → CharSet → CharSet → CharSet
  | .inter, a, b => .inter a b
  | .diff, a, b => a.diff b
  | .symmDiff, a, b => a.symmDiff b

/-- A bracket that is open: what stands to the left of the last operator, and the
members since. -/
structure OpenBracket where
  negated : Bool
  pending : Option (CharSet × SetOperator)
  members : List CharSet

namespace OpenBracket

/-- The union of the members since the last operator, in the order they came. -/
def union (bracket : OpenBracket) : CharSet :=
  match bracket.members with
  | [] => .empty
  | last :: others => others.foldl (fun set member => .union member set) last

/-- Everything read so far. -/
def soFar (bracket : OpenBracket) : CharSet :=
  match bracket.pending with
  | some (left, operator) => operator.apply left bracket.union
  | none => bracket.union

/-- One member more. -/
def add (bracket : OpenBracket) (member : CharSet) : OpenBracket :=
  { bracket with members := member :: bracket.members }

/-- An operator, which takes everything so far as its left side. -/
def operate (bracket : OpenBracket) (operator : SetOperator) : OpenBracket :=
  { bracket with pending := some (bracket.soFar, operator), members := [] }

/-- The set of a bracket that is closed. -/
def close (bracket : OpenBracket) : CharSet :=
  if bracket.negated then .compl bracket.soFar else bracket.soFar

/-- Read what has a meaning of its own right after an opening bracket: the caret,
then hyphens, or else a closing bracket as a member. -/
def read (s : List Char) : OpenBracket × List Char :=
  let negated := s.head? == some '^'
  let s := if negated then s.tail else s
  match s with
  | ']' :: rest => (⟨negated, none, [.oneOf [']']]⟩, rest)
  | _ =>
      (⟨negated, none, (s.takeWhile (· == '-')).map fun c => .oneOf [c]⟩,
        s.dropWhile (· == '-'))

end OpenBracket

/-- Read on inside the bracket `bracket`, which stands in the brackets `outer`. -/
def readBracket? (bracket : OpenBracket) (outer : List OpenBracket) (s : List Char) :
    Option (CharSet × List Char) :=
  match s with
  | [] => none
  | ']' :: rest =>
      match outer with
      | [] => some (bracket.close, rest)
      | next :: others => readBracket? (next.add bracket.close) others rest
  | '&' :: '&' :: rest => readBracket? (bracket.operate .inter) outer rest
  | '-' :: '-' :: rest => readBracket? (bracket.operate .diff) outer rest
  | '~' :: '~' :: rest => readBracket? (bracket.operate .symmDiff) outer rest
  | '[' :: rest =>
      match readNamedSet? rest with
      | some (set, more) =>
          if more.length ≤ rest.length then readBracket? (bracket.add set) outer more else none
      | none =>
          match OpenBracket.read rest with
          | (inner, more) =>
              if more.length ≤ rest.length then readBracket? inner (bracket :: outer) more
              else none
  | c :: rest =>
      match readRange? (c :: rest) with
      | some (set, more) =>
          if more.length ≤ rest.length then readBracket? (bracket.add set) outer more else none
      | none => none
termination_by s.length
decreasing_by all_goals (simp only [List.length_cons]; omega)

end Triptych.Regex
