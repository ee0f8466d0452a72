import Triptych.Regex.Bracket

/-!
# Reading patterns

`Regex.parse?` reads a pattern, or gives nothing if it is not well formed: a
parenthesis or bracket without its partner, a repetition of nothing, an unknown
escape, a range or count whose ends are the wrong way round.  Flags hold to the
end of the group they stand in, across its alternatives.

Patterns whose counts unfold past `sizeLimit` parts are refused.
-/

namespace Triptych.Regex

/-- The number of parts of an expression. -/
def size : Regex → Nat
  | .empty | .char _ | .anchor _ => 1
  | .seq r s | .alt r s => r.size + s.size + 1
  | .plus _ r => r.size + 1

/-- How many parts the rounds of one counted repetition may have together. -/
def sizeLimit : Nat := 0x40000

/-- A group that is open: the flags outside it, the alternatives that are complete
and the parts of the last one, latest first.  A part that only sets flags is kept
as a place that no repetition can follow. -/
structure OpenGroup where
  outerFlags : Flags
  alternatives : List Regex
  parts : List (Option Regex)

namespace OpenGroup

/-- The last alternative. -/
def sequence (group : OpenGroup) : Regex :=
  match group.parts.filterMap id with
  | [] => .empty
  | last :: others => others.foldl (fun whole part => .seq part whole) last

/-- All alternatives. -/
def close (group : OpenGroup) : Regex :=
  group.alternatives.foldl (fun whole part => .alt part whole) group.sequence

/-- One part more. -/
def add (group : OpenGroup) (part : Option Regex) : OpenGroup :=
  { group with parts := part :: group.parts }

/-- Begin the next alternative. -/
def split (group : OpenGroup) : OpenGroup :=
  { group with alternatives := group.sequence :: group.alternatives, parts := [] }

/-- Repeat the last part. -/
def repeat? (group : OpenGroup) (low : Nat) (high : Option Nat) (greedy : Bool) :
    Option OpenGroup :=
  match group.parts with
  | some r :: others =>
      if r.size * (high.getD low) ≤ sizeLimit then
        let repeated := match high with
          | none => r.atLeast greedy low
          | some high => r.between greedy low high
        some { group with parts := some repeated :: others }
      else none
  | _ => none

end OpenGroup

/-- What has been read of a pattern. -/
structure Reading where
  flags : Flags
  group : OpenGroup
  outer : List OpenGroup
  names : List (List Char)

namespace Reading

/-- Nothing has been read. -/
def start : Reading := ⟨{}, ⟨{}, [], []⟩, [], []⟩

/-- One part more in the innermost group. -/
def add (reading : Reading) (part : Regex) : Reading :=
  { reading with group := reading.group.add (some part) }

/-- One character of a set more, up to case if case makes no difference. -/
def addSet (reading : Reading) (set : CharSet) : Reading :=
  reading.add (.char (if reading.flags.ignoreCase then set.ignoringCase else set))

/-- The next alternative of the innermost group. -/
def split (reading : Reading) : Reading := { reading with group := reading.group.split }

/-- Begin a group or set flags.  Two groups with one name are refused. -/
def enter? (reading : Reading) : GroupHead → Option Reading
  | .directive flags =>
      some { reading with flags := flags, group := reading.group.add none }
  | .group name flags =>
      if name.any reading.names.contains then none
      else some {
        flags := flags
        group := ⟨reading.flags, [], []⟩
        outer := reading.group :: reading.outer
        names := name.toList ++ reading.names }

/-- End the innermost group. -/
def leave? (reading : Reading) : Option Reading :=
  match reading.outer with
  | [] => none
  | next :: others => some {
      reading with
      flags := reading.group.outerFlags
      group := next.add (some reading.group.close)
      outer := others }

/-- Repeat the last part.  A question mark after the count turns greed round. -/
def repeat? (reading : Reading) (low : Nat) (high : Option Nat) (turned : Bool) :
    Option Reading :=
  (reading.group.repeat? low high (reading.flags.lazyFirst == turned)).map fun group =>
    { reading with group := group }

/-- The whole pattern, if no group is open. -/
def finish? (reading : Reading) : Option Regex :=
  if reading.outer.isEmpty then some reading.group.close else none

/-- The part that an escape stands for. -/
def addEscape (reading : Reading) : Escape → Reading
  | .literal c => reading.addSet (.oneOf [c])
  | .set members => reading.addSet members
  | .anchor condition => reading.add (.anchor condition)

/-- The part that a character stands for that is neither opening nor repeating. -/
def addChar (reading : Reading) (c : Char) : Reading :=
  match c with
  | '.' => reading.add (.char (if reading.flags.dotAll then .all else .notLineFeed))
  | '^' => reading.add (.anchor (if reading.flags.multiLine then .lineStart else .textStart))
  | '$' => reading.add (.anchor (if reading.flags.multiLine then .lineEnd else .textEnd))
  | c => reading.addSet (.oneOf [c])

end Reading

/-- Read a repetition sign: its bounds, whether it is turned round, and the rest. -/
def readRepetition? (s : List Char) : Option ((Nat × Option Nat) × Bool × List Char) :=
  let bounds := match s with
    | '*' :: rest => some ((0, none), rest)
    | '+' :: rest => some ((1, none), rest)
    | '?' :: rest => some ((0, some 1), rest)
    | '{' :: rest => readBounds? rest
    | _ => none
  bounds.map fun (range, rest) =>
    match rest with
    | '?' :: more => (range, true, more)
    | _ => (range, false, rest)

/-- The characters that begin a repetition sign. -/
def isRepetition (c : Char) : Bool := c == '*' || c == '+' || c == '?' || c == '{'

/-- One step of reading: what a pattern has at its front, and the rest of it. -/
def readPart? (reading : Reading) (s : List Char) : Option (Reading × List Char) :=
  match s with
  | [] => none
  | '(' :: rest => do
      let (head, more) ← readGroupHead? reading.flags rest
      return (← reading.enter? head, more)
  | ')' :: rest => reading.leave?.map (·, rest)
  | '|' :: rest => some (reading.split, rest)
  | '[' :: rest => do
      let inner := OpenBracket.read rest
      let (set, more) ← readBracket? inner.1 [] inner.2
      return (reading.addSet set, more)
  | '\\' :: rest => do
      let (escape, more) ← readEscape? rest
      return (reading.addEscape escape, more)
  | c :: rest =>
      if isRepetition c then do
        let ((low, high), turned, more) ← readRepetition? s
        return (← reading.repeat? low high turned, more)
      else some (reading.addChar c, rest)

/-- Read a pattern to its end.  Each step leaves less to be read. -/
def readAll? (reading : Reading) (s : List Char) : Option Regex :=
  if s.isEmpty then reading.finish?
  else
    match readPart? reading s with
    | some (next, rest) => if rest.length < s.length then readAll? next rest else none
    | none => none
termination_by s.length

/-- The expression that a pattern stands for; nothing if it is not well formed. -/
def parse? (pattern : List Char) : Option Regex := readAll? Reading.start pattern

end Triptych.Regex
