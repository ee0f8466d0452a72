import Triptych.Regex.Reader
import Triptych.Token

/-!
# Rules

A pattern gives a class to what it matches.  A construct opens with one pattern
and closes with another, and may stay open over any number of lines; the line
state remembers which construct is open.

A closing that an odd run of the escape character stands before is passed over.
The search goes on behind it, so a closing that overlaps one passed over is NOT
seen.
-/

namespace Triptych

/-- A rule for a token within a line. -/
structure Pattern where
  name : String
  regex : Regex
  kind : TokenClass
  priority : Int32

namespace Pattern

/-- The rule for a written pattern; nothing if the pattern is not well formed. -/
def make? (name : String) (pattern : List Char) (kind : TokenClass) (priority : Int32) :
    Option Pattern :=
  (Regex.parse? pattern).map fun regex => ⟨name, regex, kind, priority⟩

/-- Where the pattern is found from a place on. -/
def find? (rule : Pattern) (p : Place) : Option (Place × Place) := rule.regex.findNonempty? p

/-- The end of what the pattern takes at a place. -/
def takesAt? (rule : Pattern) (p : Place) : Option Place := rule.regex.takesAt? p

end Pattern

/-- A rule for what may run over several lines. -/
structure Construct where
  name : String
  opening : Regex
  closing : Regex
  kind : TokenClass
  /-- The character that takes the meaning from a closing after it. -/
  escape : Option Char
  /-- What the line state holds while the construct is open. -/
  id : UInt8

namespace Construct

/-- The rule for two written patterns; nothing if one is not well formed. -/
def make? (name : String) (opening closing : List Char) (kind : TokenClass) (id : UInt8)
    (escape : Option Char) : Option Construct := do
  return ⟨name, ← Regex.parse? opening, ← Regex.parse? closing, kind, escape, id⟩

/-- Where the construct opens from a place on. -/
def findOpening? (rule : Construct) (p : Place) : Option (Place × Place) :=
  rule.opening.findNonempty? p

/-- The end of the opening at a place. -/
def opensAt? (rule : Construct) (p : Place) : Option Place := rule.opening.takesAt? p

/-- An odd run of the escape character stands before `p`, counted back to `body` at most. -/
def isEscaped (rule : Construct) (body p : Place) : Bool :=
  match rule.escape with
  | some escape =>
      ((p.before.take (body.left - p.left)).takeWhile (· == escape)).length % 2 == 1
  | none => false

/-- The end of the first closing from `p` on that is not escaped, where the inside
of the construct begins at `body`. -/
def findClosingFrom? (rule : Construct) (body p : Place) : Option Place :=
  match rule.closing.findNonempty? p with
  | some (start, stop) =>
      if rule.isEscaped body start then
        if stop.left < p.left then findClosingFrom? rule body stop else none
      else some stop
  | none => none
termination_by p.left

/-- The end of the construct whose inside begins at a place, if it is in this text. -/
def findClosing? (rule : Construct) (body : Place) : Option Place :=
  rule.findClosingFrom? body body

end Construct

/-- Which construct is open at the end of a line. -/
structure LineState where
  /-- The id of the open construct; zero when there is none. -/
  openId : UInt8
  deriving DecidableEq, Repr

namespace LineState

/-- No construct is open. -/
def normal : LineState := ⟨0⟩

/-- The construct with an id is open. -/
def inside (id : UInt8) : LineState := ⟨id⟩

/-- A construct is open. -/
def isInside (state : LineState) : Bool := state.openId != 0

end LineState

end Triptych
