import Triptych.Regex.CharSet
import Triptych.Regex.Place

/-!
# Regular expressions

An expression is matched by trying its alternatives in their order and, of a
repetition, one round more before one fewer, or the other way round for a lazy one.
The match that counts is the first one that this finds at the first place that has
any; it need NOT be the longest.

The first round of a repetition may take nothing, and is then the last.  A further
round that takes nothing does NOT count, so that the other alternatives of the round
are tried instead, and there are finitely many ways to match.
-/

namespace Triptych

/-- A condition on a place that takes no character. -/
inductive Anchor where
  | textStart
  | textEnd
  | lineStart
  | lineEnd
  | wordBoundary
  | notWordBoundary
  | wordStart
  | wordEnd
  deriving DecidableEq, Repr

namespace Anchor

/-- A word character stands before the place. -/
def wordBefore (p : Place) : Bool := p.before.head?.any Text.isWord

/-- A word character stands after the place. -/
def wordAfter (p : Place) : Bool := p.after.head?.any Text.isWord

/-- The condition holds at a place. -/
def holds : Anchor → Place → Bool
  | .textStart, p => p.before.isEmpty
  | .textEnd, p => p.after.isEmpty
  | .lineStart, p => p.before.head?.all (· == '\n')
  | .lineEnd, p => p.after.head?.all (· == '\n')
  | .wordBoundary, p => wordBefore p != wordAfter p
  | .notWordBoundary, p => wordBefore p == wordAfter p
  | .wordStart, p => !wordBefore p && wordAfter p
  | .wordEnd, p => wordBefore p && !wordAfter p

end Anchor

/-- A regular expression. -/
inductive Regex where
  | empty
  | char (set : CharSet)
  | anchor (condition : Anchor)
  | seq (r s : Regex)
  | alt (r s : Regex)
  /-- One round or more. -/
  | plus (greedy : Bool) (r : Regex)
  deriving DecidableEq, Repr

namespace Regex

/-- Try `next` on the ends of any number of further rounds of `body`, in the order of
preference, until it gives something.  Each of these rounds takes something. -/
def firstFurther? {α : Type} (greedy : Bool)
    (body : Place → (Place → Option α) → Option α) (p : Place) (next : Place → Option α) :
    Option α :=
  if greedy then
    match body p fun q => if q.left < p.left then firstFurther? greedy body q next else none with
    | some result => some result
    | none => next p
  else
    match next p with
    | some result => some result
    | none =>
        body p fun q => if q.left < p.left then firstFurther? greedy body q next else none
termination_by p.left

/-- Try `next` on the ends of the matches at a place, in the order of preference,
until it gives something. -/
def first? {α : Type} : Regex → Place → (Place → Option α) → Option α
  | .empty, p, next => next p
  | .char set, p, next =>
      match p.next? with
      | some (c, q) => if set.contains c then next q else none
      | none => none
  | .anchor condition, p, next => if condition.holds p then next p else none
  | .seq r s, p, next => r.first? p fun q => s.first? q next
  | .alt r s, p, next =>
      match r.first? p next with
      | some result => some result
      | none => s.first? p next
  | .plus greedy r, p, next =>
      r.first? p fun q =>
        if q.left < p.left then firstFurther? greedy (fun q more => r.first? q more) q next
        else next q

/-- The end of the preferred match at a place. -/
def matchAt? (r : Regex) (p : Place) : Option Place := r.first? p some

/-- The end of the preferred match at a place, if that match takes something. -/
def takesAt? (r : Regex) (p : Place) : Option Place := (r.matchAt? p).filter (·.isPast p)

/-- The first match from a place on: where it starts and where it ends. -/
def find? (r : Regex) (p : Place) : Option (Place × Place) :=
  match r.matchAt? p with
  | some q => some (p, q)
  | none =>
      match _h : p.next? with
      | some (_, p') => find? r p'
      | none => none
termination_by p.left
decreasing_by exact Place.left_of_next? (by assumption)

/-- The first match from a place on, if that match takes something.  A search from
the end of the text finds nothing, and neither does one whose first match is empty. -/
def findNonempty? (r : Regex) (p : Place) : Option (Place × Place) :=
  if p.atEnd then none else (r.find? p).filter fun (start, stop) => stop.isPast start

/-! ## Repetition -/

/-- Exactly `n` rounds. -/
def times (r : Regex) : Nat → Regex
  | 0 => .empty
  | 1 => r
  | n + 2 => .seq r (times r (n + 1))

/-- One round or none. -/
def optional (greedy : Bool) (r : Regex) : Regex :=
  if greedy then .alt r .empty else .alt .empty r

/-- Any number of rounds. -/
def star (greedy : Bool) (r : Regex) : Regex := optional greedy (.plus greedy r)

/-- At most `n` rounds. -/
def atMost (greedy : Bool) (r : Regex) : Nat → Regex
  | 0 => .empty
  | 1 => optional greedy r
  | n + 2 => optional greedy (.seq r (atMost greedy r (n + 1)))

/-- At least `n` rounds. -/
def atLeast (greedy : Bool) (r : Regex) : Nat → Regex
  | 0 => star greedy r
  | 1 => .plus greedy r
  | n + 2 => .seq (r.times (n + 1)) (.plus greedy r)

/-- At least `low` rounds and at most `high`. -/
def between (greedy : Bool) (r : Regex) (low high : Nat) : Regex :=
  if low = 0 then r.atMost greedy high
  else if high ≤ low then r.times low
  else .seq (r.times low) (r.atMost greedy (high - low))

end Regex

end Triptych
