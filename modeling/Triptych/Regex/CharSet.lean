import Triptych.Text.Blank
import Triptych.Text.Case
import Triptych.Text.Word

/-!
# Sets of characters

The sets that a pattern can name: single characters, ranges, the classes of word
characters, digits and blanks, and what union, intersection and complement make
of them.  Ignoring case is done at the leaves, so it comes BEFORE a complement.
-/

namespace Triptych

open Text

/-- A set of characters, as a pattern writes it. -/
inductive CharSet where
  | oneOf (members : List Char)
  | range (first last : Char)
  | foldedRange (first last : Char)
  | word
  | digit
  | blank
  | union (a b : CharSet)
  | inter (a b : CharSet)
  | compl (a : CharSet)
  deriving DecidableEq, Repr

namespace CharSet

/-- Membership.  A folded range holds each character with a case form in the range. -/
def contains : CharSet → Char → Bool
  | .oneOf members, c => members.elem c
  | .range first last, c => first.toNat ≤ c.toNat && c.toNat ≤ last.toNat
  | .foldedRange first last, c =>
      (caseForms c).any fun d => first.toNat ≤ d.toNat && d.toNat ≤ last.toNat
  | .word, c => isWord c
  | .digit, c => isDigit c
  | .blank, c => isBlank c
  | .union a b, c => a.contains c || b.contains c
  | .inter a b, c => a.contains c && b.contains c
  | .compl a, c => !a.contains c

/-- The set without its differences of case. -/
def ignoringCase : CharSet → CharSet
  | .oneOf members => .oneOf (members.flatMap caseForms)
  | .range first last => .foldedRange first last
  | .union a b => .union a.ignoringCase b.ignoringCase
  | .inter a b => .inter a.ignoringCase b.ignoringCase
  | .compl a => .compl a.ignoringCase
  | leaf => leaf

/-- The set of no character. -/
def empty : CharSet := .oneOf []

/-- The set of all characters. -/
def all : CharSet := .compl empty

/-- All characters but the line feed. -/
def notLineFeed : CharSet := .compl (.oneOf ['\n'])

/-- The characters of `a` that are not in `b`. -/
def diff (a b : CharSet) : CharSet := .inter a (.compl b)

/-- The characters in exactly one of the two sets. -/
def symmDiff (a b : CharSet) : CharSet := .union (a.diff b) (b.diff a)

end CharSet

end Triptych
