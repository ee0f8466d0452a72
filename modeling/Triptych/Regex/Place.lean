import Triptych.Text.Offset

/-!
# Places in a text

A place lies between two characters of a text, or at one of its ends.  It knows
the text on both sides, so what is looked for there can depend on what stands
before.  Moving on never changes the text.
-/

namespace Triptych

open Text

/-- A place in a text. -/
structure Place where
  /-- The characters before the place, nearest first. -/
  before : List Char
  /-- The characters after the place, nearest first. -/
  after : List Char
  /-- How many characters come after, kept to be read at once. -/
  left : Nat
  left_eq : left = after.length
  deriving DecidableEq

namespace Place

/-- The place at the start of a text. -/
def start (s : List Char) : Place := ⟨[], s, s.length, rfl⟩

/-- The text that the place is in. -/
def text (p : Place) : List Char := p.before.reverse ++ p.after

/-- The offset of the place in bytes. -/
def offset (p : Place) : Nat := byteSize p.before

/-- The next character and the place after it; nothing at the end. -/
def next? (p : Place) : Option (Char × Place) :=
  match h : p.after with
  | [] => none
  | c :: rest => some (c, ⟨c :: p.before, rest, p.left - 1, by rw [p.left_eq, h]; simp⟩)

/-- The end of the text. -/
def finish (p : Place) : Place := ⟨p.after.reverse ++ p.before, [], 0, rfl⟩

/-- At the end of the text. -/
def atEnd (p : Place) : Bool := p.left == 0

/-- A place is past another if fewer characters are left. -/
def isPast (q p : Place) : Bool := q.left < p.left

theorem left_of_next? {p q : Place} {c : Char} (h : p.next? = some (c, q)) :
    q.left < p.left := by
  obtain ⟨before, after, left, left_eq⟩ := p
  cases after with
  | nil => simp [next?] at h
  | cons d rest =>
      simp only [next?, Option.some.injEq, Prod.mk.injEq] at h
      obtain ⟨-, rfl⟩ := h
      simp only [left_eq, List.length_cons]
      omega

/-- The first place, from a place on, whose offset is at least `n` bytes further. -/
def skip (p : Place) (n : Nat) : Place :=
  if n = 0 then p
  else
    match _h : p.next? with
    | none => p
    | some (c, q) => skip q (n - c.utf8Size)
termination_by p.left
decreasing_by exact left_of_next? (by assumption)

/-- The first place of a text whose offset is at least `n`; the end if there is none. -/
def ofOffset (s : List Char) (n : Nat) : Place := (start s).skip n

end Place

end Triptych
