import Mathlib.Order.Bounds.Basic
import Triptych.Proofs.Text.Offsets

/-!
# Rounding offsets

An offset is rounded up by going on from it, byte by byte, as long as it is no boundary.
`RoundsUp` is this loop without a guard.  It ends at the least boundary that is not before
the offset, and from an offset past the end of the text it does NOT end.

`clamp?` puts bounds on an offset, and fails if they are in the wrong order.
-/

namespace Triptych.Text

/-- The boundaries of a text that are not before an offset. -/
def boundariesFrom (s : List Char) (n : Nat) : Set Nat := {b | isBoundary s b = true ∧ n ≤ b}

/-- Going on from the first offset as long as it is no boundary ends at the second one. -/
inductive RoundsUp (s : List Char) : Nat → Nat → Prop where
  | here {n : Nat} (hn : isBoundary s n = true) : RoundsUp s n n
  | next {n m : Nat} (hn : isBoundary s n = false) (hrest : RoundsUp s (n + 1) m) : RoundsUp s n m

/-- The loop ends at the least boundary. -/
theorem RoundsUp.isLeast {s : List Char} {n m : Nat} (h : RoundsUp s n m) :
    IsLeast (boundariesFrom s n) m := by
  induction h with
  | here hn => exact ⟨⟨hn, Nat.le_refl _⟩, fun b hb => hb.2⟩
  | @next n m hn hrest ih =>
      obtain ⟨⟨hm, hle⟩, hleast⟩ := ih
      refine ⟨⟨hm, by omega⟩, ?_⟩
      rintro b ⟨hb, hnb⟩
      have hne : n ≠ b := by
        rintro rfl
        simp [hn] at hb
      exact hleast ⟨hb, by omega⟩

/-- The loop ends where there is a least boundary. -/
theorem roundsUp_of_isLeast {s : List Char} {n m : Nat} (h : IsLeast (boundariesFrom s n) m) :
    RoundsUp s n m := by
  obtain ⟨⟨hm, hle⟩, hleast⟩ := h
  obtain ⟨k, rfl⟩ := Nat.exists_eq_add_of_le hle
  -- `k` is how far the boundary is ahead
  induction k generalizing n with
  | zero => exact .here hm
  | succ k ih =>
      have hn : isBoundary s n = false := by
        rw [← Bool.not_eq_true]
        intro hn
        have := hleast ⟨hn, Nat.le_refl n⟩
        omega
      have heq : n + (k + 1) = n + 1 + k := by omega
      rw [heq] at hm hleast ⊢
      refine .next hn (ih ?_ hm (by omega))
      rintro b ⟨hb, hnb⟩
      exact hleast ⟨hb, by omega⟩

theorem roundUp_mono {s : List Char} {n m : Nat} (h : n ≤ m) : roundUp s n ≤ roundUp s m := by
  induction s generalizing n m with
  | nil => cases n <;> cases m <;> simp [roundUp]
  | cons c s ih =>
      cases n with
      | zero => simp [roundUp]
      | succ n =>
          obtain ⟨m, rfl⟩ : ∃ k, m = k + 1 := ⟨m - 1, by omega⟩
          have := ih (n := n + 1 - c.utf8Size) (m := m + 1 - c.utf8Size) (by omega)
          simp only [roundUp]
          omega

/-- Rounding up leads to the least boundary that is not before the offset. -/
theorem isLeast_roundUp {s : List Char} {n : Nat} (hn : n ≤ byteSize s) :
    IsLeast (boundariesFrom s n) (roundUp s n) := by
  obtain ⟨front, back, rfl, hround⟩ := exists_roundUp_eq hn
  refine ⟨⟨?_, le_roundUp hn⟩, ?_⟩
  · rw [hround]
    exact isBoundary_append front back
  · rintro b ⟨hb, hnb⟩
    obtain ⟨front', back', hs, rfl⟩ := exists_append_of_isBoundary hb
    calc
      roundUp (front ++ back) n ≤ roundUp (front ++ back) (byteSize front') := roundUp_mono hnb
      _ = byteSize front' := by rw [hs, roundUp_byteSize]

/-- In a text the loop ends where rounding up leads, and nowhere else. -/
theorem roundsUp_iff {s : List Char} {n m : Nat} (hn : n ≤ byteSize s) :
    RoundsUp s n m ↔ m = roundUp s n := by
  have hleast := isLeast_roundUp hn
  constructor
  · intro h
    exact h.isLeast.unique hleast
  · rintro rfl
    exact roundsUp_of_isLeast hleast

/-- Put bounds on an offset; nothing if there is none between them. -/
def clamp? (low high n : Nat) : Option Nat :=
  if low ≤ high then some (max low (min n high)) else none

theorem clamp?_eq {low high : Nat} (h : low ≤ high) (n : Nat) :
    clamp? low high n = some (max low (min n high)) := if_pos h

end Triptych.Text
