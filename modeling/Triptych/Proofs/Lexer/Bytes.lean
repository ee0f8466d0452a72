import Triptych.Proofs.Lexer.Coverage

/-!
# The bytes of a line and its tokens

Where tokens make up a line, each byte of the line lies in one of them.  Which one is told by
the sizes of the texts before, as the offsets of spans are.

Two tokens may be EQUAL, with the same class and the same text; a byte then lies in one place
only, but in the token that stands at both.
-/

namespace Triptych

open Text

/-- The byte at an offset lies in the token: before it there are fewer bytes, and with it there
are more. -/
def HoldsByte (tokens : List Token) (n : Nat) (token : Token) : Prop :=
  ∃ earlier later, tokens = earlier ++ token :: later ∧
    byteSize (earlier.flatMap Token.text) ≤ n ∧
    n < byteSize (earlier.flatMap Token.text) + byteSize token.text

theorem not_holdsByte_nil (n : Nat) (token : Token) : ¬ HoldsByte [] n token := by
  rintro ⟨earlier, later, htokens, -⟩
  simp at htokens

/-- A byte lies in the first token, or behind it in one of the others. -/
theorem holdsByte_cons_iff {first token : Token} {rest : List Token} {n : Nat} :
    HoldsByte (first :: rest) n token ↔
      (token = first ∧ n < byteSize first.text) ∨
        (byteSize first.text ≤ n ∧ HoldsByte rest (n - byteSize first.text) token) := by
  constructor
  · rintro ⟨earlier, later, htokens, hle, hlt⟩
    cases earlier with
    | nil =>
        obtain ⟨rfl, rfl⟩ := List.cons.inj htokens
        exact Or.inl ⟨rfl, by simpa [byteSize] using hlt⟩
    | cons other earlier =>
        obtain ⟨rfl, rfl⟩ := List.cons.inj htokens
        rw [List.flatMap_cons, byteSize_append] at hle hlt
        exact Or.inr ⟨by omega, earlier, later, rfl, by omega, by omega⟩
  · rintro (⟨rfl, hlt⟩ | ⟨hle, earlier, later, rfl, hle', hlt⟩)
    · exact ⟨[], rest, rfl, by simp [byteSize], by simpa [byteSize] using hlt⟩
    · refine ⟨first :: earlier, later, rfl, ?_, ?_⟩
      · rw [List.flatMap_cons, byteSize_append]
        omega
      · rw [List.flatMap_cons, byteSize_append]
        omega

/-- Each byte of the text of some tokens lies in one of them. -/
theorem exists_holdsByte {tokens : List Token} {n : Nat}
    (h : n < byteSize (tokens.flatMap Token.text)) : ∃ token, HoldsByte tokens n token := by
  induction tokens generalizing n with
  | nil => exact absurd h (Nat.not_lt_zero n)
  | cons first rest ih =>
      by_cases hfirst : n < byteSize first.text
      · exact ⟨first, holdsByte_cons_iff.mpr (Or.inl ⟨rfl, hfirst⟩)⟩
      · rw [List.flatMap_cons, byteSize_append] at h
        obtain ⟨token, hholds⟩ := ih (n := n - byteSize first.text) (by omega)
        exact ⟨token, holdsByte_cons_iff.mpr (Or.inr ⟨by omega, hholds⟩)⟩

theorem Covers.exists_holdsByte {line : List Char} {tokens : List Token} (h : Covers line tokens)
    {n : Nat} (hn : n < byteSize line) : ∃ token, HoldsByte tokens n token :=
  Triptych.exists_holdsByte (h.flatMap_text.symm ▸ hn)

end Triptych
