import Triptych.Text.Case
import Triptych.Text.Digits

/-!
# Hexadecimal digits in lower case

A text in lower case holds no capital letter of the Latin alphabet, whichever letters it
was made from.  So there is one way to write a hexadecimal digit in it, and
`hexDigit?` is the inverse of `Nat.digitChar` there.
-/

namespace Triptych.Text

/-- The code point of a character lies in `low … high`. -/
theorem char_between_iff {low high c : Char} :
    low ≤ c ∧ c ≤ high ↔ low.toNat ≤ c.toNat ∧ c.toNat ≤ high.toNat := by
  simp only [Char.le_def, UInt32.le_iff_toNat_le, Char.toNat]

/-- A Latin capital letter. -/
def isLatinCapital (c : Char) : Bool := 0x41 ≤ c.toNat && c.toNat ≤ 0x5A

/-! ## Lower case -/

theorem CaseRun.le_of_covers {run : CaseRun} {n : Nat} (h : run.covers n = true) :
    run.first ≤ n ∧ n ≤ run.last := by
  unfold CaseRun.covers at h
  simp only [Bool.and_eq_true, decide_eq_true_eq] at h
  exact h.1

/-- A number that is no code point makes the character zero. -/
theorem toNat_ofNat_eq_or (n : Nat) : (Char.ofNat n).toNat = n ∨ (Char.ofNat n).toNat = 0 := by
  unfold Char.ofNat
  by_cases h : n.isValidChar
  · rw [dif_pos h]
    exact Or.inl rfl
  · rw [dif_neg h]
    exact Or.inr rfl

/-- No run for lower case leads to a capital letter, and one of them leads away from each. -/
theorem not_isLatinCapital_moveBy (c : Char) : isLatinCapital (moveBy lowerRuns c) = false := by
  have hruns : (lowerRuns.all fun run =>
      0x5A < (run.first : Int) + run.shift || (run.last : Int) + run.shift < 0x41) = true := by
    decide +kernel
  have hcapitals : ⟨0x41, 0x5A, 1, 32⟩ ∈ lowerRuns := by
    unfold lowerRuns
    exact List.mem_cons_self
  unfold moveBy
  split
  · next run hfound =>
      have hcovers : run.covers c.toNat = true := by simpa using List.find?_some hfound
      obtain ⟨hfirst, hlast⟩ := CaseRun.le_of_covers hcovers
      have hrun := List.all_eq_true.mp hruns run (List.mem_of_find?_eq_some hfound)
      have hpoint := toNat_ofNat_eq_or (run.image c.toNat)
      simp only [Bool.or_eq_true, decide_eq_true_eq] at hrun
      simp only [isLatinCapital, Bool.and_eq_false_iff, decide_eq_false_iff_not]
      unfold CaseRun.image at hpoint ⊢
      omega
  · next hnone =>
      have huncovered := List.find?_eq_none.mp hnone _ hcapitals
      simp only [CaseRun.covers, Nat.mod_one, Bool.and_eq_true, decide_eq_true_eq, beq_self_eq_true,
        and_true] at huncovered
      simp only [isLatinCapital, Bool.and_eq_false_iff, decide_eq_false_iff_not]
      omega

theorem not_isLatinCapital_of_mem_lowercase {s : List Char} {c : Char} (h : c ∈ lowercase s) :
    isLatinCapital c = false := by
  obtain ⟨d, -, hc⟩ := List.mem_flatMap.mp h
  unfold lowerChar at hc
  split at hc
  · have hdotted : (['i', '\u0307'].all fun e => !isLatinCapital e) = true := by decide
    simpa using List.all_eq_true.mp hdotted c hc
  · rw [List.mem_singleton.mp hc]
    exact not_isLatinCapital_moveBy d

/-! ## Digits -/

theorem toNat_digitChar {n : Nat} (hn : n < 16) :
    (Nat.digitChar n).toNat = if n < 10 then 0x30 + n else 0x57 + n := by
  have h : ∀ n < 16, (Nat.digitChar n).toNat = if n < 10 then 0x30 + n else 0x57 + n := by decide
  exact h n hn

theorem hexDigit?_digitChar {n : Nat} (hn : n < 16) : hexDigit? (Nat.digitChar n) = some n := by
  have h : ∀ n < 16, hexDigit? (Nat.digitChar n) = some n := by decide
  exact h n hn

/-- A digit is read as it is written. -/
theorem hexDigit?_eq_some_iff {c : Char} (hc : isLatinCapital c = false) {n : Nat} :
    hexDigit? c = some n ↔ n < 16 ∧ c = Nat.digitChar n := by
  constructor
  · intro h
    have hpoint : n < 16 ∧ c.toNat = if n < 10 then 0x30 + n else 0x57 + n := by
      simp only [isLatinCapital, Bool.and_eq_false_iff, decide_eq_false_iff_not] at hc
      simp only [hexDigit?, char_between_iff, Char.reduceToNat] at h
      grind
    exact ⟨hpoint.1, Char.toNat_inj.mp (hpoint.2.trans (toNat_digitChar hpoint.1).symm)⟩
  · rintro ⟨hn, rfl⟩
    exact hexDigit?_digitChar hn

/-- Digits are below sixteen, and they are ASCII characters. -/
theorem bounds_of_hexDigit? {c : Char} {n : Nat} (h : hexDigit? c = some n) :
    n < 16 ∧ c.toNat < 0x80 := by
  simp only [hexDigit?, char_between_iff, Char.reduceToNat] at h
  grind

theorem digit?_sixteen (c : Char) : digit? 16 c = hexDigit? c := by
  unfold digit?
  cases h : hexDigit? c with
  | none => rfl
  | some n => simp [Option.filter, (bounds_of_hexDigit? h).1]

end Triptych.Text
