import Triptych.Proofs.Regex.Searching

/-!
# Which characters a match may hold

How an expression is written tells which characters may begin one of its matches, and which may
stand behind the first.  Where it says that a character may not, no match has it there.  Where
it says that one may, there need NOT be such a match: conditions are taken to hold, and of a
repetition any round may be followed by any other.
-/

namespace Triptych

namespace Regex

/-- A match may begin with the character. -/
def mayBegin : Regex → Char → Bool
  | .empty, _ | .anchor _, _ => false
  | .char set, c => set.contains c
  | .seq r s, c => r.mayBegin c || r.nullable && s.mayBegin c
  | .alt r s, c => r.mayBegin c || s.mayBegin c
  | .plus _ r, c => r.mayBegin c

/-- Only a nullable expression has an empty match. -/
theorem nullable_of_mem_self {r : Regex} {p : Place} (h : p ∈ r.ends p) : r.nullable = true := by
  cases hr : r.nullable with
  | true => rfl
  | false => exact absurd (left_lt_of_not_nullable hr h) (Nat.lt_irrefl _)

section Characters

variable {r : Regex} {p q : Place} {c d : Char} {xs : List Char}

/-- What a match reads begins with a character that may begin one. -/
theorem mayBegin_of_reads (h : q ∈ r.ends p) (hread : p.Reads (c :: xs) q) :
    r.mayBegin c = true := by
  induction r generalizing p q xs with
  | empty =>
      rw [mem_ends_empty.mp h] at hread
      exact absurd hread Place.not_reads_cons_self
  | char set =>
      obtain ⟨e, he, hread'⟩ := mem_ends_char.mp h
      obtain ⟨rfl, -⟩ := List.cons.inj (hread.unique hread')
      exact he
  | anchor condition =>
      rw [(mem_ends_anchor.mp h).2] at hread
      exact absurd hread Place.not_reads_cons_self
  | seq r s ihr ihs =>
      obtain ⟨m, hfirst, hsecond⟩ := mem_ends_seq.mp h
      obtain ⟨ys, hys⟩ := exists_reads_of_mem_ends hfirst
      obtain ⟨zs, hzs⟩ := exists_reads_of_mem_ends hsecond
      have hsplit := hread.unique (hys.trans hzs)
      cases ys with
      | nil =>
          -- the first part matches the empty text here, so the second begins the match
          obtain rfl := Place.reads_nil.mp hys
          rw [List.nil_append] at hsplit
          rw [← hsplit] at hzs
          simp [mayBegin, nullable_of_mem_self hfirst, ihs hsecond hzs]
      | cons e ys =>
          obtain ⟨rfl, -⟩ := List.cons.inj hsplit
          simp [mayBegin, ihr hfirst hys]
  | alt r s ihr ihs =>
      obtain hfirst | hsecond := mem_ends_alt.mp h
      · simp [mayBegin, ihr hfirst hread]
      · simp [mayBegin, ihs hsecond hread]
  | plus greedy r ih =>
      obtain ⟨m, hfirst, hrest⟩ := mem_ends_plus.mp h
      obtain ⟨ys, hys⟩ := exists_reads_of_mem_ends hfirst
      cases ys with
      | nil =>
          -- an empty first round is the only one
          obtain rfl := Place.reads_nil.mp hys
          rw [if_neg (Nat.lt_irrefl _)] at hrest
          rw [hrest] at hread
          exact absurd hread Place.not_reads_cons_self
      | cons e ys =>
          have hafter : c :: (xs ++ q.after) = e :: (ys ++ m.after) :=
            hread.1.symm.trans hys.1
          obtain ⟨rfl, -⟩ := List.cons.inj hafter
          exact ih hfirst hys

/-- An expression takes nothing where a character stands that may not begin a match. -/
theorem not_takes_of_mayBegin (hbegin : r.mayBegin c = false) (hafter : p.after = c :: xs) :
    ¬ r.Takes p q := by
  intro htakes
  obtain ⟨ys, hys, hread⟩ := htakes.precedes
  obtain ⟨e, ys, rfl⟩ := List.exists_cons_of_ne_nil hys
  obtain ⟨rfl, -⟩ := List.cons.inj (hafter.symm.trans hread.1)
  simp [mayBegin_of_reads htakes.mem_ends hread] at hbegin

end Characters

end Regex

end Triptych
