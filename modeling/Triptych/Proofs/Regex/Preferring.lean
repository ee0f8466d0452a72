import Triptych.Proofs.Regex.Taking

/-!
# Which match is preferred

Of a match that is preferred each part is preferred in turn, as long as there is no need to go
back: a sequence goes through the preferred end of its first part if the second part matches
there, and a greedy repetition goes on until no round matches.

Where a later part fails, an EARLIER choice is made anew.  Such matches are not described here.
-/

namespace Triptych

namespace Regex

variable {r s : Regex} {p m q : Place} {set : CharSet} {c : Char}

/-- The preferred match at `p` ends at `q`. -/
def Prefers (r : Regex) (p q : Place) : Prop := (r.ends p).head? = some q

theorem Prefers.takes (h : r.Prefers p q) (hlt : q.left < p.left) : r.Takes p q := ⟨h, hlt⟩

/-! ## One character -/

theorem prefers_char (hc : set.contains c = true) (hread : p.Reads [c] q) :
    (Regex.char set).Prefers p q := by
  unfold Prefers ends
  rw [Place.next?_eq_some_iff.mpr hread]
  simp [hc]

/-- A set does not match at the end of the text, nor where a character stands that it does not
hold. -/
theorem ends_char_eq_nil (h : ∀ c rest, p.after = c :: rest → set.contains c = false) :
    (Regex.char set).ends p = [] := by
  rw [List.eq_nil_iff_forall_not_mem]
  intro q hmem
  obtain ⟨c, hc, hread⟩ := mem_ends_char.mp hmem
  simp [h c q.after hread.1] at hc

/-! ## Sequences and alternatives -/

theorem Prefers.seq (h : r.Prefers p m) (h' : s.Prefers m q) : (Regex.seq r s).Prefers p q := by
  unfold Prefers at *
  obtain ⟨others, hothers⟩ := List.head?_eq_some_iff.mp h
  rw [ends, hothers, List.flatMap_cons, List.head?_append, h']
  rfl

theorem Prefers.alt_left (h : r.Prefers p q) : (Regex.alt r s).Prefers p q := by
  unfold Prefers at *
  rw [ends, List.head?_append, h]
  rfl

theorem Prefers.alt_right (hr : r.ends p = []) (h : s.Prefers p q) :
    (Regex.alt r s).Prefers p q := by
  unfold Prefers at *
  rw [ends, hr, List.nil_append, h]

theorem prefers_empty (p : Place) : Regex.empty.Prefers p p := by
  unfold Prefers ends
  rfl

theorem Prefers.optional (h : r.Prefers p q) : (r.optional true).Prefers p q := h.alt_left

theorem prefers_optional_of_ends_eq_nil (h : r.ends p = []) : (r.optional true).Prefers p p :=
  .alt_right h (prefers_empty p)

/-! ## Repetitions -/

/-- Rounds follow each other, each one the preferred match where it begins, until there is no
match. -/
inductive Exhausts (r : Regex) : Place → Place → Prop where
  | done {p : Place} (hnone : r.ends p = []) : Exhausts r p p
  | more {p m q : Place} (hround : r.Takes p m) (hrest : Exhausts r m q) : Exhausts r p q

theorem Exhausts.head?_furtherEnds (h : r.Exhausts p q) :
    (furtherEnds true r.ends p).head? = some q := by
  induction h with
  | done hnone =>
      rw [furtherEnds, hnone]
      rfl
  | more hround hrest ih =>
      obtain ⟨others, hothers⟩ := List.head?_eq_some_iff.mp hround.1
      rw [furtherEnds, hothers]
      rw [if_pos rfl, List.flatMap_cons, if_pos hround.2, List.append_assoc, List.head?_append, ih]
      rfl

/-- A greedy repetition prefers to go on until no round matches. -/
theorem Exhausts.prefers_star (h : r.Exhausts p q) : (r.star true).Prefers p q := by
  cases h with
  | done hnone =>
      refine prefers_optional_of_ends_eq_nil ?_
      rw [ends, hnone, List.flatMap_nil]
  | more hround hrest =>
      refine Prefers.optional ?_
      obtain ⟨others, hothers⟩ := List.head?_eq_some_iff.mp hround.1
      unfold Prefers
      rw [ends, hothers, List.flatMap_cons, if_pos hround.2, List.head?_append,
        hrest.head?_furtherEnds]
      rfl

end Regex

end Triptych
