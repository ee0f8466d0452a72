import Triptych.Proofs.Regex.Taking

/-!
# Expressions for one text

An expression that matches one text and no other takes that text wherever it stands.  A search
finds the first place where it does, and finds nothing only if the text stands nowhere ahead.

A text that overlaps itself may stand at further places, which a search that goes on BEHIND
what it has found does not come to.
-/

namespace Triptych

namespace Regex

/-- The expression matches a text, and nothing else. -/
def Spells (r : Regex) (xs : List Char) : Prop := ∀ p q, q ∈ r.ends p ↔ p.Reads xs q

/-- What a text stands for in the notation of patterns, if its characters stand for themselves. -/
def spelled : List Char → Regex
  | [] => .empty
  | [c] => .char (.oneOf [c])
  | c :: d :: rest => .seq (.char (.oneOf [c])) (spelled (d :: rest))

theorem spells_char (c : Char) : (Regex.char (.oneOf [c])).Spells [c] := by
  intro p q
  rw [mem_ends_char]
  constructor
  · rintro ⟨e, he, hread⟩
    obtain rfl : e = c := by simpa [CharSet.contains] using he
    exact hread
  · intro hread
    exact ⟨c, by simp [CharSet.contains], hread⟩

theorem Spells.seq {r s : Regex} {xs ys : List Char} (h : r.Spells xs) (h' : s.Spells ys) :
    (Regex.seq r s).Spells (xs ++ ys) := by
  intro p q
  rw [mem_ends_seq, Place.reads_append]
  exact exists_congr fun m => and_congr (h p m) (h' m q)

theorem spells_spelled (xs : List Char) : (spelled xs).Spells xs := by
  match xs with
  | [] =>
      intro p q
      rw [spelled, mem_ends_empty, Place.reads_nil]
  | [c] => exact spells_char c
  | c :: d :: rest => exact (spells_char c).seq (spells_spelled (d :: rest))

section Spells

variable {r : Regex} {xs : List Char} (h : r.Spells xs)

include h

theorem Spells.takes_iff (hxs : xs ≠ []) {p q : Place} : r.Takes p q ↔ p.Reads xs q := by
  constructor
  · intro htakes
    exact (h p q).mp htakes.mem_ends
  · intro hread
    have hmem := (h p q).mpr hread
    have hsome : (r.ends p).head? ≠ none := mt List.head?_eq_none_iff.mp (List.ne_nil_of_mem hmem)
    obtain ⟨first, hfirst⟩ := Option.ne_none_iff_exists'.mp hsome
    have hsame : first = q :=
      ((h p first).mp (List.mem_of_head? hfirst)).eq_of_length_eq hread rfl
    exact ⟨hsame ▸ hfirst, hread.left_lt hxs⟩

/-- The expression has a match wherever its text stands, and only there. -/
theorem Spells.ends_eq_nil_iff {p : Place} : r.ends p = [] ↔ ¬ xs <+: p.after := by
  rw [List.eq_nil_iff_forall_not_mem]
  constructor
  · rintro hnone ⟨rest, hrest⟩
    obtain ⟨q, hread, -⟩ := Place.exists_reads hrest.symm
    exact hnone q ((h p q).mpr hread)
  · intro hnot q hmem
    exact hnot ⟨q.after, ((h p q).mp hmem).1.symm⟩

/-- Every match takes something, so every search counts. -/
theorem Spells.findNonempty?_eq_find? (hxs : xs ≠ []) (p : Place) :
    r.findNonempty? p = r.find? p := by
  unfold findNonempty?
  split
  · next hend =>
      have hafter := Place.atEnd_iff.mp hend
      have hnone : r.ends p = [] := by
        rw [h.ends_eq_nil_iff, hafter, List.prefix_nil]
        exact hxs
      exact (find?_of_end hnone (Place.next?_eq_none_iff.mpr hafter)).symm
  · cases hfound : r.find? p with
    | none => rfl
    | some found =>
        obtain ⟨-, -, hstop, -⟩ := exists_reads_of_find?_eq_some hfound
        rw [Option.filter_some]
        exact if_pos (decide_eq_true (((h _ _).mp hstop).left_lt hxs))

/-- A search finds nothing only if the text stands nowhere ahead. -/
theorem Spells.ne_of_findNonempty?_eq_none (hxs : xs ≠ []) {p : Place}
    (hnone : r.findNonempty? p = none) (front back : List Char) :
    p.after ≠ front ++ (xs ++ back) := by
  intro hafter
  rw [h.findNonempty?_eq_find? hxs] at hnone
  obtain ⟨q, hread, hq⟩ := Place.exists_reads hafter
  refine h.ends_eq_nil_iff.mp (ends_eq_nil_of_find?_eq_none hnone hread) ?_
  rw [hq]
  exact List.prefix_append xs back

/-- A search finds the first place where the text stands. -/
theorem Spells.exists_of_findNonempty?_eq_some (hxs : xs ≠ []) {p start stop : Place}
    (hfound : r.findNonempty? p = some (start, stop)) :
    ∃ front back, p.after = front ++ (xs ++ back) ∧ p.Reads front start ∧ start.Reads xs stop ∧
      ∀ earlier later, p.after = earlier ++ (xs ++ later) → front.length ≤ earlier.length := by
  rw [h.findNonempty?_eq_find? hxs] at hfound
  obtain ⟨front, hread, hstop, hbefore⟩ := exists_reads_of_find?_eq_some hfound
  have htakes := (h start stop).mp hstop
  refine ⟨front, stop.after, by rw [hread.1, htakes.1], hread, htakes, ?_⟩
  intro earlier later hafter
  refine Nat.le_of_not_lt fun hlt => ?_
  obtain ⟨q, hread', hq⟩ := Place.exists_reads hafter
  refine h.ends_eq_nil_iff.mp (hbefore earlier q hread' hlt) ?_
  rw [hq]
  exact List.prefix_append xs later

end Spells

end Regex

end Triptych
