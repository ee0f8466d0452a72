import Triptych.Proofs.Regex.Taking

/-!
# Searching for what an expression takes

A search looks for the first place with a match and stops there.  What is wanted is the first
place where the expression TAKES something.  The two are the same unless a place with an empty
preferred match comes before: then the search is over, and finds nothing.

An expression that is not nullable has no empty match at all, and a search for it finds what is
wanted.  Whether an expression is nullable is told from how it is written; a nullable one may
still have no empty match, since conditions are taken to hold.
-/

namespace Triptych

namespace Regex

/-! ## Expressions without empty matches -/

/-- The expression can match the empty text, as far as its parts tell. -/
def nullable : Regex → Bool
  | .empty | .anchor _ => true
  | .char _ => false
  | .seq r s => r.nullable && s.nullable
  | .alt r s => r.nullable || s.nullable
  | .plus _ r => r.nullable

theorem left_le_of_mem_ends {r : Regex} {p q : Place} (h : q ∈ r.ends p) : q.left ≤ p.left := by
  obtain ⟨xs, hread⟩ := exists_reads_of_mem_ends h
  rw [hread.left_eq]
  exact Nat.le_add_left _ _

/-- An expression that is not nullable takes something with every match. -/
theorem left_lt_of_not_nullable {r : Regex} (hr : r.nullable = false) {p q : Place}
    (h : q ∈ r.ends p) : q.left < p.left := by
  induction r generalizing p q with
  | empty => cases hr
  | char set => exact left_lt_of_mem_ends_char h
  | anchor condition => cases hr
  | seq r s ihr ihs =>
      obtain ⟨m, hfirst, hsecond⟩ := mem_ends_seq.mp h
      rcases Bool.and_eq_false_iff.mp hr with hr | hs
      · exact Nat.lt_of_le_of_lt (left_le_of_mem_ends hsecond) (ihr hr hfirst)
      · exact Nat.lt_of_lt_of_le (ihs hs hsecond) (left_le_of_mem_ends hfirst)
  | alt r s ihr ihs =>
      obtain ⟨hr, hs⟩ := Bool.or_eq_false_iff.mp hr
      rcases mem_ends_alt.mp h with hfirst | hsecond
      · exact ihr hr hfirst
      · exact ihs hs hsecond
  | plus greedy r ih =>
      obtain ⟨m, hfirst, hrest⟩ := mem_ends_plus.mp h
      have hlt := ih hr hfirst
      rw [if_pos hlt] at hrest
      obtain ⟨xs, hread, -⟩ :=
        exists_reads_forall_of_mem_furtherEnds (fun _ _ => exists_reads_mayHold) hrest
      rw [hread.left_eq] at hlt
      exact Nat.lt_of_le_of_lt (Nat.le_add_left _ _) hlt

/-! ## Empty matches -/

/-- The preferred match at a place is empty. -/
def EmptyAt (r : Regex) (p : Place) : Prop := (r.ends p).head? = some p

/-- Where there is a match, the preferred one is empty or takes something. -/
theorem emptyAt_or_takes {r : Regex} {p : Place} (h : r.ends p ≠ []) :
    r.EmptyAt p ∨ ∃ q, r.Takes p q := by
  obtain ⟨q, hq⟩ := Option.ne_none_iff_exists'.mp (mt List.head?_eq_none_iff.mp h)
  have hmem : q ∈ r.ends p := List.mem_of_head? hq
  obtain ⟨xs, hread⟩ := exists_reads_of_mem_ends hmem
  cases xs with
  | nil =>
      rw [Place.reads_nil.mp hread] at hq
      exact Or.inl hq
  | cons c xs => exact Or.inr ⟨q, hq, hread.left_lt (List.cons_ne_nil c xs)⟩

theorem EmptyAt.not_takes {r : Regex} {p q : Place} (h : r.EmptyAt p) : ¬ r.Takes p q := by
  rintro ⟨hq, hlt⟩
  rw [h, Option.some.injEq] at hq
  rw [hq] at hlt
  exact Nat.lt_irrefl _ hlt

theorem not_emptyAt_of_not_nullable {r : Regex} (hr : r.nullable = false) (p : Place) :
    ¬ r.EmptyAt p := by
  intro h
  exact Nat.lt_irrefl _ (left_lt_of_not_nullable hr (List.mem_of_head? h))

/-! ## The first place where something is taken -/

/-- Of the places from `p` on, `start` is the first one where the expression takes something,
and there it takes what ends at `stop`. -/
structure FirstTakes (r : Regex) (p start stop : Place) : Prop where
  takes : r.Takes start stop
  exists_reads : ∃ xs, p.Reads xs start
  least : ∀ xs m q, p.Reads xs m → r.Takes m q → m.left ≤ start.left

/-- If something is taken at some place, then it is at a first one. -/
theorem exists_firstTakes {r : Regex} {p m q : Place} {xs : List Char} (hread : p.Reads xs m)
    (h : r.Takes m q) : ∃ start stop, r.FirstTakes p start stop := by
  induction hn : xs.length using Nat.strongRecOn generalizing xs m q with
  | _ n ih =>
      by_cases hearlier : ∃ ys m' q', p.Reads ys m' ∧ r.Takes m' q' ∧ ys.length < xs.length
      · obtain ⟨ys, m', q', hread', h', hlt⟩ := hearlier
        exact ih ys.length (hn ▸ hlt) hread' h' rfl
      · refine ⟨m, q, h, ⟨xs, hread⟩, fun ys m' q' hread' h' => Nat.le_of_not_lt fun hlt => ?_⟩
        exact hearlier ⟨ys, m', q', hread', h', (hread'.length_lt_iff hread).mpr hlt⟩

/-- A search finds the first place where something is taken, if no empty match comes before. -/
theorem findNonempty?_eq_some_iff_firstTakes {r : Regex} {p start stop : Place} :
    r.findNonempty? p = some (start, stop) ↔
      r.FirstTakes p start stop ∧
        ∀ xs m, p.Reads xs m → start.left < m.left → ¬ r.EmptyAt m := by
  rw [findNonempty?_eq_some_iff]
  constructor
  · rintro ⟨htakes, xs, hread, hnone⟩
    have hbefore : ∀ ys m, p.Reads ys m → start.left < m.left → r.ends m = [] := by
      intro ys m hread' hlt
      exact hnone ys m hread' ((hread'.length_lt_iff hread).mpr hlt)
    refine ⟨⟨htakes, ⟨xs, hread⟩, fun ys m q hread' h => Nat.le_of_not_lt fun hlt => ?_⟩, ?_⟩
    · exact List.ne_nil_of_mem h.mem_ends (hbefore ys m hread' hlt)
    · intro ys m hread' hlt hempty
      exact List.ne_nil_of_mem (List.mem_of_head? hempty) (hbefore ys m hread' hlt)
  · rintro ⟨⟨htakes, ⟨xs, hread⟩, hleast⟩, hclear⟩
    refine ⟨htakes, xs, hread, fun ys m hread' hlength => Classical.byContradiction fun hne => ?_⟩
    have hlt : start.left < m.left := (hread'.length_lt_iff hread).mp hlength
    rcases emptyAt_or_takes hne with hempty | ⟨q, htakes'⟩
    · exact hclear ys m hread' hlt hempty
    · exact Nat.not_le_of_lt hlt (hleast ys m q hread' htakes')

/-- A search finds nothing where nothing is taken ahead, or where an empty match comes first. -/
theorem findNonempty?_eq_none_iff {r : Regex} {p : Place} :
    r.findNonempty? p = none ↔
      ∀ start stop, r.FirstTakes p start stop →
        ∃ xs m, p.Reads xs m ∧ start.left < m.left ∧ r.EmptyAt m := by
  simp only [Option.eq_none_iff_forall_ne_some, Prod.forall, ne_eq,
    findNonempty?_eq_some_iff_firstTakes, not_and, Classical.not_forall, Classical.not_not,
    exists_prop]

theorem findNonempty?_eq_none_iff_or {r : Regex} {p : Place} :
    r.findNonempty? p = none ↔
      (∀ xs m q, p.Reads xs m → ¬ r.Takes m q) ∨
        ∃ start stop, r.FirstTakes p start stop ∧
          ∃ xs m, p.Reads xs m ∧ start.left < m.left ∧ r.EmptyAt m := by
  rw [findNonempty?_eq_none_iff]
  constructor
  · intro h
    by_cases htakes : ∃ xs m q, p.Reads xs m ∧ r.Takes m q
    · obtain ⟨xs, m, q, hread, htakes⟩ := htakes
      obtain ⟨start, stop, hfirst⟩ := exists_firstTakes hread htakes
      exact Or.inr ⟨start, stop, hfirst, h start stop hfirst⟩
    · exact Or.inl fun xs m q hread h => htakes ⟨xs, m, q, hread, h⟩
  · rintro (hnone | ⟨start, stop, hfirst, xs, m, hread, hlt, hempty⟩) start' stop' hfirst'
    · obtain ⟨xs, hread⟩ := hfirst'.exists_reads
      exact absurd hfirst'.takes (hnone xs start' stop' hread)
    · obtain ⟨ys, hread'⟩ := hfirst'.exists_reads
      have hle := hfirst.least ys start' stop' hread' hfirst'.takes
      exact ⟨xs, m, hread, Nat.lt_of_le_of_lt hle hlt, hempty⟩

section NotNullable

variable {r : Regex} (hr : r.nullable = false) {p start stop : Place}

include hr

theorem findNonempty?_eq_some_iff_of_not_nullable :
    r.findNonempty? p = some (start, stop) ↔ r.FirstTakes p start stop := by
  rw [findNonempty?_eq_some_iff_firstTakes]
  exact and_iff_left fun _ m _ _ => not_emptyAt_of_not_nullable hr m

theorem findNonempty?_eq_none_iff_of_not_nullable :
    r.findNonempty? p = none ↔ ∀ xs m q, p.Reads xs m → ¬ r.Takes m q := by
  rw [findNonempty?_eq_none_iff]
  constructor
  · intro h xs m q hread htakes
    obtain ⟨start, stop, hfirst⟩ := exists_firstTakes hread htakes
    obtain ⟨-, m', -, -, hempty⟩ := h start stop hfirst
    exact not_emptyAt_of_not_nullable hr m' hempty
  · intro h start stop hfirst
    obtain ⟨xs, hread⟩ := hfirst.exists_reads
    exact absurd hfirst.takes (h xs start stop hread)

/-- Where nothing is taken there is no match. -/
theorem ends_eq_nil_of_not_takes (h : ∀ q, ¬ r.Takes p q) : r.ends p = [] := by
  refine Classical.byContradiction fun hne => ?_
  rcases emptyAt_or_takes hne with hempty | ⟨q, htakes⟩
  · exact not_emptyAt_of_not_nullable hr p hempty
  · exact h q htakes

end NotNullable

end Regex

end Triptych
