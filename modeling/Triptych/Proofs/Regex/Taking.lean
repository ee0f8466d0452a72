import Triptych.Proofs.Regex.Places

/-!
# What an expression takes

An expression takes something at a place if its preferred match there is not empty.  Other
matches do not count, however long they are: where the preferred match is empty, the
expression takes NOTHING, and a search that comes to such a place is over.

No match goes back, and none leaves the text.  What it reads are characters that stand in the
expression.
-/

namespace Triptych

namespace Regex

/-! ## Matches go forward -/

/-- A match may hold the character: it stands somewhere in the expression. -/
def mayHold : Regex → Char → Bool
  | .empty, _ | .anchor _, _ => false
  | .char set, c => set.contains c
  | .seq r s, c | .alt r s, c => r.mayHold c || s.mayHold c
  | .plus _ r, c => r.mayHold c

/-- What each round reads has a property that only looks at characters, so all rounds have it. -/
theorem exists_reads_forall_of_mem_furtherEnds {P : Char → Prop} {greedy : Bool}
    {body : Place → List Place}
    (hbody : ∀ p q, q ∈ body p → ∃ xs, p.Reads xs q ∧ ∀ c ∈ xs, P c) {p q : Place}
    (h : q ∈ furtherEnds greedy body p) : ∃ xs, p.Reads xs q ∧ ∀ c ∈ xs, P c := by
  -- on what is left of the text, of which each round takes something
  induction hn : p.left using Nat.strongRecOn generalizing p with
  | _ n ih =>
      obtain rfl | ⟨m, hm, hlt, hrest⟩ := mem_furtherEnds.mp h
      · exact ⟨[], Place.reads_nil.mpr rfl, by simp⟩
      · obtain ⟨xs, hfirst, hxs⟩ := hbody p m hm
        obtain ⟨ys, hlater, hys⟩ := ih m.left (hn ▸ hlt) hrest rfl
        exact ⟨xs ++ ys, hfirst.trans hlater, List.forall_mem_append.mpr ⟨hxs, hys⟩⟩

/-- A match goes forward over characters that it may hold. -/
theorem exists_reads_mayHold {r : Regex} {p q : Place} (h : q ∈ r.ends p) :
    ∃ xs, p.Reads xs q ∧ ∀ c ∈ xs, r.mayHold c = true := by
  induction r generalizing p q with
  | empty => exact ⟨[], Place.reads_nil.mpr (mem_ends_empty.mp h), by simp⟩
  | char set =>
      obtain ⟨c, hc, hread⟩ := mem_ends_char.mp h
      exact ⟨[c], hread, by simpa [mayHold] using hc⟩
  | anchor condition => exact ⟨[], Place.reads_nil.mpr (mem_ends_anchor.mp h).2, by simp⟩
  | seq r s ihr ihs =>
      obtain ⟨m, hfirst, hsecond⟩ := mem_ends_seq.mp h
      obtain ⟨xs, hxs, hr⟩ := ihr hfirst
      obtain ⟨ys, hys, hs⟩ := ihs hsecond
      refine ⟨xs ++ ys, hxs.trans hys, List.forall_mem_append.mpr ⟨fun c hc => ?_, fun c hc => ?_⟩⟩
      · simp [mayHold, hr c hc]
      · simp [mayHold, hs c hc]
  | alt r s ihr ihs =>
      obtain hfirst | hsecond := mem_ends_alt.mp h
      · obtain ⟨xs, hxs, hr⟩ := ihr hfirst
        exact ⟨xs, hxs, fun c hc => by simp [mayHold, hr c hc]⟩
      · obtain ⟨xs, hxs, hs⟩ := ihs hsecond
        exact ⟨xs, hxs, fun c hc => by simp [mayHold, hs c hc]⟩
  | plus greedy r ih =>
      obtain ⟨m, hfirst, hrest⟩ := mem_ends_plus.mp h
      obtain ⟨xs, hxs, hr⟩ := ih hfirst
      split at hrest
      · obtain ⟨ys, hys, hlater⟩ := exists_reads_forall_of_mem_furtherEnds (fun _ _ => ih) hrest
        exact ⟨xs ++ ys, hxs.trans hys, List.forall_mem_append.mpr ⟨hr, hlater⟩⟩
      · rw [hrest]
        exact ⟨xs, hxs, hr⟩

/-- A match reads what stands between its ends. -/
theorem exists_reads_of_mem_ends {r : Regex} {p q : Place} (h : q ∈ r.ends p) :
    ∃ xs, p.Reads xs q := by
  obtain ⟨xs, hread, -⟩ := exists_reads_mayHold h
  exact ⟨xs, hread⟩

/-! ## Preferred matches -/

/-- The preferred match at `p` ends at `q` and takes something. -/
def Takes (r : Regex) (p q : Place) : Prop := (r.ends p).head? = some q ∧ q.left < p.left

theorem Takes.mem_ends {r : Regex} {p q : Place} (h : r.Takes p q) : q ∈ r.ends p :=
  List.mem_of_head? h.1

theorem Takes.precedes {r : Regex} {p q : Place} (h : r.Takes p q) : p.Precedes q := by
  obtain ⟨xs, hread⟩ := exists_reads_of_mem_ends h.mem_ends
  exact hread.precedes_of_left_lt h.2

theorem takesAt?_eq_some_iff {r : Regex} {p q : Place} :
    r.takesAt? p = some q ↔ r.Takes p q := by
  unfold takesAt? Takes Place.isPast
  rw [matchAt?_eq_head?, Option.filter_eq_some_iff, decide_eq_true_eq]

theorem takesAt?_eq_none_iff {r : Regex} {p : Place} :
    r.takesAt? p = none ↔ ∀ q, ¬ r.Takes p q := by
  simp only [Option.eq_none_iff_forall_ne_some, ne_eq, takesAt?_eq_some_iff]

/-! ## Searching -/

/-- A search passes over the places at which nothing matches. -/
theorem find?_of_reads {r : Regex} {p q : Place} {xs : List Char} (hread : p.Reads xs q)
    (hnone : ∀ ys m, p.Reads ys m → ys.length < xs.length → r.ends m = []) :
    r.find? p = r.find? q := by
  induction xs generalizing p with
  | nil => rw [Place.reads_nil.mp hread]
  | cons c xs ih =>
      obtain ⟨m, hfirst, hrest⟩ := Place.reads_cons.mp hread
      have hhere : r.ends p = [] := hnone [] p (Place.reads_nil.mpr rfl) (Nat.succ_pos _)
      rw [find?_of_next? hhere (Place.next?_eq_some_iff.mpr hfirst)]
      refine ih hrest fun ys m' hys hlength => ?_
      exact hnone (c :: ys) m' (hfirst.trans hys) (Nat.succ_lt_succ hlength)

/-- A search finds the preferred match at the first place that has a match. -/
theorem find?_eq_some_iff {r : Regex} {p start stop : Place} :
    r.find? p = some (start, stop) ↔
      (r.ends start).head? = some stop ∧
        ∃ xs, p.Reads xs start ∧ ∀ ys m, p.Reads ys m → ys.length < xs.length → r.ends m = [] := by
  constructor
  · intro h
    obtain ⟨xs, hread, hstop, hnone⟩ := exists_reads_of_find?_eq_some h
    obtain ⟨first, hfirst⟩ : ∃ first, r.matchAt? start = some first := by
      rw [← Option.ne_none_iff_exists', ne_eq, matchAt?_eq_none_iff]
      exact List.ne_nil_of_mem hstop
    rw [find?_of_reads hread hnone, find?_of_matchAt? hfirst, Option.some.injEq,
      Prod.mk.injEq] at h
    rw [matchAt?_eq_head?, h.2] at hfirst
    exact ⟨hfirst, xs, hread, hnone⟩
  · rintro ⟨hfirst, xs, hread, hnone⟩
    rw [find?_of_reads hread hnone]
    exact find?_of_matchAt? (by rw [matchAt?_eq_head?, hfirst])

/-- A search that counts finds what the expression takes, at the first place that has a match. -/
theorem findNonempty?_eq_some_iff {r : Regex} {p start stop : Place} :
    r.findNonempty? p = some (start, stop) ↔
      r.Takes start stop ∧
        ∃ xs, p.Reads xs start ∧ ∀ ys m, p.Reads ys m → ys.length < xs.length → r.ends m = [] := by
  unfold findNonempty? Place.isPast
  constructor
  · intro h
    split at h
    · cases h
    · rw [Option.filter_eq_some_iff, decide_eq_true_eq, find?_eq_some_iff] at h
      obtain ⟨⟨hfirst, hsearch⟩, hlt⟩ := h
      exact ⟨⟨hfirst, hlt⟩, hsearch⟩
  · rintro ⟨⟨hfirst, hlt⟩, xs, hread, hnone⟩
    have hmore : ¬ p.atEnd = true := by
      rw [Place.atEnd, beq_iff_eq, hread.left_eq]
      omega
    rw [if_neg hmore, Option.filter_eq_some_iff, decide_eq_true_eq, find?_eq_some_iff]
    exact ⟨⟨hfirst, xs, hread, hnone⟩, hlt⟩

/-- A search passes over places without a match, as long as they are not the end. -/
theorem findNonempty?_of_reads {r : Regex} {p q : Place} {xs : List Char} (hread : p.Reads xs q)
    (hnone : ∀ ys m, p.Reads ys m → q.left < m.left → r.ends m = []) (hq : q.left ≠ 0) :
    r.findNonempty? p = r.findNonempty? q := by
  have hleft := hread.left_eq
  have hp : ¬ p.atEnd = true := by
    rw [Place.atEnd, beq_iff_eq]
    omega
  have hq' : ¬ q.atEnd = true := by rwa [Place.atEnd, beq_iff_eq]
  unfold findNonempty?
  rw [if_neg hp, if_neg hq', find?_of_reads hread]
  intro ys m hread' hlength
  exact hnone ys m hread' ((hread'.length_lt_iff hread).mp hlength)

/-- What a search finds at the place where it begins is what the expression takes there. -/
theorem findNonempty?_self_iff {r : Regex} {p q : Place} :
    r.findNonempty? p = some (p, q) ↔ r.Takes p q := by
  rw [findNonempty?_eq_some_iff]
  refine and_iff_left ⟨[], Place.reads_nil.mpr rfl, ?_⟩
  intro ys m _ hlength
  exact absurd hlength (Nat.not_lt_zero _)

/-- A search does not go back, and what it finds takes something. -/
theorem findNonempty?_goes_on {r : Regex} {p start stop : Place}
    (h : r.findNonempty? p = some (start, stop)) :
    (∃ xs, p.Reads xs start) ∧ start.Precedes stop := by
  obtain ⟨htakes, xs, hread, -⟩ := findNonempty?_eq_some_iff.mp h
  exact ⟨⟨xs, hread⟩, htakes.precedes⟩

/-- Matching at a place is searching from it on and comparing where the match begins. -/
theorem takesAt?_eq_search (r : Regex) (p : Place) :
    r.takesAt? p = (r.findNonempty? p).bind fun found =>
      if found.1.offset = p.offset then some found.2 else none := by
  refine Option.ext fun q => ?_
  rw [takesAt?_eq_some_iff, ← findNonempty?_self_iff, Option.bind_eq_some_iff]
  constructor
  · intro h
    exact ⟨(p, q), h, if_pos rfl⟩
  · rintro ⟨⟨start, stop⟩, hfound, hcompare⟩
    obtain ⟨⟨xs, hread⟩, -⟩ := findNonempty?_goes_on hfound
    by_cases hstart : start.offset = p.offset
    · rw [if_pos hstart] at hcompare
      obtain rfl : stop = q := Option.some.inj hcompare
      rwa [hread.eq_of_offset_eq hstart] at hfound
    · rw [if_neg hstart] at hcompare
      cases hcompare

/-- Where the expression takes nothing, a search finds something further on or not at all. -/
theorem precedes_of_findNonempty? {r : Regex} {p start stop : Place}
    (h : r.findNonempty? p = some (start, stop)) (hnone : ∀ q, ¬ r.Takes p q) :
    p.Precedes start := by
  obtain ⟨htakes, xs, hread, -⟩ := findNonempty?_eq_some_iff.mp h
  refine ⟨xs, ?_, hread⟩
  rintro rfl
  rw [Place.reads_nil.mp hread] at htakes
  exact hnone stop htakes

end Regex

end Triptych
