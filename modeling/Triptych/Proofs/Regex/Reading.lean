import Triptych.Regex.Ends

/-!
# What a match reads

`Reads p xs q` says that the text `xs` stands between the places `p` and `q`.  The ends
of the matches of an expression are described by the texts that they read, and a search
by the texts that it passes over.

Of the ends of an expression only the SET is described here, not their order: a search
that finds nothing, and the place at which it finds something, depend on no more.
-/

namespace Triptych

namespace Place

/-- A place is given by the texts on its two sides. -/
theorem ext {p q : Place} (hbefore : p.before = q.before) (hafter : p.after = q.after) :
    p = q := by
  obtain ⟨before, after, left, hleft⟩ := p
  obtain ⟨before', after', left', hleft'⟩ := q
  dsimp only at hbefore hafter
  subst hbefore hafter hleft hleft'
  rfl

/-- Reading on over a text leads from one place to another. -/
def Reads (p : Place) (xs : List Char) (q : Place) : Prop :=
  p.after = xs ++ q.after ∧ q.before = xs.reverse ++ p.before

theorem reads_nil {p q : Place} : p.Reads [] q ↔ q = p := by
  constructor
  · rintro ⟨hafter, hbefore⟩
    exact ext hbefore hafter.symm
  · rintro rfl
    exact ⟨rfl, rfl⟩

theorem Reads.trans {p q r : Place} {xs ys : List Char} (h : p.Reads xs q)
    (h' : q.Reads ys r) : p.Reads (xs ++ ys) r := by
  obtain ⟨hafter, hbefore⟩ := h
  obtain ⟨hafter', hbefore'⟩ := h'
  constructor
  · rw [hafter, hafter', List.append_assoc]
  · rw [hbefore', hbefore, List.reverse_append, List.append_assoc]

/-- Whatever stands after a place can be read. -/
theorem exists_reads {p : Place} {xs ys : List Char} (h : p.after = xs ++ ys) :
    ∃ q, p.Reads xs q ∧ q.after = ys :=
  ⟨⟨xs.reverse ++ p.before, ys, ys.length, rfl⟩, ⟨h, rfl⟩, rfl⟩

theorem reads_append {p r : Place} {xs ys : List Char} :
    p.Reads (xs ++ ys) r ↔ ∃ q, p.Reads xs q ∧ q.Reads ys r := by
  constructor
  · rintro ⟨hafter, hbefore⟩
    rw [List.append_assoc] at hafter
    obtain ⟨q, hq, hrest⟩ := exists_reads hafter
    refine ⟨q, hq, hrest, ?_⟩
    rw [hbefore, hq.2, List.reverse_append, List.append_assoc]
  · rintro ⟨q, h, h'⟩
    exact h.trans h'

theorem reads_cons {p r : Place} {c : Char} {xs : List Char} :
    p.Reads (c :: xs) r ↔ ∃ q, p.Reads [c] q ∧ q.Reads xs r := by
  rw [← List.singleton_append]
  exact reads_append

theorem Reads.left_eq {p q : Place} {xs : List Char} (h : p.Reads xs q) :
    p.left = xs.length + q.left := by
  rw [p.left_eq, q.left_eq, h.1, List.length_append]

/-- The next character is the one that is read next. -/
theorem next?_eq_some_iff {p q : Place} {c : Char} :
    p.next? = some (c, q) ↔ p.Reads [c] q := by
  obtain ⟨before, after, left, hleft⟩ := p
  cases after with
  | nil => simp [next?, Reads]
  | cons d rest =>
      simp only [next?, Option.some.injEq, Prod.mk.injEq]
      constructor
      · rintro ⟨rfl, rfl⟩
        exact ⟨rfl, rfl⟩
      · rintro ⟨hafter, hbefore⟩
        obtain ⟨hhead, htail⟩ := List.cons.inj hafter
        exact ⟨hhead, ext (by rw [hbefore, hhead]; rfl) htail⟩

theorem next?_eq_none_iff {p : Place} : p.next? = none ↔ p.after = [] := by
  obtain ⟨before, after, left, hleft⟩ := p
  cases after <;> simp [next?]

end Place

namespace Regex

/-! ## The ends of the matches of an expression -/

theorem mem_ends_empty {p q : Place} : q ∈ Regex.empty.ends p ↔ q = p := by
  rw [ends]
  exact List.mem_singleton

theorem mem_ends_char {set : CharSet} {p q : Place} :
    q ∈ (Regex.char set).ends p ↔ ∃ c, set.contains c = true ∧ p.Reads [c] q := by
  rw [ends]
  cases hnext : p.next? with
  | none =>
      have hend := Place.next?_eq_none_iff.mp hnext
      simp [Place.Reads, hend]
  | some step =>
      obtain ⟨c, r⟩ := step
      have hread := Place.next?_eq_some_iff.mp hnext
      show q ∈ (if set.contains c then [r] else []) ↔ _
      constructor
      · intro h
        by_cases hc : set.contains c = true
        · rw [if_pos hc, List.mem_singleton] at h
          exact ⟨c, hc, h ▸ hread⟩
        · rw [if_neg hc] at h
          exact absurd h List.not_mem_nil
      · rintro ⟨d, hd, hread'⟩
        have hnext' := Place.next?_eq_some_iff.mpr hread'
        rw [hnext, Option.some.injEq, Prod.mk.injEq] at hnext'
        obtain ⟨rfl, rfl⟩ := hnext'
        rw [if_pos hd]
        exact List.mem_singleton_self r

theorem mem_ends_anchor {condition : Anchor} {p q : Place} :
    q ∈ (Regex.anchor condition).ends p ↔ condition.holds p = true ∧ q = p := by
  unfold ends
  split
  · next h => simp [h]
  · next h => simp [h]

theorem mem_ends_seq {r s : Regex} {p q : Place} :
    q ∈ (Regex.seq r s).ends p ↔ ∃ m ∈ r.ends p, q ∈ s.ends m := by
  rw [ends]
  exact List.mem_flatMap

theorem mem_ends_alt {r s : Regex} {p q : Place} :
    q ∈ (Regex.alt r s).ends p ↔ q ∈ r.ends p ∨ q ∈ s.ends p := by
  rw [ends]
  exact List.mem_append

/-- Further rounds: none, or one that takes something and then further rounds. -/
theorem mem_furtherEnds {greedy : Bool} {body : Place → List Place} {p q : Place} :
    q ∈ furtherEnds greedy body p ↔
      q = p ∨ ∃ m ∈ body p, m.left < p.left ∧ q ∈ furtherEnds greedy body m := by
  have hround : q ∈ ((body p).flatMap fun m =>
        if m.left < p.left then furtherEnds greedy body m else []) ↔
      ∃ m ∈ body p, m.left < p.left ∧ q ∈ furtherEnds greedy body m := by
    rw [List.mem_flatMap]
    refine exists_congr fun m => and_congr_right fun _ => ?_
    split
    · next hlt => simp [hlt]
    · next hge => simp [hge]
  rw [furtherEnds, ← hround]
  cases greedy with
  | true =>
      rw [if_pos rfl, List.mem_append, List.mem_singleton]
      exact or_comm
  | false => rw [if_neg (by simp), List.mem_cons]

theorem mem_ends_plus {greedy : Bool} {r : Regex} {p q : Place} :
    q ∈ (Regex.plus greedy r).ends p ↔
      ∃ m ∈ r.ends p, if m.left < p.left then q ∈ furtherEnds greedy r.ends m else q = m := by
  rw [ends, List.mem_flatMap]
  refine exists_congr fun m => and_congr_right fun _ => ?_
  split
  · rfl
  · exact List.mem_singleton

theorem mem_ends_star {greedy : Bool} {r : Regex} {p q : Place} :
    q ∈ (r.star greedy).ends p ↔ q = p ∨ q ∈ (Regex.plus greedy r).ends p := by
  unfold star optional
  cases greedy with
  | true =>
      rw [if_pos rfl, mem_ends_alt, mem_ends_empty]
      exact or_comm
  | false => rw [if_neg (by simp), mem_ends_alt, mem_ends_empty]

theorem left_lt_of_mem_ends_char {set : CharSet} {p q : Place}
    (h : q ∈ (Regex.char set).ends p) : q.left < p.left := by
  obtain ⟨c, -, hread⟩ := mem_ends_char.mp h
  rw [hread.left_eq, List.length_singleton]
  omega

/-- Characters of a set are none, or one that the set matches and then others. -/
theorem exists_reads_in_set_iff {set : CharSet} {p q : Place} :
    (∃ xs, (∀ c ∈ xs, set.contains c = true) ∧ p.Reads xs q) ↔
      q = p ∨ ∃ m ∈ (Regex.char set).ends p,
        ∃ xs, (∀ c ∈ xs, set.contains c = true) ∧ m.Reads xs q := by
  constructor
  · rintro ⟨xs, hxs, hread⟩
    cases xs with
    | nil => exact Or.inl (Place.reads_nil.mp hread)
    | cons c xs =>
        obtain ⟨m, hfirst, hrest⟩ := Place.reads_cons.mp hread
        obtain ⟨hc, hxs⟩ := List.forall_mem_cons.mp hxs
        exact Or.inr ⟨m, mem_ends_char.mpr ⟨c, hc, hfirst⟩, xs, hxs, hrest⟩
  · rintro (rfl | ⟨m, hm, xs, hxs, hread⟩)
    · exact ⟨[], by simp, Place.reads_nil.mpr rfl⟩
    · obtain ⟨c, hc, hfirst⟩ := mem_ends_char.mp hm
      exact ⟨c :: xs, List.forall_mem_cons.mpr ⟨hc, hxs⟩, hfirst.trans hread⟩

/-- Further rounds over one set of characters read any characters of the set. -/
theorem mem_furtherEnds_char {greedy : Bool} {set : CharSet} {p q : Place} :
    q ∈ furtherEnds greedy (Regex.char set).ends p ↔
      ∃ xs, (∀ c ∈ xs, set.contains c = true) ∧ p.Reads xs q := by
  -- a round over a set takes one character, so the rounds are as many as the characters
  induction hn : p.left using Nat.strongRecOn generalizing p with
  | _ n ih =>
      rw [mem_furtherEnds, exists_reads_in_set_iff]
      refine or_congr_right (exists_congr fun m => and_congr_right fun hm => ?_)
      have hlt : m.left < p.left := left_lt_of_mem_ends_char hm
      rw [ih m.left (hn ▸ hlt) rfl]
      exact and_iff_right hlt

/-- Any number of characters of a set. -/
theorem mem_ends_star_char {greedy : Bool} {set : CharSet} {p q : Place} :
    q ∈ ((Regex.char set).star greedy).ends p ↔
      ∃ xs, (∀ c ∈ xs, set.contains c = true) ∧ p.Reads xs q := by
  rw [mem_ends_star, mem_ends_plus, exists_reads_in_set_iff]
  refine or_congr_right (exists_congr fun m => and_congr_right fun hm => ?_)
  rw [if_pos (left_lt_of_mem_ends_char hm)]
  exact mem_furtherEnds_char

/-! ## Searching -/

theorem matchAt?_eq_none_iff {r : Regex} {p : Place} : r.matchAt? p = none ↔ r.ends p = [] := by
  rw [matchAt?_eq_head?, List.head?_eq_none_iff]

theorem find?_of_matchAt? {r : Regex} {p q : Place} (h : r.matchAt? p = some q) :
    r.find? p = some (p, q) := by
  rw [find?, h]

theorem find?_of_next? {r : Regex} {p q : Place} {c : Char} (h : r.ends p = [])
    (hnext : p.next? = some (c, q)) : r.find? p = r.find? q := by
  rw [find?, matchAt?_eq_none_iff.mpr h]
  dsimp only
  split
  · next step hstep =>
      rw [hnext, Option.some.injEq, Prod.mk.injEq] at hstep
      rw [hstep.2]
  · next hstep => simp [hnext] at hstep

theorem find?_of_end {r : Regex} {p : Place} (h : r.ends p = []) (hnext : p.next? = none) :
    r.find? p = none := by
  rw [find?, matchAt?_eq_none_iff.mpr h]
  dsimp only
  split
  · next hstep => simp [hnext] at hstep
  · rfl

/-- A search that finds nothing has tried every place ahead. -/
theorem ends_eq_nil_of_find?_eq_none {r : Regex} {p : Place} (h : r.find? p = none)
    {xs : List Char} {q : Place} (hread : p.Reads xs q) : r.ends q = [] := by
  induction xs generalizing p with
  | nil =>
      rw [Place.reads_nil.mp hread]
      cases hmatch : r.matchAt? p with
      | none => exact matchAt?_eq_none_iff.mp hmatch
      | some q => simp [find?_of_matchAt? hmatch] at h
  | cons c xs ih =>
      obtain ⟨m, hfirst, hrest⟩ := Place.reads_cons.mp hread
      have hnext := Place.next?_eq_some_iff.mpr hfirst
      cases hmatch : r.matchAt? p with
      | none =>
          rw [find?_of_next? (matchAt?_eq_none_iff.mp hmatch) hnext] at h
          exact ih h hrest
      | some q => simp [find?_of_matchAt? hmatch] at h

/-- A search finds a match at a place ahead, and there is no match before that place. -/
theorem exists_reads_of_find?_eq_some {r : Regex} {p start stop : Place}
    (h : r.find? p = some (start, stop)) :
    ∃ xs, p.Reads xs start ∧ stop ∈ r.ends start ∧
      ∀ ys q, p.Reads ys q → ys.length < xs.length → r.ends q = [] := by
  induction hn : p.left using Nat.strongRecOn generalizing p with
  | _ n ih =>
      cases hmatch : r.matchAt? p with
      | some q =>
          rw [find?_of_matchAt? hmatch, Option.some.injEq, Prod.mk.injEq] at h
          obtain ⟨rfl, rfl⟩ := h
          refine ⟨[], Place.reads_nil.mpr rfl, ?_, by simp⟩
          rw [matchAt?_eq_head?] at hmatch
          exact List.mem_of_head? hmatch
      | none =>
          have hnone := matchAt?_eq_none_iff.mp hmatch
          cases hnext : p.next? with
          | none => simp [find?_of_end hnone hnext] at h
          | some step =>
              obtain ⟨c, m⟩ := step
              have hfirst := Place.next?_eq_some_iff.mp hnext
              rw [find?_of_next? hnone hnext] at h
              obtain ⟨xs, hread, hstop, hbefore⟩ :=
                ih m.left (hn ▸ Place.left_of_next? hnext) h rfl
              refine ⟨c :: xs, hfirst.trans hread, hstop, ?_⟩
              intro ys q hq hlen
              cases ys with
              | nil =>
                  rw [Place.reads_nil.mp hq]
                  exact hnone
              | cons d ys =>
                  obtain ⟨m', hm', hrest⟩ := Place.reads_cons.mp hq
                  have hnext' := Place.next?_eq_some_iff.mpr hm'
                  rw [hnext, Option.some.injEq, Prod.mk.injEq] at hnext'
                  rw [← hnext'.2] at hrest
                  exact hbefore ys q hrest (Nat.lt_of_succ_lt_succ hlen)

end Regex

end Triptych
