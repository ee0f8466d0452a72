import Triptych.Text.Offset

/-!
# Offsets in a text

Splitting a text at the size of what it begins with gives that beginning back, and
rounding an offset up never moves it back.  A split that gives something gives the whole
text, in two parts.

So the boundaries of a text are the sizes of what it begins with, and rounding an offset
up ends at one of them.
-/

namespace Triptych.Text

theorem byteSize_nil : byteSize [] = 0 := rfl

/-- Only the empty text has no bytes. -/
theorem byteSize_pos {s : List Char} (hs : s ≠ []) : 0 < byteSize s := by
  obtain ⟨c, rest, rfl⟩ := List.exists_cons_of_ne_nil hs
  have := c.utf8Size_pos
  rw [byteSize]
  omega

theorem byteSize_append (s t : List Char) : byteSize (s ++ t) = byteSize s + byteSize t := by
  induction s with
  | nil => simp [byteSize_nil]
  | cons c s ih =>
      rw [List.cons_append, byteSize, byteSize, ih]
      omega

theorem byteSize_reverse (s : List Char) : byteSize s.reverse = byteSize s := by
  induction s with
  | nil => rfl
  | cons c s ih =>
      rw [List.reverse_cons, byteSize_append, ih]
      simp only [byteSize]
      omega

/-- Of two ways to cut a text, the earlier cut leaves the later one in its second part. -/
theorem append_eq_append_of_byteSize {xs ys front back : List Char}
    (h : xs ++ ys = front ++ back) (hle : byteSize front ≤ byteSize xs) :
    ∃ between, xs = front ++ between ∧ back = between ++ ys := by
  rcases List.append_eq_append_iff.mp h with ⟨between, rfl, rfl⟩ | ⟨between, rfl, rfl⟩
  · by_cases hnil : between = []
    · exact ⟨[], by simp [hnil], by simp [hnil]⟩
    · have := byteSize_pos hnil
      rw [byteSize_append] at hle
      omega
  · exact ⟨between, rfl, rfl⟩

theorem splitAt?_zero (s : List Char) : splitAt? s 0 = some ([], s) := by
  cases s <;> rfl

theorem splitAt?_append (s t : List Char) : splitAt? (s ++ t) (byteSize s) = some (s, t) := by
  induction s with
  | nil => exact splitAt?_zero t
  | cons c s ih =>
      obtain ⟨n, hn⟩ : ∃ n, byteSize (c :: s) = n + 1 :=
        ⟨byteSize (c :: s) - 1, by have := byteSize_pos (List.cons_ne_nil c s); omega⟩
      have hsize : n + 1 = c.utf8Size + byteSize s := hn.symm
      have hfits : c.utf8Size ≤ n + 1 := by omega
      have hrest : n + 1 - c.utf8Size = byteSize s := by omega
      rw [hn, List.cons_append, splitAt?, if_pos hfits, hrest, ih]
      rfl

/-- Splitting loses nothing and adds nothing. -/
theorem append_of_splitAt? {s front back : List Char} {n : Nat}
    (h : splitAt? s n = some (front, back)) : s = front ++ back := by
  induction s generalizing n front with
  | nil =>
      cases n with
      | zero =>
          rw [splitAt?_zero, Option.some.injEq, Prod.mk.injEq] at h
          rw [← h.1, ← h.2]
          rfl
      | succ n => simp [splitAt?] at h
  | cons c s ih =>
      cases n with
      | zero =>
          rw [splitAt?_zero, Option.some.injEq, Prod.mk.injEq] at h
          rw [← h.1, ← h.2]
          rfl
      | succ n =>
          rw [splitAt?] at h
          split at h
          · obtain ⟨⟨first, later⟩, hsplit, heq⟩ := Option.map_eq_some_iff.mp h
            obtain ⟨rfl, rfl⟩ := Prod.mk.inj heq
            rw [ih hsplit, List.cons_append]
          · simp at h

/-- What stands between two offsets stands in the text. -/
theorem mem_of_mem_between? {s between : List Char} {start stop : Nat}
    (h : between? s start stop = some between) {c : Char} (hc : c ∈ between) : c ∈ s := by
  unfold between? from? at h
  split at h
  · obtain ⟨tail, htail, hbetween⟩ := Option.bind_eq_some_iff.mp h
    obtain ⟨⟨front, tail'⟩, hfirst, rfl⟩ := Option.map_eq_some_iff.mp htail
    obtain ⟨⟨between', back⟩, hsecond, rfl⟩ := Option.map_eq_some_iff.mp hbetween
    have htail' : tail' = between' ++ back := append_of_splitAt? hsecond
    rw [append_of_splitAt? hfirst, htail']
    exact List.mem_append_right _ (List.mem_append_left _ hc)
  · simp at h

theorem le_roundUp {s : List Char} {n : Nat} (hn : n ≤ byteSize s) : n ≤ roundUp s n := by
  induction s generalizing n with
  | nil =>
      rw [byteSize_nil, Nat.le_zero] at hn
      omega
  | cons c s ih =>
      cases n with
      | zero => exact Nat.zero_le _
      | succ n =>
          rw [roundUp]
          have hrest : n + 1 - c.utf8Size ≤ byteSize s := by
            rw [byteSize] at hn
            omega
          have := ih hrest
          omega

/-- What is no longer than the offset stays in front when the offset is rounded up. -/
theorem roundUp_append {s : List Char} {n : Nat} (t : List Char) (hn : byteSize s ≤ n) :
    roundUp (s ++ t) n = byteSize s + roundUp t (n - byteSize s) := by
  induction s generalizing n with
  | nil => simp [byteSize_nil]
  | cons c s ih =>
      have hpos := byteSize_pos (List.cons_ne_nil c s)
      rw [byteSize] at hn hpos ⊢
      cases n with
      | zero => omega
      | succ n =>
          have hrest : n + 1 - c.utf8Size - byteSize s = n + 1 - (c.utf8Size + byteSize s) := by
            omega
          rw [List.cons_append, roundUp, ih (by omega), hrest, Nat.add_assoc]

/-- A boundary stays where it is. -/
theorem roundUp_byteSize (s t : List Char) : roundUp (s ++ t) (byteSize s) = byteSize s := by
  rw [roundUp_append t (Nat.le_refl _), Nat.sub_self, roundUp.eq_def]
  rfl

/-- Rounding up ends at a boundary. -/
theorem exists_roundUp_eq {s : List Char} {n : Nat} (hn : n ≤ byteSize s) :
    ∃ front back, s = front ++ back ∧ roundUp s n = byteSize front := by
  induction s generalizing n with
  | nil =>
      rw [byteSize_nil, Nat.le_zero] at hn
      exact ⟨[], [], rfl, by rw [hn]; rfl⟩
  | cons c s ih =>
      cases n with
      | zero => exact ⟨[], c :: s, rfl, rfl⟩
      | succ n =>
          have hrest : n + 1 - c.utf8Size ≤ byteSize s := by
            rw [byteSize] at hn
            omega
          obtain ⟨front, back, hs, hround⟩ := ih hrest
          refine ⟨c :: front, back, by rw [hs, List.cons_append], ?_⟩
          rw [roundUp, hround, byteSize]

theorem isBoundary_append (s t : List Char) : isBoundary (s ++ t) (byteSize s) = true := by
  unfold isBoundary
  rw [splitAt?_append]
  rfl

/-- A boundary is the size of what stands before it. -/
theorem exists_append_of_isBoundary {s : List Char} {n : Nat} (h : isBoundary s n = true) :
    ∃ front back, s = front ++ back ∧ n = byteSize front := by
  induction s generalizing n with
  | nil =>
      cases n with
      | zero => exact ⟨[], [], rfl, rfl⟩
      | succ n => simp [isBoundary, splitAt?] at h
  | cons c s ih =>
      cases n with
      | zero => exact ⟨[], c :: s, rfl, rfl⟩
      | succ n =>
          unfold isBoundary at h
          rw [splitAt?] at h
          split at h
          · next hfits =>
              rw [Option.isSome_map] at h
              obtain ⟨front, back, hs, hsize⟩ := ih h
              refine ⟨c :: front, back, by rw [hs, List.cons_append], ?_⟩
              rw [byteSize]
              omega
          · simp at h

/-- What stands between what is in front of it and what is behind it. -/
theorem between?_append (front between back : List Char) :
    between? (front ++ between ++ back) (byteSize front) (byteSize (front ++ between)) =
      some between := by
  have hsize : byteSize (front ++ between) - byteSize front = byteSize between := by
    rw [byteSize_append]
    omega
  unfold between? from?
  rw [if_pos (by rw [byteSize_append]; omega), List.append_assoc, splitAt?_append, hsize]
  show (splitAt? (between ++ back) (byteSize between)).map (·.1) = some between
  rw [splitAt?_append]
  rfl

end Triptych.Text
