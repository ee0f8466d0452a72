import Triptych.Proofs.Regex.Reading
import Triptych.Proofs.Text.Offsets

/-!
# Places and offsets

A place is told by the two texts on its sides, and `between` makes it of them.  An offset
that is a boundary leads to the place with that many bytes before it; an offset that is none
leads to a place FURTHER on.
-/

namespace Triptych

open Text

namespace Place

/-! ## Reading on -/

theorem Reads.text_eq {p q : Place} {xs : List Char} (h : p.Reads xs q) : q.text = p.text := by
  unfold text
  rw [h.1, h.2, List.reverse_append, List.reverse_reverse, List.append_assoc]

/-- Between two places there is one text. -/
theorem Reads.unique {p q : Place} {xs ys : List Char} (h : p.Reads xs q) (h' : p.Reads ys q) :
    xs = ys :=
  List.append_cancel_right (h.1.symm.trans h'.1)

theorem Reads.eq_of_length_eq {p q q' : Place} {xs ys : List Char} (h : p.Reads xs q)
    (h' : p.Reads ys q') (hlength : xs.length = ys.length) : q = q' := by
  obtain ⟨rfl, hafter⟩ := List.append_inj (h.1.symm.trans h'.1) hlength
  exact ext (h.2.trans h'.2.symm) hafter

theorem reads_finish (p : Place) : p.Reads p.after p.finish :=
  ⟨(List.append_nil p.after).symm, rfl⟩

/-- At the end of the text there is nothing to read. -/
theorem Reads.eq_nil {p q : Place} {xs : List Char} (h : p.Reads xs q) (hp : p.after = []) :
    xs = [] :=
  (List.append_eq_nil_iff.mp (h.1.symm.trans hp)).1

theorem finish_of_after_nil {p : Place} (hp : p.after = []) : p.finish = p := by
  have hread := p.reads_finish
  rw [hp] at hread
  exact reads_nil.mp hread

theorem Reads.finish_eq {p q : Place} {xs : List Char} (h : p.Reads xs q) :
    q.finish = p.finish := by
  refine ext ?_ rfl
  show q.after.reverse ++ q.before = p.after.reverse ++ p.before
  rw [h.1, h.2, List.reverse_append, List.append_assoc]

theorem atEnd_iff {p : Place} : p.atEnd = true ↔ p.after = [] := by
  unfold atEnd
  rw [beq_iff_eq, p.left_eq, List.length_eq_zero_iff]

theorem Reads.left_lt {p q : Place} {xs : List Char} (h : p.Reads xs q) (hxs : xs ≠ []) :
    q.left < p.left := by
  have := List.length_pos_iff.mpr hxs
  rw [h.left_eq]
  omega

theorem not_reads_cons_self {p : Place} {c : Char} {xs : List Char} : ¬ p.Reads (c :: xs) p :=
  fun h => Nat.lt_irrefl _ (h.left_lt (List.cons_ne_nil c xs))

/-- Of two places ahead, the one that less is read up to is the one with more left. -/
theorem Reads.length_lt_iff {p m q : Place} {xs ys : List Char} (h : p.Reads xs m)
    (h' : p.Reads ys q) : xs.length < ys.length ↔ q.left < m.left := by
  have hleft := h.left_eq
  have hleft' := h'.left_eq
  omega

/-- `q` is a place further on than `p` in the same text. -/
def Precedes (p q : Place) : Prop := ∃ xs, xs ≠ [] ∧ p.Reads xs q

theorem Reads.precedes_of_left_lt {p q : Place} {xs : List Char} (h : p.Reads xs q)
    (hlt : q.left < p.left) : p.Precedes q := by
  refine ⟨xs, ?_, h⟩
  rintro rfl
  rw [reads_nil.mp h] at hlt
  omega

theorem Precedes.left_lt {p q : Place} (h : p.Precedes q) : q.left < p.left := by
  obtain ⟨xs, hxs, hread⟩ := h
  exact hread.left_lt hxs

/-- Nothing is further on than the end. -/
theorem Precedes.after_ne_nil {p q : Place} (h : p.Precedes q) : p.after ≠ [] := by
  obtain ⟨xs, hxs, hread⟩ := h
  exact fun hp => hxs (hread.eq_nil hp)

theorem Precedes.text_eq {p q : Place} (h : p.Precedes q) : q.text = p.text := by
  obtain ⟨xs, -, hread⟩ := h
  exact hread.text_eq

theorem Precedes.trans_reads {p q r : Place} {xs : List Char} (h : p.Precedes q)
    (h' : q.Reads xs r) : p.Precedes r := by
  obtain ⟨ys, hys, hread⟩ := h
  exact ⟨ys ++ xs, List.append_ne_nil_of_left_ne_nil hys xs, hread.trans h'⟩

theorem Reads.trans_precedes {p q r : Place} {xs : List Char} (h : p.Reads xs q)
    (h' : q.Precedes r) : p.Precedes r := by
  obtain ⟨ys, hys, hread⟩ := h'
  exact ⟨xs ++ ys, List.append_ne_nil_of_right_ne_nil xs hys, h.trans hread⟩

/-- Only the end of the text has nothing further on. -/
theorem precedes_finish {p : Place} (h : p.after ≠ []) : p.Precedes p.finish :=
  ⟨p.after, h, p.reads_finish⟩

/-! ## Places by their sides -/

/-- The place with `front` before it and `back` after it. -/
def between (front back : List Char) : Place := { start back with before := front.reverse }

theorem reads_between_iff {front xs back : List Char} {q : Place} :
    (between front (xs ++ back)).Reads xs q ↔ q = between (front ++ xs) back := by
  constructor
  · rintro ⟨hafter, hbefore⟩
    refine ext ?_ (List.append_cancel_left hafter).symm
    rw [hbefore]
    exact (List.reverse_append ..).symm
  · rintro rfl
    exact ⟨rfl, List.reverse_append ..⟩

theorem between_inj {front back front' back' : List Char} :
    between front back = between front' back' ↔ front = front' ∧ back = back' := by
  constructor
  · intro h
    exact ⟨List.reverse_inj.mp (congrArg before h), congrArg after h⟩
  · rintro ⟨rfl, rfl⟩
    rfl

theorem finish_between (front back : List Char) :
    (between front back).finish = between (front ++ back) [] :=
  ext (List.reverse_append ..).symm rfl

theorem text_between (front back : List Char) : (between front back).text = front ++ back := by
  show front.reverse.reverse ++ back = front ++ back
  rw [List.reverse_reverse]

@[simp] theorem after_between (front back : List Char) : (between front back).after = back := rfl

theorem start_eq_between (s : List Char) : start s = between [] s := rfl

/-! ## Places by their offsets -/

theorem offset_between (front back : List Char) :
    (between front back).offset = byteSize front := byteSize_reverse front

theorem Reads.offset_eq {p q : Place} {xs : List Char} (h : p.Reads xs q) :
    q.offset = p.offset + byteSize xs := by
  unfold offset
  rw [h.2, byteSize_append, byteSize_reverse, Nat.add_comm]

/-- Going on over some text changes the offset. -/
theorem Reads.eq_of_offset_eq {p q : Place} {xs : List Char} (h : p.Reads xs q)
    (heq : q.offset = p.offset) : q = p := by
  cases xs with
  | nil => exact reads_nil.mp h
  | cons c xs =>
      have hsize := byteSize_pos (List.cons_ne_nil c xs)
      rw [h.offset_eq] at heq
      omega

theorem Precedes.offset_lt {p q : Place} (h : p.Precedes q) : p.offset < q.offset := by
  obtain ⟨xs, hxs, hread⟩ := h
  have := byteSize_pos hxs
  rw [hread.offset_eq]
  omega

theorem offset_le (p : Place) : p.offset ≤ byteSize p.text := by
  unfold offset text
  rw [byteSize_append, byteSize_reverse]
  omega

theorem offset_eq_byteSize {p : Place} (h : p.after = []) : p.offset = byteSize p.text := by
  unfold offset text
  rw [h, List.append_nil, byteSize_reverse]

theorem isBoundary_offset (p : Place) : isBoundary p.text p.offset = true := by
  unfold offset text
  rw [← byteSize_reverse p.before]
  exact isBoundary_append p.before.reverse p.after

/-- Skipping as many bytes as a text has leads behind the text. -/
theorem skip_of_reads {p q : Place} {xs : List Char} (h : p.Reads xs q) :
    p.skip (byteSize xs) = q := by
  induction xs generalizing p with
  | nil =>
      rw [skip, if_pos byteSize_nil]
      exact (reads_nil.mp h).symm
  | cons c xs ih =>
      obtain ⟨m, hfirst, hrest⟩ := reads_cons.mp h
      have hpos := byteSize_pos (List.cons_ne_nil c xs)
      have hsize : byteSize (c :: xs) - c.utf8Size = byteSize xs := by
        rw [byteSize]
        omega
      rw [skip, if_neg (by omega)]
      split
      · next hnone => simp [next?_eq_some_iff.mpr hfirst] at hnone
      · next d m' hnext =>
          rw [next?_eq_some_iff.mpr hfirst, Option.some.injEq, Prod.mk.injEq] at hnext
          obtain ⟨rfl, rfl⟩ := hnext
          rw [hsize, ih hrest]

theorem ofOffset_append (front back : List Char) :
    ofOffset (front ++ back) (byteSize front) = between front back := by
  refine skip_of_reads ?_
  rw [start_eq_between, reads_between_iff]
  rfl

/-- A boundary leads to the place at that offset. -/
theorem exists_ofOffset_eq {s : List Char} {n : Nat} (h : isBoundary s n = true) :
    ∃ front back, s = front ++ back ∧ n = byteSize front ∧ ofOffset s n = between front back := by
  obtain ⟨front, back, rfl, rfl⟩ := exists_append_of_isBoundary h
  exact ⟨front, back, rfl, rfl, ofOffset_append front back⟩

theorem text_ofOffset {s : List Char} {n : Nat} (h : isBoundary s n = true) :
    (ofOffset s n).text = s := by
  obtain ⟨front, back, rfl, rfl, hplace⟩ := exists_ofOffset_eq h
  rw [hplace, text_between]

theorem offset_ofOffset {s : List Char} {n : Nat} (h : isBoundary s n = true) :
    (ofOffset s n).offset = n := by
  obtain ⟨front, back, rfl, rfl, hplace⟩ := exists_ofOffset_eq h
  rw [hplace, offset_between]

/-- A place is found again by its offset. -/
theorem ofOffset_offset (p : Place) : ofOffset p.text p.offset = p := by
  have hplace : p = between p.before.reverse p.after := ext (List.reverse_reverse _).symm rfl
  rw [hplace, text_between, offset_between, ofOffset_append]

/-- A boundary is read up to from each boundary that is not behind it. -/
theorem exists_reads_ofOffset {s : List Char} {n m : Nat} (hn : isBoundary s n = true)
    (hm : isBoundary s m = true) (hle : n ≤ m) :
    ∃ xs, (ofOffset s n).Reads xs (ofOffset s m) := by
  obtain ⟨front, back, rfl, rfl, hplace⟩ := exists_ofOffset_eq hn
  obtain ⟨front', back', hsplit, rfl, hplace'⟩ := exists_ofOffset_eq hm
  rw [hplace, hplace']
  obtain ⟨xs, rfl, rfl⟩ := append_eq_append_of_byteSize hsplit.symm hle
  exact ⟨xs, reads_between_iff.mpr rfl⟩

/-- Of two places ahead, the one with the greater offset has less left. -/
theorem Reads.left_lt_of_offset_lt {p m q : Place} {xs ys : List Char} (h : p.Reads xs m)
    (h' : p.Reads ys q) (hlt : m.offset < q.offset) : q.left < m.left := by
  rw [h.offset_eq, h'.offset_eq] at hlt
  rcases List.prefix_or_prefix_of_prefix ⟨m.after, h.1.symm⟩ ⟨q.after, h'.1.symm⟩ with
    ⟨zs, rfl⟩ | ⟨zs, rfl⟩
  · have hzs : zs ≠ [] := by
      rintro rfl
      rw [List.append_nil] at hlt
      exact Nat.lt_irrefl _ hlt
    have := List.length_pos_iff.mpr hzs
    have hleft := h.left_eq
    have hleft' := h'.left_eq
    rw [List.length_append] at hleft'
    omega
  · rw [byteSize_append] at hlt
    omega

end Place

end Triptych
