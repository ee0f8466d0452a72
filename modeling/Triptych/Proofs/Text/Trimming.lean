import Triptych.Text.Blank

/-!
# Trimming

Trimming takes blanks from the two ends of a text, as many as there are, and nothing
else.  So blanks that are put around a text do NOT change what trimming leaves of it,
and this is all that later modules use of the definition.
-/

namespace Triptych.Text

/-- Nothing but blanks. -/
def Blank (s : List Char) : Prop := ∀ c ∈ s, isBlank c = true

theorem blank_nil : Blank [] := by simp [Blank]

theorem blank_lineFeed : Blank ['\n'] := by
  intro c hc
  rw [List.mem_singleton.mp hc]
  rfl

theorem blank_append {s t : List Char} : Blank (s ++ t) ↔ Blank s ∧ Blank t := by
  unfold Blank
  exact List.forall_mem_append

theorem blank_cons {c : Char} {s : List Char} : Blank (c :: s) ↔ isBlank c = true ∧ Blank s := by
  unfold Blank
  exact List.forall_mem_cons

theorem trim_nil : trim [] = [] := rfl

theorem trimStart_cons (c : Char) (rest : List Char) :
    trimStart (c :: rest) = if isBlank c = true then trimStart rest else c :: rest := by
  unfold trimStart
  rw [List.dropWhile_cons]

theorem trimEnd_cons (c : Char) (rest : List Char) :
    trimEnd (c :: rest) =
      if trimEnd rest = [] ∧ isBlank c = true then [] else c :: trimEnd rest := by
  unfold trimEnd
  rw [List.reverse_cons, List.dropWhile_append]
  by_cases hrest : rest.reverse.dropWhile isBlank = []
  · by_cases hc : isBlank c = true
    · simp [hrest, hc]
    · simp [hrest, hc]
  · simp [hrest]

/-- What is left begins where the text begins. -/
theorem head?_trimEnd {s : List Char} (h : trimEnd s ≠ []) : (trimEnd s).head? = s.head? := by
  cases s with
  | nil => rfl
  | cons c rest =>
      rw [trimEnd_cons] at h ⊢
      split
      · next hblank => exact absurd (if_pos hblank) h
      · rfl

/-- Blanks in front do not count. -/
theorem trim_append_left {s : List Char} (hs : Blank s) (t : List Char) :
    trim (s ++ t) = trim t := by
  unfold trim trimStart
  rw [List.dropWhile_append_of_pos hs]

theorem trimEnd_append_right {t : List Char} (ht : Blank t) (s : List Char) :
    trimEnd (s ++ t) = trimEnd s := by
  have hreverse : ∀ c ∈ t.reverse, isBlank c = true := by
    intro c hc
    exact ht c (List.mem_reverse.mp hc)
  unfold trimEnd
  rw [List.reverse_append, List.dropWhile_append_of_pos hreverse]

/-- Blanks at the end do not count. -/
theorem trim_append_right {t : List Char} (ht : Blank t) (s : List Char) :
    trim (s ++ t) = trim s := by
  unfold trim
  by_cases hs : (s.dropWhile isBlank).isEmpty
  · -- `s` is blank, so that the blanks of `t` are dropped from the front
    have hempty : s.dropWhile isBlank = [] := List.isEmpty_iff.mp hs
    have hdropped : trimStart t = [] := by
      unfold trimStart
      rw [← List.append_nil t, List.dropWhile_append_of_pos ht, List.dropWhile_nil]
    have hsplit : trimStart (s ++ t) = trimStart t := by
      unfold trimStart
      rw [List.dropWhile_append, if_pos hs]
    rw [hsplit, hdropped]
    unfold trimStart
    rw [hempty]
  · have hsplit : trimStart (s ++ t) = trimStart s ++ t := by
      unfold trimStart
      rw [List.dropWhile_append, if_neg hs]
    rw [hsplit, trimEnd_append_right ht]

/-- A text is what trimming leaves of it, with blanks around. -/
theorem exists_blank_append_trim (s : List Char) :
    ∃ front back, Blank front ∧ Blank back ∧ s = front ++ trim s ++ back := by
  have htaken : ∀ t : List Char, Blank (t.takeWhile isBlank) := by
    intro t c hc
    exact List.all_eq_true.mp List.all_takeWhile c hc
  have hback : trimStart s =
      trimEnd (trimStart s) ++ ((trimStart s).reverse.takeWhile isBlank).reverse := by
    unfold trimEnd
    rw [← List.reverse_append, List.takeWhile_append_dropWhile, List.reverse_reverse]
  refine ⟨s.takeWhile isBlank, ((trimStart s).reverse.takeWhile isBlank).reverse, htaken s, ?_, ?_⟩
  · intro c hc
    exact htaken _ c (List.mem_reverse.mp hc)
  · have hfront : s = s.takeWhile isBlank ++ trimStart s :=
      List.takeWhile_append_dropWhile.symm
    rw [List.append_assoc]
    show s = s.takeWhile isBlank ++ (trimEnd (trimStart s) ++ _)
    rw [← hback]
    exact hfront

/-- Trimming a second time changes nothing. -/
theorem trim_trim (s : List Char) : trim (trim s) = trim s := by
  obtain ⟨front, back, hfront, hback, hs⟩ := exists_blank_append_trim s
  calc
    trim (trim s) = trim (front ++ trim s ++ back) := by
      rw [trim_append_right hback, trim_append_left hfront]
    _ = trim s := by rw [← hs]

/-- Nothing is left exactly if there was nothing but blanks. -/
theorem trim_eq_nil_iff {s : List Char} : trim s = [] ↔ Blank s := by
  constructor
  · intro h
    obtain ⟨front, back, hfront, hback, hs⟩ := exists_blank_append_trim s
    rw [h, List.append_nil] at hs
    rw [hs]
    exact blank_append.mpr ⟨hfront, hback⟩
  · intro h
    have := trim_append_left h []
    rwa [List.append_nil, trim_nil] at this

end Triptych.Text
