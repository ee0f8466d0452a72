import Triptych.Text.Lines

/-!
# Cutting at line feeds

Cutting a text at every line feed and joining the pieces are inverse to each other, on
pieces that hold no line feed.  Every piece stands in the text between two line feeds,
or between one and an end of the text.
-/

namespace Triptych.Text

theorem pieces_cons (c : Char) (rest : List Char) :
    pieces (c :: rest) = if c = '\n' then [] :: pieces rest else consFirst c (pieces rest) := rfl

theorem pieces_eq_splitOn (s : List Char) : pieces s = s.splitOn '\n' := by
  induction s with
  | nil => rfl
  | cons c rest ih =>
      rw [pieces_cons, List.splitOn_cons_eq_if_modifyHead, ← ih]
      by_cases hc : c = '\n'
      · rw [if_pos hc, if_pos (beq_iff_eq.mpr hc)]
      · have hne : pieces rest ≠ [] := by
          rw [ih]
          exact List.splitOn_ne_nil _ _
        obtain ⟨first, others, hcut⟩ := List.exists_cons_of_ne_nil hne
        rw [if_neg hc, if_neg (by simpa using hc), hcut]
        rfl

theorem joinLines_eq_intercalate (lines : List (List Char)) :
    joinLines lines = ['\n'].intercalate lines := by
  induction lines with
  | nil => rfl
  | cons line others ih =>
      cases others with
      | nil => simp [joinLines]
      | cons next others =>
          rw [List.intercalate_cons_cons, ← ih]
          simp [joinLines]

theorem pieces_ne_nil (s : List Char) : pieces s ≠ [] := by
  rw [pieces_eq_splitOn]
  exact List.splitOn_ne_nil _ _

theorem exists_pieces_eq_cons (s : List Char) : ∃ first others, pieces s = first :: others :=
  List.exists_cons_of_ne_nil (pieces_ne_nil s)

/-- Nothing of the text is lost by cutting it. -/
theorem joinLines_pieces (s : List Char) : joinLines (pieces s) = s := by
  rw [joinLines_eq_intercalate, pieces_eq_splitOn, List.intercalate_splitOn]

theorem pieces_joinLines {lines : List (List Char)} (hne : lines ≠ [])
    (hlines : ∀ line ∈ lines, '\n' ∉ line) : pieces (joinLines lines) = lines := by
  rw [joinLines_eq_intercalate, pieces_eq_splitOn, List.splitOn_intercalate _ hlines hne]

theorem joinLines_cons {lines : List (List Char)} (line : List Char) (hne : lines ≠ []) :
    joinLines (line :: lines) = line ++ '\n' :: joinLines lines := by
  obtain ⟨next, others, rfl⟩ := List.exists_cons_of_ne_nil hne
  rfl

theorem joinLines_nil_cons (lines : List (List Char)) :
    joinLines ([] :: lines) = [] ∨ ∃ more, joinLines ([] :: lines) = '\n' :: more := by
  cases lines with
  | nil => exact Or.inl rfl
  | cons line others => exact Or.inr ⟨_, rfl⟩

theorem joinLines_append_cons (front back : List Char) (lines : List (List Char)) :
    joinLines ((front ++ back) :: lines) = front ++ joinLines (back :: lines) := by
  cases lines with
  | nil => rfl
  | cons line others => exact List.append_assoc front back _

/-- What holds no line feed stands within a line. -/
theorem prefix_append_lineFeed {xs : List Char} (hxs : '\n' ∉ xs) (s more : List Char) :
    xs <+: s ++ '\n' :: more ↔ xs <+: s := by
  refine ⟨?_, fun h => h.trans (List.prefix_append ..)⟩
  rintro ⟨later, hlater⟩
  rcases List.append_eq_append_iff.mp hlater with ⟨tail, hs, -⟩ | ⟨tail, hxs', htail⟩
  · exact ⟨tail, hs.symm⟩
  · cases tail with
    | nil =>
        have hsame : xs = s := hxs'.trans (List.append_nil s)
        exact hsame ▸ List.prefix_refl xs
    | cons c tail =>
        obtain ⟨rfl, -⟩ := List.cons.inj htail
        exact absurd (by rw [hxs']; simp) hxs

/-- What holds no line feed stands within the first of some lines. -/
theorem prefix_joinLines {xs : List Char} (hxs : '\n' ∉ xs) (first : List Char)
    (others : List (List Char)) : xs <+: joinLines (first :: others) ↔ xs <+: first := by
  cases others with
  | nil => rfl
  | cons line others => exact prefix_append_lineFeed hxs first _

theorem joinLines_append {front back : List (List Char)} (hfront : front ≠ [])
    (hback : back ≠ []) :
    joinLines (front ++ back) = joinLines front ++ '\n' :: joinLines back := by
  induction front with
  | nil => exact absurd rfl hfront
  | cons line front ih =>
      by_cases hrest : front = []
      · rw [hrest, List.singleton_append, joinLines_cons line hback]
        rfl
      · have hne : front ++ back ≠ [] := by simp [hrest]
        rw [List.cons_append, joinLines_cons line hne, joinLines_cons line hrest, ih hrest]
        simp

theorem pieces_lineFeed_append (front back : List Char) :
    pieces (front ++ '\n' :: back) = pieces front ++ pieces back := by
  simp only [pieces_eq_splitOn, List.splitOn_append_cons_self]

/-- What holds no line feed goes to the front of the first piece. -/
theorem pieces_append_of_not_mem {front back first : List Char} {others : List (List Char)}
    (hfront : '\n' ∉ front) (hback : pieces back = first :: others) :
    pieces (front ++ back) = (front ++ first) :: others := by
  induction front with
  | nil => exact hback
  | cons c front ih =>
      rw [List.mem_cons, not_or] at hfront
      rw [List.cons_append, pieces_cons, if_neg (Ne.symm hfront.1), ih hfront.2]
      rfl

/-- No piece holds a line feed. -/
theorem lineFeed_not_mem_of_mem_pieces {s piece : List Char} (h : piece ∈ pieces s) :
    '\n' ∉ piece := by
  induction s generalizing piece with
  | nil =>
      rw [pieces, List.mem_singleton] at h
      simp [h]
  | cons c rest ih =>
      rw [pieces_cons] at h
      by_cases hc : c = '\n'
      · rw [if_pos hc, List.mem_cons] at h
        rcases h with rfl | h
        · simp
        · exact ih h
      · obtain ⟨first, others, hcut⟩ := exists_pieces_eq_cons rest
        rw [if_neg hc, hcut, consFirst, List.mem_cons] at h
        rcases h with rfl | h
        · rw [List.mem_cons, not_or]
          exact ⟨Ne.symm hc, ih (by rw [hcut]; exact List.mem_cons_self)⟩
        · exact ih (by rw [hcut]; exact List.mem_cons_of_mem _ h)

/-- Where two texts meet, the last piece of one and the first piece of the other become
one piece. -/
theorem pieces_append {s t last first : List Char} {init others : List (List Char)}
    (hs : pieces s = init ++ [last]) (ht : pieces t = first :: others) :
    pieces (s ++ t) = init ++ (last ++ first) :: others := by
  have hlast : last ∈ pieces s := by simp [hs]
  have hfirst : first ∈ pieces t := by simp [ht]
  have hmeet : pieces (last ++ t) = (last ++ first) :: others :=
    pieces_append_of_not_mem (lineFeed_not_mem_of_mem_pieces hlast) ht
  have hsplit : s = joinLines (init ++ [last]) := by rw [← hs, joinLines_pieces]
  -- the last line feed of `s` stands behind `init`, if there is one
  by_cases hinit : init = []
  · rw [hsplit, hinit]
    exact hmeet
  · have hfeed : ∀ line ∈ init, '\n' ∉ line := by
      intro line hline
      exact lineFeed_not_mem_of_mem_pieces (by rw [hs]; exact List.mem_append_left _ hline)
    rw [hsplit, joinLines_append hinit (List.cons_ne_nil last []), List.append_assoc]
    show pieces (joinLines init ++ '\n' :: (last ++ t)) = _
    rw [pieces_lineFeed_append, pieces_joinLines hinit hfeed, hmeet]

/-- Where a piece stands in its text. -/
theorem exists_append_of_mem_pieces {s piece : List Char} (h : piece ∈ pieces s) :
    ∃ front back, s = front ++ piece ++ back ∧
      (front = [] ∨ ∃ earlier, front = earlier ++ ['\n']) ∧
      (back = [] ∨ ∃ later, back = '\n' :: later) := by
  obtain ⟨before, behind, hcut⟩ := List.append_of_mem h
  have hs : s = joinLines (before ++ piece :: behind) := by rw [← hcut, joinLines_pieces]
  have hbehind : ∃ back, joinLines (piece :: behind) = piece ++ back ∧
      (back = [] ∨ ∃ later, back = '\n' :: later) := by
    by_cases hnone : behind = []
    · exact ⟨[], by simp [hnone, joinLines], Or.inl rfl⟩
    · exact ⟨'\n' :: joinLines behind, joinLines_cons piece hnone, Or.inr ⟨_, rfl⟩⟩
  obtain ⟨back, hback, hshape⟩ := hbehind
  by_cases hnone : before = []
  · refine ⟨[], back, ?_, Or.inl rfl, hshape⟩
    rw [hs, hnone, List.nil_append, hback, List.nil_append]
  · refine ⟨joinLines before ++ ['\n'], back, ?_, Or.inr ⟨_, rfl⟩, hshape⟩
    rw [hs, joinLines_append hnone (by simp), hback]
    simp

end Triptych.Text
