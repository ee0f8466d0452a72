import Triptych.Proofs.Text.Cutting
import Triptych.Proofs.Text.Trimming

/-!
# Line ends

The two ways of cutting a text into lines differ in the carriage returns before line
feeds.  Lines that have lost them make the text in which every carriage return with a
line feed has become a line feed alone.

This is said of lines that are all ended, the last one too.  For lines that are joined
it would NOT be true: the last piece of a text keeps its carriage return.
-/

namespace Triptych.Text

/-- Replace each carriage return that a line feed follows, together with that line
feed, by the line feed alone. -/
def unifyLineEnds : List Char → List Char
  | [] => []
  | c :: rest =>
      if c = '\r' ∧ rest.head? = some '\n' then unifyLineEnds rest
      else c :: unifyLineEnds rest

theorem unifyLineEnds_cons (c : Char) (rest : List Char) :
    unifyLineEnds (c :: rest) =
      if c = '\r' ∧ rest.head? = some '\n' then unifyLineEnds rest
      else c :: unifyLineEnds rest := rfl

/-- End every line with a line feed. -/
def endLines (lines : List (List Char)) : List Char :=
  lines.flatMap fun line => line ++ ['\n']

theorem endLines_cons (line : List Char) (others : List (List Char)) :
    endLines (line :: others) = line ++ '\n' :: endLines others := by
  unfold endLines
  rw [List.flatMap_cons, List.append_assoc, List.singleton_append]

/-- The last line feed is all that makes a difference. -/
theorem endLines_eq_joinLines {lines : List (List Char)} (hne : lines ≠ []) :
    endLines lines = joinLines lines ++ ['\n'] := by
  induction lines with
  | nil => exact absurd rfl hne
  | cons line others ih =>
      by_cases hothers : others = []
      · rw [hothers, endLines_cons]
        rfl
      · rw [endLines_cons, ih hothers, joinLines_cons line hothers]
        simp

theorem trim_endLines (lines : List (List Char)) : trim (endLines lines) = trim (joinLines lines) := by
  by_cases hne : lines = []
  · rw [hne]
    rfl
  · rw [endLines_eq_joinLines hne, trim_append_right blank_lineFeed]

/-! ## Carriage returns at the end of a line -/

/-- A line is what is left of it with at most one carriage return behind. -/
theorem exists_dropReturn_append (line : List Char) :
    ∃ back, Blank back ∧ line = dropReturn line ++ back := by
  unfold dropReturn
  by_cases h : line.getLast? = some '\r'
  · have hreturn : Blank ['\r'] := by
      intro c hc
      rw [List.mem_singleton.mp hc]
      rfl
    obtain ⟨front, rfl⟩ := List.getLast?_eq_some_iff.mp h
    refine ⟨['\r'], hreturn, ?_⟩
    rw [if_pos h, List.dropLast_concat]
  · refine ⟨[], blank_nil, ?_⟩
    rw [if_neg h, List.append_nil]

theorem trim_dropReturn (line : List Char) : trim (dropReturn line) = trim line := by
  obtain ⟨back, hback, hline⟩ := exists_dropReturn_append line
  calc
    trim (dropReturn line) = trim (dropReturn line ++ back) := (trim_append_right hback _).symm
    _ = trim line := by rw [← hline]

/-- The line feed takes the carriage return of its line with it. -/
theorem unifyLineEnds_append_lineFeed {line : List Char} (h : '\n' ∉ line) (back : List Char) :
    unifyLineEnds (line ++ '\n' :: back) = dropReturn line ++ '\n' :: unifyLineEnds back := by
  induction line with
  | nil => rfl
  | cons c line ih =>
      rw [List.mem_cons, not_or] at h
      rw [List.cons_append, unifyLineEnds_cons, ih h.2]
      -- only the last character stands before the line feed
      cases line with
      | nil =>
          by_cases hc : c = '\r'
          · simp [hc, dropReturn]
          · simp [hc, dropReturn]
      | cons d line =>
          have hd : d ≠ '\n' := by
            rintro rfl
            exact h.2 List.mem_cons_self
          have hlast : dropReturn (c :: d :: line) = c :: dropReturn (d :: line) := by
            unfold dropReturn
            rw [List.getLast?_cons_cons]
            split
            · rfl
            · rfl
          rw [if_neg (by simp [hd]), hlast, List.cons_append]

theorem unifyLineEnds_endLines {lines : List (List Char)} (h : ∀ line ∈ lines, '\n' ∉ line) :
    unifyLineEnds (endLines lines) = endLines (lines.map dropReturn) := by
  induction lines with
  | nil => rfl
  | cons line others ih =>
      obtain ⟨hline, hothers⟩ := List.forall_mem_cons.mp h
      rw [List.map_cons, endLines_cons, endLines_cons, unifyLineEnds_append_lineFeed hline,
        ih hothers]

/-! ## Trimming -/

theorem unifyLineEnds_eq_nil_iff {s : List Char} : unifyLineEnds s = [] ↔ s = [] := by
  induction s with
  | nil => exact ⟨fun _ => rfl, fun _ => rfl⟩
  | cons c rest ih =>
      rw [unifyLineEnds_cons]
      split
      · next h =>
          rw [ih]
          constructor
          · rintro rfl
            simp at h
          · intro hnil
            exact absurd hnil (List.cons_ne_nil c rest)
      · simp

theorem trimStart_unifyLineEnds (s : List Char) :
    trimStart (unifyLineEnds s) = unifyLineEnds (trimStart s) := by
  induction s with
  | nil => rfl
  | cons c rest ih =>
      rw [trimStart_cons, unifyLineEnds_cons]
      by_cases hc : isBlank c = true
      · rw [if_pos hc, ← ih]
        split
        · rfl
        · rw [trimStart_cons, if_pos hc]
      · -- a carriage return is blank, so this one stays
        have hstays : ¬ (c = '\r' ∧ rest.head? = some '\n') := by
          rintro ⟨rfl, -⟩
          exact hc rfl
        rw [if_neg hc, if_neg hstays, unifyLineEnds_cons, if_neg hstays, trimStart_cons, if_neg hc]

theorem trimEnd_unifyLineEnds (s : List Char) :
    trimEnd (unifyLineEnds s) = unifyLineEnds (trimEnd s) := by
  induction s with
  | nil => rfl
  | cons c rest ih =>
      have hempty : trimEnd (unifyLineEnds rest) = [] ↔ trimEnd rest = [] := by
        rw [ih, unifyLineEnds_eq_nil_iff]
      -- either all of `rest` is trimmed away, and `c` decides, or `c` is kept
      by_cases hrest : trimEnd rest = []
      · by_cases hc : isBlank c = true
        · have hnone : trimEnd (c :: rest) = [] := by rw [trimEnd_cons, if_pos ⟨hrest, hc⟩]
          rw [hnone, unifyLineEnds_cons]
          split
          · exact hempty.mpr hrest
          · rw [trimEnd_cons, if_pos ⟨hempty.mpr hrest, hc⟩]
            rfl
        · have hone : trimEnd (c :: rest) = [c] := by rw [trimEnd_cons, if_neg (by simp [hc]), hrest]
          have hstays : ¬ (c = '\r' ∧ rest.head? = some '\n') := by
            rintro ⟨rfl, -⟩
            exact hc rfl
          rw [hone, unifyLineEnds_cons, if_neg hstays, trimEnd_cons, if_neg (by simp [hc]), ih, hrest]
          simp [unifyLineEnds]
      · have hkept : trimEnd (c :: rest) = c :: trimEnd rest := by
          rw [trimEnd_cons, if_neg (by simp [hrest])]
        rw [hkept, unifyLineEnds_cons, unifyLineEnds_cons, head?_trimEnd hrest]
        split
        · exact ih
        · rw [trimEnd_cons, if_neg (by simp [hempty, hrest]), ih]

/-- It makes no difference which is done first. -/
theorem trim_unifyLineEnds (s : List Char) : trim (unifyLineEnds s) = unifyLineEnds (trim s) := by
  unfold trim
  rw [trimStart_unifyLineEnds, trimEnd_unifyLineEnds]

/-- Lines that have lost their carriage returns make the text with unified line ends. -/
theorem trim_joinLines_map_dropReturn {lines : List (List Char)}
    (h : ∀ line ∈ lines, '\n' ∉ line) :
    trim (joinLines (lines.map dropReturn)) = unifyLineEnds (trim (joinLines lines)) := by
  calc
    trim (joinLines (lines.map dropReturn)) = trim (endLines (lines.map dropReturn)) :=
      (trim_endLines _).symm
    _ = trim (unifyLineEnds (endLines lines)) := by rw [unifyLineEnds_endLines h]
    _ = unifyLineEnds (trim (endLines lines)) := trim_unifyLineEnds _
    _ = unifyLineEnds (trim (joinLines lines)) := by rw [trim_endLines]

/-! ## Lines and pieces -/

end Triptych.Text
