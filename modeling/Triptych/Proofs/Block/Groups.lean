import Triptych.Proofs.Text.Cutting
import Triptych.Proofs.Text.Trimming
import Triptych.Sentinel

/-!
# Groups of lines

The sentinel lines of a text part its other lines into groups.  `group` is one of them,
and `texts` gives what is left of each when its lines are joined and trimmed.

Blanks that are put in front of a text do NOT change these texts, even if there are
line feeds among the blanks: they make a blank line, which joins the group that comes
first, or they go to the front of the first line, which stays a sentinel line if it is
one.
-/

namespace Triptych

open Text

/-! ## Sentinel lines -/

theorem isSentinel_iff {line : List Char} : isSentinel line = true ↔ trim line = sentinel := by
  unfold isSentinel
  exact beq_iff_eq

/-- Only what trimming leaves of a line counts. -/
theorem isSentinel_congr {line line' : List Char} (h : trim line = trim line') :
    isSentinel line = isSentinel line' := by
  unfold isSentinel
  rw [h]

theorem isSentinel_of_blank {line : List Char} (h : Blank line) : isSentinel line = false := by
  unfold isSentinel
  rw [trim_eq_nil_iff.mpr h]
  rfl

theorem isSentinel_append_blank {back : List Char} (h : Blank back) :
    isSentinel (sentinel ++ back) = true := by
  rw [isSentinel_iff, trim_append_right h]
  rfl

/-- A sentinel line is the sentinel with blanks around it. -/
theorem exists_blank_of_isSentinel {line : List Char} (h : isSentinel line = true) :
    ∃ front back, Blank front ∧ Blank back ∧ line = front ++ sentinel ++ back := by
  obtain ⟨front, back, hfront, hback, hline⟩ := exists_blank_append_trim line
  rw [isSentinel_iff.mp h] at hline
  exact ⟨front, back, hfront, hback, hline⟩

theorem lineFeed_not_mem_sentinel : '\n' ∉ sentinel := by decide

namespace Block

/-- The texts of the groups of lines that stand between the sentinel lines, trimmed. -/
def texts (lines : List (List Char)) : List (List Char) :=
  (lines.splitOnP isSentinel).map fun group => trim (joinLines group)

theorem texts_ne_nil (lines : List (List Char)) : texts lines ≠ [] := by
  unfold texts
  simp [List.splitOnP_ne_nil]

theorem length_splitOnP_isSentinel (lines : List (List Char)) :
    (lines.splitOnP isSentinel).length = lines.countP isSentinel + 1 := by
  induction lines with
  | nil => rfl
  | cons line rest ih =>
      rw [List.splitOnP_cons_eq_if_modifyHead, List.countP_cons]
      by_cases h : isSentinel line = true
      · rw [if_pos h, if_pos h, List.length_cons, ih]
      · rw [if_neg h, if_neg h, List.length_modifyHead, ih]

theorem length_texts (lines : List (List Char)) :
    (texts lines).length = lines.countP isSentinel + 1 := by
  unfold texts
  rw [List.length_map, length_splitOnP_isSentinel]

/-- Lines without a sentinel among them are one group. -/
theorem texts_of_forall_not {lines : List (List Char)}
    (h : ∀ line ∈ lines, isSentinel line = false) : texts lines = [trim (joinLines lines)] := by
  unfold texts
  rw [List.splitOnP_eq_singleton h]
  rfl

theorem texts_cons_of_isSentinel {line : List Char} (rest : List (List Char))
    (h : isSentinel line = true) : texts (line :: rest) = [] :: texts rest := by
  unfold texts
  rw [List.splitOnP_cons_eq_if_modifyHead, if_pos h]
  rfl

/-- Lines without a sentinel among them join the first group of those that follow. -/
theorem splitOnP_append_of_forall_not {front : List (List Char)}
    (h : ∀ line ∈ front, isSentinel line = false) (back : List (List Char)) :
    (front ++ back).splitOnP isSentinel =
      (back.splitOnP isSentinel).modifyHead (front ++ ·) := by
  induction front with
  | nil =>
      obtain ⟨group, groups, hback⟩ :=
        List.exists_cons_of_ne_nil (List.splitOnP_ne_nil isSentinel back)
      rw [List.nil_append, hback]
      rfl
  | cons line front ih =>
      obtain ⟨hline, hfront⟩ := List.forall_mem_cons.mp h
      obtain ⟨group, groups, hback⟩ :=
        List.exists_cons_of_ne_nil (List.splitOnP_ne_nil isSentinel back)
      rw [List.cons_append, List.splitOnP_cons_eq_if_modifyHead, if_neg (by simp [hline]),
        ih hfront, hback]
      rfl

theorem texts_append_of_forall_not {front back group : List (List Char)}
    {groups : List (List (List Char))} (h : ∀ line ∈ front, isSentinel line = false)
    (hback : back.splitOnP isSentinel = group :: groups) :
    texts (front ++ back) =
      trim (joinLines (front ++ group)) :: groups.map fun group => trim (joinLines group) := by
  unfold texts
  rw [splitOnP_append_of_forall_not h, hback]
  rfl

theorem exists_splitOnP_eq_cons (lines : List (List Char)) :
    ∃ group groups, lines.splitOnP isSentinel = group :: groups :=
  List.exists_cons_of_ne_nil (List.splitOnP_ne_nil isSentinel lines)

/-! ## One group -/

/-- The lines that `k` sentinel lines precede, without the sentinel lines; nothing if
there are not so many. -/
def group (lines : List (List Char)) (k : Nat) : List (List Char) :=
  (lines.splitOnP isSentinel)[k]?.getD []

theorem group_nil (k : Nat) : group [] k = [] := by
  cases k with
  | zero => rfl
  | succ k => rfl

/-- A sentinel line ends the first group, and any other line belongs to it. -/
theorem group_cons (line : List Char) (rest : List (List Char)) (k : Nat) :
    group (line :: rest) k =
      match isSentinel line, k with
      | true, 0 => []
      | true, k + 1 => group rest k
      | false, 0 => line :: group rest 0
      | false, k + 1 => group rest (k + 1) := by
  obtain ⟨first, groups, hrest⟩ := exists_splitOnP_eq_cons rest
  unfold group
  rw [List.splitOnP_cons_eq_if_modifyHead, hrest]
  cases isSentinel line with
  | true =>
      cases k with
      | zero => rfl
      | succ k => rfl
  | false =>
      cases k with
      | zero => rfl
      | succ k => rfl

/-- A group is made of lines that are no sentinels. -/
theorem mem_of_mem_group {lines : List (List Char)} {k : Nat} {line : List Char}
    (h : line ∈ group lines k) : line ∈ lines ∧ isSentinel line = false := by
  induction lines generalizing k with
  | nil =>
      rw [group_nil] at h
      exact absurd h List.not_mem_nil
  | cons first rest ih =>
      have hlater : ∀ {k}, line ∈ group rest k → line ∈ first :: rest ∧ isSentinel line = false :=
        fun h => ⟨List.mem_cons_of_mem _ (ih h).1, (ih h).2⟩
      rw [group_cons] at h
      cases hfirst : isSentinel first with
      | true =>
          rw [hfirst] at h
          cases k with
          | zero => exact absurd h List.not_mem_nil
          | succ k => exact hlater h
      | false =>
          rw [hfirst] at h
          cases k with
          | zero =>
              rcases List.mem_cons.mp h with rfl | h
              · exact ⟨List.mem_cons_self, hfirst⟩
              · exact hlater h
          | succ k => exact hlater h

/-! ## Blanks do not count -/

theorem trim_joinLines_cons_of_blank {line : List Char} (h : Blank line)
    (lines : List (List Char)) : trim (joinLines (line :: lines)) = trim (joinLines lines) := by
  by_cases hne : lines = []
  · rw [hne]
    exact trim_eq_nil_iff.mpr h
  · have hfront : Blank (line ++ ['\n']) := blank_append.mpr ⟨h, blank_lineFeed⟩
    calc
      trim (joinLines (line :: lines)) = trim ((line ++ ['\n']) ++ joinLines lines) := by
        rw [joinLines_cons line hne, List.append_assoc, List.singleton_append]
      _ = trim (joinLines lines) := trim_append_left hfront _

/-- A blank line in front changes nothing. -/
theorem texts_cons_of_blank {line : List Char} (h : Blank line) (lines : List (List Char)) :
    texts (line :: lines) = texts lines := by
  have hline : ∀ l ∈ [line], isSentinel l = false := by
    intro l hl
    rw [List.mem_singleton.mp hl]
    exact isSentinel_of_blank h
  obtain ⟨group, groups, hlines⟩ := exists_splitOnP_eq_cons lines
  rw [← List.singleton_append, texts_append_of_forall_not hline hlines, List.singleton_append,
    trim_joinLines_cons_of_blank h]
  unfold texts
  rw [hlines]
  rfl

/-- A blank in front of the first line changes nothing. -/
theorem texts_blank_cons {c : Char} (hc : isBlank c = true) (line : List Char)
    (lines : List (List Char)) : texts ((c :: line) :: lines) = texts (line :: lines) := by
  have hblank : Blank [c] := blank_cons.mpr ⟨hc, blank_nil⟩
  have hsame : isSentinel (c :: line) = isSentinel line :=
    isSentinel_congr (trim_append_left hblank line)
  -- the blank goes with a sentinel line, or to the front of the first text
  by_cases hline : isSentinel line = true
  · rw [texts_cons_of_isSentinel lines hline,
      texts_cons_of_isSentinel lines (hsame.trans hline)]
  · have hline' : isSentinel line = false := by simpa using hline
    obtain ⟨group, groups, hlines⟩ := exists_splitOnP_eq_cons lines
    have hjoin : joinLines ((c :: line) :: group) = [c] ++ joinLines (line :: group) := by
      cases group with
      | nil => rfl
      | cons next others => rfl
    have hfirst : ∀ l ∈ [c :: line], isSentinel l = false := by
      simpa using hsame.trans hline'
    have hsecond : ∀ l ∈ [line], isSentinel l = false := by simpa using hline'
    have htexts := texts_append_of_forall_not hfirst hlines
    rw [List.singleton_append, List.singleton_append, hjoin, trim_append_left hblank] at htexts
    rw [htexts]
    exact (texts_append_of_forall_not hsecond hlines).symm

/-- Blanks in front of a text change nothing. -/
theorem texts_pieces_append_left {front : List Char} (h : Blank front) (s : List Char) :
    texts (pieces (front ++ s)) = texts (pieces s) := by
  induction front with
  | nil => rfl
  | cons c front ih =>
      obtain ⟨hc, hfront⟩ := blank_cons.mp h
      rw [← ih hfront, List.cons_append, pieces_cons]
      by_cases hfeed : c = '\n'
      · rw [if_pos hfeed, texts_cons_of_blank blank_nil]
      · obtain ⟨first, others, hcut⟩ := exists_pieces_eq_cons (front ++ s)
        rw [if_neg hfeed, hcut]
        exact texts_blank_cons hc first others

/-- Blanks behind a text make no sentinel line and spoil none. -/
theorem countP_pieces_append_right {back : List Char} (h : Blank back) (s : List Char) :
    (pieces (s ++ back)).countP isSentinel = (pieces s).countP isSentinel := by
  obtain ⟨init, last, hs⟩ := List.eq_nil_or_concat (pieces s) |>.resolve_left (pieces_ne_nil s)
  obtain ⟨first, others, hback⟩ := exists_pieces_eq_cons back
  have hblank : ∀ line ∈ first :: others, Blank line := by
    intro line hline c hc
    obtain ⟨before, behind, hplace, -⟩ := exists_append_of_mem_pieces (hback ▸ hline)
    exact h c (by simp [hplace, hc])
  -- the first of the blank pieces goes to the last line of `s`, the others stay alone
  obtain ⟨hfirst, hothers⟩ := List.forall_mem_cons.mp hblank
  have hnone : others.countP isSentinel = 0 := by
    rw [List.countP_eq_zero]
    intro line hline
    simp [isSentinel_of_blank (hothers line hline)]
  have hmeet : isSentinel (last ++ first) = isSentinel last :=
    isSentinel_congr (trim_append_right hfirst last)
  rw [List.concat_eq_append] at hs
  rw [pieces_append hs hback, hs, List.countP_append, List.countP_append, List.countP_cons,
    List.countP_cons, hmeet, hnone]
  rfl

/-- Trimming leaves all sentinel lines where they are. -/
theorem countP_pieces_trim (s : List Char) :
    (pieces (trim s)).countP isSentinel = (pieces s).countP isSentinel := by
  obtain ⟨front, back, hfront, hback, hs⟩ := exists_blank_append_trim s
  have hfewer : (pieces (front ++ trim s)).countP isSentinel =
      (pieces (trim s)).countP isSentinel := by
    have hlength := congrArg List.length (texts_pieces_append_left hfront (trim s))
    rw [length_texts, length_texts] at hlength
    omega
  calc
    (pieces (trim s)).countP isSentinel = (pieces (front ++ trim s)).countP isSentinel :=
      hfewer.symm
    _ = (pieces (front ++ trim s ++ back)).countP isSentinel :=
      (countP_pieces_append_right hback _).symm
    _ = (pieces s).countP isSentinel := by rw [← hs]

/-- Where a line ends behind blanks, the first line is blank. -/
theorem exists_pieces_eq_blank_cons {front back : List Char} (h : Blank front)
    (hback : back = [] ∨ ∃ later, back = '\n' :: later) :
    ∃ first others, pieces (front ++ back) = first :: others ∧ Blank first := by
  induction front with
  | nil =>
      rcases hback with rfl | ⟨later, rfl⟩
      · exact ⟨[], [], rfl, blank_nil⟩
      · exact ⟨[], pieces later, rfl, blank_nil⟩
  | cons c front ih =>
      obtain ⟨hc, hfront⟩ := blank_cons.mp h
      obtain ⟨first, others, hcut, hfirst⟩ := ih hfront
      rw [List.cons_append, pieces_cons]
      by_cases hfeed : c = '\n'
      · exact ⟨[], pieces (front ++ back), if_pos hfeed, blank_nil⟩
      · refine ⟨c :: first, others, ?_, blank_cons.mpr ⟨hc, hfirst⟩⟩
        rw [if_neg hfeed, hcut]
        rfl

/-- A sentinel that stands alone in its line, with blanks and lines of blanks around it,
parts nothing from what follows. -/
theorem texts_pieces_sentinel {front between back : List Char} (hfront : Blank front)
    (hbetween : Blank between) (hback : back = [] ∨ ∃ later, back = '\n' :: later) :
    texts (pieces (front ++ sentinel ++ between ++ back)) = [] :: texts (pieces back) := by
  obtain ⟨first, others, hcut, hfirst⟩ := exists_pieces_eq_blank_cons hbetween hback
  have hothers : texts others = texts (pieces back) := by
    rw [← texts_cons_of_blank hfirst others, ← hcut, texts_pieces_append_left hbetween]
  rw [List.append_assoc, List.append_assoc, texts_pieces_append_left hfront,
    pieces_append_of_not_mem lineFeed_not_mem_sentinel hcut,
    texts_cons_of_isSentinel others (isSentinel_append_blank hfirst), hothers]

/-- Lines without a sentinel in front of a sentinel line. -/
theorem texts_pieces_lineFeed_append {front back : List Char} {others : List (List Char)}
    (h : ∀ line ∈ pieces front, isSentinel line = false)
    (hback : texts (pieces back) = [] :: others) :
    texts (pieces (front ++ '\n' :: back)) = trim front :: others := by
  obtain ⟨group, groups, hcut⟩ := exists_splitOnP_eq_cons (pieces back)
  unfold texts at hback
  rw [hcut, List.map_cons, List.cons.injEq, trim_eq_nil_iff] at hback
  obtain ⟨hgroup, hothers⟩ := hback
  rw [pieces_lineFeed_append, texts_append_of_forall_not h hcut, hothers]
  -- what stands between the line feed and the sentinel line is blank
  congr 1
  by_cases hempty : group = []
  · rw [hempty, List.append_nil, joinLines_pieces]
  · have hblank : Blank ('\n' :: joinLines group) := blank_append.mpr ⟨blank_lineFeed, hgroup⟩
    rw [joinLines_append (pieces_ne_nil front) hempty, joinLines_pieces,
      trim_append_right hblank]

end Block

end Triptych
