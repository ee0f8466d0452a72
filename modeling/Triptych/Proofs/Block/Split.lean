import Triptych.Block
import Triptych.Proofs.Block.Groups
import Triptych.Proofs.Regex.Reading
import Triptych.Regex.Reader

/-!
# Splitting by lines

A block is cut by an expression that runs over the whole text and takes blanks and line
feeds on both sides of a sentinel.  The main statement is `split_eq_ofLines`: this cut
is the one that looks at the text line by line.

A match may take more lines than the one that holds the sentinel, and it need NOT take
all the blanks that it could.  What matters is that it begins where a line begins, ends
where a line ends, holds one sentinel, and that the search leaves none out.
-/

namespace Triptych

open Text

namespace Regex

theorem mem_ends_literal {xs : List Char} {p q : Place} :
    q ∈ (literal xs).ends p ↔ p.Reads xs q := by
  induction xs generalizing p with
  | nil =>
      rw [Place.reads_nil]
      exact mem_ends_empty
  | cons c xs ih =>
      rw [literal, mem_ends_seq, Place.reads_cons]
      refine exists_congr fun m => and_congr ?_ ih
      rw [mem_ends_char]
      constructor
      · rintro ⟨d, hd, hread⟩
        have hcd : d = c := by simpa [CharSet.contains] using hd
        rwa [← hcd]
      · intro hread
        exact ⟨c, by simp [CharSet.contains], hread⟩

end Regex

namespace Block

theorem mem_ends_blanks {p q : Place} :
    q ∈ blanks.ends p ↔ ∃ xs, Blank xs ∧ p.Reads xs q :=
  Regex.mem_ends_star_char

/-- What the expression for a sentinel line matches. -/
theorem mem_ends_sentinelLine {p q : Place} :
    q ∈ sentinelLine.ends p ↔ Anchor.lineStart.holds p = true ∧ Anchor.lineEnd.holds q = true ∧
      ∃ front back, Blank front ∧ Blank back ∧ p.Reads (front ++ sentinel ++ back) q := by
  unfold sentinelLine
  simp only [Regex.mem_ends_seq, Regex.mem_ends_anchor, mem_ends_blanks, Regex.mem_ends_literal]
  constructor
  · rintro ⟨_, ⟨hstart, rfl⟩, m, ⟨front, hfront, hread⟩, n, hsentinel, r,
      ⟨back, hback, hread'⟩, hend, rfl⟩
    exact ⟨hstart, hend, front, back, hfront, hback, (hread.trans hsentinel).trans hread'⟩
  · rintro ⟨hstart, hend, front, back, hfront, hback, hread⟩
    obtain ⟨n, hread, hread'⟩ := Place.reads_append.mp hread
    obtain ⟨m, hread, hsentinel⟩ := Place.reads_append.mp hread
    exact ⟨p, ⟨hstart, rfl⟩, m, ⟨front, hfront, hread⟩, n, hsentinel, q,
      ⟨back, hback, hread'⟩, hend, rfl⟩

/-- The expression is what this notation stands for: the two differ in how the parts of
the sequence are bracketed, and have the same matches in the same order. -/
theorem exists_parse?_sentinelLine :
    ∃ r, Regex.parse? "(?m)^\\s*---\\*---\\s*$".toList = some r ∧
      ∀ p, r.ends p = sentinelLine.ends p := by
  let dash := Regex.char (.oneOf ['-'])
  let star := Regex.char (.oneOf ['*'])
  refine ⟨.seq (.anchor .lineStart) (.seq blanks (.seq dash (.seq dash (.seq dash (.seq star
    (.seq dash (.seq dash (.seq dash (.seq blanks (.anchor .lineEnd)))))))))), ?_, ?_⟩
  · decide +kernel
  · intro p
    have hliteral : Regex.literal sentinel =
        .seq dash (.seq dash (.seq dash (.seq star (.seq dash (.seq dash (.seq dash .empty)))))) :=
      rfl
    unfold sentinelLine
    rw [hliteral]
    simp only [Regex.ends, List.flatMap_assoc, List.flatMap_singleton]

/-! ## Places where a line begins or ends -/

theorem lineEnd_iff {p : Place} :
    Anchor.lineEnd.holds p = true ↔ p.after = [] ∨ ∃ later, p.after = '\n' :: later := by
  show p.after.head?.all (· == '\n') = true ↔ _
  cases p.after with
  | nil => simp
  | cons c later => simp

theorem lineStart_iff {p : Place} :
    Anchor.lineStart.holds p = true ↔ p.before = [] ∨ ∃ earlier, p.before = '\n' :: earlier := by
  show p.before.head?.all (· == '\n') = true ↔ _
  cases p.before with
  | nil => simp
  | cons c earlier => simp

/-- A line begins at the place, or one ends there. -/
def AtLineBound (p : Place) : Prop :=
  Anchor.lineStart.holds p = true ∨ Anchor.lineEnd.holds p = true

/-- The expression matches in front of each sentinel line of a text that stands between
a line bound and the end of a line. -/
theorem exists_ends_of_isSentinel {p : Place} (hp : AtLineBound p) {s later line : List Char}
    (hafter : p.after = s ++ later) (hlater : later = [] ∨ ∃ more, later = '\n' :: more)
    (hline : line ∈ pieces s) (hsentinel : isSentinel line = true) :
    ∃ xs q, p.Reads xs q ∧ xs.length ≤ s.length ∧ sentinelLine.ends q ≠ [] := by
  obtain ⟨front, back, hs, hfront, hback⟩ := exists_append_of_mem_pieces hline
  have hsplit : p.after = front ++ (line ++ (back ++ later)) := by
    rw [hafter, hs]
    simp
  obtain ⟨q, hread, hq⟩ := Place.exists_reads hsplit
  obtain ⟨r, hread', hr⟩ := Place.exists_reads hq
  refine ⟨front, q, hread, ?_, ?_⟩
  · rw [hs]
    simp only [List.length_append]
    omega
  have hstart : Anchor.lineStart.holds q = true := by
    rcases hfront with rfl | ⟨earlier, rfl⟩
    · rw [Place.reads_nil.mp hread]
      refine hp.resolve_right fun hend => ?_
      -- a line that ends where it begins holds no sentinel
      have hne : line ≠ [] := by
        rintro rfl
        simp [isSentinel_of_blank blank_nil] at hsentinel
      obtain ⟨c, rest, rfl⟩ := List.exists_cons_of_ne_nil hne
      rw [lineEnd_iff, hsplit] at hend
      rcases hend with hend | ⟨more, hend⟩
      · simp at hend
      · have hc : c = '\n' := (List.cons.inj hend).1
        have hfeed := lineFeed_not_mem_of_mem_pieces hline
        rw [hc] at hfeed
        exact hfeed List.mem_cons_self
    · rw [lineStart_iff, hread.2]
      exact Or.inr ⟨earlier.reverse ++ p.before, by simp⟩
  have hend : Anchor.lineEnd.holds r = true := by
    rw [lineEnd_iff, hr]
    rcases hback with rfl | ⟨more, rfl⟩
    · simpa using hlater
    · exact Or.inr ⟨more ++ later, rfl⟩
  obtain ⟨before, behind, hbefore, hbehind, rfl⟩ := exists_blank_of_isSentinel hsentinel
  exact List.ne_nil_of_mem (mem_ends_sentinelLine.mpr
    ⟨hstart, hend, before, behind, hbefore, hbehind, hread'⟩)

/-! ## The cut -/

/-- A search that finds nothing leaves no sentinel line. -/
theorem isSentinel_eq_false_of_find?_eq_none {p : Place} (hp : AtLineBound p)
    (h : sentinelLine.find? p = none) :
    ∀ line ∈ pieces p.after, isSentinel line = false := by
  intro line hline
  refine Bool.eq_false_iff.mpr fun hsentinel => ?_
  obtain ⟨xs, q, hread, -, hends⟩ := exists_ends_of_isSentinel (s := p.after) hp
    (List.append_nil _).symm (Or.inl rfl) hline hsentinel
  exact hends (Regex.ends_eq_nil_of_find?_eq_none h hread)

/-- The texts from a line bound on: what stands before the match that is found, and the
texts from the end of that match on. -/
theorem texts_of_find?_eq_some {p start stop : Place} (hp : AtLineBound p)
    (h : sentinelLine.find? p = some (start, stop)) :
    stop.left < p.left ∧ AtLineBound stop ∧
      texts (pieces p.after) =
        trim (p.after.take (p.left - start.left)) :: texts (pieces stop.after) := by
  obtain ⟨xs, hread, hmatch, hbefore⟩ := Regex.exists_reads_of_find?_eq_some h
  obtain ⟨hstart, hend, front, back, hfront, hback, hread'⟩ := mem_ends_sentinelLine.mp hmatch
  have hskipped : p.after.take (p.left - start.left) = xs := by
    rw [hread.left_eq, Nat.add_sub_cancel, hread.1, List.take_left]
  have htexts : texts (pieces start.after) = [] :: texts (pieces stop.after) := by
    rw [hread'.1]
    exact texts_pieces_sentinel hfront hback (lineEnd_iff.mp hend)
  refine ⟨?_, Or.inr hend, ?_⟩
  · have hlength : 0 < sentinel.length := by decide
    rw [hread.left_eq, hread'.left_eq]
    simp only [List.length_append]
    omega
  rw [hskipped, hread.1]
  by_cases hempty : xs = []
  · rw [hempty, List.nil_append, htexts]
    rfl
  -- the match begins at the start of a line, so a line feed stands before it
  obtain ⟨ys, rfl⟩ : ∃ ys, xs = ys ++ ['\n'] := by
    obtain ⟨ys, c, rfl⟩ := List.eq_nil_or_concat xs |>.resolve_left hempty
    rcases lineStart_iff.mp hstart with hnone | ⟨earlier, hfeed⟩
    · simp [hread.2] at hnone
    · rw [hread.2] at hfeed
      simp at hfeed
      exact ⟨ys, by simp [hfeed.1]⟩
  -- a sentinel line in `ys` would have been found first
  have hclear : ∀ line ∈ pieces ys, isSentinel line = false := by
    intro line hline
    refine Bool.eq_false_iff.mpr fun hsentinel => ?_
    have hafter : p.after = ys ++ '\n' :: start.after := by simp [hread.1]
    obtain ⟨zs, q, hq, hlength, hends⟩ := exists_ends_of_isSentinel hp hafter
      (Or.inr ⟨_, rfl⟩) hline hsentinel
    exact hends (hbefore zs q hq (by simp; omega))
  rw [List.append_assoc, List.singleton_append, texts_pieces_lineFeed_append hclear htexts,
    trim_append_right blank_lineFeed]

/-- The pieces that the expression leaves from a line bound on. -/
theorem map_trim_pieces_sentinelLine {p : Place} (hp : AtLineBound p) :
    (sentinelLine.pieces p).map trim = texts (pieces p.after) := by
  -- each search starts at the end of a match, which is a line bound again
  induction hn : p.left using Nat.strongRecOn generalizing p with
  | _ n ih =>
      rw [Regex.pieces]
      cases hfind : sentinelLine.find? p with
      | none =>
          rw [texts_of_forall_not (isSentinel_eq_false_of_find?_eq_none hp hfind),
            joinLines_pieces]
          rfl
      | some found =>
          obtain ⟨start, stop⟩ := found
          obtain ⟨hlt, hstop, htexts⟩ := texts_of_find?_eq_some hp hfind
          dsimp only
          rw [if_pos hlt, List.map_cons, ih stop.left (hn ▸ hlt) hstop rfl, htexts]

theorem split_eq_ofPieces_texts (raw : List Char) :
    split raw = ofPieces (texts (pieces raw)) := by
  unfold split
  rw [map_trim_pieces_sentinelLine (Or.inl rfl)]
  rfl

/-! ## Blocks line by line -/

/-- A group of lines, joined and trimmed. -/
def groupText (lines : List (List Char)) (k : Nat) : List Char :=
  trim (joinLines (group lines k))

/-- The block that some lines make: there is room for two sentinel lines, and something
must stand before the first. -/
def ofLines (lines : List (List Char)) : Except BlockError Block :=
  if 2 < lines.countP isSentinel then
    .error (.tooManySegments (lines.countP isSentinel - 2))
  else if (groupText lines 0).isEmpty then .error .missingMarkup
  else .ok ⟨groupText lines 0, groupText lines 1, groupText lines 2⟩

theorem getD_texts (lines : List (List Char)) (k : Nat) :
    (texts lines)[k]?.getD [] = groupText lines k := by
  unfold texts groupText group
  rw [List.getElem?_map]
  cases (lines.splitOnP isSentinel)[k]? with
  | none => rfl
  | some group => rfl

theorem ofPieces_texts (lines : List (List Char)) : ofPieces (texts lines) = ofLines lines := by
  have hcount : lines.countP isSentinel = (texts lines).length - 1 := by
    rw [length_texts, Nat.add_sub_cancel]
  unfold ofLines
  rw [hcount]
  simp only [← getD_texts]
  -- one to three texts are the segments, more are too many
  match texts lines, texts_ne_nil lines with
  | [markup], _ => rfl
  | [markup, style], _ => rfl
  | [markup, style, script], _ => rfl
  | _ :: _ :: _ :: _ :: others, _ =>
      have hmany : 2 < others.length + 4 - 1 := by omega
      simp only [List.length_cons]
      rw [if_pos hmany]
      rfl

/-- In a block, the text of each segment is that of its group of lines, and there are as
many sentinel lines as there is room for. -/
theorem get_eq_groupText {raw : List Char} {block : Block} (h : split raw = .ok block) :
    (pieces raw).countP isSentinel ≤ 2 ∧
      ∀ kind, block.get kind = groupText (pieces raw) kind.index := by
  rw [split_eq_ofPieces_texts, ofPieces_texts] at h
  unfold ofLines at h
  split at h
  · simp at h
  · next hroom =>
      split at h
      · simp at h
      · obtain rfl := Except.ok.inj h
        refine ⟨by omega, fun kind => ?_⟩
        cases kind <;> rfl

/-- The cut by an expression over the whole text is the cut line by line. -/
theorem split_eq_ofLines (raw : List Char) : split raw = ofLines (pieces raw) := by
  rw [split_eq_ofPieces_texts, ofPieces_texts]

example : split "a\r\n---*---\r\n \n\t---*--- \n".toList = .ok ⟨['a'], [], []⟩ := by
  rw [split_eq_ofPieces_texts]
  rfl

end Block

end Triptych
