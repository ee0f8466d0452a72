import Mathlib.Data.List.Induction
import Triptych.Proofs.Text.Cutting
import Triptych.Rule

/-!
# Delimiters

A construct may be opened by one text and closed by another.  In what follows its opening, the
closing is looked for from left to right, where the character after an escape does not count:
not even if it is an escape itself.  So a closing counts if the run of escapes directly before
it has an even length.

The scan is of the WHOLE text.  Lines come in only since no delimiter holds a line feed and no
line feed is an escape, so that a text can be scanned line by line.
-/

namespace Triptych

open Text

/-- The texts that a construct is between, and what its rule says besides.  Each lies within a
line, and an escaped closing is too short to overlap another one. -/
structure Delimiters where
  opening : List Char
  closing : List Char
  kind : TokenClass
  escape : Option Char
  id : UInt8
  opening_ne_nil : opening ≠ [] := by decide
  closing_ne_nil : closing ≠ [] := by decide
  lineFeed_not_mem_opening : '\n' ∉ opening := by decide
  lineFeed_not_mem_closing : '\n' ∉ closing := by decide
  escape_ne_lineFeed : escape ≠ some '\n' := by decide
  escape_eq_none_or : escape = none ∨ closing.length = 1 := by decide
  id_ne_zero : id ≠ 0 := by decide

namespace Delimiters

/-- The next character does not count, after `c` has been read. -/
def skips (d : Delimiters) (skipping : Bool) (c : Char) : Bool := !skipping && d.escape == some c

/-- Scan a text from left to right up to the end of the first closing that counts: what has
been read, and what is left.  The first character does not count if `skipping`. -/
def skim (d : Delimiters) : Bool → List Char → Option (List Char × List Char)
  | _, [] => none
  | skipping, c :: rest =>
      if !skipping && d.closing.isPrefixOf (c :: rest) then
        some (d.closing, (c :: rest).drop d.closing.length)
      else
        (d.skim (d.skips skipping c) rest).map fun (within, after) => (c :: within, after)

/-- How many escapes a text ends with. -/
def run (d : Delimiters) (s : List Char) : Nat :=
  (s.reverse.takeWhile fun c => d.escape == some c).length

/-- In `body`, the first closing after an even run of escapes stands between `within` and
`after`. -/
structure FirstClosing (d : Delimiters) (body within after : List Char) : Prop where
  body_eq : body = within ++ (d.closing ++ after)
  even : d.run within % 2 = 0
  least : ∀ earlier later, body = earlier ++ (d.closing ++ later) → d.run earlier % 2 = 0 →
    within.length ≤ earlier.length

/-- Whether the next character is skipped, after a text has been read. -/
def skipsAfter (d : Delimiters) (skipping : Bool) (s : List Char) : Bool :=
  s.foldl d.skips skipping

section Skim

variable {d : Delimiters} {skipping : Bool} {s rest within after : List Char}

theorem skipsAfter_append (skipping : Bool) (s t : List Char) :
    d.skipsAfter skipping (s ++ t) = d.skipsAfter (d.skipsAfter skipping s) t :=
  List.foldl_append

/-! ## Runs of escapes -/

theorem run_append_singleton (s : List Char) (c : Char) :
    d.run (s ++ [c]) = if d.escape == some c then d.run s + 1 else 0 := by
  unfold run
  rw [List.reverse_append, List.reverse_singleton, List.singleton_append, List.takeWhile_cons]
  split <;> rfl

/-- A character is skipped if an odd run of escapes stands before it. -/
theorem skipsAfter_eq_run (s : List Char) : d.skipsAfter false s = (d.run s % 2 == 1) := by
  induction s using List.reverseRecOn with
  | nil => rfl
  | append_singleton s c ih =>
      rw [skipsAfter_append, ih, run_append_singleton]
      show (!(d.run s % 2 == 1) && d.escape == some c) = _
      by_cases hescape : (d.escape == some c) = true
      · rw [if_pos hescape, hescape, Bool.and_true]
        rcases Nat.mod_two_eq_zero_or_one (d.run s) with heven | hodd
        · simp [heven, Nat.add_mod]
        · simp [hodd, Nat.add_mod]
      · rw [if_neg hescape]
        simp [hescape]

theorem skipsAfter_eq_false_iff (s : List Char) :
    d.skipsAfter false s = false ↔ d.run s % 2 = 0 := by
  rw [skipsAfter_eq_run]
  rcases Nat.mod_two_eq_zero_or_one (d.run s) with heven | hodd
  · simp [heven]
  · simp [hodd]

/-- Where a character is skipped there are escapes, so the closing has one character. -/
theorem exists_closing_eq (h : d.skipsAfter false s = true) : ∃ c, d.closing = [c] := by
  refine List.length_eq_one_iff.mp (d.escape_eq_none_or.resolve_left fun hnone => ?_)
  have hrun : d.run s = 0 := by
    unfold run
    rw [hnone]
    cases s.reverse <;> rfl
  rw [skipsAfter_eq_run, hrun] at h
  cases h

/-! ## Scanning -/

theorem skim_nil (skipping : Bool) : d.skim skipping [] = none := rfl

/-- A closing that counts ends the scan. -/
theorem skim_closing (rest : List Char) :
    d.skim false (d.closing ++ rest) = some (d.closing, rest) := by
  obtain ⟨c, more, hclosing⟩ := List.exists_cons_of_ne_nil d.closing_ne_nil
  have hbegins : d.closing.isPrefixOf (c :: (more ++ rest)) = true := by
    rw [List.isPrefixOf_iff_prefix, ← List.cons_append, ← hclosing]
    exact List.prefix_append d.closing rest
  have hlist : d.closing ++ rest = c :: (more ++ rest) := by
    rw [hclosing, List.cons_append]
  rw [hlist, skim, if_pos (by rw [hbegins]; rfl), ← hlist, List.drop_left]

/-- The scan goes on over a character where no closing counts. -/
theorem skim_cons {c : Char} (h : skipping = false → ¬ d.closing <+: c :: rest) :
    d.skim skipping (c :: rest) =
      (d.skim (d.skips skipping c) rest).map fun (within, after) => (c :: within, after) := by
  have hnot : ¬ (!skipping && d.closing.isPrefixOf (c :: rest)) = true := by
    rw [Bool.and_eq_true, Bool.not_eq_true', List.isPrefixOf_iff_prefix, not_and]
    exact h
  rw [skim, if_neg hnot]

/-- Where no closing begins, the scan goes on to the end of a text. -/
theorem skim_append (hpass : ∀ c front back, s = front ++ c :: back →
      ¬ d.closing <+: c :: (back ++ rest)) :
    d.skim skipping (s ++ rest) =
      (d.skim (d.skipsAfter skipping s) rest).map fun (within, after) => (s ++ within, after) := by
  induction s generalizing skipping with
  | nil =>
      show d.skim skipping rest = (d.skim skipping rest).map fun (within, after) => (within, after)
      cases d.skim skipping rest <;> rfl
  | cons c s ih =>
      rw [List.cons_append, skim_cons fun _ => hpass c [] s rfl, ih, Option.map_map]
      · rfl
      · intro e front back hs
        exact hpass e (c :: front) back (by rw [hs]; rfl)

/-- The first closing is passed over if it does not count, and no other one overlaps it. -/
theorem skim_escaped {inside front : List Char}
    (hskips : d.skipsAfter false (inside ++ front) = true)
    (hleast : ∀ earlier later, front ++ (d.closing ++ rest) = earlier ++ (d.closing ++ later) →
      front.length ≤ earlier.length) :
    d.skim (d.skipsAfter false inside) (front ++ (d.closing ++ rest)) =
      (d.skim (d.skipsAfter false (inside ++ (front ++ d.closing))) rest).map
        fun (within, after) => (front ++ d.closing ++ within, after) := by
  obtain ⟨c, hclosing⟩ := exists_closing_eq hskips
  have hpass : ∀ e earlier later, front = earlier ++ e :: later →
      ¬ d.closing <+: e :: (later ++ (d.closing ++ rest)) := by
    rintro e earlier later hfront ⟨more, hmore⟩
    have hsplit : front ++ (d.closing ++ rest) = earlier ++ (d.closing ++ more) := by
      rw [hmore, hfront, List.append_assoc, List.cons_append]
    have hle := hleast earlier more hsplit
    rw [hfront, List.length_append, List.length_cons] at hle
    omega
  have hafter : d.skipsAfter false (inside ++ (front ++ d.closing)) = false := by
    rw [← List.append_assoc, skipsAfter_append, hskips, hclosing]
    rfl
  rw [skim_append hpass, hafter, ← skipsAfter_append, hskips, hclosing, List.singleton_append,
    skim_cons (fun h => absurd h (by simp)), Option.map_map]
  show _ = (d.skim (d.skips true c) rest).map _
  refine congrArg (Option.map · _) (funext fun scanned => ?_)
  simp

/-- In `s`, the first closing that counts stands between `front` and `after`. -/
structure EndsAt (d : Delimiters) (skipping : Bool) (s front after : List Char) : Prop where
  text_eq : s = front ++ (d.closing ++ after)
  counts : d.skipsAfter skipping front = false
  least : ∀ earlier later, s = earlier ++ (d.closing ++ later) →
    d.skipsAfter skipping earlier = false → front.length ≤ earlier.length

theorem endsAt_closing_iff {front : List Char} :
    d.EndsAt false (d.closing ++ rest) front after ↔ front = [] ∧ rest = after := by
  constructor
  · rintro ⟨htext, -, hleast⟩
    obtain rfl : front = [] :=
      List.eq_nil_of_length_eq_zero (Nat.le_zero.mp (hleast [] rest rfl rfl))
    exact ⟨rfl, List.append_cancel_left htext⟩
  · rintro ⟨rfl, rfl⟩
    exact ⟨rfl, rfl, fun _ _ _ _ => Nat.zero_le _⟩

theorem endsAt_cons_iff {c : Char} {front : List Char}
    (h : ¬ (skipping = false ∧ d.closing <+: c :: s)) :
    d.EndsAt skipping (c :: s) front after ↔
      ∃ tail, front = c :: tail ∧ d.EndsAt (d.skips skipping c) s tail after := by
  constructor
  · rintro ⟨htext, hcounts, hleast⟩
    cases front with
    | nil => exact absurd ⟨hcounts, after, htext.symm⟩ h
    | cons e tail =>
        obtain ⟨rfl, hs⟩ := List.cons.inj htext
        refine ⟨tail, rfl, hs, hcounts, fun earlier later hsplit hearlier => ?_⟩
        exact Nat.le_of_succ_le_succ (hleast (c :: earlier) later (by rw [hsplit]; rfl) hearlier)
  · rintro ⟨tail, rfl, htext, hcounts, hleast⟩
    refine ⟨by rw [htext]; rfl, hcounts, fun earlier later hsplit hearlier => ?_⟩
    cases earlier with
    | nil => exact absurd ⟨hearlier, later, hsplit.symm⟩ h
    | cons e earlier =>
        obtain ⟨rfl, hs⟩ := List.cons.inj hsplit
        exact Nat.succ_le_succ (hleast earlier later hs hearlier)

/-- The scan ends at a closing, at one that counts, and passes over none before. -/
theorem skim_eq_some_iff :
    d.skim skipping s = some (within, after) ↔
      ∃ front, within = front ++ d.closing ∧ d.EndsAt skipping s front after := by
  induction s generalizing skipping within with
  | nil =>
      rw [skim_nil]
      constructor
      · intro h
        cases h
      · rintro ⟨front, -, htext, -⟩
        have hnil := List.append_eq_nil_iff.mp (List.append_eq_nil_iff.mp htext.symm).2
        exact absurd hnil.1 d.closing_ne_nil
  | cons c s ih =>
      by_cases hcounts : skipping = false ∧ d.closing <+: c :: s
      · obtain ⟨rfl, later, hlater⟩ := hcounts
        rw [← hlater, skim_closing, Option.some.injEq, Prod.mk.injEq]
        simp only [endsAt_closing_iff]
        constructor
        · rintro ⟨rfl, rfl⟩
          exact ⟨[], rfl, rfl, rfl⟩
        · rintro ⟨_, rfl, rfl, rfl⟩
          exact ⟨rfl, rfl⟩
      · rw [skim_cons (not_and.mp hcounts), Option.map_eq_some_iff]
        simp only [endsAt_cons_iff hcounts]
        constructor
        · rintro ⟨⟨within', after'⟩, hskim, heq⟩
          obtain ⟨rfl, rfl⟩ := Prod.mk.inj heq
          obtain ⟨front, rfl, hends⟩ := ih.mp hskim
          exact ⟨c :: front, rfl, front, rfl, hends⟩
        · rintro ⟨_, rfl, front, rfl, hends⟩
          exact ⟨(front ++ d.closing, after), ih.mpr ⟨front, rfl, hends⟩, rfl⟩

/-- Without a closing, the scan comes to the end of the text. -/
theorem skim_eq_none (h : ∀ front back, s ≠ front ++ (d.closing ++ back)) :
    d.skim skipping s = none := by
  refine Option.eq_none_iff_forall_ne_some.mpr fun scanned hscan => ?_
  obtain ⟨front, -, hs, -⟩ := skim_eq_some_iff.mp hscan
  exact h front scanned.2 hs

theorem endsAt_iff_firstClosing {front : List Char} :
    d.EndsAt false s front after ↔ d.FirstClosing s front after := by
  constructor
  · rintro ⟨htext, hcounts, hleast⟩
    refine ⟨htext, (skipsAfter_eq_false_iff front).mp hcounts, ?_⟩
    intro earlier later hsplit heven
    exact hleast earlier later hsplit ((skipsAfter_eq_false_iff earlier).mpr heven)
  · rintro ⟨htext, heven, hleast⟩
    refine ⟨htext, (skipsAfter_eq_false_iff front).mpr heven, ?_⟩
    intro earlier later hsplit hcounts
    exact hleast earlier later hsplit ((skipsAfter_eq_false_iff earlier).mp hcounts)

/-- The closing that ends the scan of a text is the first one after an even run of escapes. -/
theorem skim_eq_some_iff_firstClosing :
    d.skim false s = some (within, after) ↔
      ∃ front, within = front ++ d.closing ∧ d.FirstClosing s front after := by
  simp only [skim_eq_some_iff, endsAt_iff_firstClosing]

/-! ## Lines -/

/-- A line feed is passed over, and what stands behind it counts. -/
theorem skim_lineFeed (skipping : Bool) (s : List Char) :
    d.skim skipping ('\n' :: s) =
      (d.skim false s).map fun (within, after) => ('\n' :: within, after) := by
  have hnot : ¬ d.closing <+: '\n' :: s := by
    intro h
    exact d.closing_ne_nil
      (List.prefix_nil.mp ((prefix_append_lineFeed d.lineFeed_not_mem_closing [] s).mp h))
  have hcounts : d.skips skipping '\n' = false := by
    unfold skips
    rw [beq_false_of_ne d.escape_ne_lineFeed, Bool.and_false]
  rw [skim_cons fun _ => hnot, hcounts]

/-- A text can be scanned line by line. -/
theorem skim_line (hrest : rest = [] ∨ ∃ more, rest = '\n' :: more) :
    d.skim skipping (s ++ rest) =
      match d.skim skipping s with
      | some (within, after) => some (within, after ++ rest)
      | none => (d.skim false rest).map fun (within, after) => (s ++ within, after) := by
  induction s generalizing skipping with
  | nil =>
      rw [skim_nil]
      obtain rfl | ⟨more, rfl⟩ := hrest
      · rfl
      · show d.skim skipping ('\n' :: more) = _
        rw [skim_lineFeed, skim_lineFeed, Option.map_map]
        rfl
  | cons c s ih =>
      have hline : d.closing <+: c :: (s ++ rest) ↔ d.closing <+: c :: s := by
        obtain rfl | ⟨more, rfl⟩ := hrest
        · rw [List.append_nil]
        · exact prefix_append_lineFeed d.lineFeed_not_mem_closing (c :: s) more
      by_cases hcounts : skipping = false ∧ d.closing <+: c :: s
      · obtain ⟨rfl, later, hlater⟩ := hcounts
        rw [← hlater, List.append_assoc, skim_closing, skim_closing]
      · have hpass := not_and.mp hcounts
        rw [List.cons_append, skim_cons hpass, skim_cons fun h => mt hline.mp (hpass h), ih]
        cases d.skim (d.skips skipping c) s with
        | some scanned => rfl
        | none =>
            dsimp only
            rw [Option.map_none, Option.map_map]
            rfl

end Skim

end Delimiters

end Triptych
