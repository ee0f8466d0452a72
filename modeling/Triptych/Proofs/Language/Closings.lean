import Triptych.Proofs.Language.Progress
import Triptych.Proofs.Regex.Spelling

/-!
# Closings that are passed over

A construct is closed by a text behind an even run of escapes.  The search goes on BEHIND each
closing that is escaped.  No escape is part of a closing, so what is passed over with it are
closings that count: those which begin inside the escaped one.

So the search finds the first closing that counts and is not overlapped in this way.  This is
the first one that counts, in all texts, exactly if there is no escape or the closing does not
overlap itself.  See `closing_seen`.
-/

namespace Triptych

namespace Construct

/-! ## Runs of escapes -/

/-- How many escapes a text ends with. -/
def escapesBefore (escape : Option Char) (s : List Char) : Nat :=
  (s.reverse.takeWhile fun c => escape == some c).length

theorem escapesBefore_none (s : List Char) : escapesBefore none s = 0 := by
  unfold escapesBefore
  cases s.reverse <;> rfl

/-- A text without escapes ends each run before it. -/
theorem escapesBefore_append {escape : Option Char} {xs : List Char} (hxs : xs ≠ [])
    (h : ∀ e, escape = some e → e ∉ xs) (s : List Char) : escapesBefore escape (s ++ xs) = 0 := by
  obtain ⟨c, rest, hlast⟩ := List.exists_cons_of_ne_nil (mt List.reverse_eq_nil_iff.mp hxs)
  have hc : c ∈ xs := by
    rw [← List.mem_reverse, hlast]
    exact List.mem_cons_self
  have hother : (escape == some c) = false := beq_false_of_ne fun heq => h c heq hc
  unfold escapesBefore
  rw [List.reverse_append, hlast, List.cons_append, List.takeWhile_cons, hother]
  rfl

/-- The run of escapes is counted back to where the inside of the construct begins. -/
theorem isEscaped_between (rule : Construct) (front inside back : List Char) :
    rule.isEscaped (.between front (inside ++ back)) (.between (front ++ inside) back) =
      (escapesBefore rule.escape inside % 2 == 1) := by
  have hbefore : ((Place.between (front ++ inside) back).before.take
      ((Place.between front (inside ++ back)).left - (Place.between (front ++ inside) back).left)) =
        inside.reverse := by
    show (front ++ inside).reverse.take ((inside ++ back).length - back.length) = _
    rw [List.reverse_append, List.length_append, Nat.add_sub_cancel]
    exact List.take_left' List.length_reverse
  unfold isEscaped escapesBefore
  rw [hbefore]
  cases rule.escape with
  | none => cases inside.reverse <;> rfl
  | some escape =>
      have hsame : (fun c => some escape == some c) = fun c : Char => c == escape := by
        funext c
        rw [Bool.eq_iff_iff, beq_iff_eq, beq_iff_eq, Option.some.injEq]
        exact eq_comm
      rw [hsame]

/-! ## Texts that overlap themselves -/

/-- A text can begin inside another occurrence of itself. -/
def SelfOverlaps (d : List Char) : Prop := ∃ n < d.length, 0 < n ∧ d.drop n <+: d

instance : DecidablePred SelfOverlaps := fun d =>
  inferInstanceAs (Decidable (∃ n < d.length, 0 < n ∧ d.drop n <+: d))

/-- An occurrence that begins inside another one begins behind a piece of it. -/
theorem exists_piece {d earlier later within after : List Char}
    (hsplit : earlier ++ (d ++ later) = within ++ (d ++ after))
    (hlt : earlier.length < within.length)
    (hlt' : within.length < earlier.length + d.length) :
    ∃ piece rest, piece ≠ [] ∧ d = piece ++ rest ∧ within = earlier ++ piece ∧
      rest ++ later = d ++ after := by
  rcases List.append_eq_append_iff.mp hsplit with ⟨piece, rfl, hrest⟩ | ⟨piece, rfl, -⟩
  · rw [List.length_append] at hlt hlt'
    rcases List.append_eq_append_iff.mp hrest with ⟨more, rfl, hmore⟩ | ⟨rest, rfl, hrest⟩
    · rw [List.length_append] at hlt'
      omega
    · refine ⟨piece, rest, ?_, rfl, rfl, hrest.symm⟩
      rintro rfl
      exact Nat.lt_irrefl _ hlt
  · rw [List.length_append] at hlt
    omega

theorem selfOverlaps_of_split {d earlier later within after : List Char}
    (hsplit : earlier ++ (d ++ later) = within ++ (d ++ after))
    (hlt : earlier.length < within.length)
    (hlt' : within.length < earlier.length + d.length) : SelfOverlaps d := by
  obtain ⟨piece, rest, hpiece, rfl, rfl, hrest⟩ := exists_piece hsplit hlt hlt'
  refine ⟨piece.length, ?_, List.length_pos_iff.mpr hpiece, ?_⟩
  · rw [List.length_append] at hlt hlt'
    omega
  · rw [List.drop_left]
    refine List.prefix_of_prefix_length_le ⟨later, hrest⟩ (List.prefix_append _ after) ?_
    rw [List.length_append]
    omega

/-! ## Closings in a text -/

/-- The construct is closed by one text, and no escape is part of it. -/
structure ClosedBy (rule : Construct) (d : List Char) : Prop where
  spells : rule.closing.Spells d
  ne_nil : d ≠ []
  escape_not_mem : ∀ e, rule.escape = some e → e ∉ d

/-- In `s` the closing stands between `within` and `after`, behind an even run of escapes. -/
structure CountsAt (rule : Construct) (d s within after : List Char) : Prop where
  text_eq : s = within ++ (d ++ after)
  even : escapesBefore rule.escape within % 2 = 0

/-- In `s` the closing stands between `within` and `after`, behind an odd run of escapes. -/
structure EscapedAt (rule : Construct) (d s within after : List Char) : Prop where
  text_eq : s = within ++ (d ++ after)
  odd : escapesBefore rule.escape within % 2 = 1

/-- What stands behind `within` begins inside a closing that is escaped. -/
def Overlapped (rule : Construct) (d s within : List Char) : Prop :=
  ∃ earlier later, rule.EscapedAt d s earlier later ∧ earlier.length < within.length ∧
    within.length < earlier.length + d.length

/-- The first closing that counts. -/
structure FirstCounting (rule : Construct) (d s within after : List Char) : Prop where
  counts : rule.CountsAt d s within after
  least : ∀ earlier later, rule.CountsAt d s earlier later → within.length ≤ earlier.length

/-- The first closing that counts and is not overlapped. -/
structure FirstSeen (rule : Construct) (d s within after : List Char) : Prop where
  counts : rule.CountsAt d s within after
  not_overlapped : ¬ rule.Overlapped d s within
  least : ∀ earlier later, rule.CountsAt d s earlier later → ¬ rule.Overlapped d s earlier →
    within.length ≤ earlier.length

/-- In every text, the search finds the first closing that counts. -/
def FindsFirst (rule : Construct) (d : List Char) : Prop :=
  ∀ front s,
    (∀ stop, rule.findClosing? (.between front s) = some stop ↔
      ∃ within after, stop = .between (front ++ (within ++ d)) after ∧
        rule.FirstCounting d s within after) ∧
      (rule.findClosing? (.between front s) = none ↔
        ∀ within after, ¬ rule.CountsAt d s within after)

section Texts

variable {rule : Construct} {d s within after : List Char}

theorem countsAt_or_escapedAt (rule : Construct) (h : s = within ++ (d ++ after)) :
    rule.CountsAt d s within after ∨ rule.EscapedAt d s within after :=
  (Nat.mod_two_eq_zero_or_one _).imp (fun heven => ⟨h, heven⟩) fun hodd => ⟨h, hodd⟩

theorem CountsAt.not_escapedAt {after' : List Char} (h : rule.CountsAt d s within after) :
    ¬ rule.EscapedAt d s within after' := by
  intro h'
  have heven := h.even
  have hodd := h'.odd
  omega

/-- Without an escape nothing is overlapped. -/
theorem not_overlapped_of_escape_eq_none (h : rule.escape = none) :
    ¬ rule.Overlapped d s within := by
  rintro ⟨earlier, later, hescaped, -, -⟩
  have hodd := hescaped.odd
  rw [h, escapesBefore_none] at hodd
  exact Nat.zero_ne_one hodd

theorem CountsAt.selfOverlaps (h : rule.CountsAt d s within after)
    (hoverlapped : rule.Overlapped d s within) : SelfOverlaps d := by
  obtain ⟨earlier, later, hescaped, hlt, hlt'⟩ := hoverlapped
  exact selfOverlaps_of_split (hescaped.text_eq.symm.trans h.text_eq) hlt hlt'

/-- A closing that begins inside another one counts. -/
theorem ClosedBy.countsAt_of_lt (h : rule.ClosedBy d) {earlier later : List Char}
    (hearlier : s = earlier ++ (d ++ later)) (hwithin : s = within ++ (d ++ after))
    (hlt : earlier.length < within.length)
    (hlt' : within.length < earlier.length + d.length) : rule.CountsAt d s within after := by
  obtain ⟨piece, rest, hpiece, hd, rfl, -⟩ := exists_piece (hearlier.symm.trans hwithin) hlt hlt'
  have hnone : ∀ e, rule.escape = some e → e ∉ piece := by
    intro e he hmem
    refine h.escape_not_mem e he ?_
    rw [hd]
    exact List.mem_append_left rest hmem
  refine ⟨hwithin, ?_⟩
  rw [escapesBefore_append hpiece hnone]

theorem FirstSeen.unique {within' after' : List Char} (h : rule.FirstSeen d s within after)
    (h' : rule.FirstSeen d s within' after') : within = within' ∧ after = after' := by
  have hlength : within.length = within'.length :=
    Nat.le_antisymm (h.least within' after' h'.counts h'.not_overlapped)
      (h'.least within after h.counts h.not_overlapped)
  have hsplit := h.counts.text_eq.symm.trans h'.counts.text_eq
  obtain ⟨rfl, hrest⟩ := List.append_inj hsplit hlength
  exact ⟨rfl, List.append_cancel_left hrest⟩

end Texts

/-! ## The search -/

/-- How the search has come `n` characters far: escaped closings are passed as a whole, and
those that count begin inside them. -/
structure Passed (rule : Construct) (d s : List Char) (n : Nat) : Prop where
  escaped : ∀ within after, rule.EscapedAt d s within after → within.length < n →
    within.length + d.length ≤ n
  overlapped : ∀ within after, rule.CountsAt d s within after → within.length < n →
    rule.Overlapped d s within

section Search

variable {rule : Construct} {d inside rest pre post : List Char}

theorem passed_zero (rule : Construct) (d s : List Char) : rule.Passed d s 0 :=
  ⟨fun _ _ _ hlt => absurd hlt (Nat.not_lt_zero _), fun _ _ _ hlt => absurd hlt (Nat.not_lt_zero _)⟩

/-- A closing begins in what has been passed, or it is one of the rest. -/
theorem length_lt_or_exists {within after : List Char}
    (h : inside ++ rest = within ++ (d ++ after)) :
    within.length < inside.length ∨
      ∃ earlier, within = inside ++ earlier ∧ rest = earlier ++ (d ++ after) := by
  rcases List.append_eq_append_iff.mp h with ⟨earlier, hwithin, hrest⟩ | ⟨more, rfl, hrest⟩
  · exact Or.inr ⟨earlier, hwithin, hrest⟩
  · cases more with
    | nil => exact Or.inr ⟨[], by simp, hrest.symm⟩
    | cons c more =>
        rw [List.length_append, List.length_cons]
        exact Or.inl (by omega)

/-- Between what has been passed and the first closing behind it, no closing begins. -/
theorem length_lt_or_le
    (hleast : ∀ earlier later, rest = earlier ++ (d ++ later) → pre.length ≤ earlier.length)
    {within after : List Char} (h : inside ++ rest = within ++ (d ++ after)) :
    within.length < inside.length ∨ (inside ++ pre).length ≤ within.length := by
  refine (length_lt_or_exists h).imp_right ?_
  rintro ⟨earlier, rfl, hrest⟩
  rw [List.length_append, List.length_append]
  exact Nat.add_le_add_left (hleast earlier after hrest) _

/-- A closing that counts, the first one behind what has been passed, is the one that is seen. -/
theorem Passed.firstSeen (h : rule.Passed d (inside ++ rest) inside.length)
    (hleast : ∀ earlier later, rest = earlier ++ (d ++ later) → pre.length ≤ earlier.length)
    (hcounts : rule.CountsAt d (inside ++ rest) (inside ++ pre) post) :
    rule.FirstSeen d (inside ++ rest) (inside ++ pre) post := by
  have hle : inside.length ≤ (inside ++ pre).length := by
    rw [List.length_append]
    exact Nat.le_add_right _ _
  refine ⟨hcounts, ?_, fun earlier later hearlier hclear => ?_⟩
  · rintro ⟨earlier, later, hescaped, hlt, hlt'⟩
    rcases length_lt_or_le hleast hescaped.text_eq with hpassed | hbehind
    · have := h.escaped earlier later hescaped hpassed
      omega
    · omega
  · rcases length_lt_or_le hleast hearlier.text_eq with hpassed | hbehind
    · exact absurd (h.overlapped earlier later hearlier hpassed) hclear
    · exact hbehind

/-- An escaped closing, the first one behind what has been passed, is passed too. -/
theorem Passed.step (h : rule.Passed d (inside ++ rest) inside.length) (hd : rule.ClosedBy d)
    (hleast : ∀ earlier later, rest = earlier ++ (d ++ later) → pre.length ≤ earlier.length)
    (hescaped : rule.EscapedAt d (inside ++ rest) (inside ++ pre) post) :
    rule.Passed d (inside ++ rest) ((inside ++ pre).length + d.length) := by
  refine ⟨fun within after hwithin hlt => ?_, fun within after hwithin hlt => ?_⟩
  · rcases length_lt_or_le hleast hwithin.text_eq with hpassed | hbehind
    · have := h.escaped within after hwithin hpassed
      rw [List.length_append]
      omega
    · rcases Nat.eq_or_lt_of_le hbehind with heq | hbehind
      · exact Nat.le_of_eq (by rw [heq])
      · have hcounts := hd.countsAt_of_lt hescaped.text_eq hwithin.text_eq hbehind hlt
        exact absurd hwithin hcounts.not_escapedAt
  · rcases length_lt_or_le hleast hwithin.text_eq with hpassed | hbehind
    · exact h.overlapped within after hwithin hpassed
    · rcases Nat.eq_or_lt_of_le hbehind with heq | hbehind
      · have hsame := hescaped.text_eq.symm.trans hwithin.text_eq
        obtain ⟨rfl, -⟩ := List.append_inj hsame heq
        exact absurd hescaped hwithin.not_escapedAt
      · exact ⟨inside ++ pre, post, hescaped, hbehind, hlt⟩

theorem ClosedBy.findClosingFrom? (h : rule.ClosedBy d) (front : List Char)
    (hpassed : rule.Passed d (inside ++ rest) inside.length) :
    match rule.findClosingFrom? (.between front (inside ++ rest))
      (.between (front ++ inside) rest) with
    | some stop => ∃ within after, stop = .between (front ++ (within ++ d)) after ∧
        rule.FirstSeen d (inside ++ rest) within after
    | none => ∀ within after, rule.CountsAt d (inside ++ rest) within after →
        rule.Overlapped d (inside ++ rest) within := by
  -- on what is left of the text, since each round goes on behind an escaped closing
  induction hn : rest.length using Nat.strongRecOn generalizing inside rest with
  | _ n ih =>
      cases hfound : rule.closing.findNonempty? (.between (front ++ inside) rest) with
      | none =>
          have hnone := h.spells.ne_of_findNonempty?_eq_none h.ne_nil hfound
          rw [findClosingFrom?_of_none _ hfound]
          intro within after hcounts
          rcases length_lt_or_exists hcounts.text_eq with hlt | ⟨earlier, -, hrest⟩
          · exact hpassed.overlapped within after hcounts hlt
          · exact absurd hrest (hnone earlier after)
      | some found =>
          obtain ⟨start, stop⟩ := found
          obtain ⟨pre, post, hrest, hstart, hstop, hleast⟩ :=
            h.spells.exists_of_findNonempty?_eq_some h.ne_nil hfound
          obtain rfl : rest = pre ++ (d ++ post) := hrest
          obtain rfl := Place.reads_between_iff.mp hstart
          obtain rfl := Place.reads_between_iff.mp hstop
          have htext : inside ++ (pre ++ (d ++ post)) = inside ++ pre ++ (d ++ post) :=
            (List.append_assoc ..).symm
          have hescaped := rule.isEscaped_between front (inside ++ pre) (d ++ post)
          rw [← htext, ← List.append_assoc front] at hescaped
          rw [findClosingFrom?_of_some _ hfound, hescaped]
          rcases rule.countsAt_or_escapedAt htext with hcounts | hodd
          · rw [hcounts.even, if_neg (by decide)]
            exact ⟨inside ++ pre, post, by simp, hpassed.firstSeen hleast hcounts⟩
          · have hshorter : post.length < n := by
              have := List.length_pos_iff.mpr h.ne_nil
              rw [← hn, List.length_append, List.length_append]
              omega
            have hstep := hpassed.step h hleast hodd
            rw [← List.length_append] at hstep
            have hsplit : inside ++ (pre ++ (d ++ post)) = inside ++ pre ++ d ++ post := by simp
            rw [hodd.odd, if_pos (beq_self_eq_true 1)]
            rw [hsplit] at hstep ⊢
            have hlater := ih post.length hshorter hstep rfl
            simpa only [List.append_assoc] using hlater

theorem ClosedBy.findClosing? (h : rule.ClosedBy d) (front s : List Char) :
    match rule.findClosing? (.between front s) with
    | some stop => ∃ within after, stop = .between (front ++ (within ++ d)) after ∧
        rule.FirstSeen d s within after
    | none => ∀ within after, rule.CountsAt d s within after → rule.Overlapped d s within := by
  have hpassed : rule.Passed d ([] ++ s) ([] : List Char).length := rule.passed_zero d s
  have hsearch := h.findClosingFrom? front hpassed
  rwa [List.append_nil] at hsearch

/-- The search finds the first closing that counts and is not overlapped. -/
theorem ClosedBy.findClosing?_eq_some_iff (h : rule.ClosedBy d) {front s : List Char}
    {stop : Place} :
    rule.findClosing? (.between front s) = some stop ↔
      ∃ within after, stop = .between (front ++ (within ++ d)) after ∧
        rule.FirstSeen d s within after := by
  have hsearch := h.findClosing? front s
  constructor
  · intro hfound
    rwa [hfound] at hsearch
  · rintro ⟨within, after, rfl, hfirst⟩
    cases hfound : rule.findClosing? (.between front s) with
    | none =>
        rw [hfound] at hsearch
        exact absurd (hsearch within after hfirst.counts) hfirst.not_overlapped
    | some stop =>
        rw [hfound] at hsearch
        obtain ⟨within', after', rfl, hfirst'⟩ := hsearch
        obtain ⟨rfl, rfl⟩ := hfirst.unique hfirst'
        rfl

theorem ClosedBy.findClosing?_eq_none_iff (h : rule.ClosedBy d) (front s : List Char) :
    rule.findClosing? (.between front s) = none ↔
      ∀ within after, rule.CountsAt d s within after → rule.Overlapped d s within := by
  have hsearch := h.findClosing? front s
  constructor
  · intro hfound
    rwa [hfound] at hsearch
  · intro hnone
    refine Option.eq_none_iff_forall_ne_some.mpr fun stop hfound => ?_
    obtain ⟨within, after, -, hfirst⟩ := h.findClosing?_eq_some_iff.mp hfound
    exact hfirst.not_overlapped (hnone within after hfirst.counts)

end Search

/-! ## Which closings are always found -/

section FindsFirst

variable {rule : Construct} {d s within after : List Char}

theorem firstSeen_iff_firstCounting
    (hclear : ∀ within after, rule.CountsAt d s within after → ¬ rule.Overlapped d s within) :
    rule.FirstSeen d s within after ↔ rule.FirstCounting d s within after := by
  constructor
  · rintro ⟨hcounts, -, hleast⟩
    refine ⟨hcounts, fun earlier later hearlier => ?_⟩
    exact hleast earlier later hearlier (hclear earlier later hearlier)
  · rintro ⟨hcounts, hleast⟩
    exact ⟨hcounts, hclear within after hcounts, fun earlier later h _ => hleast earlier later h⟩

theorem ClosedBy.findsFirst (h : rule.ClosedBy d)
    (hclear : ∀ s within after, rule.CountsAt d s within after →
      ¬ rule.Overlapped d s within) : rule.FindsFirst d := by
  refine fun front s => ⟨fun stop => ?_, ?_⟩
  · simp only [h.findClosing?_eq_some_iff, firstSeen_iff_firstCounting (hclear s)]
  · rw [h.findClosing?_eq_none_iff]
    exact forall₂_congr fun within after =>
      ⟨fun hover hcounts => hclear s within after hcounts (hover hcounts), fun hnot hcounts =>
        absurd hcounts hnot⟩

/-- Behind an escape, a text that overlaps itself may count only where it is overlapped. -/
theorem ClosedBy.exists_overlapped (h : rule.ClosedBy d) {e : Char}
    (hescape : rule.escape = some e) (hself : SelfOverlaps d) :
    ∃ s, (∃ within after, rule.CountsAt d s within after) ∧
      ∀ within after, rule.CountsAt d s within after → rule.Overlapped d s within := by
  obtain ⟨n, hn, hpos, more, hmore⟩ := hself
  have hsplit : d ++ more = d.take n ++ d := calc
    d ++ more = d.take n ++ d.drop n ++ more := by rw [List.take_append_drop]
    _ = d.take n ++ d := by rw [List.append_assoc, hmore]
  have htake : d.take n ≠ [] := by
    rw [ne_eq, ← List.length_eq_zero_iff, List.length_take]
    omega
  have hnone : ∀ e, rule.escape = some e → e ∉ d.take n :=
    fun e he hmem => h.escape_not_mem e he (List.mem_of_mem_take hmem)
  have hone : escapesBefore rule.escape [e] = 1 := by
    rw [hescape]
    unfold escapesBefore
    simp
  refine ⟨e :: (d ++ more), ⟨[e] ++ d.take n, [], ?_, ?_⟩, fun within after hcounts => ?_⟩
  · rw [hsplit]
    simp
  · rw [escapesBefore_append htake hnone]
  · have hlength : (e :: (d ++ more)).length = (within ++ (d ++ after)).length :=
      congrArg List.length hcounts.text_eq
    have hlength' := congrArg List.length hmore
    simp only [List.length_cons, List.length_append, List.length_drop] at hlength hlength'
    refine ⟨[e], more, ⟨rfl, by rw [hone]⟩, ?_, ?_⟩
    · -- an occurrence at the front would hold the escape, and the next one is escaped
      match within with
      | [] =>
          obtain ⟨c, rest, hd⟩ := List.exists_cons_of_ne_nil h.ne_nil
          have htext : e :: (d ++ more) = d ++ after := hcounts.text_eq
          rw [hd] at htext
          obtain ⟨rfl, -⟩ := List.cons.inj htext
          exact absurd (by rw [hd]; exact List.mem_cons_self) (h.escape_not_mem e hescape)
      | [c] =>
          obtain ⟨rfl, -⟩ := List.cons.inj hcounts.text_eq
          have heven := hcounts.even
          rw [hone] at heven
          cases heven
      | _ :: _ :: _ => simp
    · rw [List.length_singleton]
      omega

/-- The search finds the first closing that counts, except for those that begin inside an
escaped one.  It finds the first one that counts, in every text, exactly if there is no escape
or the closing does not overlap itself. -/
theorem closing_seen (rule : Construct) (d : List Char) (h : rule.ClosedBy d) :
    (∀ front s,
      (∀ stop, rule.findClosing? (.between front s) = some stop ↔
        ∃ within after, stop = .between (front ++ (within ++ d)) after ∧
          rule.FirstSeen d s within after) ∧
        (rule.findClosing? (.between front s) = none ↔
          ∀ within after, rule.CountsAt d s within after → rule.Overlapped d s within)) ∧
      (rule.FindsFirst d ↔ rule.escape = none ∨ ¬ SelfOverlaps d) := by
  refine ⟨fun front s => ⟨fun stop => h.findClosing?_eq_some_iff,
    h.findClosing?_eq_none_iff front s⟩, ?_⟩
  constructor
  · intro hfinds
    cases hescape : rule.escape with
    | none => exact Or.inl rfl
    | some e =>
        refine Or.inr fun hself => ?_
        obtain ⟨s, ⟨within, after, hcounts⟩, hoverlapped⟩ := h.exists_overlapped hescape hself
        have hnone := (h.findClosing?_eq_none_iff [] s).mpr hoverlapped
        exact (hfinds [] s).2.mp hnone within after hcounts
  · rintro (hescape | hself)
    · exact h.findsFirst fun s within after _ => not_overlapped_of_escape_eq_none hescape
    · exact h.findsFirst fun s within after hcounts hover => hself (hcounts.selfOverlaps hover)

end FindsFirst

/-- A construct that is closed by two letters which are alike, and has an escape. -/
def doubled : Construct :=
  ⟨"doubled", .spelled ['<'], .spelled ['a', 'a'], .string, some '\\', 1⟩

/-- Behind an escaped closing two more begin, and the one that is not overlapped is found. -/
theorem closing_seen_doubled :
    let s := ['\\', 'a', 'a', 'a', 'a']
    doubled.ClosedBy ['a', 'a'] ∧ ¬ doubled.FindsFirst ['a', 'a'] ∧
      doubled.findClosing? (.between [] s) = some (.between s []) ∧
      doubled.FirstSeen ['a', 'a'] s ['\\', 'a', 'a'] [] := by
  intro s
  have hclosed : doubled.ClosedBy ['a', 'a'] :=
    ⟨Regex.spells_spelled ['a', 'a'], by decide, by simp [doubled]⟩
  have hfound : doubled.findClosing? (.between [] s) = some (.between s []) := by decide +kernel
  obtain ⟨hsearch, hfirst⟩ := closing_seen doubled ['a', 'a'] hclosed
  refine ⟨hclosed, ?_, hfound, ?_⟩
  · rw [hfirst]
    decide
  · obtain ⟨within, after, hstop, hseen⟩ := ((hsearch [] s).1 _).mp hfound
    obtain ⟨hsplit, rfl⟩ := Place.between_inj.mp hstop
    have hsame : ['\\', 'a', 'a'] ++ ['a', 'a'] = within ++ ['a', 'a'] := hsplit
    obtain rfl := List.append_cancel_right hsame
    exact hseen

/-- The closing counts, but it overlaps an escaped one, and the search finds nothing. -/
theorem closing_missed :
    let s := ['\\', 'a', 'a', 'a']
    Regex.parse? ['a', 'a'] = some doubled.closing ∧ doubled.escape = some '\\' ∧
      doubled.CountsAt ['a', 'a'] s ['\\', 'a'] [] ∧ doubled.findClosing? (.start s) = none := by
  refine ⟨by decide +kernel, rfl, ⟨rfl, by decide⟩, by decide +kernel⟩

end Construct

end Triptych
