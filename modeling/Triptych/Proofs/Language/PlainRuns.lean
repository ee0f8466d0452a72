import Triptych.Proofs.Language.Progress
import Triptych.Proofs.Regex.Searching

/-!
# Plain runs

Where no rule takes anything, the text is plain up to the nearest place that a search for some
rule finds.  So a token that is not plain begins there, unless the text is at its end, and two
plain tokens never follow each other.  See `alternates_tokens`.

A run may still hide a token: the search for a rule is over when it comes to an empty match, and
what the rule takes further on does NOT end the run.  Where no rule has empty matches this does
not happen, and nothing begins inside a run.  See `search_first_takes`.
-/

namespace Triptych

namespace Language

/-! ## Where tokens begin -/

/-- Some expression of the language takes something at a place. -/
def Begins (language : Language) (p : Place) : Prop :=
  ∃ r ∈ language.expressions, ∃ q, r.Takes p q

theorem begins_iff {language : Language} {p : Place} :
    language.Begins p ↔ AnyTakes Construct.opening language.constructs p ∨
      AnyTakes Pattern.regex language.patterns p := by
  unfold Begins expressions AnyTakes
  simp only [List.mem_append, List.mem_map, or_and_right, exists_or, exists_exists_and_eq_and]

/-- A token has a class exactly where some expression takes something. -/
theorem kind_scan_ne_none_iff {language : Language} {p : Place} :
    (language.scan p .normal).kind ≠ none ↔ language.Begins p := by
  rw [begins_iff, scan_normal]
  by_cases hopens : AnyTakes Construct.opening language.constructs p
  · obtain ⟨rule, body, hfirst⟩ := hopens.exists_first
    rw [scanNormal_of_opened hfirst, kind_scanInside]
    simp [hopens]
  · by_cases htakes : AnyTakes Pattern.regex language.patterns p
    · obtain ⟨rule, stop, hfirst⟩ := htakes.exists_first
      rw [scanNormal_of_matched hopens hfirst]
      simp [htakes]
    · rw [scanNormal_of_plain hopens htakes]
      simp [hopens, htakes]

theorem scan_of_not_begins {language : Language} {p : Place} (h : ¬ language.Begins p) :
    language.scan p .normal = ⟨language.nextStart p, none, .normal⟩ := by
  rw [begins_iff, not_or] at h
  exact scanNormal_of_plain h.1 h.2

theorem not_begins_of_kind_eq_none {language : Language} {p : Place}
    (h : (language.scan p .normal).kind = none) : ¬ language.Begins p :=
  fun hbegins => kind_scan_ne_none_iff.mpr hbegins h

/-! ## The end of a run -/

theorem exists_reads_nextStart (language : Language) (p : Place) :
    ∃ xs, p.Reads xs (language.nextStart p) := by
  rcases language.nextStart_eq_or p with hfinish | ⟨r, -, stop, hfound⟩
  · rw [hfinish]
    exact ⟨p.after, p.reads_finish⟩
  · exact (Regex.findNonempty?_goes_on hfound).1

/-- No expression is found before a run ends. -/
theorem left_le_nextStart {language : Language} {p start stop : Place} {r : Regex}
    (hr : r ∈ language.expressions) (hfound : r.findNonempty? p = some (start, stop)) :
    start.left ≤ (language.nextStart p).left := by
  rw [nextStart_eq_foldl]
  obtain ⟨-, -, hleast⟩ :=
    foldl_nearer_eq_or p.finish (language.expressions.filterMap (·.findNonempty? p))
  exact hleast (start, stop) (List.mem_filterMap.mpr ⟨r, hr, hfound⟩)

/-- Where a run ends, something begins or the text ends. -/
theorem begins_nextStart {language : Language} {p : Place}
    (h : (language.nextStart p).after ≠ []) : language.Begins (language.nextStart p) := by
  rcases language.nextStart_eq_or p with hfinish | ⟨r, hr, stop, hfound⟩
  · rw [hfinish] at h
    exact absurd rfl h
  · obtain ⟨htakes, -⟩ := Regex.findNonempty?_eq_some_iff.mp hfound
    exact ⟨r, hr, stop, htakes⟩

/-! ## Inside a run -/

section Inside

variable {language : Language} {p m : Place} {xs : List Char}

/-- What is taken inside a run is hidden by an empty match before it. -/
theorem exists_emptyAt_of_takes {r : Regex} {q : Place} (hr : r ∈ language.expressions)
    (hread : p.Reads xs m) (hlt : (language.nextStart p).left < m.left) (htakes : r.Takes m q) :
    ∃ ys m', p.Reads ys m' ∧ m.left < m'.left ∧ r.EmptyAt m' := by
  cases hfound : r.findNonempty? p with
  | none =>
      obtain ⟨start, stop, hfirst⟩ := Regex.exists_firstTakes hread htakes
      obtain ⟨ys, m', hread', hlt', hempty⟩ :=
        Regex.findNonempty?_eq_none_iff.mp hfound start stop hfirst
      exact ⟨ys, m', hread', Nat.lt_of_le_of_lt (hfirst.least xs m q hread htakes) hlt', hempty⟩
  | some found =>
      obtain ⟨start, stop⟩ := found
      obtain ⟨hfirst, -⟩ := Regex.findNonempty?_eq_some_iff_firstTakes.mp hfound
      have hbefore := left_le_nextStart hr hfound
      have hleast := hfirst.least xs m q hread htakes
      omega

/-- No expression of the language is nullable. -/
def Solid (language : Language) : Prop := ∀ r ∈ language.expressions, r.nullable = false

variable (h : language.Solid)

include h

theorem Solid.not_begins (hread : p.Reads xs m) (hlt : (language.nextStart p).left < m.left) :
    ¬ language.Begins m := by
  rintro ⟨r, hr, q, htakes⟩
  obtain ⟨-, m', -, -, hempty⟩ := exists_emptyAt_of_takes hr hread hlt htakes
  exact Regex.not_emptyAt_of_not_nullable (h r hr) m' hempty

/-- Nothing matches inside a run. -/
theorem Solid.ends_eq_nil (hread : p.Reads xs m) (hlt : (language.nextStart p).left < m.left)
    {r : Regex} (hr : r ∈ language.expressions) : r.ends m = [] :=
  Regex.ends_eq_nil_of_not_takes (h r hr) fun q htakes =>
    h.not_begins hread hlt ⟨r, hr, q, htakes⟩

/-- Each place inside a run has the same end before it. -/
theorem Solid.nextStart_eq (hread : p.Reads xs m) (hlt : (language.nextStart p).left < m.left) :
    language.nextStart m = language.nextStart p := by
  have hsame : ∀ r ∈ language.expressions, r.findNonempty? m = r.findNonempty? p := by
    intro r hr
    refine (Regex.findNonempty?_of_reads hread (fun ys m' hread' hlt' => ?_) (by omega)).symm
    exact h.ends_eq_nil hread' (Nat.lt_trans hlt hlt') hr
  rw [nextStart_eq_foldl, nextStart_eq_foldl, hread.finish_eq, List.filterMap_congr hsame]

/-- From each place inside a run, the rest of the run is read. -/
theorem Solid.scan_eq (hread : p.Reads xs m) (hlt : (language.nextStart p).left < m.left) :
    language.scan m .normal = ⟨language.nextStart p, none, .normal⟩ := by
  rw [scan_of_not_begins (h.not_begins hread hlt), h.nextStart_eq hread hlt]

end Inside

/-! ## The tokens of a line -/

/-- Of two tokens that follow each other, one has a class. -/
def Alternates (tokens : List Token) : Prop :=
  tokens.IsChain fun a b => a.kind = none → b.kind ≠ none

/-- A plain token leads to the normal state and to the end of a plain run. -/
theorem scan_of_kind_eq_none {language : Language} {p : Place} {state : LineState}
    (h : (language.scan p state).kind = none) :
    language.scan p state = ⟨language.nextStart p, none, .normal⟩ := by
  cases hopen : language.openConstruct? state with
  | some rule =>
      rw [scan, hopen] at h
      rw [kind_scanInside] at h
      cases h
  | none =>
      rw [scan_of_openConstruct?_eq_none hopen] at h ⊢
      exact scan_of_not_begins (not_begins_of_kind_eq_none h)

/-- What follows a plain token has a class. -/
theorem kind_scan_ne_none_of_plain {language : Language} {p : Place} {state : LineState}
    (h : (language.scan p state).kind = none) (hmore : (language.scan p state).stop.after ≠ []) :
    (language.scan (language.scan p state).stop (language.scan p state).state).kind ≠ none := by
  rw [scan_of_kind_eq_none h] at hmore ⊢
  exact kind_scan_ne_none_iff.mpr (begins_nextStart hmore)

theorem alternates_of_drives {language : Language} {cursor : Cursor} {state : LineState}
    {steps : List (Token × Cursor × LineState)}
    (h : language.lexer.Drives cursor state steps) {front token back : List Char}
    (hstands : cursor.Stands front token back) : Alternates (steps.map (·.1)) := by
  induction h generalizing front token back with
  | done hend => exact .nil
  | @more cursor state steps hend hrest ih =>
      have hback := hstands.atEnd_eq_false_iff.mp hend
      obtain ⟨text, rest, rfl, hstop, htoken, hstate, hmoved⟩ :=
        language.stepOn_eq_scan hstands hback state
      have hlater := ih hmoved
      cases hrest with
      | done hend' => exact .singleton _
      | more hend' hrest' =>
          refine .cons_cons ?_ hlater
          have hmore := hmoved.atEnd_eq_false_iff.mp hend'
          obtain ⟨text', rest', -, -, htoken', -, -⟩ :=
            language.stepOn_eq_scan hmoved hmore (language.lexer.stepOn cursor state).2.2
          dsimp only
          rw [htoken', hstate, ← hstop, htoken]
          intro hplain
          refine kind_scan_ne_none_of_plain hplain ?_
          rw [hstop]
          exact hmore

/-- No two plain tokens of a line follow each other, whatever the rules are. -/
theorem alternates_tokens (language : Language) (line : List Char) (state : LineState) :
    Alternates (language.lexer.tokens line state).1 := by
  obtain ⟨steps, hsteps, htokens, -⟩ := language.lexer_movesCursor.completes line state
  rw [htokens]
  exact alternates_of_drives hsteps (Cursor.stands_ofLine line)

/-! ## Searching -/

/-- A search for a pattern finds the first place where it takes something, unless an empty match
comes before: then it finds nothing.  A pattern that is not nullable is always found.

So a token may begin inside a plain run, but only behind an empty match of some rule. -/
theorem search_first_takes (rule : Pattern) (p : Place) :
    (∀ start stop, rule.find? p = some (start, stop) ↔
      rule.regex.FirstTakes p start stop ∧
        ∀ xs m, p.Reads xs m → start.left < m.left → ¬ rule.regex.EmptyAt m) ∧
      (rule.find? p = none ↔
        (∀ xs m q, p.Reads xs m → ¬ rule.regex.Takes m q) ∨
          ∃ start stop, rule.regex.FirstTakes p start stop ∧
            ∃ xs m, p.Reads xs m ∧ start.left < m.left ∧ rule.regex.EmptyAt m) ∧
      (rule.regex.nullable = false →
        (∀ start stop, rule.find? p = some (start, stop) ↔ rule.regex.FirstTakes p start stop) ∧
          (rule.find? p = none ↔ ∀ xs m q, p.Reads xs m → ¬ rule.regex.Takes m q)) ∧
      ∀ (language : Language) xs m, (language.scan p .normal).kind = none → p.Reads xs m →
        (language.scan p .normal).stop.left < m.left → (language.scan m .normal).kind ≠ none →
          ∃ r ∈ language.expressions, ∃ ys m', p.Reads ys m' ∧ m.left < m'.left ∧ r.EmptyAt m' := by
  refine ⟨fun start stop => Regex.findNonempty?_eq_some_iff_firstTakes,
    Regex.findNonempty?_eq_none_iff_or, fun hr => ⟨?_, ?_⟩, ?_⟩
  · exact fun start stop => Regex.findNonempty?_eq_some_iff_of_not_nullable hr
  · exact Regex.findNonempty?_eq_none_iff_of_not_nullable hr
  · intro language xs m hplain hread hlt hkind
    obtain ⟨r, hr, q, htakes⟩ := kind_scan_ne_none_iff.mp hkind
    rw [scan_of_not_begins (not_begins_of_kind_eq_none hplain)] at hlt
    exact ⟨r, hr, exists_emptyAt_of_takes hr hread hlt htakes⟩

/-- Any number of one letter, or none. -/
def maybeRule : Pattern := ⟨"maybe", (Regex.char (.oneOf ['x'])).star true, .atom, 10⟩

/-- The language with this rule alone. -/
def maybeLanguage : Language := ⟨"maybe", [], [maybeRule]⟩

/-- One letter. -/
def letterRule : Pattern := ⟨"letter", .char (.oneOf ['x']), .atom, 10⟩

/-- The letters further on are not found where none is taken too, since the empty text before
them is; where one has to be taken, they are. -/
theorem search_first_takes_maybe :
    let p := Place.start ['a', 'b', 'x', 'x']
    let m := Place.between ['a', 'b'] ['x', 'x']
    maybeRule.regex.EmptyAt p ∧ maybeRule.regex.Takes m m.finish ∧ maybeRule.find? p = none ∧
      (letterRule.regex.nullable = false ∧
        letterRule.regex.FirstTakes p m (.between ['a', 'b', 'x'] ['x'])) ∧
      (maybeLanguage.scan p .normal).kind = none ∧ (maybeLanguage.scan m .normal).kind ≠ none ∧
      ∃ r ∈ maybeLanguage.expressions, ∃ ys m', p.Reads ys m' ∧ m.left < m'.left ∧ r.EmptyAt m' := by
  intro p m
  have hempty : maybeRule.regex.EmptyAt p := by
    unfold Regex.EmptyAt
    rw [← Regex.matchAt?_eq_head?]
    decide +kernel
  have htakes : maybeRule.regex.Takes m m.finish := Regex.takesAt?_eq_some_iff.mp (by decide +kernel)
  have hread : p.Reads ['a', 'b'] m := ⟨rfl, rfl⟩
  obtain ⟨start, stop, hfirst⟩ := Regex.exists_firstTakes hread htakes
  obtain ⟨-, hnone, -, hhidden⟩ := search_first_takes maybeRule p
  obtain ⟨-, -, hfound, -⟩ := search_first_takes letterRule p
  have hplain : (maybeLanguage.scan p .normal).kind = none := by decide +kernel
  have hkind : (maybeLanguage.scan m .normal).kind ≠ none := by decide +kernel
  refine ⟨hempty, htakes, hnone.mpr (Or.inr ⟨start, stop, hfirst, [], p, ?_, ?_, hempty⟩),
    ⟨rfl, ((hfound rfl).1 _ _).mp (by decide +kernel)⟩, hplain, hkind,
    hhidden maybeLanguage ['a', 'b'] m hplain hread (by decide +kernel) hkind⟩
  · exact Place.reads_nil.mpr rfl
  · obtain ⟨xs, hread⟩ := hfirst.exists_reads
    refine hread.left_lt ?_
    rintro rfl
    rw [Place.reads_nil.mp hread] at hfirst
    exact hempty.not_takes hfirst.takes

/-- The rule is not found where it first takes something, and the plain run goes on over the
token that would begin there. -/
theorem hidden_by_empty_match :
    let p := Place.start ['a', 'b', 'x', 'x']
    let m := Place.between ['a', 'b'] ['x', 'x']
    Regex.parse? ['x', '*'] = some maybeRule.regex ∧
      maybeRule.regex.FirstTakes p m m.finish ∧ maybeRule.find? p = none ∧
      maybeLanguage.scan p .normal = ⟨m.finish, none, .normal⟩ ∧
      maybeLanguage.scan m .normal = ⟨m.finish, some .atom, .normal⟩ := by
  intro p m
  have htakes : maybeRule.regex.takesAt? m = some m.finish := by decide +kernel
  have hnone : maybeRule.regex.takesAt? p = none := by decide +kernel
  have hnone' : maybeRule.regex.takesAt? (.between ['a'] ['b', 'x', 'x']) = none := by
    decide +kernel
  refine ⟨by decide +kernel, ⟨Regex.takesAt?_eq_some_iff.mp htakes, ⟨['a', 'b'], rfl, rfl⟩, ?_⟩,
    by decide +kernel, ?_, ?_⟩
  · intro xs m' q hread htakes'
    rw [← Regex.takesAt?_eq_some_iff] at htakes'
    match xs with
    | [] =>
        rw [Place.reads_nil.mp hread, hnone] at htakes'
        cases htakes'
    | [c] =>
        obtain ⟨rfl, hafter⟩ := List.cons.inj hread.1
        obtain rfl : m' = .between ['a'] ['b', 'x', 'x'] := Place.ext hread.2 hafter.symm
        rw [hnone'] at htakes'
        cases htakes'
    | c :: d :: rest =>
        have hleft : 4 = rest.length + 2 + m'.left := hread.left_eq
        show m'.left ≤ 2
        omega
  · have hend : maybeLanguage.nextStart p = m.finish := by decide +kernel
    rw [scan_of_not_begins, hend]
    rintro ⟨r, hr, q, htakes'⟩
    obtain rfl := List.mem_singleton.mp hr
    exact Regex.takesAt?_eq_none_iff.mp hnone q htakes'
  · have hfirst : FirstTaking Pattern.regex maybeLanguage.patterns m maybeRule m.finish :=
      ⟨[], [], rfl, Regex.takesAt?_eq_some_iff.mp htakes, by simp⟩
    exact scanNormal_of_matched (by simp [AnyTakes, maybeLanguage]) hfirst

end Language

end Triptych
