import Mathlib.Data.List.Nodup
import Triptych.Language
import Triptych.Proofs.Regex.Taking

/-!
# Which rule is chosen

A language is made by adding rules one after the other.  Its patterns are sorted again each
time, and the order that this comes to is told by the whole history: by priority, and among
equal priorities by age.  So the first pattern in that order which takes something is the one
with the greatest priority, and the oldest of these.  See `scan_ofRules`.

Rules are matched at the place itself.  They can also be searched for from the place on, one
after the other, taking the first that is found to begin there; this comes to the same, see
`scanNormal_eq_scanSearching`.

Where all priorities differ, the history does NOT matter for the patterns.  For constructs it
always does: the oldest one wins, and there are no priorities.
-/

namespace Triptych

namespace Language

/-! ## Adding rules -/

/-- A rule that can be added to a language. -/
inductive Rule where
  | construct (rule : Construct)
  | pattern (rule : Pattern)

/-- The construct among two kinds of rules. -/
def Rule.construct? : Rule → Option Construct
  | .construct rule => some rule
  | .pattern _ => none

/-- The pattern among two kinds of rules. -/
def Rule.pattern? : Rule → Option Pattern
  | .construct _ => none
  | .pattern rule => some rule

/-- One rule more. -/
def add (language : Language) : Rule → Language
  | .construct rule => language.addConstruct rule
  | .pattern rule => language.addPattern rule

/-- The language that some rules make, added in their order. -/
def ofRules (name : String) (rules : List Rule) : Language := rules.foldl add (named name)

/-- The constructs that were added, the oldest first. -/
def constructsOf (rules : List Rule) : List Construct := rules.filterMap Rule.construct?

/-- The patterns that were added, the oldest first. -/
def patternsOf (rules : List Rule) : List Pattern := rules.filterMap Rule.pattern?

theorem foldl_add_constructs (language : Language) (rules : List Rule) :
    (rules.foldl add language).constructs = language.constructs ++ constructsOf rules := by
  induction rules generalizing language with
  | nil => exact (List.append_nil _).symm
  | cons rule rest ih =>
      rw [List.foldl_cons, ih]
      cases rule with
      | construct rule => exact List.append_assoc language.constructs [rule] _
      | pattern rule => rfl

/-- The languages that are built at once are made by adding rules, constructs first. -/
theorem build_eq_ofRules (name : String) (constructs : List (Option Construct))
    (patterns : List (Option Pattern)) :
    build name constructs patterns =
      ofRules name ((constructs.filterMap id).map .construct ++
        (patterns.filterMap id).map .pattern) := by
  unfold build ofRules
  rw [List.foldl_append, List.foldl_map, List.foldl_map]
  rfl

theorem constructs_ofRules (name : String) (rules : List Rule) :
    (ofRules name rules).constructs = constructsOf rules :=
  foldl_add_constructs (named name) rules

theorem constructs_build (name : String) (constructs : List (Option Construct))
    (patterns : List (Option Pattern)) :
    (build name constructs patterns).constructs = constructs.filterMap id := by
  rw [build_eq_ofRules, constructs_ofRules]
  simp [constructsOf, List.filterMap_map, Function.comp_def, Rule.construct?]

/-! ## The order of patterns -/

/-- What `sorted` has to do with the patterns `added`: it holds the same ones, the greatest
priority first, and those of one priority in the order in which they were added. -/
structure Sorts (added sorted : List Pattern) : Prop where
  pairwise : sorted.Pairwise fun a b => b.priority ≤ a.priority
  perm : sorted.Perm added
  filter_eq : ∀ k, sorted.filter (·.priority = k) = added.filter (·.priority = k)

section Sorting

variable {le : Pattern → Pattern → Bool}
  (trans : ∀ a b c, le a b = true → le b c = true → le a c = true)
  (total : ∀ a b, (le a b || le b a) = true)

include trans total in
/-- Sorting keeps the order of patterns that are not told apart. -/
theorem filter_mergeSort {alike : Pattern → Bool}
    (halike : ∀ a b, alike a = true → alike b = true → le a b = true) (rules : List Pattern) :
    (rules.mergeSort le).filter alike = rules.filter alike := by
  have hpairwise : (rules.filter alike).Pairwise fun a b => le a b = true := by
    refine List.pairwise_of_forall_mem_list fun a ha b hb => ?_
    exact halike a b (List.mem_filter.mp ha).2 (List.mem_filter.mp hb).2
  have hsublist : (rules.filter alike).Sublist (rules.mergeSort le) :=
    List.sublist_mergeSort trans total hpairwise List.filter_sublist
  have hfilter : (rules.filter alike).Sublist ((rules.mergeSort le).filter alike) := by
    simpa only [List.filter_filter, Bool.and_self] using hsublist.filter alike
  have hlength : ((rules.mergeSort le).filter alike).length = (rules.filter alike).length :=
    ((List.mergeSort_perm rules le).filter alike).length_eq
  exact (hfilter.eq_of_length hlength.symm).symm

end Sorting

theorem Sorts.add {added sorted : List Pattern} (h : Sorts added sorted) (rule : Pattern) :
    Sorts (added ++ [rule])
      ((sorted ++ [rule]).mergeSort fun a b => b.priority ≤ a.priority) := by
  have trans : ∀ a b c : Pattern, decide (b.priority ≤ a.priority) = true →
      decide (c.priority ≤ b.priority) = true → decide (c.priority ≤ a.priority) = true := by
    simp only [decide_eq_true_eq]
    intro a b c hab hbc
    exact Int32.le_trans hbc hab
  have total : ∀ a b : Pattern,
      (decide (b.priority ≤ a.priority) || decide (a.priority ≤ b.priority)) = true := by
    intro a b
    simpa using Int32.le_total b.priority a.priority
  refine ⟨?_, ?_, fun k => ?_⟩
  · simpa only [decide_eq_true_eq] using List.pairwise_mergeSort trans total (sorted ++ [rule])
  · exact (List.mergeSort_perm _ _).trans (h.perm.append_right [rule])
  · rw [filter_mergeSort trans total, List.filter_append, List.filter_append, h.filter_eq]
    simp only [decide_eq_true_eq]
    rintro a b rfl hb
    rw [hb]
    exact Int32.le_refl _

theorem sorts_foldl_add {language : Language} {added : List Pattern}
    (h : Sorts added language.patterns) (rules : List Rule) :
    Sorts (added ++ patternsOf rules) (rules.foldl Language.add language).patterns := by
  induction rules generalizing language added with
  | nil =>
      rw [show patternsOf [] = [] from rfl, List.append_nil]
      exact h
  | cons rule rest ih =>
      rw [List.foldl_cons]
      cases rule with
      | construct rule => exact ih h
      | pattern rule =>
          have hadd : Sorts (added ++ [rule]) (language.addPattern rule).patterns := h.add rule
          have := ih hadd
          rw [List.append_assoc] at this
          exact this

/-- The patterns of a language are sorted whatever the history is. -/
theorem sorts_ofRules (name : String) (rules : List Rule) :
    Sorts (patternsOf rules) (ofRules name rules).patterns := by
  have hnone : Sorts [] (named name).patterns :=
    ⟨List.Pairwise.nil, List.Perm.nil, fun _ => rfl⟩
  exact sorts_foldl_add hnone rules

/-! ## The first rule that takes something -/

/-- Of some rules, `rule` is the first one whose expression takes something at `p`, and it takes
what ends at `stop`. -/
def FirstTaking {α : Type} (expression : α → Regex) (rules : List α) (p : Place) (rule : α)
    (stop : Place) : Prop :=
  ∃ earlier later, rules = earlier ++ rule :: later ∧ (expression rule).Takes p stop ∧
    ∀ other ∈ earlier, ∀ q, ¬ (expression other).Takes p q

/-- Some rule has an expression that takes something at `p`. -/
def AnyTakes {α : Type} (expression : α → Regex) (rules : List α) (p : Place) : Prop :=
  ∃ rule ∈ rules, ∃ stop, (expression rule).Takes p stop

section FirstTaking

variable {α : Type} {expression : α → Regex} {rules : List α} {p stop : Place} {rule : α}

theorem FirstTaking.mem (h : FirstTaking expression rules p rule stop) : rule ∈ rules := by
  obtain ⟨earlier, later, rfl, -⟩ := h
  exact List.mem_append_right earlier List.mem_cons_self

theorem findSome?_eq_some_iff_firstTaking :
    rules.findSome? (fun rule => ((expression rule).takesAt? p).map (rule, ·)) =
      some (rule, stop) ↔ FirstTaking expression rules p rule stop := by
  simp only [FirstTaking, List.findSome?_eq_some_iff, Option.map_eq_some_iff,
    Option.map_eq_none_iff, Prod.mk.injEq, Regex.takesAt?_eq_some_iff,
    Regex.takesAt?_eq_none_iff]
  constructor
  · rintro ⟨earlier, _, later, rfl, ⟨_, htakes, rfl, rfl⟩, hearlier⟩
    exact ⟨earlier, later, rfl, htakes, hearlier⟩
  · rintro ⟨earlier, later, rfl, htakes, hearlier⟩
    exact ⟨earlier, rule, later, rfl, ⟨stop, htakes, rfl, rfl⟩, hearlier⟩

theorem findSome?_eq_none_iff_not_anyTakes :
    rules.findSome? (fun rule => ((expression rule).takesAt? p).map (rule, ·)) = none ↔
      ¬ AnyTakes expression rules p := by
  simp only [AnyTakes, List.findSome?_eq_none_iff, Option.map_eq_none_iff,
    Regex.takesAt?_eq_none_iff, not_exists, not_and]

/-- Where some rule takes something, there is a first one. -/
theorem AnyTakes.exists_first (h : AnyTakes expression rules p) :
    ∃ rule stop, FirstTaking expression rules p rule stop := by
  have hsome := mt findSome?_eq_none_iff_not_anyTakes.mp (not_not_intro h)
  obtain ⟨⟨rule, stop⟩, hfound⟩ := Option.ne_none_iff_exists'.mp hsome
  exact ⟨rule, stop, findSome?_eq_some_iff_firstTaking.mp hfound⟩

end FirstTaking

theorem opensAt?_eq_some_iff {language : Language} {p body : Place} {rule : Construct} :
    language.opensAt? p = some (rule, body) ↔
      FirstTaking Construct.opening language.constructs p rule body :=
  findSome?_eq_some_iff_firstTaking

theorem opensAt?_eq_none_iff {language : Language} {p : Place} :
    language.opensAt? p = none ↔ ¬ AnyTakes Construct.opening language.constructs p :=
  findSome?_eq_none_iff_not_anyTakes

theorem takesAt?_eq_some_iff {language : Language} {p stop : Place} {rule : Pattern} :
    language.takesAt? p = some (rule, stop) ↔
      FirstTaking Pattern.regex language.patterns p rule stop :=
  findSome?_eq_some_iff_firstTaking

theorem takesAt?_eq_none_iff {language : Language} {p : Place} :
    language.takesAt? p = none ↔ ¬ AnyTakes Pattern.regex language.patterns p :=
  findSome?_eq_none_iff_not_anyTakes

/-! ## The best pattern -/

/-- Of patterns in the order of their age, `rule` has the greatest priority among those that
take something at `p`, and is the oldest of these; it takes what ends at `stop`. -/
def TakesBest (rules : List Pattern) (p : Place) (rule : Pattern) (stop : Place) : Prop :=
  ∃ earlier later, rules = earlier ++ rule :: later ∧ rule.regex.Takes p stop ∧
    (∀ other ∈ earlier, ∀ q, other.regex.Takes p q → other.priority < rule.priority) ∧
    ∀ other ∈ later, ∀ q, other.regex.Takes p q → other.priority ≤ rule.priority

/-- Sorting keeps, of each priority, what stands before a pattern. -/
theorem Sorts.exists_split {added front back : List Pattern} {rule : Pattern}
    (h : Sorts added (front ++ rule :: back)) :
    ∃ earlier later, added = earlier ++ rule :: later ∧
      ∀ other ∈ earlier, other.priority = rule.priority → other ∈ front := by
  have hfilter := (h.filter_eq rule.priority).symm
  rw [List.filter_append, List.filter_cons, if_pos (decide_eq_true rfl),
    List.filter_eq_append_iff] at hfilter
  obtain ⟨older, rest, rfl, holder, hrest⟩ := hfilter
  obtain ⟨between, later, rfl, hbetween, -, -⟩ := List.filter_eq_cons_iff.mp hrest
  refine ⟨older ++ between, later, (List.append_assoc ..).symm, fun other hmem hpriority => ?_⟩
  rcases List.mem_append.mp hmem with holds | hmem
  · have hkept : other ∈ older.filter (·.priority = rule.priority) :=
      List.mem_filter.mpr ⟨holds, decide_eq_true hpriority⟩
    rw [holder] at hkept
    exact List.mem_of_mem_filter hkept
  · exact absurd (decide_eq_true hpriority) (hbetween other hmem)

/-- The first of the sorted patterns that takes something is the best one. -/
theorem Sorts.takesBest {added sorted : List Pattern} (h : Sorts added sorted) {p stop : Place}
    {rule : Pattern} (hfirst : FirstTaking Pattern.regex sorted p rule stop) :
    TakesBest added p rule stop := by
  obtain ⟨front, back, rfl, htakes, hfront⟩ := hfirst
  obtain ⟨earlier, later, rfl, hearlier⟩ := h.exists_split
  have hle : ∀ other ∈ earlier ++ rule :: later, ∀ q, other.regex.Takes p q →
      other.priority ≤ rule.priority := by
    intro other hmem q hother
    rcases List.mem_append.mp (h.perm.mem_iff.mpr hmem) with hmem | hmem
    · exact absurd hother (hfront other hmem q)
    · rcases List.mem_cons.mp hmem with rfl | hmem
      · exact Int32.le_refl _
      · exact List.rel_of_pairwise_cons (List.pairwise_append.mp h.pairwise).2.1 hmem
  refine ⟨earlier, later, rfl, htakes, fun other hmem q hother => ?_, fun other hmem => ?_⟩
  · have hne : other.priority ≠ rule.priority := by
      intro hpriority
      exact hfront other (hearlier other hmem hpriority) q hother
    exact Int32.lt_of_le_of_ne (hle other (List.mem_append_left _ hmem) q hother) hne
  · exact hle other (List.mem_append_right _ (List.mem_cons_of_mem _ hmem))

theorem Sorts.anyTakes_iff {added sorted : List Pattern} (h : Sorts added sorted) {p : Place} :
    AnyTakes Pattern.regex sorted p ↔ AnyTakes Pattern.regex added p := by
  simp only [AnyTakes, h.perm.mem_iff]

/-! ## The order of adding -/

/-- Patterns of different priorities are sorted in one way only. -/
theorem Sorts.unique {added added' sorted sorted' : List Pattern} (h : Sorts added sorted)
    (h' : Sorts added' sorted') (hperm : added'.Perm added)
    (hnodup : (added.map (·.priority)).Nodup) : sorted' = sorted := by
  have hsorted : sorted'.Perm sorted := h'.perm.trans (hperm.trans h.perm.symm)
  refine hsorted.eq_of_pairwise ?_ h'.pairwise h.pairwise
  intro a b ha hb hle hge
  have hmem : a ∈ added := hperm.mem_iff.mp (h'.perm.mem_iff.mp ha)
  have hmem' : b ∈ added := h.perm.mem_iff.mp hb
  exact List.inj_on_of_nodup_map hnodup hmem hmem' (Int32.le_antisymm hge hle)

theorem foldl_addConstruct (language : Language) (rules : List Construct) :
    rules.foldl addConstruct language =
      { language with constructs := language.constructs ++ rules } := by
  induction rules generalizing language with
  | nil =>
      rw [List.append_nil]
      rfl
  | cons rule rest ih =>
      rw [List.foldl_cons, ih, List.append_cons]
      rfl

/-- Patterns that are added in the order of their priorities stay in that order. -/
theorem foldl_addPattern_of_pairwise {language : Language} {rules : List Pattern}
    (h : (language.patterns ++ rules).Pairwise fun a b => b.priority ≤ a.priority) :
    rules.foldl addPattern language =
      { language with patterns := language.patterns ++ rules } := by
  induction rules generalizing language with
  | nil =>
      rw [List.append_nil]
      rfl
  | cons rule rest ih =>
      rw [List.append_cons] at h ⊢
      have hadded : language.addPattern rule =
          { language with patterns := language.patterns ++ [rule] } := by
        unfold addPattern
        rw [List.mergeSort_of_pairwise]
        simpa only [decide_eq_true_eq] using (List.pairwise_append.mp h).1
      rw [List.foldl_cons, hadded]
      exact ih h

/-- A language whose patterns are given in the order of their priorities has them as given. -/
theorem build_of_pairwise {name : String} {constructs : List (Option Construct)}
    {patterns : List (Option Pattern)}
    (h : (patterns.filterMap id).Pairwise fun a b => b.priority ≤ a.priority) :
    build name constructs patterns = ⟨name, constructs.filterMap id, patterns.filterMap id⟩ := by
  unfold build
  rw [foldl_addConstruct, foldl_addPattern_of_pairwise h]
  rfl

/-- Reading depends on the rules of a language, not on its name. -/
theorem scan_congr {language language' : Language}
    (hconstructs : language'.constructs = language.constructs)
    (hpatterns : language'.patterns = language.patterns) (p : Place) (state : LineState) :
    language'.scan p state = language.scan p state := by
  obtain ⟨name, constructs, patterns⟩ := language
  obtain ⟨name', constructs', patterns'⟩ := language'
  obtain rfl : constructs' = constructs := hconstructs
  obtain rfl : patterns' = patterns := hpatterns
  rfl

/-! ## Reading a token -/

theorem scan_normal (language : Language) (p : Place) :
    language.scan p .normal = language.scanNormal p := rfl

/-- Where no construct is open, the state makes no difference. -/
theorem scan_of_openConstruct?_eq_none {language : Language} {state : LineState}
    (h : language.openConstruct? state = none) (p : Place) :
    language.scan p state = language.scan p .normal := by
  rw [scan, h]
  rfl

theorem kind_scanInside (rule : Construct) (body : Place) (state : LineState) :
    (scanInside rule body state).kind = some rule.kind := by
  unfold scanInside
  split <;> rfl

theorem scanNormal_of_opened {language : Language} {p body : Place} {rule : Construct}
    (h : FirstTaking Construct.opening language.constructs p rule body) :
    language.scanNormal p = scanInside rule body (.inside rule.id) := by
  rw [scanNormal, opensAt?_eq_some_iff.mpr h]

theorem scanNormal_of_matched {language : Language} {p stop : Place} {rule : Pattern}
    (hopens : ¬ AnyTakes Construct.opening language.constructs p)
    (h : FirstTaking Pattern.regex language.patterns p rule stop) :
    language.scanNormal p = ⟨stop, some rule.kind, .normal⟩ := by
  rw [scanNormal, opensAt?_eq_none_iff.mpr hopens, takesAt?_eq_some_iff.mpr h]

theorem scanNormal_of_plain {language : Language} {p : Place}
    (hopens : ¬ AnyTakes Construct.opening language.constructs p)
    (htakes : ¬ AnyTakes Pattern.regex language.patterns p) :
    language.scanNormal p = ⟨language.nextStart p, none, .normal⟩ := by
  rw [scanNormal, opensAt?_eq_none_iff.mpr hopens, takesAt?_eq_none_iff.mpr htakes]

/-! ## Searching with one rule after the other -/

/-- Search with one rule after the other from `p` on.  The first rule that is found at `p` itself
ends the search; of what the others find, the nearest start is kept. -/
def searchWith {α : Type} (find? : α → Option (Place × Place)) (p : Place) :
    List α → Place → (α × Place) ⊕ Place
  | [], nearest => .inr nearest
  | rule :: others, nearest =>
      match find? rule with
      | some (start, stop) =>
          if start.offset = p.offset then .inl (rule, stop)
          else searchWith find? p others (nearer nearest start)
      | none => searchWith find? p others nearest

/-- The nearest of the starts that were found, and of one place more. -/
def nearestOf (found : List (Place × Place)) (nearest : Place) : Place :=
  found.foldl (fun best (start, _) => nearer best start) nearest

/-- Searching finds the first rule that takes something at `p`; where there is none, it finds the
nearest start of all. -/
theorem searchWith_eq {α : Type} (expression : α → Regex) (p : Place) (rules : List α)
    (nearest : Place) :
    searchWith (fun rule => (expression rule).findNonempty? p) p rules nearest =
      (rules.findSome? fun rule => ((expression rule).takesAt? p).map (rule, ·)).elim
        (.inr (nearestOf (rules.filterMap fun rule => (expression rule).findNonempty? p) nearest))
        .inl := by
  induction rules generalizing nearest with
  | nil => rfl
  | cons rule others ih =>
      have hmatch := (expression rule).takesAt?_eq_search p
      rw [searchWith, List.findSome?_cons, hmatch, List.filterMap_cons]
      cases (expression rule).findNonempty? p with
      | none => exact ih nearest
      | some found =>
          obtain ⟨start, stop⟩ := found
          by_cases hstart : start.offset = p.offset
          · simp [hstart]
          · simpa [hstart, nearestOf] using ih (nearer nearest start)

theorem searchWith_constructs (language : Language) (p nearest : Place) :
    searchWith (·.findOpening? p) p language.constructs nearest =
      (language.opensAt? p).elim
        (.inr (nearestOf (language.constructs.filterMap fun rule => rule.findOpening? p) nearest))
        .inl :=
  searchWith_eq Construct.opening p language.constructs nearest

theorem searchWith_patterns (language : Language) (p nearest : Place) :
    searchWith (·.find? p) p language.patterns nearest =
      (language.takesAt? p).elim
        (.inr (nearestOf (language.patterns.filterMap fun rule => rule.find? p) nearest))
        .inl :=
  searchWith_eq Pattern.regex p language.patterns nearest

/-- Read a token at a place outside all constructs, by searching from the place on: with the
constructs, and then with the patterns. -/
def scanSearching (language : Language) (p : Place) : Scan :=
  match searchWith (·.findOpening? p) p language.constructs p.finish with
  | .inl (rule, body) => scanInside rule body (.inside rule.id)
  | .inr nearest =>
      match searchWith (·.find? p) p language.patterns nearest with
      | .inl (rule, stop) => ⟨stop, some rule.kind, .normal⟩
      | .inr nearest => ⟨nearest, none, .normal⟩

/-- It makes no difference whether rules are matched at the place or searched for from it on. -/
theorem scanNormal_eq_scanSearching (language : Language) (p : Place) :
    language.scanNormal p = language.scanSearching p := by
  unfold scanNormal scanSearching
  rw [searchWith_constructs]
  cases language.opensAt? p with
  | some opened => rfl
  | none =>
      dsimp only [Option.elim_none]
      rw [searchWith_patterns]
      cases language.takesAt? p with
      | some taken => rfl
      | none =>
          -- the nearest start is kept from the first search to the second
          dsimp only [Option.elim_none]
          rw [nextStart, List.foldl_append]
          rfl

/-! ## Any history of rules -/

/-- Outside all constructs, the oldest construct that opens at a place is entered; where none
does, the pattern with the greatest priority takes its match, the oldest one of those with that
priority; where none matches either, the text is plain.  What takes something at a place is what
a search from the place on finds there, by `scanNormal_eq_scanSearching`.

The order in which patterns of different priorities were added makes no difference. -/
theorem scan_ofRules (name : String) (rules : List Rule) :
    (∀ p,
      let result := (ofRules name rules).scan p .normal
      (AnyTakes Construct.opening (constructsOf rules) p →
        ∃ rule body, FirstTaking Construct.opening (constructsOf rules) p rule body ∧
          result.kind = some rule.kind) ∧
      (¬ AnyTakes Construct.opening (constructsOf rules) p →
        AnyTakes Pattern.regex (patternsOf rules) p →
        ∃ rule stop, TakesBest (patternsOf rules) p rule stop ∧
          result = ⟨stop, some rule.kind, .normal⟩) ∧
      (¬ AnyTakes Construct.opening (constructsOf rules) p →
        ¬ AnyTakes Pattern.regex (patternsOf rules) p → result.kind = none)) ∧
    ∀ name' rules', constructsOf rules' = constructsOf rules →
      (patternsOf rules').Perm (patternsOf rules) →
      ((patternsOf rules).map (·.priority)).Nodup →
      ∀ p state, (ofRules name' rules').scan p state = (ofRules name rules).scan p state := by
  have hconstructs := constructs_ofRules name rules
  have hsorts := sorts_ofRules name rules
  refine ⟨fun p => ⟨fun hopens => ?_, fun hopens htakes => ?_, fun hopens htakes => ?_⟩, ?_⟩
  · obtain ⟨rule, body, hfirst⟩ := hopens.exists_first
    refine ⟨rule, body, hfirst, ?_⟩
    rw [scan_normal, scanNormal_of_opened (hconstructs.symm ▸ hfirst), kind_scanInside]
  · obtain ⟨rule, stop, hfirst⟩ := (hsorts.anyTakes_iff.mpr htakes).exists_first
    refine ⟨rule, stop, hsorts.takesBest hfirst, ?_⟩
    exact scanNormal_of_matched (hconstructs.symm ▸ hopens) hfirst
  · rw [scan_normal, scanNormal_of_plain (hconstructs.symm ▸ hopens)
      (mt hsorts.anyTakes_iff.mp htakes)]
  · intro name' rules' hsame hperm hnodup p state
    refine scan_congr ?_ ?_ p state
    · rw [constructs_ofRules, hsame, hconstructs]
    · exact hsorts.unique (sorts_ofRules name' rules') hperm hnodup

/-- What is between quotes, a word of a low priority, and a vowel of a greater one. -/
def quotedRule : Construct :=
  ⟨"quoted", .char (.oneOf ['"']), .char (.oneOf ['"']), .string, none, 3⟩

@[inherit_doc quotedRule]
def wordRule : Pattern := ⟨"word", .plus true (.char (.range 'a' 'z')), .atom, -5⟩

@[inherit_doc quotedRule]
def vowelRule : Pattern := ⟨"vowel", .char (.oneOf ['a', 'e']), .keyword, 7⟩

/-- A quote opens, the vowel wins over the longer word, and either may be added first. -/
theorem scan_ofRules_vowel :
    let rules := [Rule.pattern wordRule, .construct quotedRule, .pattern vowelRule]
    (∃ rule body, FirstTaking Construct.opening [quotedRule] (.start ['"', 'a']) rule body ∧
        ((ofRules "" rules).scan (.start ['"', 'a']) .normal).kind = some rule.kind) ∧
      (∃ rule stop, TakesBest [wordRule, vowelRule] (.start ['a', 'b']) rule stop ∧
        (ofRules "" rules).scan (.start ['a', 'b']) .normal = ⟨stop, some rule.kind, .normal⟩) ∧
      ((ofRules "" rules).scan (.start [' ', 'a']) .normal).kind = none ∧
      ∀ p state, (ofRules "" [.pattern vowelRule, .pattern wordRule, .construct quotedRule]).scan
        p state = (ofRules "" rules).scan p state := by
  intro rules
  obtain ⟨hscan, horder⟩ := scan_ofRules "" rules
  obtain ⟨hopened, -, -⟩ := hscan (.start ['"', 'a'])
  obtain ⟨-, hmatched, -⟩ := hscan (.start ['a', 'b'])
  obtain ⟨-, -, hplain⟩ := hscan (.start [' ', 'a'])
  refine ⟨hopened ?_, hmatched ?_ ?_, hplain ?_ ?_, horder "" _ rfl ?_ ?_⟩
  · exact ⟨quotedRule, List.mem_singleton_self _, _, Regex.takesAt?_eq_some_iff.mp rfl⟩
  · exact findSome?_eq_none_iff_not_anyTakes.mp rfl
  · exact ⟨vowelRule, by simp [rules, patternsOf, Rule.pattern?], _,
      Regex.takesAt?_eq_some_iff.mp rfl⟩
  · exact findSome?_eq_none_iff_not_anyTakes.mp rfl
  · exact findSome?_eq_none_iff_not_anyTakes.mp rfl
  · exact List.Perm.swap wordRule vowelRule []
  · decide +kernel

end Language

end Triptych
