import Triptych.Language.OfSegment
import Triptych.Proofs.Language.PlainRuns

/-!
# Plain runs in a block

No rule for markup, style sheets or scripts has an empty match.  So a plain run in a block is as
long as it can be: nothing matches inside it, wherever in it reading begins, and what follows it
has a class.

That two plain tokens do not follow each other is so for ANY rules, from every state, and does
not need this.
-/

namespace Triptych

open Text

namespace Language

/-! ## The three languages -/

theorem mem_patterns_build {name : String} {constructs : List (Option Construct)}
    {patterns : List (Option Pattern)} {rule : Pattern} :
    rule ∈ (build name constructs patterns).patterns ↔ some rule ∈ patterns := by
  rw [build_eq_ofRules, (sorts_ofRules _ _).perm.mem_iff]
  simp [patternsOf, List.filterMap_map, Function.comp_def, Rule.pattern?]

/-- Whether a language has nullable expressions can be told before its rules are sorted. -/
theorem solid_build {name : String} {constructs : List (Option Construct)}
    {patterns : List (Option Pattern)}
    (hconstructs : constructs.all (·.all (!·.opening.nullable)) = true)
    (hpatterns : patterns.all (·.all (!·.regex.nullable)) = true) :
    (build name constructs patterns).Solid := by
  intro r hr
  rw [List.all_eq_true] at hconstructs hpatterns
  rcases List.mem_append.mp hr with hmem | hmem
  · obtain ⟨rule, hrule, rfl⟩ := List.mem_map.mp hmem
    rw [constructs_build, List.mem_filterMap] at hrule
    obtain ⟨_, hrule, rfl⟩ := hrule
    simpa using hconstructs _ hrule
  · obtain ⟨rule, hrule, rfl⟩ := List.mem_map.mp hmem
    simpa using hpatterns _ (mem_patterns_build.mp hrule)

-- a literal is rewritten to its characters first, for the kernel would decode its bytes

theorem html_solid : html.Solid := by
  refine solid_build (by decide +kernel) ?_
  repeat rw [String.toList_ofList]
  decide +kernel

theorem css_solid : css.Solid := by
  refine solid_build (by decide +kernel) ?_
  repeat rw [String.toList_ofList]
  decide +kernel

theorem javaScript_solid : javaScript.Solid := by
  refine solid_build (by decide +kernel) ?_
  unfold keywordPattern globalPattern
  simp only [String.toList_append]
  repeat rw [String.toList_ofList]
  decide +kernel

end Language

/-! ## Blocks -/

/-- No two plain tokens of a line of a block follow each other, whatever the three languages are. -/
theorem Tokenizer.alternates_tokens (markup style script : Language) (line : List Char)
    (state : State LineState LineState LineState) :
    Language.Alternates ((ofLanguages markup style script).tokens line state).1 := by
  have hforward : (ofLanguages markup style script).Forward :=
    ⟨markup.lexer_forward, style.lexer_forward, script.lexer_forward⟩
  by_cases h : isSentinel line = true
  · rw [tokens_of_isSentinel _ h]
    exact .singleton _
  · rw [tokens_of_not_isSentinel _ hforward (by simpa using h)]
    obtain ⟨segment, own, own', own''⟩ := state
    cases segment with
    | markup => exact markup.alternates_tokens line own
    | style => exact style.alternates_tokens line own'
    | script => exact script.alternates_tokens line own''

namespace Segment

theorem solid (kind : Segment) : kind.language.Solid := by
  cases kind with
  | markup => exact Language.html_solid
  | style => exact Language.css_solid
  | script => exact Language.javaScript_solid

/-- A plain run in a block goes on as far as it can: at no boundary inside it does any expression
match, reading from there gives the rest of the run, and what follows the run has a class.  And
of two tokens of a line that follow each other, from every state, one has a class. -/
theorem plain_runs_maximal :
    (∀ (kind : Segment) (text : List Char) (pos : Nat), isBoundary text pos = true →
      let run := kind.language.scan (.ofOffset text pos) .normal
      run.kind = none →
        (∀ n, isBoundary text n = true → pos ≤ n → n < run.stop.offset →
          (∀ r ∈ kind.language.expressions, r.ends (.ofOffset text n) = []) ∧
            kind.language.scan (.ofOffset text n) .normal = run) ∧
          (run.stop.offset < byteSize text →
            (kind.language.scan (.ofOffset text run.stop.offset) .normal).kind ≠ none)) ∧
      ∀ line state, Language.Alternates (Tokenizer.standard.tokens line state).1 := by
  refine ⟨?_, fun line state => ?_⟩
  · intro kind text pos hpos run hplain
    have hrun : run = ⟨kind.language.nextStart (.ofOffset text pos), none, .normal⟩ :=
      Language.scan_of_kind_eq_none hplain
    rw [hrun]
    dsimp only
    obtain ⟨xs, hstop⟩ := kind.language.exists_reads_nextStart (.ofOffset text pos)
    have htext : (kind.language.nextStart (.ofOffset text pos)).text = text := by
      rw [hstop.text_eq, Place.text_ofOffset hpos]
    refine ⟨fun n hn hle hlt => ?_, fun hlt => ?_⟩
    · obtain ⟨ys, hread⟩ := Place.exists_reads_ofOffset hpos hn hle
      have hinside := hread.left_lt_of_offset_lt hstop (by rwa [Place.offset_ofOffset hn])
      exact ⟨fun r hr => kind.solid.ends_eq_nil hread hinside hr,
        kind.solid.scan_eq hread hinside⟩
    · have hback := Place.ofOffset_offset (kind.language.nextStart (.ofOffset text pos))
      rw [htext] at hback
      rw [hback]
      refine Language.kind_scan_ne_none_iff.mpr (Language.begins_nextStart fun hend => ?_)
      rw [Place.offset_eq_byteSize hend, htext] at hlt
      exact Nat.lt_irrefl _ hlt
  · exact Tokenizer.alternates_tokens .html .css .javaScript line state

/-- Two characters, of which one has two bytes, and then a bracket. -/
theorem plain_runs_maximal_bracket :
    let text := ['é', ' ', '>']
    let run := Segment.markup.language.scan (.ofOffset text 0) .normal
    (run.kind = none ∧ run.stop.offset = 3) ∧
      Segment.markup.language.scan (.ofOffset text 2) .normal = run ∧
      (Segment.markup.language.scan (.ofOffset text run.stop.offset) .normal).kind ≠ none := by
  intro text run
  have hrun : run.kind = none ∧ run.stop.offset = 3 := by
    show (Language.html.scan (.ofOffset text 0) .normal).kind = none ∧
      (Language.html.scan (.ofOffset text 0) .normal).stop.offset = 3
    unfold Language.html
    repeat rw [String.toList_ofList]
    rw [Language.build_of_pairwise (by decide +kernel)]
    decide +kernel
  obtain ⟨hinside, hbehind⟩ := plain_runs_maximal.1 .markup text 0 (by decide) hrun.1
  refine ⟨hrun, (hinside 2 (by decide) (by decide) ?_).2, hbehind ?_⟩
  · show 2 < run.stop.offset
    rw [hrun.2]
    decide
  · show run.stop.offset < byteSize text
    rw [hrun.2]
    decide

end Segment

end Triptych
