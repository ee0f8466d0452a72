import Triptych.Language.OfSegment
import Triptych.Proofs.Language.Constructs

/-!
# The constructs of a block

Each segment has comments that may run over several lines, and scripts have template literals
besides.  In all three languages a construct ends where a scan of the whole text ends it, and a
template literal is the only one with an escape.

Line comments and strings are patterns and end with their line at the latest.  They are NOT
treated here.
-/

namespace Triptych

open Lexer

namespace Delimiters

/-- Comments in markup. -/
def markupComment : Delimiters where
  opening := ['<', '!', '-', '-']
  closing := ['-', '-', '>']
  kind := .comment
  escape := none
  id := 1

/-- Comments in style sheets and in scripts. -/
def blockComment : Delimiters where
  opening := ['/', '*']
  closing := ['*', '/']
  kind := .comment
  escape := none
  id := 1

/-- Template literals. -/
def template : Delimiters where
  opening := ['\x60']
  closing := ['\x60']
  kind := .string
  escape := some '\\'
  id := 2

/-- A rule whose patterns are the delimiters. -/
theorem exists_make? (d : Delimiters) (name : String) {opening closing : List Char}
    (hopening : Regex.parse? opening = some (.spelled d.opening))
    (hclosing : Regex.parse? closing = some (.spelled d.closing)) :
    ∃ rule, Construct.make? name opening closing d.kind d.id d.escape = some rule ∧
      d.Delimits rule := by
  refine ⟨⟨name, .spelled d.opening, .spelled d.closing, d.kind, d.escape, d.id⟩, ?_, ?_⟩
  · unfold Construct.make?
    rw [hopening, hclosing]
    rfl
  · exact ⟨Regex.spells_spelled d.opening, Regex.spells_spelled d.closing, rfl, rfl, rfl⟩

end Delimiters

open Delimiters

/-! ## The three languages -/

/-- The delimiters of the constructs of a segment's language. -/
def Segment.delimiters : Segment → List Delimiters
  | .markup => [markupComment]
  | .style => [blockComment]
  | .script => [blockComment, template]

/-- Patterns have no part in what the constructs of a language are between. -/
theorem Language.delimitedBy_build {kinds : List Delimiters} {rules : List Construct}
    (hrules : List.Forall₂ Delimits kinds rules) (hapart : kinds.Pairwise Apart) (name : String)
    (patterns : List (Option Pattern)) :
    (build name (rules.map some) patterns).DelimitedBy kinds := by
  refine ⟨?_, hapart⟩
  rw [constructs_build, List.filterMap_map]
  simpa [Function.comp_def] using hrules

theorem parse?_markupComment :
    Regex.parse? "<!--".toList = some (.spelled markupComment.opening) ∧
      Regex.parse? "-->".toList = some (.spelled markupComment.closing) := by
  decide +kernel

theorem parse?_blockComment :
    Regex.parse? "/\\*".toList = some (.spelled blockComment.opening) ∧
      Regex.parse? "\\*/".toList = some (.spelled blockComment.closing) := by
  decide +kernel

theorem parse?_template : Regex.parse? "\x60".toList = some (.spelled template.opening) := by
  decide +kernel

theorem Language.html_delimitedBy : Language.html.DelimitedBy [markupComment] := by
  obtain ⟨hopening, hclosing⟩ := parse?_markupComment
  obtain ⟨rule, hmake, hrule⟩ := markupComment.exists_make? "comment" hopening hclosing
  show (build _ [Construct.make? "comment" _ _ markupComment.kind markupComment.id
    markupComment.escape] _).DelimitedBy _
  rw [hmake]
  exact delimitedBy_build (.cons hrule .nil) (List.pairwise_singleton _ _) _ _

theorem Language.css_delimitedBy : Language.css.DelimitedBy [blockComment] := by
  obtain ⟨hopening, hclosing⟩ := parse?_blockComment
  obtain ⟨rule, hmake, hrule⟩ := blockComment.exists_make? "block_comment" hopening hclosing
  show (build _ [Construct.make? "block_comment" _ _ blockComment.kind blockComment.id
    blockComment.escape] _).DelimitedBy _
  rw [hmake]
  exact delimitedBy_build (.cons hrule .nil) (List.pairwise_singleton _ _) _ _

theorem Language.javaScript_delimitedBy :
    Language.javaScript.DelimitedBy [blockComment, template] := by
  obtain ⟨hopening, hclosing⟩ := parse?_blockComment
  obtain ⟨first, hfirst, hcomment⟩ :=
    blockComment.exists_make? "block_comment" hopening hclosing
  obtain ⟨second, hsecond, htemplate⟩ :=
    template.exists_make? "template" parse?_template parse?_template
  have hapart : blockComment.Apart template := ⟨by decide, by decide, by decide⟩
  show (build _ [Construct.make? "block_comment" _ _ blockComment.kind blockComment.id
      blockComment.escape,
    Construct.make? "template" _ _ template.kind template.id template.escape] _).DelimitedBy _
  rw [hfirst, hsecond]
  exact delimitedBy_build (.cons hcomment (.cons htemplate .nil)) (List.pairwise_pair.mpr hapart)
    _ _

theorem Segment.delimitedBy (kind : Segment) : kind.language.DelimitedBy kind.delimiters := by
  cases kind with
  | markup => exact Language.html_delimitedBy
  | style => exact Language.css_delimitedBy
  | script => exact Language.javaScript_delimitedBy

theorem Segment.identified (kind : Segment) : kind.language.Identified := kind.delimitedBy.identified

/-- None of these closings can overlap an escaped one, so the first that counts is found. -/
theorem Segment.findsFirst (kind : Segment) {rule : Construct}
    (hrule : rule ∈ kind.language.constructs) : ∃ d, rule.ClosedBy d ∧ rule.FindsFirst d := by
  have hall : ∀ d ∈ kind.delimiters,
      ¬ Construct.SelfOverlaps d.closing ∧ d.escape.all (· ∉ d.closing) = true := by
    cases kind <;> decide
  obtain ⟨d, hd, hdelimits⟩ := Language.exists_delimits kind.delimitedBy.rules hrule
  obtain ⟨hself, hescape⟩ := hall d hd
  have hclosed : rule.ClosedBy d.closing := by
    refine ⟨hdelimits.closing, d.closing_ne_nil, fun e he => ?_⟩
    rw [← hdelimits.escape_eq, he] at hescape
    exact of_decide_eq_true hescape
  exact ⟨d.closing, hclosed,
    hclosed.findsFirst fun s within after hcounts hover => hself (hcounts.selfOverlaps hover)⟩

/-! ## Whole texts -/

/-- Wherever an opening stands when a token is to be read in the normal state, the tokens from
there on are the construct, up to the end of the first closing that counts or else of the text.
That closing may be found by a scan of the whole text, or told by the run of escapes before it:
on lines, nothing is different. -/
theorem Segment.walk_spans (kind : Segment) :
    kind.language.DelimitedBy kind.delimiters ∧
      (∀ text, (∃ readings, kind.language.lexer.WalksThrough text readings) ∧
        ∀ readings, kind.language.lexer.WalksThrough text readings →
          readings.map (·.token) = kind.language.lexer.classify text) ∧
      (∀ text earlier reading later,
        kind.language.lexer.WalksThrough text (earlier ++ reading :: later) →
        reading.before = .normal →
        ∀ d ∈ kind.delimiters, ∀ body, text = textOf earlier ++ (d.opening ++ body) →
          d.Spans d.opening body (reading :: later)) ∧
      ∀ d ∈ kind.delimiters, ∀ body within after,
        d.skim false body = some (within, after) ↔
          ∃ front, within = front ++ d.closing ∧ d.FirstClosing body front after := by
  have hmoves := kind.language.lexer_movesCursor
  refine ⟨kind.delimitedBy, fun text => ⟨hmoves.exists_walksThrough text, ?_⟩, ?_,
    fun d _ body within after => skim_eq_some_iff_firstClosing⟩
  · exact fun readings hwalks => hwalks.map_token hmoves
  · rintro text earlier reading later ⟨first, others, hpieces, hwalks⟩ hnormal d hd body htext
    have hstart := Cursor.stands_ofLine first
    have hwhole := hwalks.textOf_eq hmoves hstart
    rw [← hpieces, Text.joinLines_pieces, htext, textOf_append] at hwhole
    have hhere := List.append_cancel_left hwhole
    obtain ⟨cursor, others', front, token, back, hstands, hfrom⟩ :=
      hwalks.from_token hmoves hstart
    rw [hfrom.textOf_eq hmoves hstands] at hhere
    rw [hnormal] at hfrom
    exact spans_of_opening kind.delimitedBy hd hfrom hstands hhere

/-- A backslash at the end of a line escapes nothing on the next one. -/
theorem Segment.walk_spans_template :
    let body := ['a', '\\', '\n', '\x60', ';']
    ∃ reading later,
      Language.javaScript.lexer.WalksThrough ('\x60' :: body) (reading :: later) ∧
        reading.before = .normal ∧ template ∈ Segment.script.delimiters ∧
        template.Spans template.opening body (reading :: later) ∧
        template.skim false body = some (['a', '\\', '\n', '\x60'], [';']) ∧
        template.FirstClosing body ['a', '\\', '\n'] [';'] := by
  intro body
  obtain ⟨-, hexists, hspans, hclosing⟩ := walk_spans .script
  obtain ⟨readings, hwalks⟩ := (hexists ('\x60' :: body)).1
  obtain ⟨reading, later, rfl, hnormal⟩ :
      ∃ reading later, readings = reading :: later ∧ reading.before = .normal := by
    obtain ⟨first, others, hpieces, hwalk⟩ := hwalks
    obtain ⟨rfl, -⟩ := List.cons.inj (hpieces.symm.trans (by rfl :
      Text.pieces ('\x60' :: body) = [['\x60', 'a', '\\'], ['\x60', ';']]))
    cases hwalk with
    | done hend => exact absurd hend (by decide)
    | feed hend hrest => exact absurd hend (by decide)
    | token hend hrest => exact ⟨_, _, rfl, rfl⟩
  have hmem : template ∈ Segment.script.delimiters := by simp [Segment.delimiters]
  have hskim : template.skim false body = some (['a', '\\', '\n', '\x60'], [';']) := by decide
  obtain ⟨front, hfront, hfirst⟩ := (hclosing template hmem body _ _).mp hskim
  obtain rfl : ['a', '\\', '\n'] = front :=
    List.append_cancel_right hfront
  exact ⟨reading, later, hwalks, hnormal, hmem,
    hspans _ [] reading later hwalks hnormal template hmem body rfl, hskim, hfirst⟩

/-- The second dash of the opening is none of the closing. -/
example : markupComment.skim false ['>', '-', '-', '>'] = some (['>', '-', '-', '>'], []) := by
  decide

end Triptych
