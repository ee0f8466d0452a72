import Triptych.Proofs.Lexer.Bytes

/-!
# Spans and the tokens they stand for

Where tokens make up a line, their spans mark pieces of the line that follow each other and do
not overlap, and the pieces are the texts of the classified tokens with their classes.  What is
not marked are the bytes of the plain tokens.

Two spans may TOUCH, since no plain token has to stand between two classified ones.
-/

namespace Triptych

open Text

/-- A byte lies in one token only. -/
theorem HoldsByte.unique {tokens : List Token} {n : Nat} {token other : Token}
    (h : HoldsByte tokens n token) (h' : HoldsByte tokens n other) : token = other := by
  induction tokens generalizing n with
  | nil => exact absurd h (not_holdsByte_nil n token)
  | cons first rest ih =>
      rcases holdsByte_cons_iff.mp h with ⟨rfl, hlt⟩ | ⟨hle, hrest⟩
      · rcases holdsByte_cons_iff.mp h' with ⟨rfl, -⟩ | ⟨hle', -⟩
        · rfl
        · omega
      · rcases holdsByte_cons_iff.mp h' with ⟨-, hlt'⟩ | ⟨-, hrest'⟩
        · omega
        · exact ih hrest hrest'

namespace Span

variable {tokens : List Token} {offset n : Nat} {span : Span}

/-- The span holds the byte at an offset. -/
def Holds (span : Span) (n : Nat) : Prop := span.start ≤ n ∧ n < span.stop

/-! ## Where spans come from -/

theorem mem_ofTokensFrom_cons {first : Token} :
    span ∈ ofTokensFrom offset (first :: tokens) ↔
      (first.kind = some span.kind ∧ span.start = offset ∧
          span.stop = offset + byteSize first.text) ∨
        span ∈ ofTokensFrom (offset + byteSize first.text) tokens := by
  obtain ⟨start, stop, kind⟩ := span
  rw [ofTokensFrom]
  cases hkind : first.kind with
  | none => simp
  | some other =>
      simp only [List.mem_cons, Span.mk.injEq, Option.some.injEq]
      refine or_congr_left ⟨?_, ?_⟩
      · rintro ⟨rfl, rfl, rfl⟩
        exact ⟨rfl, rfl, rfl⟩
      · rintro ⟨rfl, rfl, rfl⟩
        exact ⟨rfl, rfl, rfl⟩

/-- A span stands for a classified token, and the sizes of the texts tell where. -/
theorem mem_ofTokensFrom_iff :
    span ∈ ofTokensFrom offset tokens ↔
      ∃ earlier token later, tokens = earlier ++ token :: later ∧ token.kind = some span.kind ∧
        span.start = offset + byteSize (earlier.flatMap Token.text) ∧
        span.stop = span.start + byteSize token.text := by
  constructor
  · intro h
    induction tokens generalizing offset with
    | nil => simp [ofTokensFrom] at h
    | cons first rest ih =>
        rcases mem_ofTokensFrom_cons.mp h with ⟨hkind, hstart, hstop⟩ | hlater
        · exact ⟨[], first, rest, rfl, hkind, hstart, by rw [hstop, hstart]⟩
        · obtain ⟨earlier, token, later, rfl, hkind, hstart, hstop⟩ := ih hlater
          refine ⟨first :: earlier, token, later, rfl, hkind, ?_, hstop⟩
          rw [hstart, List.flatMap_cons, byteSize_append, Nat.add_assoc]
  · rintro ⟨earlier, token, later, rfl, hkind, hstart, hstop⟩
    induction earlier generalizing offset with
    | nil =>
        obtain rfl : span.start = offset := hstart
        exact mem_ofTokensFrom_cons.mpr (Or.inl ⟨hkind, rfl, hstop⟩)
    | cons first earlier ih =>
        refine mem_ofTokensFrom_cons.mpr (Or.inr (ih ?_))
        rw [hstart, List.flatMap_cons, byteSize_append, Nat.add_assoc]

/-- The bytes that spans of a class hold are those of the tokens of the class. -/
theorem exists_holds_iff {kind : TokenClass} :
    (∃ span ∈ ofTokens tokens, span.Holds n ∧ span.kind = kind) ↔
      ∃ token, HoldsByte tokens n token ∧ token.kind = some kind := by
  unfold ofTokens
  constructor
  · rintro ⟨span, hspan, ⟨hle, hlt⟩, rfl⟩
    obtain ⟨earlier, token, later, htokens, hkind, hstart, hstop⟩ := mem_ofTokensFrom_iff.mp hspan
    exact ⟨token, ⟨earlier, later, htokens, by omega, by omega⟩, hkind⟩
  · rintro ⟨token, ⟨earlier, later, htokens, hle, hlt⟩, hkind⟩
    refine ⟨⟨byteSize (earlier.flatMap Token.text),
      byteSize (earlier.flatMap Token.text) + byteSize token.text, kind⟩, ?_, ⟨hle, hlt⟩, rfl⟩
    exact mem_ofTokensFrom_iff.mpr ⟨earlier, token, later, htokens, hkind, by simp, rfl⟩

/-! ## All spans -/

theorem le_start_of_mem (h : span ∈ ofTokensFrom offset tokens) : offset ≤ span.start := by
  obtain ⟨earlier, token, later, -, -, hstart, -⟩ := mem_ofTokensFrom_iff.mp h
  omega

/-- The spans follow each other. -/
theorem pairwise_ofTokensFrom (htext : ∀ token ∈ tokens, token.text ≠ []) :
    (ofTokensFrom offset tokens).Pairwise fun a b => a.start < b.start ∧ a.stop ≤ b.start := by
  induction tokens generalizing offset with
  | nil => exact .nil
  | cons first rest ih =>
      obtain ⟨hfirst, hrest⟩ := List.forall_mem_cons.mp htext
      have hpos := byteSize_pos hfirst
      rw [ofTokensFrom]
      cases first.kind with
      | none => exact ih hrest
      | some kind =>
          refine List.pairwise_cons.mpr ⟨fun span hspan => ?_, ih hrest⟩
          have hle := le_start_of_mem hspan
          dsimp only
          omega

/-- What stands between the ends of the spans are the texts of the classified tokens. -/
theorem map_ofTokensFrom (tokens : List Token) (front back : List Char) :
    (ofTokensFrom (byteSize front) tokens).map (fun span =>
        (between? (front ++ tokens.flatMap Token.text ++ back) span.start span.stop, span.kind)) =
      tokens.filterMap fun token => token.kind.map (some token.text, ·) := by
  induction tokens generalizing front with
  | nil => rfl
  | cons first rest ih =>
      have hline : front ++ (first :: rest).flatMap Token.text ++ back =
          (front ++ first.text) ++ rest.flatMap Token.text ++ back := by
        simp
      have hlater := ih (front ++ first.text)
      rw [byteSize_append] at hlater
      rw [hline, ofTokensFrom]
      cases hkind : first.kind with
      | none =>
          rw [List.filterMap_cons, hkind]
          exact hlater
      | some kind =>
          have hbetween := between?_append front first.text (rest.flatMap Token.text ++ back)
          rw [byteSize_append, ← List.append_assoc] at hbetween
          rw [List.filterMap_cons, hkind, Option.map_some, List.map_cons, hlater, hbetween]

/-- What the spans of a line say of its tokens: they are pieces of the line of at least a
character each, in their order and without overlaps; they hold the texts of the classified tokens,
and no bytes but those of these tokens. -/
structure Marks (spans : List Span) (line : List Char) (tokens : List Token) : Prop where
  start_lt_stop : ∀ span ∈ spans, span.start < span.stop
  stop_le : ∀ span ∈ spans, span.stop ≤ byteSize line
  isBoundary_ends : ∀ span ∈ spans,
    isBoundary line span.start = true ∧ isBoundary line span.stop = true
  pairwise : spans.Pairwise fun a b => a.start < b.start ∧ a.stop ≤ b.start
  /-- The pieces are the texts of the classified tokens, with their classes. -/
  texts_eq : spans.map (fun span => (between? line span.start span.stop, span.kind)) =
    tokens.filterMap fun token => token.kind.map (some token.text, ·)
  /-- What is not marked are the plain tokens. -/
  outside_iff : ∀ n < byteSize line, (∀ span ∈ spans, ¬ span.Holds n) ↔
    ∃ token, HoldsByte tokens n token ∧ token.kind = none

/-- The spans of tokens that make up a line mark the line. -/
theorem marks_ofTokens {line : List Char} (h : Covers line tokens) :
    Marks (ofTokens tokens) line tokens := by
  have hends : ∀ span ∈ ofTokens tokens, ∃ front text back, line = front ++ text ++ back ∧
      text ≠ [] ∧ span.start = byteSize front ∧ span.stop = byteSize (front ++ text) := by
    intro span hspan
    obtain ⟨earlier, token, later, rfl, -, hstart, hstop⟩ := mem_ofTokensFrom_iff.mp hspan
    refine ⟨earlier.flatMap Token.text, token.text, later.flatMap Token.text, ?_, ?_, ?_, ?_⟩
    · rw [← h.flatMap_text]
      simp
    · exact h.text_ne_nil token (by simp)
    · omega
    · rw [byteSize_append]
      omega
  refine ⟨?_, ?_, ?_, pairwise_ofTokensFrom h.text_ne_nil, ?_, ?_⟩
  · intro span hspan
    obtain ⟨front, text, back, -, htext, hstart, hstop⟩ := hends span hspan
    have := byteSize_pos htext
    rw [hstart, hstop, byteSize_append]
    omega
  · intro span hspan
    obtain ⟨front, text, back, rfl, -, -, hstop⟩ := hends span hspan
    rw [hstop, byteSize_append (front ++ text)]
    omega
  · intro span hspan
    obtain ⟨front, text, back, rfl, -, hstart, hstop⟩ := hends span hspan
    rw [hstart, hstop]
    refine ⟨?_, isBoundary_append (front ++ text) back⟩
    rw [List.append_assoc]
    exact isBoundary_append front (text ++ back)
  · have htexts := map_ofTokensFrom tokens [] []
    rwa [List.nil_append, List.append_nil, h.flatMap_text] at htexts
  · intro n hn
    constructor
    · intro hnone
      obtain ⟨token, hholds⟩ := h.exists_holdsByte hn
      refine ⟨token, hholds, Option.eq_none_iff_forall_ne_some.mpr fun kind hkind => ?_⟩
      obtain ⟨span, hspan, hin, -⟩ := exists_holds_iff.mpr ⟨token, hholds, hkind⟩
      exact hnone span hspan hin
    · rintro ⟨token, hholds, hplain⟩ span hspan hin
      obtain ⟨other, hholds', hkind⟩ := exists_holds_iff.mp ⟨span, hspan, hin, rfl⟩
      rw [hholds.unique hholds', hkind] at hplain
      cases hplain

end Span

end Triptych
