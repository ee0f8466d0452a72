import Triptych.Proofs.Language.FirstPatterns
import Triptych.Proofs.Language.Segments
import Triptych.Proofs.Regex.Characters
import Triptych.Proofs.Regex.Preferring

/-!
# String literals

A literal in a style sheet or in a script is read as a reader would who goes from left to right
and knows of escapes.  The expression for literals tries more than that, but what it tries first
is what the reader does, and it never has to go back.

The closing quote may be missing, and then the literal goes to the end of the line.  A backslash
that is the last character of the line escapes nothing and is NOT part of the literal.
-/

namespace Triptych

open Text

namespace Language

/-! ## The reader -/

/-- Read on behind an opening quote: what belongs to the literal, and what does not.  A backslash
is passed over together with the character after it, and the first quote that is not passed over
so is the last character of the literal. -/
def readLiteral (quote : Char) : List Char → List Char × List Char
  | [] => ([], [])
  | c :: rest =>
      if c = '\\' then
        match rest with
        | [] => ([], [c])
        | d :: rest => (c :: d :: (readLiteral quote rest).1, (readLiteral quote rest).2)
      else if c = quote then ([c], rest)
      else (c :: (readLiteral quote rest).1, (readLiteral quote rest).2)

theorem readLiteral_append (quote : Char) (s : List Char) :
    (readLiteral quote s).1 ++ (readLiteral quote s).2 = s := by
  fun_induction readLiteral quote s with
  | case1 => rfl
  | case2 => rfl
  | case3 d rest ih => simp [ih]
  | case4 => rfl
  | case5 c rest hescape hquote ih => simp [ih]

/-! ## Rounds inside quotes -/

section Rounds

variable {quote c d : Char} {p : Place} {front rest s : List Char}

theorem quotedRound_takes_char (hescape : c ≠ '\\') (hquote : c ≠ quote) :
    (quotedRound quote).Takes (.between front (c :: rest)) (.between (front ++ [c]) rest) := by
  have hread : (Place.between front ([c] ++ rest)).Reads [c] (.between (front ++ [c]) rest) :=
    Place.reads_between_iff.mpr rfl
  have hc : (CharSet.compl (.union (.oneOf [quote]) (.oneOf ['\\']))).contains c = true := by
    simp [CharSet.contains, hescape, hquote]
  exact (Regex.prefers_char hc hread).alt_left.takes (hread.left_lt (List.cons_ne_nil c []))

/-- The first alternative of a round fails at a quote, at a backslash and at the end. -/
theorem ends_unquoted_eq_nil (h : ∀ c ∈ p.after.head?, c = quote ∨ c = '\\') :
    (Regex.char (.compl (.union (.oneOf [quote]) (.oneOf ['\\'])))).ends p = [] := by
  refine Regex.ends_char_eq_nil fun c rest hafter => ?_
  rcases h c (by simp [hafter]) with rfl | rfl <;> simp [CharSet.contains]

theorem quotedRound_takes_escaped (hfeed : d ≠ '\n') :
    (quotedRound quote).Takes (.between front ('\\' :: d :: rest))
      (.between (front ++ ['\\', d]) rest) := by
  have hread : (Place.between front (['\\', d] ++ rest)).Reads ['\\', d]
      (.between (front ++ ['\\', d]) rest) := Place.reads_between_iff.mpr rfl
  obtain ⟨m, hfirst, hsecond⟩ := Place.reads_cons.mp hread
  have hd : CharSet.notLineFeed.contains d = true := by
    simp [CharSet.notLineFeed, CharSet.contains, hfeed]
  have hescaped : (Regex.seq (.char (.oneOf ['\\'])) (.char .notLineFeed)).Prefers
      (.between front ('\\' :: d :: rest)) (.between (front ++ ['\\', d]) rest) :=
    (Regex.prefers_char (by decide) hfirst).seq (Regex.prefers_char hd hsecond)
  refine (Regex.Prefers.alt_right ?_ hescaped).takes (hread.left_lt (by simp))
  exact ends_unquoted_eq_nil (by simp)

/-- No round begins with the quote, nor with the last character of a line if it is a backslash,
nor at the end of the line. -/
theorem ends_quotedRound_eq_nil (hquote : quote ≠ '\\')
    (h : p.after = [] ∨ p.after = ['\\'] ∨ ∃ rest, p.after = quote :: rest) :
    (quotedRound quote).ends p = [] := by
  rw [List.eq_nil_iff_forall_not_mem]
  intro q hmem
  rcases Regex.mem_ends_alt.mp hmem with hmem | hmem
  · have hhead : ∀ c ∈ p.after.head?, c = quote ∨ c = '\\' := by
      rcases h with h | h | ⟨rest, h⟩ <;> simp [h]
    rw [ends_unquoted_eq_nil hhead] at hmem
    exact List.not_mem_nil hmem
  · obtain ⟨m, hfirst, hsecond⟩ := Regex.mem_ends_seq.mp hmem
    obtain ⟨c, hc, hread⟩ := Regex.mem_ends_char.mp hfirst
    obtain ⟨d, -, hread'⟩ := Regex.mem_ends_char.mp hsecond
    obtain rfl : c = '\\' := by simpa [CharSet.contains] using hc
    have hafter := (hread.trans hread').1
    rcases h with h | h | ⟨rest, h⟩
    · simp [h] at hafter
    · simp [h] at hafter
    · rw [h] at hafter
      exact hquote (List.cons.inj hafter).1

/-- The rounds inside quotes go on as far as the reader does, and then comes the closing quote
if there is one. -/
theorem exists_exhausts_readLiteral (hquote : quote ≠ '\\') (hfeed : '\n' ∉ s)
    (front : List Char) :
    ∃ m, (quotedRound quote).Exhausts (.between front s) m ∧
      ((Regex.char (.oneOf [quote])).optional true).Prefers m
        (.between (front ++ (readLiteral quote s).1) (readLiteral quote s).2) := by
  fun_induction readLiteral quote s generalizing front with
  | case1 =>
      refine ⟨_, .done (ends_quotedRound_eq_nil hquote (Or.inl rfl)), ?_⟩
      rw [List.append_nil]
      exact Regex.prefers_optional_of_ends_eq_nil (Regex.ends_char_eq_nil (by simp))
  | case2 =>
      refine ⟨_, .done (ends_quotedRound_eq_nil hquote (Or.inr (Or.inl rfl))), ?_⟩
      rw [List.append_nil]
      refine Regex.prefers_optional_of_ends_eq_nil (Regex.ends_char_eq_nil ?_)
      simp [CharSet.contains, hquote.symm]
  | case3 d rest ih =>
      obtain ⟨hd, hrest⟩ : '\n' ≠ d ∧ '\n' ∉ rest := by simpa using hfeed
      obtain ⟨m, hexhausts, hclosing⟩ := ih hrest (front ++ ['\\', d])
      refine ⟨m, .more (quotedRound_takes_escaped hd.symm) hexhausts, ?_⟩
      simpa using hclosing
  | case4 rest =>
      refine ⟨_, .done (ends_quotedRound_eq_nil hquote (Or.inr (Or.inr ⟨rest, rfl⟩))), ?_⟩
      have hread : (Place.between front ([quote] ++ rest)).Reads [quote]
          (.between (front ++ [quote]) rest) := Place.reads_between_iff.mpr rfl
      exact (Regex.prefers_char (by simp [CharSet.contains]) hread).optional
  | case5 c rest hescape hne ih =>
      obtain ⟨-, hrest⟩ : '\n' ≠ c ∧ '\n' ∉ rest := by simpa using hfeed
      obtain ⟨m, hexhausts, hclosing⟩ := ih hrest (front ++ [c])
      refine ⟨m, .more (quotedRound_takes_char hescape hne) hexhausts, ?_⟩
      simpa using hclosing

/-- The expression for literals takes what the reader reads. -/
theorem quoted_takes (hquote : quote ≠ '\\') (hfeed : '\n' ∉ s) (front : List Char) :
    (quoted quote).Takes (.between front (quote :: s))
      (.between (front ++ quote :: (readLiteral quote s).1) (readLiteral quote s).2) := by
  have hopening : (Place.between front ([quote] ++ s)).Reads [quote]
      (.between (front ++ [quote]) s) := Place.reads_between_iff.mpr rfl
  obtain ⟨m, hexhausts, hclosing⟩ := exists_exhausts_readLiteral hquote hfeed (front ++ [quote])
  have hbehind := hexhausts.prefers_star.seq hclosing
  rw [List.append_assoc, List.singleton_append] at hbehind
  refine ((Regex.prefers_char (by simp [CharSet.contains]) hopening).seq hbehind).takes ?_
  have hlength := congrArg List.length (readLiteral_append quote s)
  rw [List.length_append] at hlength
  show (readLiteral quote s).2.length < (quote :: s).length
  rw [List.length_cons]
  omega

end Rounds

/-! ## Style sheets and scripts -/

/-- No construct opens where a character stands that begins no opening. -/
theorem DelimitedBy.not_anyTakes {language : Language} {kinds : List Delimiters}
    (h : language.DelimitedBy kinds) {c : Char}
    (hkinds : ∀ d ∈ kinds, d.opening.head? ≠ some c) {p : Place} {rest : List Char}
    (hafter : p.after = c :: rest) :
    ¬ AnyTakes Construct.opening language.constructs p := by
  rintro ⟨rule, hrule, stop, htakes⟩
  obtain ⟨d, hd, hdelimits⟩ := exists_delimits h.rules hrule
  have hread := (hdelimits.opening.takes_iff d.opening_ne_nil).mp htakes
  obtain ⟨e, es, hopening⟩ := List.exists_cons_of_ne_nil d.opening_ne_nil
  rw [hopening] at hread
  obtain ⟨rfl, -⟩ := List.cons.inj (hafter.symm.trans hread.1)
  exact hkinds d hd (by simp [hopening])

/-- Each of the two quotes has its rule, and no pattern before that rule begins with the quote. -/
theorem exists_stringRule {kind : Segment} (hkind : kind = .style ∨ kind = .script) {quote : Char}
    (hquote : quote = '"' ∨ quote = '\'') :
    ∃ earlier name later,
      kind.language.patterns = earlier ++ stringRule name quote :: later ∧
        ∀ other ∈ earlier, other.regex.mayBegin quote = false := by
  rcases hkind with rfl | rfl
  · obtain ⟨later, hpatterns⟩ := css_patterns
    rcases hquote with rfl | rfl
    · exact ⟨[], _, _, hpatterns, by simp⟩
    · exact ⟨[stringRule "string" '"'], _, _, hpatterns, by decide⟩
  · obtain ⟨later, hpatterns⟩ := javaScript_patterns
    rcases hquote with rfl | rfl
    · exact ⟨[lineCommentRule], _, _, hpatterns, by decide⟩
    · exact ⟨[lineCommentRule, stringRule "string" '"'], _, _, hpatterns, by decide⟩

end Language

namespace Segment

open Triptych.Language

theorem scan_quote {kind : Segment} (hkind : kind = .style ∨ kind = .script) {quote : Char}
    (hquote : quote = '"' ∨ quote = '\'') {s : List Char} (hfeed : '\n' ∉ s)
    (front : List Char) :
    kind.language.scan (.between front (quote :: s)) .normal =
      ⟨.between (front ++ quote :: (readLiteral quote s).1) (readLiteral quote s).2,
        some .string, .normal⟩ := by
  have hescape : quote ≠ '\\' := by rcases hquote with rfl | rfl <;> decide
  have hopens : ∀ d ∈ kind.delimiters, d.opening.head? ≠ some quote := by
    rcases hkind with rfl | rfl <;> rcases hquote with rfl | rfl <;> decide
  obtain ⟨earlier, name, later, hpatterns, hearlier⟩ := exists_stringRule hkind hquote
  have hfirst : FirstTaking Pattern.regex kind.language.patterns (.between front (quote :: s))
      (stringRule name quote)
      (.between (front ++ quote :: (readLiteral quote s).1) (readLiteral quote s).2) :=
    ⟨earlier, later, hpatterns, quoted_takes hescape hfeed front,
      fun other hother q => Regex.not_takes_of_mayBegin (hearlier other hother) rfl⟩
  exact scanNormal_of_matched (kind.delimitedBy.not_anyTakes hopens rfl) hfirst

/-- Where a quote stands in a style sheet or in a script and nothing is open, the token is a
string.  It ends where a reader comes to who goes on from the quote, passes over each backslash
with the character after it, and stops behind the first quote of the kind that he has not passed
over; else at the end of the line, or before a backslash that is its last character. -/
theorem literal_as_read {kind : Segment} (hkind : kind = .style ∨ kind = .script) {quote : Char}
    (hquote : quote = '"' ∨ quote = '\'') {front back : List Char}
    (hfeed : '\n' ∉ front ++ quote :: back) (start : Nat) :
    let line := front ++ quote :: back
    let taken := (readLiteral quote back).1
    kind.language.lexer.read ⟨line, start, byteSize front⟩ .normal =
      ⟨some .string, ⟨line, start, byteSize (front ++ quote :: taken)⟩, .normal⟩ := by
  intro line taken
  obtain ⟨left, hleft⟩ : ∃ left, left = (readLiteral quote back).2 := ⟨_, rfl⟩
  have hline : line = (front ++ quote :: taken) ++ left := by
    rw [hleft, List.append_assoc, List.cons_append, readLiteral_append]
  have hback : '\n' ∉ back := fun hmem => hfeed (by simp [hmem])
  have hscan : kind.language.scan (.ofOffset line (byteSize front)) .normal =
      ⟨.between (front ++ quote :: taken) left, some .string, .normal⟩ := by
    rw [Place.ofOffset_append, scan_quote hkind hquote hback, hleft]
  have hmoved : (Cursor.mk line start (byteSize front)).advanceTo
      (byteSize (front ++ quote :: taken)) = ⟨line, start, byteSize (front ++ quote :: taken)⟩ := by
    refine Cursor.advanceTo_boundary hline ?_
    show byteSize front ≤ _
    rw [byteSize_append]
    omega
  unfold lexer
  dsimp only
  rw [hscan, Place.offset_between, hmoved]

/-- Both quotes stand behind a backslash or in the other kind of quotes, a character has two
bytes, and the line ends with a backslash. -/
theorem literal_as_read_escapes :
    let back := ['\\', '"', '\'', '\\', '\\', 'é', '\\']
    let line := ['x', '='] ++ '"' :: back
    '\n' ∉ line ∧ readLiteral '"' back = (['\\', '"', '\'', '\\', '\\', 'é'], ['\\']) ∧
      Language.javaScript.lexer.read ⟨line, 0, 2⟩ .normal =
        ⟨some .string, ⟨line, 0, 10⟩, .normal⟩ := by
  intro back line
  have hfeed : '\n' ∉ line := by decide
  exact ⟨hfeed, by decide, literal_as_read (.inr rfl) (.inl rfl) hfeed 0⟩

end Segment

end Triptych
