import Triptych.Proofs.Language.Selection
import Triptych.Proofs.Lexer.Advancing
import Triptych.Proofs.Tokenizer.Coverage

/-!
# Reading goes on

Whatever the rules of a language are, a token takes at least one character where one is left.
An expression may match the empty text, and only that; then it does not count.  Two constructs
may have one id, an id may be zero, and a state may name a construct that there is not.

So neither the loop over a line nor the search for a closing needs a guard, and where there is
one, it has NOTHING to do.
-/

namespace Triptych

open Text

namespace Construct

/-! ## The search for a closing -/

/-- The search from `p` on for a closing that is not escaped, without a guard: where it never
ends, it comes to nothing. -/
inductive Searches (rule : Construct) (body : Place) : Place → Option Place → Prop where
  | missing {p : Place} (hnone : rule.closing.findNonempty? p = none) :
      Searches rule body p none
  | found {p start stop : Place} (hfound : rule.closing.findNonempty? p = some (start, stop))
      (hescaped : rule.isEscaped body start = false) : Searches rule body p (some stop)
  | passed {p start stop : Place} {result : Option Place}
      (hfound : rule.closing.findNonempty? p = some (start, stop))
      (hescaped : rule.isEscaped body start = true) (hrest : Searches rule body stop result) :
      Searches rule body p result

theorem precedes_of_findNonempty? {rule : Construct} {p start stop : Place}
    (h : rule.closing.findNonempty? p = some (start, stop)) : p.Precedes stop := by
  obtain ⟨⟨xs, hread⟩, htakes⟩ := Regex.findNonempty?_goes_on h
  exact hread.trans_precedes htakes

theorem findClosingFrom?_of_none {rule : Construct} {p : Place} (body : Place)
    (h : rule.closing.findNonempty? p = none) : rule.findClosingFrom? body p = none := by
  rw [findClosingFrom?, h]

/-- The search goes on behind what it finds, and no guard is asked. -/
theorem findClosingFrom?_of_some {rule : Construct} {p start stop : Place} (body : Place)
    (h : rule.closing.findNonempty? p = some (start, stop)) :
    rule.findClosingFrom? body p =
      if rule.isEscaped body start then rule.findClosingFrom? body stop else some stop := by
  have hlt := (precedes_of_findNonempty? h).left_lt
  rw [findClosingFrom?, h]
  dsimp only
  rw [if_pos hlt]

/-- The search ends, and the guarded one comes to the same. -/
theorem searches_findClosingFrom? (rule : Construct) (body p : Place) :
    rule.Searches body p (rule.findClosingFrom? body p) := by
  induction hn : p.left using Nat.strongRecOn generalizing p with
  | _ n ih =>
      cases hfound : rule.closing.findNonempty? p with
      | none =>
          rw [findClosingFrom?_of_none body hfound]
          exact .missing hfound
      | some found =>
          obtain ⟨start, stop⟩ := found
          have hlt := (precedes_of_findNonempty? hfound).left_lt
          rw [findClosingFrom?_of_some body hfound]
          cases hescaped : rule.isEscaped body start with
          | false => exact .found hfound hescaped
          | true => exact .passed hfound hescaped (ih _ (hn ▸ hlt) stop rfl)

theorem Searches.precedes {rule : Construct} {body p stop : Place}
    (h : rule.Searches body p (some stop)) : p.Precedes stop := by
  generalize hresult : some stop = result at h
  induction h with
  | missing hnone => exact absurd hresult (by simp)
  | found hfound hescaped =>
      obtain rfl := Option.some.inj hresult
      exact precedes_of_findNonempty? hfound
  | passed hfound hescaped hrest ih =>
      obtain ⟨xs, hxs, hread⟩ := precedes_of_findNonempty? hfound
      exact hread.trans_precedes (ih hresult)

end Construct

namespace Language

/-! ## One token -/

/-- The rest of a construct is read from its inside on. -/
theorem exists_reads_scanInside (rule : Construct) (body : Place) (state : LineState) :
    ∃ xs, body.Reads xs (scanInside rule body state).stop := by
  have hsearch := rule.searches_findClosingFrom? body body
  unfold scanInside Construct.findClosing?
  split
  · next stop hclosing =>
      rw [hclosing] at hsearch
      obtain ⟨xs, -, hread⟩ := hsearch.precedes
      exact ⟨xs, hread⟩
  · exact ⟨body.after, body.reads_finish⟩

theorem precedes_scanInside (rule : Construct) {p : Place} (hp : p.after ≠ [])
    (state : LineState) : p.Precedes (scanInside rule p state).stop := by
  have hsearch := rule.searches_findClosingFrom? p p
  unfold scanInside Construct.findClosing?
  split
  · next stop hclosing =>
      rw [hclosing] at hsearch
      exact hsearch.precedes
  · exact Place.precedes_finish hp

/-- The expressions with which a token can begin outside all constructs. -/
def expressions (language : Language) : List Regex :=
  language.constructs.map (·.opening) ++ language.patterns.map (·.regex)

theorem foldl_nearer_eq_or (best : Place) (found : List (Place × Place)) :
    let nearest := found.foldl (fun best (start, _) => nearer best start) best
    (nearest = best ∨ ∃ stop, (nearest, stop) ∈ found) ∧ best.left ≤ nearest.left ∧
      ∀ place ∈ found, place.1.left ≤ nearest.left := by
  induction found generalizing best with
  | nil => exact ⟨Or.inl rfl, Nat.le_refl _, by simp⟩
  | cons first others ih =>
      obtain ⟨start, stop⟩ := first
      obtain ⟨hone, hbest, hothers⟩ := ih (nearer best start)
      have hchoice : (nearer best start = best ∨ nearer best start = start) ∧
          best.left ≤ (nearer best start).left ∧ start.left ≤ (nearer best start).left := by
        unfold nearer
        split
        · next hle => exact ⟨Or.inl rfl, Nat.le_refl _, hle⟩
        · next hlt => exact ⟨Or.inr rfl, by omega, Nat.le_refl _⟩
      obtain ⟨heither, hle, hle'⟩ := hchoice
      refine ⟨?_, Nat.le_trans hle hbest, List.forall_mem_cons.mpr ⟨?_, hothers⟩⟩
      · rcases hone with heq | ⟨other, hmem⟩
        · rcases heither with hfirst | hfirst
          · exact Or.inl (heq.trans hfirst)
          · exact Or.inr ⟨stop, by rw [List.foldl_cons, heq, hfirst]; exact List.mem_cons_self⟩
        · exact Or.inr ⟨other, List.mem_cons_of_mem _ hmem⟩
      · exact Nat.le_trans hle' hbest

theorem nextStart_eq_foldl (language : Language) (p : Place) :
    language.nextStart p = (language.expressions.filterMap (·.findNonempty? p)).foldl
      (fun best (start, _) => nearer best start) p.finish := by
  unfold nextStart expressions
  rw [List.filterMap_append, List.filterMap_map, List.filterMap_map]
  rfl

/-- A run ends at the end of the text or where some expression is found. -/
theorem nextStart_eq_or (language : Language) (p : Place) :
    language.nextStart p = p.finish ∨
      ∃ r ∈ language.expressions, ∃ stop,
        r.findNonempty? p = some (language.nextStart p, stop) := by
  rw [nextStart_eq_foldl]
  obtain ⟨hone, -, -⟩ :=
    foldl_nearer_eq_or p.finish (language.expressions.filterMap (·.findNonempty? p))
  rcases hone with hfinish | ⟨stop, hmem⟩
  · exact Or.inl hfinish
  · obtain ⟨r, hr, hfound⟩ := List.mem_filterMap.mp hmem
    exact Or.inr ⟨r, hr, stop, hfound⟩

/-- Where no rule takes anything, the next place where one is found is further on. -/
theorem precedes_nextStart {language : Language} {p : Place} (hp : p.after ≠ [])
    (hopens : ¬ AnyTakes Construct.opening language.constructs p)
    (htakes : ¬ AnyTakes Pattern.regex language.patterns p) :
    p.Precedes (language.nextStart p) := by
  rcases language.nextStart_eq_or p with hfinish | ⟨r, hr, stop, hfound⟩
  · rw [hfinish]
    exact Place.precedes_finish hp
  · refine Regex.precedes_of_findNonempty? hfound fun q hq => ?_
    rcases List.mem_append.mp hr with hr | hr
    · obtain ⟨rule, hrule, rfl⟩ := List.mem_map.mp hr
      exact hopens ⟨rule, hrule, q, hq⟩
    · obtain ⟨rule, hrule, rfl⟩ := List.mem_map.mp hr
      exact htakes ⟨rule, hrule, q, hq⟩

/-- The state names no construct, or one that the language has. -/
def Knows (language : Language) (state : LineState) : Prop :=
  state.openId = 0 ∨ ∃ rule ∈ language.constructs, state.openId = rule.id

theorem knows_scanInside {language : Language} {rule : Construct} {state : LineState}
    (h : language.Knows state) (body : Place) :
    language.Knows (scanInside rule body state).state := by
  unfold scanInside
  split
  · exact Or.inl rfl
  · exact h

/-- Outside all constructs a token takes something, in each of the three ways to read it. -/
theorem precedes_scanNormal (language : Language) {p : Place} (hp : p.after ≠ []) :
    p.Precedes (language.scanNormal p).stop := by
  by_cases hopens : AnyTakes Construct.opening language.constructs p
  · obtain ⟨rule, body, hfirst⟩ := hopens.exists_first
    rw [scanNormal_of_opened hfirst]
    obtain ⟨-, -, -, htakes, -⟩ := hfirst
    obtain ⟨xs, hread⟩ := exists_reads_scanInside rule body (.inside rule.id)
    exact htakes.precedes.trans_reads hread
  · by_cases htakes : AnyTakes Pattern.regex language.patterns p
    · obtain ⟨rule, stop, hfirst⟩ := htakes.exists_first
      rw [scanNormal_of_matched hopens hfirst]
      obtain ⟨-, -, -, htakes, -⟩ := hfirst
      exact htakes.precedes
    · rw [scanNormal_of_plain hopens htakes]
      exact precedes_nextStart hp hopens htakes

theorem knows_scanNormal (language : Language) (p : Place) :
    language.Knows (language.scanNormal p).state := by
  by_cases hopens : AnyTakes Construct.opening language.constructs p
  · obtain ⟨rule, body, hfirst⟩ := hopens.exists_first
    rw [scanNormal_of_opened hfirst]
    exact knows_scanInside (Or.inr ⟨rule, hfirst.mem, rfl⟩) body
  · by_cases htakes : AnyTakes Pattern.regex language.patterns p
    · obtain ⟨rule, stop, hfirst⟩ := htakes.exists_first
      rw [scanNormal_of_matched hopens hfirst]
      exact Or.inl rfl
    · rw [scanNormal_of_plain hopens htakes]
      exact Or.inl rfl

/-- The construct that is open is one of the language, with the id that the state holds. -/
theorem of_openConstruct?_eq_some {language : Language} {state : LineState} {rule : Construct}
    (h : language.openConstruct? state = some rule) :
    rule ∈ language.constructs ∧ rule.id = state.openId := by
  unfold openConstruct? at h
  split at h
  · exact ⟨List.mem_of_find?_eq_some h, by simpa using List.find?_some h⟩
  · cases h

/-- After a token the state names a construct of the language, wherever and in whatever state the
token is read. -/
theorem knows_scan (language : Language) (p : Place) (state : LineState) :
    language.Knows (language.scan p state).state := by
  cases hopen : language.openConstruct? state with
  | some rule =>
      obtain ⟨hmem, hid⟩ := of_openConstruct?_eq_some hopen
      rw [scan, hopen]
      exact knows_scanInside (Or.inr ⟨rule, hmem, hid.symm⟩) p
  | none =>
      rw [scan_of_openConstruct?_eq_none hopen]
      exact language.knows_scanNormal p

/-- A token takes something where anything is left. -/
theorem precedes_scan (language : Language) {p : Place} (hp : p.after ≠ []) (state : LineState) :
    p.Precedes (language.scan p state).stop := by
  cases hopen : language.openConstruct? state with
  | some rule =>
      rw [scan, hopen]
      exact precedes_scanInside rule hp state
  | none =>
      rw [scan_of_openConstruct?_eq_none hopen]
      exact language.precedes_scanNormal hp

/-! ## Lines -/

/-- What the lexer of a language reads at a cursor is what the rules read there. -/
theorem read_eq_scan (language : Language) {cursor : Cursor} {front token back : List Char}
    (h : cursor.Stands front token back) (hback : back ≠ []) (state : LineState) :
    let result := language.scan (.between (front ++ token) back) state
    ∃ text rest, back = text ++ rest ∧ text ≠ [] ∧
      result.stop = .between (front ++ token ++ text) rest ∧
      (language.lexer.read cursor.beginToken state).kind = result.kind ∧
      (language.lexer.read cursor.beginToken state).state = result.state ∧
      (language.lexer.read cursor.beginToken state).cursor.Stands (front ++ token) text rest := by
  intro result
  obtain ⟨text, htext, hread⟩ : (Place.between (front ++ token) back).Precedes result.stop :=
    language.precedes_scan hback state
  obtain ⟨rest, hrest⟩ : ∃ rest, result.stop.after = rest := ⟨_, rfl⟩
  obtain rfl : back = text ++ rest := by
    rw [← hrest]
    exact hread.1
  have hstop : result.stop = .between (front ++ token ++ text) rest :=
    Place.reads_between_iff.mp hread
  have hplace : Place.ofOffset cursor.line cursor.pos =
      .between (front ++ token) (text ++ rest) := by
    rw [h.line_eq, h.pos_eq, Place.ofOffset_append]
  have hlexeme : language.lexer.read cursor.beginToken state =
      ⟨result.kind, cursor.beginToken.advanceTo result.stop.offset, result.state⟩ := by
    show Lexeme.mk (language.scan (.ofOffset cursor.line cursor.pos) state).kind
      (cursor.beginToken.advanceTo
        (language.scan (.ofOffset cursor.line cursor.pos) state).stop.offset)
      (language.scan (.ofOffset cursor.line cursor.pos) state).state = _
    rw [hplace]
  refine ⟨text, rest, rfl, htext, hstop, ?_, ?_, ?_⟩
  · rw [hlexeme]
  · rw [hlexeme]
  · rw [hlexeme, hstop, Place.offset_between]
    have hbegin := h.beginToken.advanceTo_append
    rwa [List.append_nil, List.nil_append] at hbegin

theorem lexer_advances (language : Language) : language.lexer.Advances := by
  intro cursor front token back h hback state
  obtain ⟨text, rest, hsplit, htext, -, -, -, hread⟩ := language.read_eq_scan h hback state
  exact ⟨text, rest, hsplit, htext, hread⟩

/-- One token of a line is what the rules read, and nothing has to be added to it. -/
theorem stepOn_eq_scan (language : Language) {cursor : Cursor} {front token back : List Char}
    (h : cursor.Stands front token back) (hback : back ≠ []) (state : LineState) :
    let result := language.scan (.between (front ++ token) back) state
    let step := language.lexer.stepOn cursor state
    ∃ text rest, back = text ++ rest ∧ result.stop = .between (front ++ token ++ text) rest ∧
      step.1 = ⟨result.kind, text⟩ ∧ step.2.2 = result.state ∧
      step.2.1.Stands (front ++ token) text rest := by
  intro result step
  obtain ⟨text, rest, hsplit, -, hstop, hkind, hstate, hread⟩ :=
    language.read_eq_scan h hback state
  have hstep : step = language.lexer.step cursor state :=
    Lexer.stepOn_of_not_isStalled (language.lexer_advances.isStalled_step h hback state)
  rw [hstep]
  refine ⟨text, rest, hsplit, hstop, ?_, hstate, hread⟩
  show Token.mk _ _ = _
  rw [hkind, hread.current_eq]

theorem lexer_neverStalls (language : Language) : language.lexer.NeverStalls :=
  language.lexer_advances.neverStalls language.lexer_movesCursor

end Language

/-! ## Blocks -/

namespace Tokenizer

variable {μ σ κ : Type}

/-- A tokenizer reads something if each of its lexers does: a sentinel line is not empty. -/
theorem lexer_advances {tokenizer : Tokenizer μ σ κ}
    (h : ∀ kind, (tokenizer.part kind).lexer.Advances) : tokenizer.lexer.Advances := by
  intro cursor front token back hstands hback state
  cases hline : isSentinel cursor.beginToken.line with
  | true =>
      rw [tokenizer.read_of_isSentinel hline]
      exact ⟨back, [], (List.append_nil back).symm, hback, hstands.beginToken.skipToEnd⟩
  | false =>
      rw [tokenizer.read_of_not_isSentinel hline]
      exact h state.segment hstands hback _

/-- The tokenizer that reads the three segments by the rules of three languages. -/
def ofLanguages (markup style script : Language) : Tokenizer LineState LineState LineState :=
  ⟨markup.lexer, style.lexer, script.lexer⟩

theorem ofLanguages_neverStalls (markup style script : Language) :
    (ofLanguages markup style script).lexer.NeverStalls := by
  refine (lexer_advances fun kind => ?_).neverStalls (MovesCursor.lexer ⟨?_, ?_, ?_⟩)
  · cases kind with
    | markup => exact markup.lexer_advances
    | style => exact style.lexer_advances
    | script => exact script.lexer_advances
  · exact markup.lexer_movesCursor
  · exact style.lexer_movesCursor
  · exact script.lexer_movesCursor

end Tokenizer

namespace Language

/-- Inside a text, a token ends at a boundary further on and not behind the end, and the state
after it names no construct or one of the language.  So the loops over a line of one language
and over a line of a block come to the end of the line without help, from every state, and so
does the search for a closing. -/
theorem scan_progress (language : Language) :
    (∀ text pos state, isBoundary text pos = true → pos < byteSize text →
      let result := language.scan (.ofOffset text pos) state
      (pos < result.stop.offset ∧ result.stop.offset ≤ byteSize text ∧
        isBoundary text result.stop.offset = true ∧ result.stop.text = text) ∧
        language.Knows result.state) ∧
      language.lexer.NeverStalls ∧
      (∀ markup style script, (Tokenizer.ofLanguages markup style script).lexer.NeverStalls) ∧
      ∀ rule : Construct, ∀ body p, rule.Searches body p (rule.findClosingFrom? body p) := by
  refine ⟨?_, language.lexer_neverStalls, Tokenizer.ofLanguages_neverStalls,
    fun rule => rule.searches_findClosingFrom?⟩
  intro text pos state hboundary hpos result
  obtain ⟨front, back, rfl, rfl, hplace⟩ := Place.exists_ofOffset_eq hboundary
  have hback : back ≠ [] := by
    rintro rfl
    rw [List.append_nil] at hpos
    omega
  have hprecedes : (Place.between front back).Precedes (language.scan _ state).stop :=
    language.precedes_scan hback state
  rw [← hplace] at hprecedes
  have htext : result.stop.text = front ++ back := by
    rw [hprecedes.text_eq, hplace, Place.text_between]
  have hoffset : (Place.ofOffset (front ++ back) (byteSize front)).offset = byteSize front := by
    rw [hplace, Place.offset_between]
  have hlt := hprecedes.offset_lt
  rw [hoffset] at hlt
  refine ⟨⟨hlt, ?_, ?_, htext⟩, language.knows_scan _ state⟩
  · rw [← htext]
    exact result.stop.offset_le
  · rw [← htext]
    exact result.stop.isBoundary_offset

/-- Rules that match the empty text, or a condition only, and constructs that share an id or
have none. -/
def hollow : Language where
  name := "hollow"
  constructs := [⟨"unnamed", .char (.oneOf ['<']), .empty, .comment, some '<', 0⟩,
    ⟨"twin", .anchor .textStart, .anchor .lineEnd, .string, none, 4⟩,
    ⟨"twin", .char (.oneOf ['(']), .char (.oneOf [')']), .string, some ')', 4⟩]
  patterns := [⟨"maybe", (Regex.char (.oneOf ['x'])).star true, .atom, 10⟩,
    ⟨"edge", .anchor .wordBoundary, .keyword, -1⟩]

/-- Such rules read on from behind a character of two bytes, inside a construct that there is
not. -/
theorem scan_progress_hollow :
    let result := hollow.scan (.ofOffset "é<".toList 2) (.inside 9)
    isBoundary "é<".toList 2 = true ∧ 2 < byteSize "é<".toList ∧
      2 < result.stop.offset ∧ result.stop.offset ≤ byteSize "é<".toList ∧
      hollow.Knows result.state := by
  intro result
  have hboundary : isBoundary "é<".toList 2 = true := by decide
  have hpos : 2 < byteSize "é<".toList := by decide
  obtain ⟨hscan, -⟩ := scan_progress hollow
  obtain ⟨⟨hlt, hle, -⟩, hknows⟩ := hscan "é<".toList 2 (.inside 9) hboundary hpos
  exact ⟨hboundary, hpos, hlt, hle, hknows⟩

end Language

end Triptych
