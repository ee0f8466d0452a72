import Mathlib.Data.List.Induction
import Triptych.Proofs.Language.Progress
import Triptych.Proofs.Regex.Spelling

/-!
# Constructs that are left open

A construct that is not closed on its line stays open, and the line state tells which one: by
its id, and by nothing else.  Where the ids of all constructs differ and none is zero, the id
leads back to the rule that opened, however many lines ago and whatever other rules open with
the same text.  See `open_construct_resumed`.

What is left open is said without the line state: it opens where a token is read outside all
constructs, and none of its closings comes after, neither on that line nor on a later one.
-/

namespace Triptych

/-- A closing that is found takes something. -/
theorem Construct.after_ne_nil {rule : Construct} {p stop : Place}
    (h : rule.findClosing? p = some stop) : p.after ≠ [] := by
  have hsearch := rule.searches_findClosingFrom? p p
  rw [← findClosing?, h] at hsearch
  exact hsearch.precedes.after_ne_nil

namespace Language

/-! ## Identifying constructs -/

/-- Each construct has an id of its own, and none has the id that stands for no construct. -/
structure Identified (language : Language) : Prop where
  nodup : (language.constructs.map (·.id)).Nodup
  ne_zero : ∀ rule ∈ language.constructs, rule.id ≠ 0

section Identified

variable {language : Language} {rule other : Construct} (h : language.Identified)

include h

theorem Identified.eq_of_id_eq (hrule : rule ∈ language.constructs)
    (hother : other ∈ language.constructs) (hid : rule.id = other.id) : rule = other :=
  List.inj_on_of_nodup_map h.nodup hrule hother hid

theorem Identified.inside_ne_normal (hrule : rule ∈ language.constructs) :
    LineState.inside rule.id ≠ .normal :=
  fun heq => h.ne_zero rule hrule (congrArg LineState.openId heq)

/-- The id in the state leads back to the rule. -/
theorem Identified.openConstruct?_eq (hrule : rule ∈ language.constructs) :
    language.openConstruct? (.inside rule.id) = some rule := by
  have hinside : (LineState.inside rule.id).isInside = true :=
    bne_iff_ne.mpr (h.ne_zero rule hrule)
  have hsome : (language.constructs.find? fun other => other.id == rule.id).isSome :=
    List.find?_isSome.mpr ⟨rule, hrule, beq_self_eq_true _⟩
  obtain ⟨found, hfound⟩ := Option.isSome_iff_exists.mp hsome
  have hid : found.id = rule.id := by simpa using List.find?_some hfound
  unfold openConstruct?
  rw [if_pos hinside]
  exact hfound.trans
    (congrArg some (h.eq_of_id_eq (List.mem_of_find?_eq_some hfound) hrule hid))

theorem Identified.scan_inside (hrule : rule ∈ language.constructs) (p : Place) :
    language.scan p (.inside rule.id) = scanInside rule p (.inside rule.id) := by
  rw [scan, h.openConstruct?_eq hrule]

end Identified

/-! ## Reading on from a place -/

/-- Some tokens are read from one place and state on, and they lead to another place and
state. -/
inductive ScansTo (language : Language) : Place → LineState → Place → LineState → Prop where
  | here {p : Place} {state : LineState} : ScansTo language p state p state
  | on {p q : Place} {state state' : LineState} (hmore : p.after ≠ [])
      (hrest : ScansTo language (language.scan p state).stop (language.scan p state).state q state') :
      ScansTo language p state q state'

/-- At a place outside all constructs, `rule` is the first that opens, and it is not closed in
the text. -/
def LeavesOpen (language : Language) (p : Place) (rule : Construct) : Prop :=
  ∃ body, FirstTaking Construct.opening language.constructs p rule body ∧
    rule.findClosing? body = none

section Reading

variable {language : Language} {p q m : Place} {state state' between : LineState}
  {rule : Construct}

theorem ScansTo.eq_of_end (h : language.ScansTo p state q state') (hend : p.after = []) :
    q = p ∧ state' = state := by
  cases h with
  | here => exact ⟨rfl, rfl⟩
  | on hmore => exact absurd hend hmore

theorem ScansTo.trans (h : language.ScansTo p state m between)
    (h' : language.ScansTo m between q state') : language.ScansTo p state q state' := by
  induction h with
  | here => exact h'
  | on hmore hrest ih => exact .on hmore (ih h')

/-- Reading to the end of a text comes through each place that reading comes to. -/
theorem ScansTo.rest (h : language.ScansTo p state m between)
    (h' : language.ScansTo p state q state') (hend : q.after = []) :
    language.ScansTo m between q state' := by
  induction h with
  | here => exact h'
  | on hmore hrest ih =>
      cases h' with
      | here => exact absurd hend hmore
      | on hmore' hrest' => exact ih hrest'

/-- What one token leads to, if it leaves nothing of the text. -/
theorem ScansTo.eq_of_stop_end (h : language.ScansTo p state q state') (hend : q.after = [])
    (hmore : p.after ≠ []) (hstop : (language.scan p state).stop.after = []) :
    state' = (language.scan p state).state := by
  cases h with
  | here => exact absurd hend hmore
  | on hmore' hrest => exact (hrest.eq_of_end hstop).2

theorem LeavesOpen.mem (h : language.LeavesOpen p rule) : rule ∈ language.constructs := by
  obtain ⟨body, hfirst, -⟩ := h
  exact hfirst.mem

theorem LeavesOpen.after_ne_nil (h : language.LeavesOpen p rule) : p.after ≠ [] := by
  obtain ⟨body, ⟨earlier, later, -, htakes, -⟩, -⟩ := h
  exact htakes.precedes.after_ne_nil

/-- What opens and is not closed goes on to the end of the text. -/
theorem LeavesOpen.exists_scan_eq (h : language.LeavesOpen p rule) :
    ∃ stop, stop.after = [] ∧
      language.scan p .normal = ⟨stop, some rule.kind, .inside rule.id⟩ := by
  obtain ⟨body, hfirst, hnone⟩ := h
  refine ⟨body.finish, rfl, ?_⟩
  rw [scan_normal, scanNormal_of_opened hfirst, scanInside, hnone]

/-- A token that begins outside all constructs leads outside again, or leaves one open. -/
theorem state_scan_eq_or_leavesOpen (language : Language) (p : Place) :
    (language.scan p .normal).state = .normal ∨ ∃ rule, language.LeavesOpen p rule := by
  rw [scan_normal]
  by_cases hopens : AnyTakes Construct.opening language.constructs p
  · obtain ⟨rule, body, hfirst⟩ := hopens.exists_first
    cases hclosing : rule.findClosing? body with
    | none => exact Or.inr ⟨rule, body, hfirst, hclosing⟩
    | some stop =>
        rw [scanNormal_of_opened hfirst, scanInside, hclosing]
        exact Or.inl rfl
  · by_cases htakes : AnyTakes Pattern.regex language.patterns p
    · obtain ⟨rule, stop, hfirst⟩ := htakes.exists_first
      rw [scanNormal_of_matched hopens hfirst]
      exact Or.inl rfl
    · rw [scanNormal_of_plain hopens htakes]
      exact Or.inl rfl

/-- Reading on outside all constructs ends outside, or comes to a construct that is left open. -/
theorem ScansTo.eq_normal_or_leavesOpen (h : language.ScansTo p state q state')
    (hstate : state = .normal) (hend : q.after = []) :
    state' = .normal ∨ ∃ m rule, language.ScansTo p .normal m .normal ∧
      language.LeavesOpen m rule := by
  induction h with
  | here => exact Or.inl hstate
  | @on p q state state' hmore hrest ih =>
      subst hstate
      rcases language.state_scan_eq_or_leavesOpen p with hnormal | ⟨rule, hopen⟩
      · rcases ih hnormal hend with hstate' | ⟨m, rule, hscans, hopen⟩
        · exact Or.inl hstate'
        · exact Or.inr ⟨m, rule, .on hmore (by rwa [hnormal]), hopen⟩
      · exact Or.inr ⟨p, rule, .here, hopen⟩

/-- Where a construct is left open, its id is the state at the end of the text. -/
theorem LeavesOpen.state_eq (h : language.LeavesOpen m rule)
    (hscans : language.ScansTo p state m .normal) (hall : language.ScansTo p state q state')
    (hend : q.after = []) : state' = .inside rule.id := by
  obtain ⟨stop, hstop, hscan⟩ := h.exists_scan_eq
  have hrest := hscans.rest hall hend
  have heq := hrest.eq_of_stop_end hend h.after_ne_nil (by rwa [hscan])
  rwa [hscan] at heq

end Reading

/-! ## Lines -/

section Lines

variable {language : Language} {rule : Construct} {line : List Char} {lines : List (List Char)}
  {state : LineState}

theorem scansTo_of_drives {cursor : Cursor} {steps : List (Token × Cursor × LineState)}
    (h : language.lexer.Drives cursor state steps) {front token back : List Char}
    (hstands : cursor.Stands front token back) :
    ∃ q, q.after = [] ∧
      language.ScansTo (.between (front ++ token) back) state q (Lexer.lastState state steps) := by
  induction h generalizing front token back with
  | done hend =>
      obtain rfl := hstands.atEnd_iff.mp hend
      exact ⟨_, rfl, .here⟩
  | @more cursor state steps hend hrest ih =>
      have hback := hstands.atEnd_eq_false_iff.mp hend
      obtain ⟨text, rest, -, hstop, -, hstate, hmoved⟩ :=
        language.stepOn_eq_scan hstands hback state
      obtain ⟨q, hq, hscans⟩ := ih hmoved
      rw [hstate, ← hstop] at hscans
      rw [Lexer.lastState_cons, hstate]
      exact ⟨q, hq, .on hback hscans⟩

/-- The state after a line is what its rules lead to. -/
theorem scansTo_tokens (language : Language) (line : List Char) (state : LineState) :
    ∃ q, q.after = [] ∧
      language.ScansTo (.start line) state q (language.lexer.tokens line state).2 := by
  obtain ⟨steps, hsteps, htokens, -⟩ := language.lexer_movesCursor.completes line state
  rw [htokens]
  exact scansTo_of_drives hsteps (Cursor.stands_ofLine line)

/-- The first token of a line is read at its start, and the others behind it. -/
theorem tokens_eq_cons (language : Language) (hline : line ≠ []) (state : LineState) :
    let result := language.scan (.start line) state
    ∃ text rest moved, line = text ++ rest ∧ result.stop = .between text rest ∧
      moved.Stands [] text rest ∧
      language.lexer.tokens line state =
        let later := language.lexer.tokensFrom moved result.state
        (⟨result.kind, text⟩ :: later.1, later.2) := by
  intro result
  have hstart := Cursor.stands_ofLine line
  obtain ⟨text, rest, hsplit, hstop, htoken, hstate, hmoved⟩ :=
    language.stepOn_eq_scan hstart hline state
  refine ⟨text, rest, _, hsplit, hstop, hmoved, ?_⟩
  have hlt := language.lexer_movesCursor.left_stepOn_lt hstart hline state
  unfold Lexer.tokens
  rw [Lexer.tokensFrom_of_left_lt (hstart.atEnd_eq_false_iff.mpr hline) hlt, htoken, hstate]
  rfl

/-- In a line that is read from `state`, the rule opens outside all constructs and is not closed. -/
def LeavesOpenIn (language : Language) (line : List Char) (state : LineState)
    (rule : Construct) : Prop :=
  ∃ p, language.ScansTo (.start line) state p .normal ∧ language.LeavesOpen p rule

theorem LeavesOpenIn.state_eq (h : language.LeavesOpenIn line state rule) :
    (language.lexer.tokens line state).2 = .inside rule.id := by
  obtain ⟨p, hscans, hopen⟩ := h
  obtain ⟨q, hq, hall⟩ := language.scansTo_tokens line state
  exact hopen.state_eq hscans hall hq

/-- Where reading a line comes outside all constructs, it ends outside or leaves one open. -/
theorem ScansTo.normal_or_leavesOpenIn {p : Place}
    (h : language.ScansTo (.start line) state p .normal) :
    (language.lexer.tokens line state).2 = .normal ∨
      ∃ rule, language.LeavesOpenIn line state rule := by
  obtain ⟨q, hq, hall⟩ := language.scansTo_tokens line state
  refine ((h.rest hall hq).eq_normal_or_leavesOpen rfl hq).imp_right ?_
  rintro ⟨m, rule, hscans, hopen⟩
  exact ⟨rule, m, h.trans hscans, hopen⟩

section Inside

variable (h : language.Identified) (hrule : rule ∈ language.constructs)

include h hrule

/-- Without a closing the whole line is a token of the construct. -/
theorem Identified.tokens_eq_singleton (hline : line ≠ [])
    (hnone : rule.findClosing? (.start line) = none) :
    language.lexer.tokens line (.inside rule.id) =
      ([⟨some rule.kind, line⟩], .inside rule.id) := by
  have hscan : language.scan (.start line) (.inside rule.id) =
      ⟨(Place.start line).finish, some rule.kind, .inside rule.id⟩ := by
    rw [h.scan_inside hrule, scanInside, hnone]
  obtain ⟨text, rest, moved, hsplit, hstop, hmoved, htokens⟩ :=
    language.tokens_eq_cons hline (.inside rule.id)
  rw [hscan] at hstop htokens
  obtain rfl : rest = [] := (congrArg Place.after hstop).symm
  rw [List.append_nil] at hsplit
  rw [htokens, Lexer.tokensFrom_of_atEnd (hmoved.atEnd_iff.mpr rfl), hsplit]

/-- With a closing, the first token ends behind it, and reading goes on outside all constructs. -/
theorem Identified.tokens_head? {stop : Place} (hsome : rule.findClosing? (.start line) = some stop) :
    (∃ text rest, line = text ++ rest ∧ stop = .between text rest ∧
      (language.lexer.tokens line (.inside rule.id)).1.head? = some ⟨some rule.kind, text⟩) ∧
      language.scan (.start line) (.inside rule.id) = ⟨stop, some rule.kind, .normal⟩ := by
  have hscan : language.scan (.start line) (.inside rule.id) =
      ⟨stop, some rule.kind, .normal⟩ := by
    rw [h.scan_inside hrule, scanInside, hsome]
  have hline : line ≠ [] := Construct.after_ne_nil hsome
  obtain ⟨text, rest, moved, hsplit, hstop, -, htokens⟩ :=
    language.tokens_eq_cons hline (.inside rule.id)
  rw [hscan] at hstop htokens
  exact ⟨⟨text, rest, hsplit, hstop, by rw [htokens]; rfl⟩, hscan⟩

end Inside

end Lines

/-! ## Open constructs -/

/-- After some lines the construct is open: one of them leaves it open, and no later line has a
closing for it. -/
def LeftOpen (language : Language) (lines : List (List Char)) (rule : Construct) : Prop :=
  ∃ earlier line later, lines = earlier ++ line :: later ∧
    language.LeavesOpenIn line (language.lexer.tokensOfLines earlier language.lexer.start).2 rule ∧
    ∀ other ∈ later, rule.findClosing? (.start other) = none

section LeftOpen

variable {language : Language} {rule : Construct} {lines : List (List Char)}

/-- Lines without a closing leave the construct open. -/
theorem Identified.state_tokensOfLines (h : language.Identified)
    (hrule : rule ∈ language.constructs)
    (hnone : ∀ line ∈ lines, rule.findClosing? (.start line) = none) :
    (language.lexer.tokensOfLines lines (.inside rule.id)).2 = .inside rule.id := by
  induction lines with
  | nil => rfl
  | cons line others ih =>
      obtain ⟨hline, hothers⟩ := List.forall_mem_cons.mp hnone
      have hstate : (language.lexer.tokens line (.inside rule.id)).2 = .inside rule.id := by
        by_cases hempty : line = []
        · rw [hempty, Lexer.tokens_nil]
        · rw [h.tokens_eq_singleton hrule hempty hline]
      rw [Lexer.tokensOfLines_cons, hstate]
      exact ih hothers

theorem LeftOpen.mem (hopen : language.LeftOpen lines rule) : rule ∈ language.constructs := by
  obtain ⟨_, _, _, -, ⟨_, -, hleaves⟩, -⟩ := hopen
  exact hleaves.mem

theorem LeftOpen.state_eq (h : language.Identified) (hopen : language.LeftOpen lines rule) :
    (language.lexer.tokensOfLines lines language.lexer.start).2 = .inside rule.id := by
  have hrule := hopen.mem
  obtain ⟨earlier, line, later, rfl, hleaves, hlater⟩ := hopen
  rw [Lexer.tokensOfLines_append, Lexer.tokensOfLines_cons, hleaves.state_eq]
  exact h.state_tokensOfLines hrule hlater

/-- After any lines nothing is open, or a construct is that has been left open. -/
theorem Identified.normal_or_leftOpen (h : language.Identified) (lines : List (List Char)) :
    (language.lexer.tokensOfLines lines language.lexer.start).2 = .normal ∨
      ∃ rule, language.LeftOpen lines rule := by
  induction lines using List.reverseRecOn with
  | nil => exact Or.inl rfl
  | append_singleton lines line ih =>
      have hstep {p : Place} (hscans : language.ScansTo (.start line)
          (language.lexer.tokensOfLines lines language.lexer.start).2 p .normal) :
          (language.lexer.tokensOfLines (lines ++ [line]) language.lexer.start).2 = .normal ∨
            ∃ rule, language.LeftOpen (lines ++ [line]) rule := by
        rw [Lexer.tokensOfLines_append]
        refine hscans.normal_or_leavesOpenIn.imp_right ?_
        rintro ⟨rule, hleaves⟩
        exact ⟨rule, lines, line, [], rfl, hleaves, fun _ hmem => absurd hmem List.not_mem_nil⟩
      rcases ih with hnormal | ⟨rule, hopen⟩
      · exact hstep (p := .start line) (by rw [hnormal]; exact .here)
      · cases hclosing : rule.findClosing? (.start line) with
        | none =>
            obtain ⟨earlier, first, later, rfl, hleaves, hlater⟩ := hopen
            refine Or.inr ⟨rule, earlier, first, later ++ [line], by simp, hleaves, ?_⟩
            exact List.forall_mem_append.mpr ⟨hlater, List.forall_mem_singleton.mpr hclosing⟩
        | some stop =>
            obtain ⟨-, hscan⟩ := h.tokens_head? hopen.mem hclosing
            refine hstep (p := stop) (.on (Construct.after_ne_nil hclosing) ?_)
            rw [hopen.state_eq h, hscan]
            exact .here

/-- Only one construct is open. -/
theorem LeftOpen.unique {other : Construct} (h : language.Identified)
    (hopen : language.LeftOpen lines rule) (hother : language.LeftOpen lines other) :
    other = rule := by
  refine h.eq_of_id_eq hother.mem hopen.mem ?_
  exact congrArg LineState.openId ((hother.state_eq h).symm.trans (hopen.state_eq h))

/-- The state after any lines tells the construct that has been left open and not been closed
since, or that there is none.  Empty lines leave it open.  On the next line that is not empty, the
first token is of that construct and ends where its closing is found, and it is closed; or there
is no closing, and the whole line is a token of the construct, which is still open. -/
theorem open_construct_resumed (language : Language) (h : language.Identified)
    (lines : List (List Char)) :
    let state := (language.lexer.tokensOfLines lines language.lexer.start).2
    ((state = .normal ∧ ∀ rule, ¬ language.LeftOpen lines rule) ∨
      ∃ rule, language.LeftOpen lines rule ∧ state = .inside rule.id ∧
        ∀ other, language.LeftOpen lines other → other = rule) ∧
      ∀ rule ∈ language.constructs, state = .inside rule.id →
        language.LeftOpen lines rule ∧
          (∀ n, (language.lexer.tokensOfLines (lines ++ List.replicate n [])
            language.lexer.start).2 = state) ∧
          ∀ line ≠ [],
            match rule.findClosing? (.start line) with
            | some stop =>
                (∃ text rest, line = text ++ rest ∧ stop = .between text rest ∧
                  (language.lexer.tokens line state).1.head? = some ⟨some rule.kind, text⟩) ∧
                  language.scan (.start line) state = ⟨stop, some rule.kind, .normal⟩
            | none => language.lexer.tokens line state = ([⟨some rule.kind, line⟩], state) := by
  intro state
  refine ⟨?_, fun rule hrule hstate => ⟨?_, fun n => ?_, fun line hline => ?_⟩⟩
  · by_cases hopen : ∃ rule, language.LeftOpen lines rule
    · obtain ⟨rule, hopen⟩ := hopen
      exact Or.inr ⟨rule, hopen, hopen.state_eq h, fun other hother => hopen.unique h hother⟩
    · refine Or.inl ⟨(h.normal_or_leftOpen lines).resolve_right hopen, fun rule hrule => ?_⟩
      exact hopen ⟨rule, hrule⟩
  · rcases h.normal_or_leftOpen lines with hnormal | ⟨other, hother⟩
    · exact absurd (hstate.symm.trans hnormal) (h.inside_ne_normal hrule)
    · have hid : rule.id = other.id :=
        congrArg LineState.openId (hstate.symm.trans (hother.state_eq h))
      rwa [h.eq_of_id_eq hrule hother.mem hid]
  · rw [Lexer.tokensOfLines_append]
    show (language.lexer.tokensOfLines (List.replicate n []) state).2 = state
    rw [hstate]
    refine h.state_tokensOfLines hrule fun line hline => ?_
    rw [List.eq_of_mem_replicate hline]
    exact Option.eq_none_iff_forall_ne_some.mpr fun stop hsome =>
      Construct.after_ne_nil hsome rfl
  · rw [hstate]
    split
    · next stop hsome => exact h.tokens_head? hrule hsome
    · next hnone => exact h.tokens_eq_singleton hrule hline hnone

end LeftOpen

/-- A construct between two pairs of characters. -/
def starred : Construct :=
  ⟨"starred", .spelled ['(', '*'], .spelled ['*', ')'], .comment, none, 7⟩

/-- A language with another construct, which opens with the first character of that one. -/
def bracketed : Language where
  name := "bracketed"
  constructs := [starred, ⟨"round", .spelled ['('], .spelled [')'], .string, none, 2⟩]
  patterns := []

/-- The construct is left open over an empty line, and closed on the line after it. -/
theorem open_construct_resumed_starred :
    let lines := [['a', '(', '*', 'b', ')'], []]
    let line := ['c', '*', ')', '(', 'd']
    let state := (bracketed.lexer.tokensOfLines lines bracketed.lexer.start).2
    bracketed.Identified ∧ state = .inside 7 ∧ bracketed.LeftOpen lines starred ∧
      bracketed.scan (.start line) state =
        ⟨.between ['c', '*', ')'] ['(', 'd'], some .comment, .normal⟩ := by
  intro lines line state
  have hids : bracketed.Identified := ⟨by decide, by decide⟩
  have hstate : state = .inside 7 := by decide +kernel
  have hclosing : starred.findClosing? (.start line) =
      some (.between ['c', '*', ')'] ['(', 'd']) := by decide +kernel
  obtain ⟨-, hresumed⟩ := open_construct_resumed bracketed hids lines
  obtain ⟨hopen, -, hnext⟩ := hresumed starred List.mem_cons_self hstate
  have hfirst := hnext line (by decide)
  rw [hclosing] at hfirst
  exact ⟨hids, hstate, hopen, hfirst.2⟩

end Language

end Triptych
