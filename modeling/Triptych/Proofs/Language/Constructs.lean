import Mathlib.Data.List.Forall2
import Triptych.Proofs.Language.Closings
import Triptych.Proofs.Language.Delimiters
import Triptych.Proofs.Language.Resuming
import Triptych.Proofs.Lexer.Walking

/-!
# Constructs over lines

A construct is read line by line, and on each line its closing is looked for anew: the state
tells only that the construct is open.  Still it is closed where a scan of the whole text closes
it.  No delimiter and no escape goes over the end of a line, so nothing has to be remembered of
the line before; and the search on a line begins behind the opening, as the scan does, so the
two delimiters do NOT share characters.
-/

namespace Triptych

open Text

namespace Delimiters

/-! ## Rules for delimiters -/

/-- The rule is for what is between the delimiters. -/
structure Delimits (d : Delimiters) (rule : Construct) : Prop where
  opening : rule.opening.Spells d.opening
  closing : rule.closing.Spells d.closing
  kind_eq : rule.kind = d.kind
  escape_eq : rule.escape = d.escape
  id_eq : rule.id = d.id

/-- Two kinds of delimiters that cannot be taken for each other. -/
structure Apart (d e : Delimiters) : Prop where
  not_prefix : ¬ d.opening <+: e.opening
  not_prefix' : ¬ e.opening <+: d.opening
  id_ne : d.id ≠ e.id

variable {d : Delimiters} {rule : Construct}

/-- A closing is escaped if the scan skips it. -/
theorem Delimits.isEscaped_eq (h : d.Delimits rule) (front inside back : List Char) :
    rule.isEscaped (.between front (inside ++ back)) (.between (front ++ inside) back) =
      d.skipsAfter false inside := by
  rw [rule.isEscaped_between, skipsAfter_eq_run, h.escape_eq]
  rfl

/-- The search for a closing, from anywhere inside the construct, is the scan. -/
theorem Delimits.findClosingFrom?_eq_skim (h : d.Delimits rule) (front inside rest : List Char) :
    rule.findClosingFrom? (.between front (inside ++ rest)) (.between (front ++ inside) rest) =
      (d.skim (d.skipsAfter false inside) rest).map fun (within, after) =>
        .between (front ++ inside ++ within) after := by
  -- on what is left of the text, since each round goes on behind an escaped closing
  induction hn : rest.length using Nat.strongRecOn generalizing inside rest with
  | _ n ih =>
      cases hfound : rule.closing.findNonempty? (.between (front ++ inside) rest) with
      | none =>
          have hnone := h.closing.ne_of_findNonempty?_eq_none d.closing_ne_nil hfound
          rw [Construct.findClosingFrom?_of_none _ hfound, skim_eq_none (s := rest) hnone]
          rfl
      | some found =>
          obtain ⟨start, stop⟩ := found
          obtain ⟨pre, post, hrest, hstart, hstop, hleast⟩ :=
            h.closing.exists_of_findNonempty?_eq_some d.closing_ne_nil hfound
          obtain rfl : rest = pre ++ (d.closing ++ post) := hrest
          obtain rfl := Place.reads_between_iff.mp hstart
          obtain rfl := Place.reads_between_iff.mp hstop
          have hescaped : rule.isEscaped (.between front (inside ++ (pre ++ (d.closing ++ post))))
              (.between (front ++ inside ++ pre) (d.closing ++ post)) =
                d.skipsAfter false (inside ++ pre) := by
            simpa only [List.append_assoc] using
              h.isEscaped_eq front (inside ++ pre) (d.closing ++ post)
          rw [Construct.findClosingFrom?_of_some _ hfound, hescaped]
          cases hskips : d.skipsAfter false (inside ++ pre) with
          | false =>
              rw [skipsAfter_append] at hskips
              have hscan : d.skim (d.skipsAfter false inside) (pre ++ (d.closing ++ post)) =
                  some (pre ++ d.closing, post) :=
                skim_eq_some_iff.mpr ⟨pre, rfl, rfl, hskips, fun earlier later hsplit _ =>
                  hleast earlier later hsplit⟩
              rw [hscan, Option.map_some, if_neg Bool.false_ne_true, List.append_assoc _ pre]
          | true =>
              have hshorter : post.length < n := by
                have := List.length_pos_iff.mpr d.closing_ne_nil
                rw [← hn, List.length_append, List.length_append]
                omega
              have hlater := ih post.length hshorter (inside ++ (pre ++ d.closing)) post rfl
              rw [if_pos rfl, skim_escaped hskips hleast, Option.map_map]
              simpa only [List.append_assoc, Function.comp_def] using hlater

/-- What is read inside a construct ends where the scan ends. -/
theorem Delimits.scanInside_eq (h : d.Delimits rule) (front inner : List Char)
    (state : LineState) :
    Language.scanInside rule (.between front inner) state =
      match d.skim false inner with
      | some (within, after) => ⟨.between (front ++ within) after, some d.kind, .normal⟩
      | none => ⟨.between (front ++ inner) [], some d.kind, state⟩ := by
  have hclosing : rule.findClosing? (.between front inner) =
      (d.skim false inner).map fun (within, after) => .between (front ++ within) after := by
    have hsearch := h.findClosingFrom?_eq_skim front [] inner
    rwa [List.append_nil] at hsearch
  unfold Language.scanInside
  rw [hclosing, h.kind_eq, Place.finish_between]
  cases d.skim false inner <;> rfl

end Delimiters

namespace Language

/-! ## Languages with delimiters -/

/-- The constructs of the language are between these delimiters, which can be told apart. -/
structure DelimitedBy (language : Language) (kinds : List Delimiters) : Prop where
  rules : List.Forall₂ Delimiters.Delimits kinds language.constructs
  apart : kinds.Pairwise Delimiters.Apart

theorem map_id_eq {kinds : List Delimiters} {rules : List Construct}
    (h : List.Forall₂ Delimiters.Delimits kinds rules) :
    rules.map (·.id) = kinds.map (·.id) := by
  induction h with
  | nil => rfl
  | cons hfirst hrest ih => rw [List.map_cons, List.map_cons, hfirst.id_eq, ih]

theorem exists_delimits {kinds : List Delimiters} {rules : List Construct}
    (h : List.Forall₂ Delimiters.Delimits kinds rules) {rule : Construct} (hrule : rule ∈ rules) :
    ∃ d ∈ kinds, d.Delimits rule := by
  induction h with
  | nil => exact absurd hrule List.not_mem_nil
  | @cons d first kinds rules hfirst hrest ih =>
      rcases List.mem_cons.mp hrule with rfl | hrule
      · exact ⟨d, List.mem_cons_self, hfirst⟩
      · obtain ⟨e, he, hdelimits⟩ := ih hrule
        exact ⟨e, List.mem_cons_of_mem d he, hdelimits⟩

/-- Where an opening stands, its rule is the one that opens. -/
theorem exists_rule {kinds : List Delimiters} {rules : List Construct}
    (hrules : List.Forall₂ Delimiters.Delimits kinds rules)
    (hapart : kinds.Pairwise Delimiters.Apart) {d : Delimiters} (hd : d ∈ kinds) :
    ∃ rule ∈ rules, d.Delimits rule ∧
      ∀ p body, p.Reads d.opening body →
        FirstTaking Construct.opening rules p rule body := by
  induction hrules with
  | nil => exact absurd hd List.not_mem_nil
  | @cons e first kinds rules hfirst hrest ih =>
      obtain ⟨hothers, hapart⟩ := List.pairwise_cons.mp hapart
      rcases List.mem_cons.mp hd with rfl | hd
      · refine ⟨first, List.mem_cons_self, hfirst, fun p body hread => ⟨[], rules, rfl, ?_, ?_⟩⟩
        · exact (hfirst.opening.takes_iff d.opening_ne_nil).mpr hread
        · exact fun other hother => absurd hother List.not_mem_nil
      · obtain ⟨rule, hmem, hrule, hopens⟩ := ih hapart hd
        have he := hothers d hd
        refine ⟨rule, List.mem_cons_of_mem _ hmem, hrule, fun p body hread => ?_⟩
        obtain ⟨earlier, later, rfl, htakes, hearlier⟩ := hopens p body hread
        refine ⟨first :: earlier, later, rfl, htakes, List.forall_mem_cons.mpr ⟨?_, hearlier⟩⟩
        intro q hq
        have hread' := (hfirst.opening.takes_iff e.opening_ne_nil).mp hq
        rcases List.prefix_or_prefix_of_prefix ⟨q.after, hread'.1.symm⟩
          ⟨body.after, hread.1.symm⟩ with h | h
        · exact he.not_prefix h
        · exact he.not_prefix' h

section Reading

variable {language : Language} {kinds : List Delimiters} {d : Delimiters}

/-- The ids of a language with delimiters lead back to its rules. -/
theorem DelimitedBy.identified (h : language.DelimitedBy kinds) : language.Identified := by
  refine ⟨?_, fun rule hrule => ?_⟩
  · rw [map_id_eq h.rules]
    exact List.pairwise_map.mpr (h.apart.imp fun hapart => hapart.id_ne)
  · obtain ⟨d, -, hdelimits⟩ := exists_delimits h.rules hrule
    rw [hdelimits.id_eq]
    exact d.id_ne_zero

/-- Reading with the construct open. -/
theorem DelimitedBy.scan_inside (h : language.DelimitedBy kinds) (hd : d ∈ kinds) :
    ∃ rule, d.Delimits rule ∧
      (∀ p, language.scan p (.inside d.id) = scanInside rule p (.inside d.id)) ∧
      ∀ p body, p.Reads d.opening body →
        language.scan p .normal = scanInside rule body (.inside d.id) := by
  obtain ⟨rule, hmem, hrule, hopens⟩ := exists_rule h.rules h.apart hd
  rw [← hrule.id_eq]
  refine ⟨rule, hrule, h.identified.scan_inside hmem, fun p body hread => ?_⟩
  rw [scan_normal, scanNormal_of_opened (hopens p body hread)]

end Reading

end Language

namespace Delimiters

open Lexer

/-! ## Walking through a construct -/

/-- Some tokens begin inside a construct, as far as `opening` goes, and `body` is the text behind
that.  The first of them are the construct, with its class and with line feeds between them.
They end where the scan of `body` ends, in the normal state; or they are all there is, and the
construct is left open. -/
def Spans (d : Delimiters) (opening body : List Char) (readings : List (Reading LineState)) :
    Prop :=
  ∃ inside rest, readings = inside ++ rest ∧
    (∀ reading ∈ inside,
      reading.token = .plain ['\n'] ∨ reading.token.kind = some d.kind) ∧
    match d.skim false body with
    | some (within, after) => textOf inside = opening ++ within ∧ textOf rest = after ∧
        finalState (.inside d.id) inside = .normal
    | none => textOf inside = opening ++ body ∧ rest = [] ∧
        finalState (.inside d.id) inside = .inside d.id

section Spans

variable {d : Delimiters} {language : Language} {kinds : List Delimiters}

/-- One token more in front of tokens that go on inside the construct. -/
theorem Spans.cons {opening inner body : List Char} {reading : Reading LineState}
    {readings : List (Reading LineState)} (h : d.Spans [] body readings)
    (hkind : reading.token = .plain ['\n'] ∨ reading.token.kind = some d.kind)
    (htext : reading.token.text = opening ++ inner) (hafter : reading.after = .inside d.id)
    (hskim : d.skim false (inner ++ body) =
      (d.skim false body).map fun (within, after) => (inner ++ within, after)) :
    d.Spans opening (inner ++ body) (reading :: readings) := by
  obtain ⟨inside, rest, rfl, hkinds, hscan⟩ := h
  refine ⟨reading :: inside, rest, rfl, List.forall_mem_cons.mpr ⟨hkind, hkinds⟩, ?_⟩
  rw [hskim, textOf_cons, finalState_cons, htext, hafter, List.append_assoc]
  cases hmore : d.skim false body with
  | none =>
      rw [hmore] at hscan
      obtain ⟨hinside, hrest, hfinal⟩ := hscan
      exact ⟨by rw [hinside]; rfl, hrest, hfinal⟩
  | some scanned =>
      rw [hmore] at hscan
      obtain ⟨hinside, hrest, hfinal⟩ := hscan
      exact ⟨by rw [hinside]; rfl, hrest, hfinal⟩

/-- A token with which the construct is closed. -/
theorem spans_of_closed {opening body within after : List Char} {reading : Reading LineState}
    {readings : List (Reading LineState)} (hkind : reading.token.kind = some d.kind)
    (htext : reading.token.text = opening ++ within) (hafter : reading.after = .normal)
    (hrest : textOf readings = after) (hskim : d.skim false body = some (within, after)) :
    d.Spans opening body (reading :: readings) := by
  refine ⟨[reading], readings, rfl, List.forall_mem_singleton.mpr (Or.inr hkind), ?_⟩
  rw [hskim]
  refine ⟨?_, hrest, hafter⟩
  rw [textOf_cons, textOf_nil, List.append_nil, htext]

section Walks

variable {cursor : Cursor} {state : LineState} {others : List (List Char)}
  {readings : List (Reading LineState)} {front token opening inner : List Char}
  {rule : Construct}

/-- A token that is read inside a construct, perhaps with the opening, goes on to the closing if
that is in the line; otherwise the construct goes on with the next line. -/
theorem spans_of_scan (hrule : d.Delimits rule)
    (hstands : cursor.Stands front token (opening ++ inner)) (hne : opening ++ inner ≠ [])
    (hscan : language.scan (.between (front ++ token) (opening ++ inner)) state =
      Language.scanInside rule (.between (front ++ token ++ opening) inner) (.inside d.id))
    (hrest : language.lexer.Walks (language.lexer.stepOn cursor state).2.1
      (language.lexer.stepOn cursor state).2.2 others readings)
    (hlater : ∀ {front' token' : List Char},
      (language.lexer.stepOn cursor state).2.1.Stands front' token' [] →
      (language.lexer.stepOn cursor state).2.2 = .inside d.id →
      d.Spans [] (joinLines ([] :: others)) readings) :
    d.Spans opening (joinLines (inner :: others))
      (⟨state, (language.lexer.stepOn cursor state).1,
        (language.lexer.stepOn cursor state).2.2⟩ :: readings) := by
  have hlines : joinLines (inner :: others) = inner ++ joinLines ([] :: others) := by
    rw [← joinLines_append_cons, List.append_nil]
  have hline : d.skim false (inner ++ joinLines ([] :: others)) = _ :=
    skim_line (joinLines_nil_cons others)
  obtain ⟨text, rest, -, hstop, htoken, hstate, hmoved⟩ :=
    language.stepOn_eq_scan hstands hne state
  rw [hscan, hrule.scanInside_eq] at hstop htoken hstate
  cases hskim : d.skim false inner with
  | some scanned =>
      obtain ⟨within, after⟩ := scanned
      rw [hskim] at hline hstop htoken hstate
      obtain ⟨hfront, rfl⟩ := Place.between_inj.mp hstop
      obtain rfl : opening ++ within = text := by
        rw [List.append_assoc] at hfront
        exact List.append_cancel_left hfront
      rw [hlines]
      refine spans_of_closed (congrArg Token.kind htoken) (congrArg Token.text htoken) hstate
        ?_ hline
      rw [hrest.textOf_eq language.lexer_movesCursor hmoved, ← joinLines_append_cons,
        List.append_nil]
  | none =>
      rw [hskim] at hline hstop htoken hstate
      obtain ⟨hfront, rfl⟩ := Place.between_inj.mp hstop
      obtain rfl : opening ++ inner = text := by
        rw [List.append_assoc] at hfront
        exact List.append_cancel_left hfront
      rw [hlines]
      exact (hlater hmoved hstate).cons (Or.inr (congrArg Token.kind htoken))
        (congrArg Token.text htoken) hstate hline

/-- From where a construct is open, its tokens go on to its closing. -/
theorem spans_of_walks (hlanguage : language.DelimitedBy kinds) (hd : d ∈ kinds)
    (h : language.lexer.Walks cursor state others readings) {back : List Char}
    (hstands : cursor.Stands front token back) (hstate : state = .inside d.id) :
    d.Spans [] (joinLines (back :: others)) readings := by
  obtain ⟨rule, hrule, hinside, -⟩ := hlanguage.scan_inside hd
  induction h generalizing front token back with
  | done hend =>
      rw [hstands.atEnd_iff.mp hend]
      exact ⟨[], [], rfl, by simp, rfl, rfl, rfl⟩
  | @feed cursor state line others readings hend hrest ih =>
      rw [hstands.atEnd_iff.mp hend, hstate]
      show d.Spans [] (['\n'] ++ joinLines (line :: others)) _
      have hmore := ih (Cursor.stands_ofLine line) hstate
      exact hmore.cons (Or.inl rfl) rfl rfl (skim_lineFeed false _)
  | @token cursor state others readings hend hrest ih =>
      have hback := hstands.atEnd_eq_false_iff.mp hend
      refine spans_of_scan hrule hstands hback ?_ hrest ih
      rw [hstate, List.append_nil]
      exact hinside _

/-- A construct that opens where a token is read in the normal state goes on to its closing. -/
theorem spans_of_opening (hlanguage : language.DelimitedBy kinds) (hd : d ∈ kinds)
    {reading : Reading LineState} {later : List (Reading LineState)} {back body : List Char}
    (h : language.lexer.Walks cursor .normal others (reading :: later))
    (hstands : cursor.Stands front token back)
    (hopens : joinLines (back :: others) = d.opening ++ body) :
    d.Spans d.opening body (reading :: later) := by
  obtain ⟨rule, hrule, -, hnormal⟩ := hlanguage.scan_inside hd
  obtain ⟨inner, rfl⟩ : d.opening <+: back :=
    (prefix_joinLines d.lineFeed_not_mem_opening back others).mp ⟨body, hopens.symm⟩
  rw [joinLines_append_cons] at hopens
  obtain rfl := List.append_cancel_left hopens
  have hne : d.opening ++ inner ≠ [] := List.append_ne_nil_of_left_ne_nil d.opening_ne_nil inner
  cases h with
  | feed hend hrest => exact absurd (hstands.atEnd_iff.mp hend) hne
  | token hend hrest =>
      refine spans_of_scan hrule hstands hne ?_ hrest fun hmoved hstate => ?_
      · exact hnormal _ _ (Place.reads_between_iff.mpr rfl)
      · exact spans_of_walks hlanguage hd hrest hmoved hstate

end Walks

end Spans

end Delimiters

end Triptych
