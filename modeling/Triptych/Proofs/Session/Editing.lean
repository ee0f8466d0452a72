import Triptych.Proofs.Session.Knowledge

/-!
# Sessions under editing

A host edits a document and asks a session about it, in any order.  The session is not
told of the edits themselves; the host says, before it asks again, that nothing is
known any more from the edited line or from an earlier one on.

As long as the host keeps to that, each answer is the one that a session without a
past gives for the document as it is now.  This does NOT hold between an edit and what
the host says of it: a removal can leave a session that knows more lines than the
document has.
-/

namespace Triptych

namespace Session

/-- A change of one line of a document.  A line that the document does not have stays
away. -/
inductive Edit where
  | replace (line : Nat) (text : List Char)
  | insert (line : Nat) (text : List Char)
  | remove (line : Nat)
  deriving DecidableEq, Repr

namespace Edit

/-- The first line that an edit may change. -/
def line : Edit → Nat
  | .replace line _ => line
  | .insert line _ => line
  | .remove line => line

/-- The document after an edit. -/
def apply : Edit → List (List Char) → List (List Char)
  | .replace line text, lines => lines.set line text
  | .insert line text, lines => lines.insertIdx line text
  | .remove line, lines => lines.eraseIdx line

/-- The lines before the edited one stay as they are. -/
theorem getElem?_apply (edit : Edit) (lines : List (List Char)) {i : Nat} (hi : i < edit.line) :
    (edit.apply lines)[i]? = lines[i]? := by
  cases edit with
  | replace line text => exact List.getElem?_set_ne (Nat.ne_of_gt hi)
  | insert line text => exact List.getElem?_insertIdx_of_lt hi
  | remove line => exact List.getElem?_eraseIdx_of_lt hi

theorem prefix_apply (edit : Edit) {front lines : List (List Char)}
    (hline : front.length ≤ edit.line) (hfront : front <+: lines) :
    front <+: edit.apply lines := by
  rw [List.prefix_iff_getElem?] at hfront ⊢
  intro i hi
  rw [edit.getElem?_apply lines (by omega)]
  exact hfront i hi

end Edit

/-- What a host does with a document and its session. -/
inductive Action where
  | edit (change : Edit)
  | invalidate (line : Nat)
  | restart
  | highlight (line : Nat)
  | segment (line : Nat)
  deriving DecidableEq, Repr

/-- The action asks the session something. -/
def Action.isQuery : Action → Bool
  | .highlight _ | .segment _ => true
  | _ => false

/-- After an edit at a line, the session is told to forget all from that line or from an
earlier one on, and it is told so before it is asked anything. -/
def Told (line : Nat) : List Action → Prop
  | [] => False
  | .edit _ :: rest => Told line rest
  | .invalidate first :: rest => first ≤ line ∨ Told line rest
  | .restart :: _ => True
  | .highlight _ :: _ => False
  | .segment _ :: _ => False

/-- The session is told of each edit before it is next asked anything. -/
def Announced : List Action → Prop
  | [] => True
  | .edit change :: rest => Told change.line rest ∧ Announced rest
  | .invalidate _ :: rest => Announced rest
  | .restart :: rest => Announced rest
  | .highlight _ :: rest => Announced rest
  | .segment _ :: rest => Announced rest

instance decidableTold (line : Nat) : (actions : List Action) → Decidable (Told line actions)
  | [] => inferInstanceAs (Decidable False)
  | .edit _ :: rest => decidableTold line rest
  | .invalidate first :: rest =>
      have := decidableTold line rest
      inferInstanceAs (Decidable (first ≤ line ∨ Told line rest))
  | .restart :: _ => inferInstanceAs (Decidable True)
  | .highlight _ :: _ => inferInstanceAs (Decidable False)
  | .segment _ :: _ => inferInstanceAs (Decidable False)

instance decidableAnnounced : (actions : List Action) → Decidable (Announced actions)
  | [] => inferInstanceAs (Decidable True)
  | .edit change :: rest =>
      have := decidableAnnounced rest
      inferInstanceAs (Decidable (Told change.line rest ∧ Announced rest))
  | .invalidate _ :: rest => decidableAnnounced rest
  | .restart :: rest => decidableAnnounced rest
  | .highlight _ :: rest => decidableAnnounced rest
  | .segment _ :: rest => decidableAnnounced rest

/-- A document with the session that is kept for it. -/
structure Editor (μ σ κ : Type) where
  lines : List (List Char)
  session : Session μ σ κ

namespace Editor

variable {μ σ κ : Type}

/-- The document and the session after an action. -/
def act (editor : Editor μ σ κ) : Action → Editor μ σ κ
  | .edit change => { editor with lines := change.apply editor.lines }
  | .invalidate line => { editor with session := editor.session.invalidateFrom line }
  | .restart => { editor with session := editor.session.restart }
  | .highlight line => { editor with session := (editor.session.highlight editor.lines line).2 }
  | .segment _ => editor

/-- The document and the session after some actions, from a new session on. -/
def after (tokenizer : Tokenizer μ σ κ) (document : List (List Char)) (actions : List Action) :
    Editor μ σ κ :=
  actions.foldl act ⟨document, start tokenizer⟩

/-- Whatever the session is asked now, it answers as a new session would that is asked
about the document as it is now; and it knows no line that the document does not have. -/
structure Faithful (tokenizer : Tokenizer μ σ κ) (editor : Editor μ σ κ) : Prop where
  highlight_eq : ∀ line, (editor.session.highlight editor.lines line).1 =
    ((start tokenizer).highlight editor.lines line).1
  highlight_past : ∀ line, editor.lines.length ≤ line →
    editor.session.highlight editor.lines line = ([], editor.session)
  isSome_segmentAt? : ∀ line, (editor.session.segmentAt? line).isSome ↔
    line < editor.session.invalidFrom
  segmentAt?_eq : ∀ line, line < editor.session.invalidFrom →
    editor.session.segmentAt? line =
      ((start tokenizer).highlight editor.lines line).2.segmentAt? line
  invalidFrom_le : editor.session.invalidFrom ≤ editor.lines.length

/-- The session has read lines that the document begins with. -/
def UpToDate (tokenizer : Tokenizer μ σ κ) (editor : Editor μ σ κ) : Prop :=
  ∃ seen, editor.session = ofLines tokenizer seen ∧ seen <+: editor.lines

theorem UpToDate.faithful {tokenizer : Tokenizer μ σ κ} {editor : Editor μ σ κ}
    (h : editor.UpToDate tokenizer) : editor.Faithful tokenizer := by
  obtain ⟨lines, session⟩ := editor
  obtain ⟨seen, rfl, hprefix⟩ := h
  have hseen : seen = lines.take seen.length := List.prefix_iff_eq_take.mp hprefix
  have hlen : seen.length ≤ lines.length := hprefix.length_le
  have hfresh : start tokenizer = ofLines tokenizer (lines.take 0) := start_eq_ofLines tokenizer
  have hpast : ∀ session line, lines.length ≤ line →
      Session.highlight session lines line = (([], session) : List Span × Session μ σ κ) := by
    intro session line hline
    unfold Session.highlight
    rw [if_pos hline]
  constructor
  · intro line
    by_cases hline : line < lines.length
    · rw [hseen, hfresh, highlight_ofLines_take tokenizer hline,
        highlight_ofLines_take tokenizer hline]
    · rw [hpast _ line (by omega), hpast _ line (by omega)]
  · exact hpast _
  · exact isSome_segmentAt?_ofLines tokenizer seen
  · intro line hline
    rw [ofLines_invalidFrom] at hline
    have hdocument : line < lines.length := by omega
    rw [hseen, hfresh, highlight_ofLines_take tokenizer hdocument,
      segmentAt?_ofLines_take tokenizer hline hdocument,
      segmentAt?_ofLines_take tokenizer (by omega) hdocument]
  · exact hlen

/-! ## What an action preserves -/

/-- The lines that the session has read are those of the document up to `clean`, and what
it has read from there on it forgets before it is asked anything: the actions to come see
to that. -/
def Tracks (tokenizer : Tokenizer μ σ κ) (editor : Editor μ σ κ) (coming : List Action) : Prop :=
  ∃ seen clean, editor.session = ofLines tokenizer seen ∧ seen.take clean <+: editor.lines ∧
    (seen.length ≤ clean ∨ Told clean coming)

theorem Tracks.upToDate {tokenizer : Tokenizer μ σ κ} {editor : Editor μ σ κ}
    {coming : List Action} (h : editor.Tracks tokenizer coming)
    (hcoming : ∀ line, ¬ Told line coming) : editor.UpToDate tokenizer := by
  obtain ⟨seen, clean, hsession, hprefix, hlength | htold⟩ := h
  · rw [List.take_of_length_le hlength] at hprefix
    exact ⟨seen, hsession, hprefix⟩
  · exact absurd htold (hcoming clean)

theorem UpToDate.tracks {tokenizer : Tokenizer μ σ κ} {editor : Editor μ σ κ}
    (h : editor.UpToDate tokenizer) (coming : List Action) :
    editor.Tracks tokenizer coming := by
  obtain ⟨seen, hsession, hprefix⟩ := h
  refine ⟨seen, seen.length, hsession, ?_, Or.inl (Nat.le_refl _)⟩
  rw [List.take_length]
  exact hprefix

/-- A query reads on, and what it reads are lines of the document. -/
theorem UpToDate.highlight {tokenizer : Tokenizer μ σ κ} {editor : Editor μ σ κ}
    (h : editor.UpToDate tokenizer) (line : Nat) :
    (editor.act (.highlight line)).UpToDate tokenizer := by
  obtain ⟨lines, session⟩ := editor
  obtain ⟨seen, rfl, hprefix⟩ := h
  by_cases hline : line < lines.length
  · refine ⟨lines.take (max seen.length (line + 1)), ?_, List.take_prefix _ _⟩
    show ((ofLines tokenizer seen).highlight lines line).2 = _
    rw [List.prefix_iff_eq_take.mp hprefix, highlight_ofLines_take tokenizer hline,
      ← List.prefix_iff_eq_take.mp hprefix]
  · refine ⟨seen, ?_, hprefix⟩
    show ((ofLines tokenizer seen).highlight lines line).2 = _
    unfold Session.highlight
    rw [if_pos (by omega)]

/-- An edit leaves the lines before it alone, and the actions to come tell of it. -/
theorem Tracks.edit {tokenizer : Tokenizer μ σ κ} {editor : Editor μ σ κ} {change : Edit}
    {coming : List Action} (h : editor.Tracks tokenizer (.edit change :: coming))
    (htold : Told change.line coming) :
    (editor.act (.edit change)).Tracks tokenizer coming := by
  obtain ⟨seen, clean, hsession, hprefix, hclean⟩ := h
  -- an edit behind `clean` spoils nothing; one before it is the first that does
  by_cases hline : clean ≤ change.line
  · refine ⟨seen, clean, hsession, ?_, hclean⟩
    apply change.prefix_apply _ hprefix
    rw [List.length_take]
    omega
  · refine ⟨seen, change.line, hsession, ?_, Or.inr htold⟩
    have hshort : seen.take change.line <+: editor.lines := by
      have htake : seen.take change.line = (seen.take clean).take change.line := by
        rw [List.take_take]
        congr 1
        omega
      rw [htake]
      exact (List.take_prefix _ _).trans hprefix
    apply change.prefix_apply _ hshort
    rw [List.length_take]
    omega

/-- Forgetting all from a line on settles each edit at that line or at a later one. -/
theorem Tracks.invalidate {tokenizer : Tokenizer μ σ κ} {editor : Editor μ σ κ} {first : Nat}
    {coming : List Action} (h : editor.Tracks tokenizer (.invalidate first :: coming)) :
    (editor.act (.invalidate first)).Tracks tokenizer coming := by
  obtain ⟨lines, session⟩ := editor
  obtain ⟨seen, clean, rfl, hprefix, hclean⟩ := h
  refine ⟨seen.take first, clean, invalidateFrom_ofLines tokenizer seen first, ?_, ?_⟩
  · rw [List.take_take, Nat.min_comm, ← List.take_take]
    exact (List.take_prefix _ _).trans hprefix
  · rw [List.length_take]
    -- the promise to forget is kept here, unless what is to come keeps it
    rcases hclean with hlength | hfirst | htold
    · left; omega
    · left; omega
    · exact Or.inr htold

/-- What one action preserves. -/
theorem Tracks.act {tokenizer : Tokenizer μ σ κ} {editor : Editor μ σ κ} {action : Action}
    {coming : List Action} (h : editor.Tracks tokenizer (action :: coming))
    (hannounced : Announced (action :: coming)) :
    (editor.act action).Tracks tokenizer coming := by
  cases action with
  | edit change => exact h.edit hannounced.1
  | invalidate first => exact h.invalidate
  | restart =>
      obtain ⟨seen, clean, hsession, -, -⟩ := h
      refine ⟨[], clean, ?_, ?_, Or.inl (Nat.zero_le _)⟩
      · show editor.session.restart = _
        rw [hsession, restart_ofLines]
      · rw [List.take_nil]
        exact List.nil_prefix
  | highlight line => exact ((h.upToDate fun _ => id).highlight line).tracks coming
  | segment line => exact (h.upToDate fun _ => id).tracks coming

/-- What any number of actions preserves. -/
theorem Tracks.foldl {tokenizer : Tokenizer μ σ κ} {editor : Editor μ σ κ}
    {past coming : List Action} (h : editor.Tracks tokenizer (past ++ coming))
    (hannounced : Announced (past ++ coming)) :
    (past.foldl Editor.act editor).Tracks tokenizer coming := by
  -- on the past: the actions to come hold what is promised for the edits so far
  induction past generalizing editor with
  | nil => exact h
  | cons action past ih =>
      have hrest : Announced (past ++ coming) := by
        cases action with
        | edit change => exact hannounced.2
        | _ => exact hannounced
      exact ih (h.act hannounced) hrest

theorem tracks_after (tokenizer : Tokenizer μ σ κ) (document : List (List Char))
    {past coming : List Action} (hannounced : Announced (past ++ coming)) :
    (after tokenizer document past).Tracks tokenizer coming := by
  have hstart : (⟨document, start tokenizer⟩ : Editor μ σ κ).UpToDate tokenizer :=
    ⟨[], start_eq_ofLines tokenizer, List.nil_prefix⟩
  exact (hstart.tracks (past ++ coming)).foldl hannounced

/-! ## Answers without a past -/

/-- A session that is told of the edits answers as if it had no past: after the whole
history, and each time that it is asked something in the course of it.  So the answers
do not depend on what was asked before, how often and in which order. -/
theorem faithful_of_announced (tokenizer : Tokenizer μ σ κ) (document : List (List Char))
    (actions : List Action) (hannounced : Announced actions) :
    (after tokenizer document actions).Faithful tokenizer ∧
      ∀ past query coming, actions = past ++ query :: coming → query.isQuery →
        (after tokenizer document past).Faithful tokenizer := by
  constructor
  · have htracks : (after tokenizer document actions).Tracks tokenizer [] :=
      tracks_after tokenizer document (by rwa [List.append_nil])
    exact (htracks.upToDate fun _ => id).faithful
  · rintro past query coming rfl hquery
    have htracks := tracks_after tokenizer document hannounced
    -- a query keeps no promise, so none is open when it is asked
    have hnone : ∀ line, ¬ Told line (query :: coming) := by
      intro line htold
      cases query with
      | highlight asked => exact htold
      | segment asked => exact htold
      | _ => simp [Action.isQuery] at hquery
    exact (htracks.upToDate hnone).faithful

theorem faithful_after_changes :
    Announced [.highlight 2, .edit (.replace 1 ['x']), .edit (.insert 0 ['b']), .invalidate 0,
        .segment 2, .edit (.remove 2), .invalidate 3, .invalidate 1, .highlight 1] ∧
      (after .standard [['a'], sentinel, ['b']]
        [.highlight 2, .edit (.replace 1 ['x']), .edit (.insert 0 ['b']), .invalidate 0,
          .segment 2, .edit (.remove 2), .invalidate 3, .invalidate 1,
          .highlight 1]).Faithful .standard ∧
      (after .standard [['a'], sentinel, ['b']]
        [.highlight 2, .edit (.replace 1 ['x']), .edit (.insert 0 ['b']),
          .invalidate 0]).Faithful .standard := by
  have hannounced : Announced [.highlight 2, .edit (.replace 1 ['x']), .edit (.insert 0 ['b']),
      .invalidate 0, .segment 2, .edit (.remove 2), .invalidate 3, .invalidate 1,
      .highlight 1] := by
    decide
  have hfaithful := faithful_of_announced .standard [['a'], sentinel, ['b']] _ hannounced
  refine ⟨hannounced, hfaithful.1, ?_⟩
  exact hfaithful.2 [.highlight 2, .edit (.replace 1 ['x']), .edit (.insert 0 ['b']),
    .invalidate 0] (.segment 2) _ rfl rfl

/-- Before the session is told of a removal, it can know more lines than there are. -/
theorem invalidFrom_gt_before_told :
    Announced [.highlight 0, .edit (.remove 0), .invalidate 0] ∧
      ¬ (after .standard [['a']] [.highlight 0, .edit (.remove 0)]).session.invalidFrom ≤
        (after .standard [['a']] [.highlight 0, .edit (.remove 0)]).lines.length := by
  refine ⟨by decide, ?_⟩
  have hread : ((start Tokenizer.standard).highlight [['a']] 0).2 =
      ofLines Tokenizer.standard [['a']] := by
    rw [start_eq_ofLines]
    exact congrArg Prod.snd (highlight_ofLines_take (n := 0) Tokenizer.standard (by decide))
  show ¬ ((start Tokenizer.standard).highlight [['a']] 0).2.invalidFrom ≤ 0
  rw [hread]
  decide

end Editor

end Session

end Triptych
