import Triptych.Proofs.Block.Split

/-!
# Joining segments

A block is written by putting a sentinel line behind each of its first two segments.
Splitting takes this back, see `split_join_iff`, and the blocks for which it does so are all
that splitting can give: their texts are trimmed, hold no sentinel line, and the markup is
not empty.

The delimiter of an empty segment takes the line feed of the next delimiter with it, as
blanks are taken on both sides.  This does NOT join the two, since what is left of an empty
segment is empty again.
-/

namespace Triptych

open Text

namespace Block

/-- The texts of a block as splitting leaves them. -/
structure Canonical (block : Block) : Prop where
  trim_get : ∀ kind, trim (block.get kind) = block.get kind
  markup_ne_nil : block.markup ≠ []
  isSentinel_eq_false : ∀ kind, ∀ line ∈ pieces (block.get kind), isSentinel line = false

theorem canonical_iff_forall_mem_all (block : Block) :
    block.Canonical ↔ block.markup ≠ [] ∧ ∀ kind ∈ Segment.all,
      trim (block.get kind) = block.get kind ∧
        ∀ line ∈ pieces (block.get kind), isSentinel line = false := by
  have hall : ∀ kind, kind ∈ Segment.all := by
    intro kind
    cases kind <;> decide
  constructor
  · intro h
    exact ⟨h.markup_ne_nil, fun kind _ => ⟨h.trim_get kind, h.isSentinel_eq_false kind⟩⟩
  · rintro ⟨hmarkup, h⟩
    exact ⟨fun kind => (h kind (hall kind)).1, hmarkup, fun kind => (h kind (hall kind)).2⟩

instance (block : Block) : Decidable block.Canonical :=
  decidable_of_iff _ (canonical_iff_forall_mem_all block).symm

/-- Write a block as one text. -/
def join (block : Block) : List Char :=
  block.markup ++ "\n---*---\n".toList ++ block.style ++ "\n---*---\n".toList ++ block.script

/-! ## What splitting gives -/

/-- No line of a segment is a sentinel line. -/
theorem isSentinel_eq_false_of_mem_get {raw : List Char} {block : Block}
    (h : split raw = .ok block) (kind : Segment) :
    ∀ line ∈ pieces (block.get kind), isSentinel line = false := by
  obtain ⟨-, hget⟩ := get_eq_groupText h
  rw [hget]
  -- joining the lines of a group brings back these lines and no others
  have hnone : (pieces (joinLines (group (pieces raw) kind.index))).countP isSentinel = 0 := by
    by_cases hempty : group (pieces raw) kind.index = []
    · rw [hempty]
      rfl
    · have hfeed : ∀ line ∈ group (pieces raw) kind.index, '\n' ∉ line := by
        intro line hline
        exact lineFeed_not_mem_of_mem_pieces (mem_of_mem_group hline).1
      rw [pieces_joinLines hempty hfeed, List.countP_eq_zero]
      intro line hline
      simp [(mem_of_mem_group hline).2]
  unfold groupText
  rw [← countP_pieces_trim, List.countP_eq_zero] at hnone
  intro line hline
  simpa using hnone line hline

theorem markup_ne_nil_of_split {raw : List Char} {block : Block} (h : split raw = .ok block) :
    block.markup ≠ [] := by
  rw [split_eq_ofPieces_texts, ofPieces_texts] at h
  unfold ofLines at h
  split at h
  · simp at h
  · split at h
    · simp at h
    · next hmarkup =>
        obtain rfl := Except.ok.inj h
        simpa using hmarkup

theorem canonical_of_split {raw : List Char} {block : Block} (h : split raw = .ok block) :
    block.Canonical where
  trim_get kind := by
    rw [(get_eq_groupText h).2 kind]
    exact trim_trim _
  markup_ne_nil := markup_ne_nil_of_split h
  isSentinel_eq_false := isSentinel_eq_false_of_mem_get h

/-! ## What joining gives -/

/-- The text behind a sentinel line is cut as if it stood alone. -/
theorem texts_pieces_sentinel_append (back : List Char) :
    texts (pieces (sentinel ++ '\n' :: back)) = [] :: texts (pieces back) := by
  have hback : '\n' :: back = [] ∨ ∃ later, '\n' :: back = '\n' :: later := Or.inr ⟨back, rfl⟩
  have hcut := texts_pieces_sentinel blank_nil blank_nil hback
  have hfeed : texts (pieces ('\n' :: back)) = texts (pieces back) :=
    texts_pieces_append_left blank_lineFeed back
  rwa [List.nil_append, List.append_nil, hfeed] at hcut

/-- A text without sentinel lines in front of a delimiter. -/
theorem texts_pieces_delimiter_append {front : List Char}
    (h : ∀ line ∈ pieces front, isSentinel line = false) (back : List Char) :
    texts (pieces (front ++ "\n---*---\n".toList ++ back)) = trim front :: texts (pieces back) := by
  have hdelimiter : front ++ "\n---*---\n".toList ++ back =
      front ++ '\n' :: (sentinel ++ '\n' :: back) := by
    rw [List.append_assoc]
    rfl
  rw [hdelimiter]
  exact texts_pieces_lineFeed_append h (texts_pieces_sentinel_append back)

theorem Canonical.texts_pieces_join {block : Block} (h : block.Canonical) :
    texts (pieces block.join) = [block.markup, block.style, block.script] := by
  have hmarkup := texts_pieces_delimiter_append (h.isSentinel_eq_false .markup)
    (block.style ++ "\n---*---\n".toList ++ block.script)
  have hstyle := texts_pieces_delimiter_append (h.isSentinel_eq_false .style) block.script
  have hscript := texts_of_forall_not (h.isSentinel_eq_false .script)
  rw [h.trim_get .markup] at hmarkup
  rw [h.trim_get .style] at hstyle
  rw [joinLines_pieces, h.trim_get .script] at hscript
  -- the first delimiter stands in front of everything else
  have hjoin : block.join = block.markup ++ "\n---*---\n".toList ++
      (block.style ++ "\n---*---\n".toList ++ block.script) := by
    unfold join
    simp only [List.append_assoc]
  rw [hjoin]
  calc
    _ = block.markup ::
          texts (pieces (block.style ++ "\n---*---\n".toList ++ block.script)) := hmarkup
    _ = block.markup :: block.style :: texts (pieces block.script) := congrArg _ hstyle
    _ = block.markup :: block.style :: [block.script] := congrArg _ (congrArg _ hscript)

/-- A block is taken apart into the texts that it was joined from. -/
theorem Canonical.split_join {block : Block} (h : block.Canonical) :
    split block.join = .ok block := by
  have hmarkup : block.markup.isEmpty = false := by
    simpa using h.markup_ne_nil
  rw [split_eq_ofPieces_texts, h.texts_pieces_join]
  simp [ofPieces, ofPieces.check, hmarkup]

/-- The blocks that splitting can give are those with trimmed texts, a markup and no
sentinel line, and each of them comes back from its joined text. -/
theorem split_join_iff (block : Block) :
    ((∃ raw, split raw = .ok block) ↔ block.Canonical) ∧
      (block.Canonical ↔ split block.join = .ok block) := by
  constructor
  · constructor
    · rintro ⟨raw, h⟩
      exact canonical_of_split h
    · intro h
      exact ⟨block.join, h.split_join⟩
  · constructor
    · intro h
      exact h.split_join
    · intro h
      exact canonical_of_split h

/-- Two delimiters in a row, with nothing between them. -/
example : Canonical ⟨['a'], [], ['b']⟩ ∧ ¬Canonical ⟨['a'], ['\n'], []⟩ ∧
    ¬Canonical ⟨['a'], [], sentinel⟩ := by
  decide

end Block

end Triptych
