import Mathlib.Data.List.Nodup

/-!
# Lists with distinct keys

A list of entries stands for a table if its keys are distinct: what is looked up under a key
is then what is listed with it, wherever it is listed.  With keys that are NOT distinct the
first entry hides the others.
-/

namespace Triptych

variable {κ α : Type} [BEq κ] [LawfulBEq κ] {entries : List (κ × α)} {key : κ}

theorem lookup_eq_some_iff_mem (hkeys : (entries.map Prod.fst).Nodup) {value : α} :
    entries.lookup key = some value ↔ (key, value) ∈ entries := by
  induction entries with
  | nil => simp
  | cons entry entries ih =>
      obtain ⟨first, held⟩ := entry
      rw [List.map_cons, List.nodup_cons] at hkeys
      by_cases hfirst : key = first
      · subst hfirst
        have hother : (key, value) ∉ entries := by
          intro hmem
          exact hkeys.1 (List.mem_map.mpr ⟨_, hmem, rfl⟩)
        simp [hother, eq_comm]
      · simp [List.lookup_cons, beq_false_of_ne hfirst, hfirst, ih hkeys.2]

theorem lookup_eq_none_iff_not_mem : entries.lookup key = none ↔ key ∉ entries.map Prod.fst := by
  rw [List.lookup_eq_none_iff, List.mem_map]
  constructor
  · rintro h ⟨entry, hentry, rfl⟩
    simpa using h entry hentry
  · intro h entry hentry
    rw [bne_iff_ne]
    rintro rfl
    exact h ⟨entry, hentry, rfl⟩

end Triptych
