import Triptych.Proofs.Keys
import Triptych.Toml.Document

/-!
# No key is given twice

In what a document defines, every table has distinct keys, at any depth and whether it was
written in braces, under headers or with dotted keys: `keyed_of_parse?`.

While a document is read this is an invariant of the entries, `Entries.Keyed`.  Each way of
adding to them looks first whether the key is there, and replaces what is there by
something that has distinct keys again.
-/

namespace Triptych.Toml

/-! ## Distinct keys -/

/-- Every table in the value has distinct keys. -/
inductive Value.Keyed : Value → Prop where
  | string (text : List Char) : Keyed (.string text)
  | integer (n : Int) : Keyed (.integer n)
  | float (literal : List Char) : Keyed (.float literal)
  | boolean (b : Bool) : Keyed (.boolean b)
  | datetime (literal : List Char) : Keyed (.datetime literal)
  | array {items : List Value} (hitems : ∀ item ∈ items, Keyed item) : Keyed (.array items)
  | table {entries : Table} (hkeys : (entries.map Prod.fst).Nodup)
      (hvalues : ∀ entry ∈ entries, Keyed entry.2) : Keyed (.table entries)

/-- Every table in the node has distinct keys. -/
inductive Node.Keyed : Node → Prop where
  | value {v : Value} (hv : v.Keyed) : Keyed (.value v)
  | table {origin : Origin} {entries : List (List Char × Node)}
      (hkeys : (entries.map Prod.fst).Nodup) (hnodes : ∀ entry ∈ entries, Keyed entry.2) :
      Keyed (.table origin entries)
  | tables {elements : List (List (List Char × Node))}
      (hkeys : ∀ element ∈ elements, (element.map Prod.fst).Nodup)
      (hnodes : ∀ element ∈ elements, ∀ entry ∈ element, Keyed entry.2) : Keyed (.tables elements)

/-- The keys are distinct, and so they are in every table below. -/
structure Entries.Keyed (entries : Entries) : Prop where
  nodup : (entries.map Prod.fst).Nodup
  nodes : ∀ entry ∈ entries, entry.2.Keyed

namespace Entries

variable {entries : Entries} {key : List Char} {node : Node}

theorem Keyed.nil : Keyed [] := ⟨List.nodup_nil, by simp⟩

theorem Keyed.of_lookup (h : Keyed entries) (hlookup : entries.lookup key = some node) :
    node.Keyed := by
  have hentry := (lookup_eq_some_iff_mem h.nodup).mp hlookup
  exact h.nodes _ hentry

/-- A key that is not there may be added. -/
theorem Keyed.append (h : Keyed entries) (hnew : entries.lookup key = none) (hnode : node.Keyed) :
    Keyed (entries ++ [(key, node)]) where
  nodup := by
    rw [List.map_append, List.map_singleton, List.nodup_append]
    refine ⟨h.nodup, List.nodup_singleton key, ?_⟩
    rintro k hk _ hkey rfl
    rw [List.mem_singleton.mp hkey] at hk
    exact lookup_eq_none_iff_not_mem.mp hnew hk
  nodes := by
    simp only [List.forall_mem_append, List.forall_mem_singleton]
    exact ⟨h.nodes, hnode⟩

theorem map_fst_replace (entries : Entries) (key : List Char) (node : Node) :
    (entries.replace key node).map Prod.fst = entries.map Prod.fst := by
  unfold replace
  rw [List.map_map]
  refine List.map_congr_left fun entry _ => ?_
  simp only [Function.comp_apply]
  split <;> rfl

/-- Replacing what is under a key leaves the keys as they are. -/
theorem Keyed.replace (h : Keyed entries) (hnode : node.Keyed) :
    Keyed (entries.replace key node) where
  nodup := by
    rw [map_fst_replace]
    exact h.nodup
  nodes := by
    rintro entry hentry
    obtain ⟨⟨k, old⟩, hold, rfl⟩ := List.mem_map.mp hentry
    dsimp only
    split
    · exact hnode
    · exact h.nodes _ hold

theorem Keyed.table (h : Keyed entries) (origin : Origin) : (Node.table origin entries).Keyed :=
  .table h.nodup h.nodes

theorem keyed_of_table {origin : Origin} (h : (Node.table origin entries).Keyed) :
    Keyed entries := by
  cases h with
  | table hkeys hnodes => exact ⟨hkeys, hnodes⟩

theorem keyed_tables_iff {elements : List Entries} :
    (Node.tables elements).Keyed ↔ ∀ element ∈ elements, Keyed element := by
  constructor
  · intro h element helement
    cases h with
    | tables hkeys hnodes => exact ⟨hkeys element helement, hnodes element helement⟩
  · intro h
    exact .tables (fun element helement => (h element helement).nodup)
      fun element helement => (h element helement).nodes

/-! ## Adding to entries -/

/-- A change that keeps keys distinct does so wherever it is made. -/
theorem Keyed.update? {change : Origin → Entries → Option Entries} {byKey : Bool}
    (hchange : ∀ origin inner result, Keyed inner → change origin inner = some result →
      Keyed result) {path : List (List Char)} {origin : Origin} {result : Entries}
    (h : Keyed entries) (hupdate : update? change byKey path origin entries = some result) :
    Keyed result := by
  induction path generalizing origin entries result with
  | nil => exact hchange origin entries result h hupdate
  | cons key path ih =>
      rw [Entries.update?] at hupdate
      -- what stands under the first key of the path: nothing, a value, tables or a table
      split at hupdate
      · next hnew =>
          obtain ⟨inner, hinner, rfl⟩ := Option.map_eq_some_iff.mp hupdate
          exact h.append hnew ((ih .nil hinner).table _)
      · simp at hupdate
      · next elements hthere =>
          have helements := keyed_tables_iff.mp (h.of_lookup hthere)
          split at hupdate
          · simp at hupdate
          · next last hlast =>
              obtain ⟨inner, hinner, rfl⟩ := Option.map_eq_some_iff.mp hupdate
              have hinner := ih (helements last (List.mem_of_getLast? hlast)) hinner
              refine h.replace (keyed_tables_iff.mpr ?_)
              simp only [List.forall_mem_append, List.forall_mem_singleton]
              exact ⟨fun element helement =>
                helements element (List.dropLast_subset elements helement), hinner⟩
      · next there inner hthere =>
          split at hupdate
          · simp at hupdate
          · obtain ⟨changed, hchanged, rfl⟩ := Option.map_eq_some_iff.mp hupdate
            exact h.replace ((ih (keyed_of_table (h.of_lookup hthere)) hchanged).table _)

theorem Keyed.add? {path : List (List Char)} {v : Value} {result : Entries} (h : Keyed entries)
    (hv : v.Keyed) (hadd : entries.add? path key v = some result) : Keyed result := by
  refine h.update? ?_ hadd
  intro origin inner result hinner hresult
  split at hresult
  · simp at hresult
  · next hallowed =>
      obtain rfl := Option.some.inj hresult
      have hnew : inner.lookup key = none := by
        simp only [Bool.or_eq_true, not_or, Bool.not_eq_true, Option.isSome_eq_false_iff,
          Option.isNone_iff_eq_none] at hallowed
        exact hallowed.2
      exact hinner.append hnew (.value hv)

theorem Keyed.openTable? {path : List (List Char)} {result : Entries} (h : Keyed entries)
    (hopen : entries.openTable? path key = some result) : Keyed result := by
  refine h.update? ?_ hopen
  intro origin inner result hinner hresult
  split at hresult
  · next hnew =>
      obtain rfl := Option.some.inj hresult
      exact hinner.append hnew (Keyed.nil.table _)
  · next content hthere =>
      obtain rfl := Option.some.inj hresult
      exact hinner.replace ((keyed_of_table (hinner.of_lookup hthere)).table _)
  · simp at hresult

theorem Keyed.openElement? {path : List (List Char)} {result : Entries} (h : Keyed entries)
    (hopen : entries.openElement? path key = some result) : Keyed result := by
  refine h.update? ?_ hopen
  intro origin inner result hinner hresult
  split at hresult
  · next hnew =>
      obtain rfl := Option.some.inj hresult
      exact hinner.append hnew (keyed_tables_iff.mpr (by simp [Keyed.nil]))
  · next elements hthere =>
      obtain rfl := Option.some.inj hresult
      have helements := keyed_tables_iff.mp (hinner.of_lookup hthere)
      refine hinner.replace (keyed_tables_iff.mpr ?_)
      simp only [List.forall_mem_append, List.forall_mem_singleton]
      exact ⟨helements, Keyed.nil⟩
  · simp at hresult

end Entries

/-! ## The values that nodes have -/

theorem entriesToTable_eq_map (entries : Entries) :
    entriesToTable entries = entries.map fun entry => (entry.1, entry.2.toValue) := by
  induction entries with
  | nil => rfl
  | cons entry entries ih =>
      rw [entriesToTable, ih]
      rfl

theorem elementsToValues_eq_map (elements : List Entries) :
    elementsToValues elements = elements.map fun entries => .table (entriesToTable entries) := by
  induction elements with
  | nil => rfl
  | cons entries elements ih =>
      rw [elementsToValues, ih]
      rfl

/-- The value of a table whose nodes have keyed values. -/
theorem keyed_entriesToTable {entries : Entries} (hkeys : (entries.map Prod.fst).Nodup)
    (hvalues : ∀ entry ∈ entries, entry.2.toValue.Keyed) :
    (Value.table (entriesToTable entries)).Keyed := by
  rw [entriesToTable_eq_map]
  refine .table ?_ ?_
  · rw [List.map_map]
    exact hkeys
  · intro _ hvalue
    obtain ⟨entry, hentry, rfl⟩ := List.mem_map.mp hvalue
    exact hvalues entry hentry

theorem Node.Keyed.toValue {node : Node} (h : node.Keyed) : node.toValue.Keyed := by
  induction h with
  | value hv => exact hv
  | table hkeys _ ih => exact keyed_entriesToTable hkeys ih
  | @tables elements hkeys _ ih =>
      rw [Node.toValue, elementsToValues_eq_map]
      refine .array ?_
      intro _ hitem
      obtain ⟨element, helement, rfl⟩ := List.mem_map.mp hitem
      exact keyed_entriesToTable (hkeys element helement) (ih element helement)

theorem Entries.Keyed.toTable {entries : Entries} (h : Entries.Keyed entries) :
    (Value.table (entriesToTable entries)).Keyed :=
  keyed_entriesToTable h.nodup fun entry hentry => (h.nodes entry hentry).toValue

/-! ## Reading values -/

/-- What is read as one value has no tables at all. -/
theorem keyed_of_readScalar? {s rest : List Char} {v : Value}
    (h : readScalar? s = some (v, rest)) : v.Keyed := by
  unfold readScalar? at h
  split at h
  · simp only [Option.some.injEq, Prod.mk.injEq] at h
    exact h.1 ▸ .boolean true
  · simp only [Option.some.injEq, Prod.mk.injEq] at h
    exact h.1 ▸ .boolean false
  · obtain ⟨read, -, heq⟩ := Option.map_eq_some_iff.mp h
    exact (Prod.mk.inj heq).1 ▸ .string read.1
  · obtain ⟨read, -, heq⟩ := Option.map_eq_some_iff.mp h
    exact (Prod.mk.inj heq).1 ▸ .string read.1
  · unfold readNumber? at h
    split at h
    · simp only [Option.some.injEq, Prod.mk.injEq] at h
      exact h.1 ▸ .datetime _
    · split at h
      · simp only [Option.some.injEq, Prod.mk.injEq] at h
        exact h.1 ▸ .float _
      · obtain ⟨read, -, heq⟩ := Option.map_eq_some_iff.mp h
        exact (Prod.mk.inj heq).1 ▸ .integer read.1

section Item

variable {item : List Char → Option (Value × List Char)}
  (hitem : ∀ s v rest, item s = some (v, rest) → v.Keyed)
include hitem

theorem keyed_of_readItems? {s rest : List Char} {items : List Value}
    (h : readItems? item s = some (items, rest)) : ∀ v ∈ items, v.Keyed := by
  fun_induction readItems? item s generalizing items rest with
  | case1 s ih =>
      obtain ⟨start, -, h⟩ := Option.bind_eq_some_iff.mp h
      split at h
      · obtain ⟨rfl, -⟩ := Prod.mk.inj (Option.some.inj h)
        simp
      · obtain ⟨⟨v, behind⟩, hv, h⟩ := Option.bind_eq_some_iff.mp h
        have hkeyed := hitem _ _ _ hv
        obtain ⟨separator, -, h⟩ := Option.bind_eq_some_iff.mp h
        split at h
        · obtain ⟨rfl, -⟩ := Prod.mk.inj (Option.some.inj h)
          simpa using hkeyed
        · next more =>
            split at h
            · next hshorter =>
                obtain ⟨⟨others, after⟩, hothers, h⟩ := Option.bind_eq_some_iff.mp h
                obtain ⟨rfl, -⟩ := Prod.mk.inj (Option.some.inj h)
                exact List.forall_mem_cons.mpr ⟨hkeyed, ih more hshorter hothers⟩
            · simp at h
        · simp at h

theorem keyed_of_readEntry? {s rest : List Char} {path : List (List Char) × List Char} {v : Value}
    (h : readEntry? item s = some (path, v, rest)) : v.Keyed := by
  obtain ⟨⟨read, afterKey⟩, -, h⟩ := Option.bind_eq_some_iff.mp h
  obtain ⟨afterSign, -, h⟩ := Option.bind_eq_some_iff.mp h
  obtain ⟨⟨value, behind⟩, hvalue, h⟩ := Option.bind_eq_some_iff.mp h
  obtain ⟨-, h⟩ := Prod.mk.inj (Option.some.inj h)
  obtain ⟨rfl, -⟩ := Prod.mk.inj h
  exact hitem _ _ _ hvalue

theorem keyed_of_readFields? {s rest : List Char} {entries result : Entries}
    (hentries : Entries.Keyed entries)
    (h : readFields? item entries s = some (result, rest)) : Entries.Keyed result := by
  fun_induction readFields? item entries s generalizing result rest with
  | case1 entries s ih =>
      obtain ⟨⟨⟨path, key⟩, v, behind⟩, hentry, h⟩ := Option.bind_eq_some_iff.mp h
      obtain ⟨added, hadded, h⟩ := Option.bind_eq_some_iff.mp h
      have hv := keyed_of_readEntry? hitem hentry
      have hkeyed := hentries.add? hv hadded
      split at h
      · obtain ⟨rfl, -⟩ := Prod.mk.inj (Option.some.inj h)
        exact hkeyed
      · next more _ =>
          split at h
          · next hshorter => exact ih added more hshorter hkeyed h
          · simp at h
      · simp at h

end Item

theorem keyed_of_readValue? {depth : Nat} {s rest : List Char} {v : Value}
    (h : readValue? depth s = some (v, rest)) : v.Keyed := by
  induction depth generalizing s v rest with
  | zero =>
      unfold readValue? at h
      split at h
      · next heq => exact absurd heq (Nat.zero_ne_add_one _)
      · next heq => exact absurd heq (Nat.zero_ne_add_one _)
      · simp at h
      · simp at h
      · exact keyed_of_readScalar? h
  | succ depth ih =>
      have hitem : ∀ s v rest, readValue? depth s = some (v, rest) → v.Keyed := fun _ _ _ => ih
      unfold readValue? at h
      split at h
      · next heq =>
          obtain rfl := Nat.succ.inj heq
          obtain ⟨⟨items, more⟩, hitems, h⟩ := Option.map_eq_some_iff.mp h
          obtain ⟨rfl, -⟩ := Prod.mk.inj h
          exact .array (keyed_of_readItems? hitem hitems)
      · next heq =>
          obtain rfl := Nat.succ.inj heq
          split at h
          · obtain ⟨rfl, -⟩ := Prod.mk.inj (Option.some.inj h)
            exact .table List.nodup_nil (by simp)
          · obtain ⟨⟨entries, more⟩, hentries, h⟩ := Option.map_eq_some_iff.mp h
            obtain ⟨rfl, -⟩ := Prod.mk.inj h
            exact (keyed_of_readFields? hitem .nil hentries).toTable
      · simp at h
      · simp at h
      · exact keyed_of_readScalar? h

/-! ## Reading documents -/

theorem Reading.keyed_of_add? {reading result : Reading} {path : List (List Char)}
    {key : List Char} {v : Value} (h : Entries.Keyed reading.entries) (hv : v.Keyed)
    (hadd : reading.add? path key v = some result) : Entries.Keyed result.entries := by
  obtain ⟨entries, hentries, rfl⟩ := Option.map_eq_some_iff.mp hadd
  exact h.update? (fun _ _ _ hinner hresult => hinner.add? hv hresult) hentries

/-- Reading a line keeps keys distinct. -/
theorem Reading.keyed_of_readLine? {reading result : Reading} {s rest : List Char}
    (h : Entries.Keyed reading.entries) (hline : reading.readLine? s = some (result, rest)) :
    Entries.Keyed result.entries := by
  unfold Reading.readLine? at hline
  split at hline
  · obtain ⟨⟨⟨path, key⟩, more⟩, -, hline⟩ := Option.bind_eq_some_iff.mp hline
    obtain ⟨first, -, hline⟩ := Option.bind_eq_some_iff.mp hline
    obtain ⟨second, -, hline⟩ := Option.bind_eq_some_iff.mp hline
    obtain ⟨entries, hentries, hline⟩ := Option.bind_eq_some_iff.mp hline
    obtain ⟨trailing, -, hline⟩ := Option.bind_eq_some_iff.mp hline
    obtain ⟨rfl, -⟩ := Prod.mk.inj (Option.some.inj hline)
    exact h.openElement? hentries
  · obtain ⟨⟨⟨path, key⟩, more⟩, -, hline⟩ := Option.bind_eq_some_iff.mp hline
    obtain ⟨bracket, -, hline⟩ := Option.bind_eq_some_iff.mp hline
    obtain ⟨entries, hentries, hline⟩ := Option.bind_eq_some_iff.mp hline
    obtain ⟨trailing, -, hline⟩ := Option.bind_eq_some_iff.mp hline
    obtain ⟨rfl, -⟩ := Prod.mk.inj (Option.some.inj hline)
    exact h.openTable? hentries
  · obtain ⟨⟨⟨path, key⟩, v, more⟩, hentry, hline⟩ := Option.bind_eq_some_iff.mp hline
    obtain ⟨added, hadded, hline⟩ := Option.bind_eq_some_iff.mp hline
    obtain ⟨trailing, -, hline⟩ := Option.bind_eq_some_iff.mp hline
    obtain ⟨rfl, -⟩ := Prod.mk.inj (Option.some.inj hline)
    have hv := keyed_of_readEntry? (fun _ _ _ => keyed_of_readValue?) hentry
    exact Reading.keyed_of_add? h hv hadded

theorem keyed_of_readLines? {reading : Reading} {s : List Char} {table : Table}
    (hentries : Entries.Keyed reading.entries) (h : readLines? reading s = some table) :
    (Value.table table).Keyed := by
  fun_induction readLines? reading s with
  | case1 reading s hend =>
      obtain rfl := Option.some.inj h
      exact hentries.toTable
  | case2 reading s rest hline hshorter ih => exact ih hentries h
  | case4 reading s rest hline hshorter ih => exact ih hentries h
  | case6 reading s comment hline rest htrailing hshorter ih => exact ih hentries h
  | case9 reading s next rest hshorter _ _ _ _ hline ih =>
      exact ih (Reading.keyed_of_readLine? hentries hline) h
  | case3 | case5 | case7 | case8 | case10 | case11 => simp at h

/-- No table of a document has a key twice. -/
theorem keyed_of_parse? {document : List Char} {table : Table} (h : parse? document = some table) :
    (Value.table table).Keyed :=
  keyed_of_readLines? .nil h

end Triptych.Toml
