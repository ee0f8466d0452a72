import Mathlib
import Triptych.Proofs.Toml.Keys
import Triptych.Settings

/-!
# Entries that count

An entry of a table of settings counts if its key is known and its value is of the type that
belongs to the key; an entry of the table of colours counts if its key is the name of a class
and its value a text that is read as a colour.  The settings are what the entries that count
say, and the defaults where none does.  So all other entries may be removed, and entries may
stand in any order.

Entries may also be gone through one after the other, each changing the settings so far.
`apply` does this, and it leads to the same settings.  For a table that has a key TWICE this
would not be so, as `ofTable` takes the first entry and `apply` the last; no document has such
a table.
-/

namespace Triptych

/-- Every class is found by its name, and no other text finds it. -/
theorem TokenClass.ofName?_eq_some_iff {name : String} {kind : TokenClass} :
    ofName? name = some kind ↔ kind.name = name := by
  constructor
  · intro h
    simpa using List.find?_some h
  · rintro rfl
    cases kind <;> decide

theorem TokenClass.ofName?_ofList_eq_some_iff {key : List Char} {kind : TokenClass} :
    ofName? (String.ofList key) = some kind ↔ kind.name.toList = key := by
  rw [ofName?_eq_some_iff]
  constructor
  · intro h
    rw [h, String.toList_ofList]
  · rintro rfl
    rw [String.ofList_toList]

namespace Toml.Value

theorem asBool?_eq_some_iff {v : Value} {b : Bool} : v.asBool? = some b ↔ v = .boolean b := by
  cases v <;> simp [asBool?]

theorem asInteger?_eq_some_iff {v : Value} {n : Int} : v.asInteger? = some n ↔ v = .integer n := by
  cases v <;> simp [asInteger?]

theorem asString?_eq_some_iff {v : Value} {text : List Char} :
    v.asString? = some text ↔ v = .string text := by
  cases v <;> simp [asString?]

theorem asTable?_eq_some_iff {v : Value} {entries : Table} :
    v.asTable? = some entries ↔ v = .table entries := by
  cases v <;> simp [asTable?]

end Toml.Value

namespace Settings

open Toml (Value Table)

/-! ## What entries say -/

/-- The settings that are on or off. -/
def switches : List String := ["color", "dark-mode", "badges"]

/-- The entry has a known key and a value of the type that belongs to it. -/
def Counts (entry : List Char × Value) : Prop :=
  (∃ key ∈ switches, ∃ b, entry = (key.toList, .boolean b)) ∨
    (∃ n, entry = ("tab-width".toList, .integer n)) ∨
    ∃ colors, entry = ("colors".toList, .table colors)

/-- The entry has the name of a class and a text that is read as a colour. -/
def CountsColor (entry : List Char × Value) : Prop :=
  ∃ (kind : TokenClass) (text : List Char) (color : Color),
    entry = (kind.name.toList, .string text) ∧ Color.ofName? text = some color

/-- The table of colours has a text under the name of the class that is read as the colour. -/
def Chooses (table : Table) (kind : TokenClass) (color : Color) : Prop :=
  ∃ colors text, ("colors".toList, .table colors) ∈ table ∧
    (kind.name.toList, .string text) ∈ colors ∧ Color.ofName? text = some color

/-- A setting is what is stated of it, and the default if nothing is. -/
structure StatedOr {α : Type} (Stated : α → Prop) (default setting : α) : Prop where
  of_stated : ∀ a, Stated a → setting = a
  of_silent : (∀ a, ¬ Stated a) → setting = default

/-- The keys are distinct, and so are those of the table of colours. -/
structure DistinctKeys (table : Table) : Prop where
  nodup : (table.map Prod.fst).Nodup
  nodup_colors : ∀ colors, ("colors".toList, .table colors) ∈ table → (colors.map Prod.fst).Nodup

theorem distinctKeys_of_parse? {document : List Char} {table : Table}
    (h : Toml.parse? document = some table) : DistinctKeys table := by
  cases Toml.keyed_of_parse? h with
  | table hkeys hvalues =>
      refine ⟨hkeys, fun colors hcolors => ?_⟩
      cases hvalues _ hcolors with
      | table hkeys _ => exact hkeys

section Distinct

variable {table : Table}

theorem value?_bind_eq_some_iff {α : Type} (hkeys : (table.map Prod.fst).Nodup) {key : String}
    {as? : Value → Option α} {a : α} :
    (value? table key).bind as? = some a ↔ ∃ v, (key.toList, v) ∈ table ∧ as? v = some a := by
  rw [Option.bind_eq_some_iff]
  simp only [value?, lookup_eq_some_iff_mem hkeys]

theorem switch_eq_some_iff (hkeys : (table.map Prod.fst).Nodup) {key : String} {b : Bool} :
    (value? table key).bind Value.asBool? = some b ↔ (key.toList, .boolean b) ∈ table := by
  simp [value?_bind_eq_some_iff hkeys, Value.asBool?_eq_some_iff]

theorem integer_eq_some_iff (hkeys : (table.map Prod.fst).Nodup) {key : String} {n : Int} :
    (value? table key).bind Value.asInteger? = some n ↔ (key.toList, .integer n) ∈ table := by
  simp [value?_bind_eq_some_iff hkeys, Value.asInteger?_eq_some_iff]

theorem colors_eq_some_iff (hkeys : (table.map Prod.fst).Nodup) {colors : Table} :
    (value? table "colors").bind Value.asTable? = some colors ↔
      ("colors".toList, .table colors) ∈ table := by
  simp [value?_bind_eq_some_iff hkeys, Value.asTable?_eq_some_iff]

theorem colorIn?_eq_some_iff {colors : Table} (hkeys : (colors.map Prod.fst).Nodup)
    {kind : TokenClass} {color : Color} :
    colorIn? colors kind = some color ↔
      ∃ text, (kind.name.toList, .string text) ∈ colors ∧ Color.ofName? text = some color := by
  simp [colorIn?, value?, Option.bind_eq_some_iff, lookup_eq_some_iff_mem hkeys,
    Value.asString?_eq_some_iff]

/-- There is only one table of colours. -/
theorem chooses_iff (hkeys : (table.map Prod.fst).Nodup) {colors : Table}
    (hcolors : ("colors".toList, .table colors) ∈ table) {kind : TokenClass} {color : Color} :
    Chooses table kind color ↔
      ∃ text, (kind.name.toList, .string text) ∈ colors ∧ Color.ofName? text = some color := by
  constructor
  · rintro ⟨colors', text, hcolors', htext, hcolor⟩
    have hsame := (colors_eq_some_iff hkeys).mpr hcolors
    rw [(colors_eq_some_iff hkeys).mpr hcolors'] at hsame
    obtain rfl := Option.some.inj hsame
    exact ⟨text, htext, hcolor⟩
  · rintro ⟨text, htext, hcolor⟩
    exact ⟨colors, text, hcolors, htext, hcolor⟩

theorem palette_eq_some_iff (h : DistinctKeys table) {kind : TokenClass} {color : Color} :
    (ofTable table).palette kind = some color ↔ Chooses table kind color := by
  unfold ofTable
  dsimp only
  cases hcolors : (value? table "colors").bind Value.asTable? with
  | none =>
      refine iff_of_false (by simp) ?_
      rintro ⟨colors, text, hmem, -, -⟩
      rw [(colors_eq_some_iff h.nodup).mpr hmem] at hcolors
      simp at hcolors
  | some colors =>
      have hmem := (colors_eq_some_iff h.nodup).mp hcolors
      rw [chooses_iff h.nodup hmem]
      exact colorIn?_eq_some_iff (h.nodup_colors colors hmem)

theorem statedOr_getD {α : Type} {found : Option α} {Stated : α → Prop}
    (h : ∀ a, found = some a ↔ Stated a) (default : α) :
    StatedOr Stated default (found.getD default) where
  of_stated := by
    intro a ha
    rw [(h a).mpr ha, Option.getD_some]
  of_silent := by
    intro hsilent
    cases hfound : found with
    | none => rfl
    | some a => exact absurd ((h a).mp hfound) (hsilent a)

theorem statedOr_switch (hkeys : (table.map Prod.fst).Nodup) (key : String) (default : Bool) :
    StatedOr (fun b => (key.toList, .boolean b) ∈ table) default
      (((value? table key).bind Value.asBool?).getD default) :=
  statedOr_getD (fun _ => switch_eq_some_iff hkeys) default

theorem statedOr_tabWidth (hkeys : (table.map Prod.fst).Nodup) :
    StatedOr (fun width => ∃ n, ("tab-width".toList, .integer n) ∈ table ∧
      width = (max 1 (min n 16)).toNat) 4 (ofTable table).tabWidth := by
  refine statedOr_getD (fun width => ?_) 4
  simp only [Option.map_eq_some_iff, integer_eq_some_iff hkeys, columns, eq_comm (a := width)]

end Distinct

/-! ## One entry after the other -/

/-- What an entry of the table of colours chooses: its key and its value are read on their own. -/
def choice? (entry : List Char × Value) : Option (TokenClass × Color) :=
  match TokenClass.ofName? (String.ofList entry.1), entry.2.asString?.bind Color.ofName? with
  | some kind, some color => some (kind, color)
  | _, _ => none

/-- The palette after one more entry of the table of colours. -/
def paint (palette : TokenClass → Option Color) (entry : List Char × Value) :
    TokenClass → Option Color :=
  match choice? entry with
  | some (kind, color) => fun other => if other = kind then some color else palette other
  | none => palette

/-- The settings after a table, one after the other from those before it. -/
def apply (settings : Settings) (table : Table) : Settings :=
  let settings := match (value? table "color").bind Value.asBool? with
    | some color => { settings with color }
    | none => settings
  let settings := match (value? table "dark-mode").bind Value.asBool? with
    | some darkMode => { settings with darkMode }
    | none => settings
  let settings := match (value? table "badges").bind Value.asBool? with
    | some badges => { settings with badges }
    | none => settings
  let settings := match (value? table "tab-width").bind Value.asInteger? with
    | some n => { settings with tabWidth := columns n }
    | none => settings
  match (value? table "colors").bind Value.asTable? with
  | some colors => { settings with palette := colors.foldl paint settings.palette }
  | none => settings

theorem colorIn?_cons (entry : List Char × Value) (colors : Table) (kind : TokenClass) :
    colorIn? (entry :: colors) kind =
      if kind.name.toList = entry.1 then entry.2.asString?.bind Color.ofName?
      else colorIn? colors kind := by
  obtain ⟨key, v⟩ := entry
  by_cases hkey : kind.name.toList = key
  · simp [colorIn?, value?, hkey]
  · simp [colorIn?, value?, List.lookup_cons, beq_false_of_ne hkey, hkey]

/-- An entry changes the colour of the class that it names, if it chooses one. -/
theorem paint_apply (palette : TokenClass → Option Color) (entry : List Char × Value)
    (kind : TokenClass) :
    paint palette entry kind =
      if kind.name.toList = entry.1 then (entry.2.asString?.bind Color.ofName?).or (palette kind)
      else palette kind := by
  unfold paint choice?
  cases hkind : TokenClass.ofName? (String.ofList entry.1) with
  | none =>
      have hother : kind.name.toList ≠ entry.1 := by
        intro hkey
        rw [TokenClass.ofName?_ofList_eq_some_iff.mpr hkey] at hkind
        simp at hkind
      simp [hother]
  | some named =>
      have hnamed : kind.name.toList = entry.1 ↔ kind = named := by
        rw [← TokenClass.ofName?_ofList_eq_some_iff, hkind, Option.some.injEq, eq_comm]
      simp only [hnamed]
      cases hcolor : entry.2.asString?.bind Color.ofName? with
      | none => simp
      | some color => simp

/-- Entries with distinct keys do not touch each other's colours. -/
theorem foldl_paint {colors : Table} (hkeys : (colors.map Prod.fst).Nodup)
    (palette : TokenClass → Option Color) (kind : TokenClass) :
    colors.foldl paint palette kind = (colorIn? colors kind).or (palette kind) := by
  induction colors generalizing palette with
  | nil => rfl
  | cons entry colors ih =>
      rw [List.map_cons, List.nodup_cons] at hkeys
      rw [List.foldl_cons, ih hkeys.2, colorIn?_cons, paint_apply]
      split
      · next hnamed =>
          -- this entry names the class, so no later one does
          have hnone : colorIn? colors kind = none := by
            have hlookup : colors.lookup kind.name.toList = none := by
              rw [lookup_eq_none_iff_not_mem, hnamed]
              exact hkeys.1
            simp [colorIn?, value?, hlookup]
          rw [hnone, Option.none_or]
      · rfl

theorem apply_eq_ofTable {table : Table} (h : DistinctKeys table) :
    ({} : Settings).apply table = ofTable table := by
  have hpalette : ∀ colors, (value? table "colors").bind Value.asTable? = some colors →
      colors.foldl paint (fun _ => none) = colorIn? colors := by
    intro colors hcolors
    funext kind
    rw [foldl_paint (h.nodup_colors colors ((colors_eq_some_iff h.nodup).mp hcolors)),
      Option.or_none]
  unfold apply ofTable
  cases (value? table "color").bind Value.asBool? <;>
    cases (value? table "dark-mode").bind Value.asBool? <;>
    cases (value? table "badges").bind Value.asBool? <;>
    cases (value? table "tab-width").bind Value.asInteger? <;>
    cases hcolors : (value? table "colors").bind Value.asTable? <;>
    simp [hpalette, hcolors]

/-! ## Entries that may go -/

/-- An entry that does not count is removed, or the entries are put in another order. -/
inductive Thins (Counts : List Char × Value → Prop) : Table → Table → Prop where
  | remove {front back : Table} {entry : List Char × Value} (hentry : ¬ Counts entry) :
      Thins Counts (front ++ entry :: back) (front ++ back)
  | reorder {table table' : Table} (hperm : table.Perm table') : Thins Counts table table'

section Thins

variable {Counts : List Char × Value → Prop} {table table' : Table}

theorem Thins.mem (h : Thins Counts table table') {entry : List Char × Value}
    (hentry : entry ∈ table') : entry ∈ table := by
  cases h with
  | remove _ => grind
  | reorder hperm => exact hperm.mem_iff.mpr hentry

/-- The entries that count stay. -/
theorem Thins.mem_iff (h : Thins Counts table table') {entry : List Char × Value}
    (hentry : Counts entry) : entry ∈ table ↔ entry ∈ table' := by
  refine ⟨fun hmem => ?_, h.mem⟩
  cases h with
  | @remove front back removed hremoved =>
      have hne : entry ≠ removed := by
        rintro rfl
        exact hremoved hentry
      simpa [hne] using hmem
  | reorder hperm => exact hperm.mem_iff.mp hmem

theorem Thins.nodup (h : Thins Counts table table') (hkeys : (table.map Prod.fst).Nodup) :
    (table'.map Prod.fst).Nodup := by
  cases h with
  | @remove front back removed _ =>
      refine hkeys.sublist ?_
      exact (List.sublist_cons_self removed back).append_left front |>.map Prod.fst
  | reorder hperm => exact (hperm.map Prod.fst).nodup_iff.mp hkeys

end Thins

/-- An entry that does not count is removed from a table or from its table of colours, or the
entries of one of them are put in another order. -/
inductive Tidies : Table → Table → Prop where
  | settings {table table' : Table} (h : Thins Counts table table') : Tidies table table'
  | colors {front back colors colors' : Table} (h : Thins CountsColor colors colors') :
      Tidies (front ++ ("colors".toList, .table colors) :: back)
        (front ++ ("colors".toList, .table colors') :: back)

/-- Two tables state the same settings. -/
structure StateSame (table table' : Table) : Prop where
  switch : ∀ key ∈ switches, ∀ b,
    (key.toList, .boolean b) ∈ table ↔ (key.toList, .boolean b) ∈ table'
  tabWidth : ∀ n,
    ("tab-width".toList, .integer n) ∈ table ↔ ("tab-width".toList, .integer n) ∈ table'
  chooses : ∀ kind color, Chooses table kind color ↔ Chooses table' kind color

theorem StateSame.trans {table table' table'' : Table} (h : StateSame table table')
    (h' : StateSame table' table'') : StateSame table table'' where
  switch key hkey b := (h.switch key hkey b).trans (h'.switch key hkey b)
  tabWidth n := (h.tabWidth n).trans (h'.tabWidth n)
  chooses kind color := (h.chooses kind color).trans (h'.chooses kind color)

/-- The settings are what is stated. -/
theorem StateSame.ofTable_eq {table table' : Table} (h : StateSame table table')
    (hdistinct : DistinctKeys table) (hdistinct' : DistinctKeys table') :
    ofTable table = ofTable table' := by
  have hswitch (key : String) (hkey : key ∈ switches) :
      (value? table key).bind Value.asBool? = (value? table' key).bind Value.asBool? := by
    refine Option.ext fun b => ?_
    rw [switch_eq_some_iff hdistinct.nodup, switch_eq_some_iff hdistinct'.nodup,
      h.switch key hkey]
  have hwidth : (value? table "tab-width").bind Value.asInteger? =
      (value? table' "tab-width").bind Value.asInteger? := by
    refine Option.ext fun n => ?_
    rw [integer_eq_some_iff hdistinct.nodup, integer_eq_some_iff hdistinct'.nodup, h.tabWidth]
  have hpalette : (ofTable table).palette = (ofTable table').palette := by
    funext kind
    refine Option.ext fun color => ?_
    rw [palette_eq_some_iff hdistinct, palette_eq_some_iff hdistinct', h.chooses]
  unfold ofTable at hpalette ⊢
  rw [Settings.mk.injEq]
  exact ⟨by rw [hswitch "color" (by simp [switches])],
    by rw [hswitch "dark-mode" (by simp [switches])],
    by rw [hswitch "badges" (by simp [switches])], by rw [hwidth], hpalette⟩

/-- Tidying a table once leaves its keys distinct, and it states the same. -/
theorem Tidies.distinctKeys_and_stateSame {table table' : Table} (h : Tidies table table')
    (hdistinct : DistinctKeys table) : DistinctKeys table' ∧ StateSame table table' := by
  cases h with
  | settings hthins =>
      have hcolors (colors : Table) : ("colors".toList, .table colors) ∈ table ↔
          ("colors".toList, .table colors) ∈ table' :=
        hthins.mem_iff (Or.inr (Or.inr ⟨colors, rfl⟩))
      refine ⟨⟨hthins.nodup hdistinct.nodup, ?_⟩, ?_, ?_, ?_⟩
      · intro colors hmem
        exact hdistinct.nodup_colors colors ((hcolors colors).mpr hmem)
      · intro key hkey b
        exact hthins.mem_iff (Or.inl ⟨key, hkey, b, rfl⟩)
      · intro n
        exact hthins.mem_iff (Or.inr (Or.inl ⟨n, rfl⟩))
      · intro kind color
        unfold Chooses
        simp only [hcolors]
  | @colors front back colors colors' hthins =>
      -- the keys outside are the same; inside, the entries that count are
      have hmem : ("colors".toList, .table colors) ∈
          front ++ ("colors".toList, Value.table colors) :: back := by simp
      have hmem' : ("colors".toList, .table colors') ∈
          front ++ ("colors".toList, Value.table colors') :: back := by simp
      have hkeys : ((front ++ ("colors".toList, Value.table colors') :: back).map
          Prod.fst).Nodup := by
        simpa using hdistinct.nodup
      have hinner := hthins.nodup (hdistinct.nodup_colors colors hmem)
      refine ⟨⟨hkeys, ?_⟩, ?_, ?_, ?_⟩
      · intro other hother
        have hsame := (colors_eq_some_iff hkeys).mpr hmem'
        rw [(colors_eq_some_iff hkeys).mpr hother] at hsame
        exact Option.some.inj hsame ▸ hinner
      · intro key _ b
        simp
      · intro n
        simp
      · intro kind color
        rw [chooses_iff hdistinct.nodup hmem, chooses_iff hkeys hmem']
        constructor
        · rintro ⟨text, htext, hcolor⟩
          exact ⟨text, (hthins.mem_iff ⟨kind, text, color, rfl, hcolor⟩).mp htext, hcolor⟩
        · rintro ⟨text, htext, hcolor⟩
          exact ⟨text, hthins.mem htext, hcolor⟩

theorem distinctKeys_and_stateSame_of_tidies {table table' : Table}
    (h : Relation.ReflTransGen Tidies table table') (hdistinct : DistinctKeys table) :
    DistinctKeys table' ∧ StateSame table table' := by
  induction h with
  | refl => exact ⟨hdistinct, fun _ _ _ => Iff.rfl, fun _ => Iff.rfl, fun _ _ => Iff.rfl⟩
  | tail _ hlast ih =>
      obtain ⟨hkeys, hsame⟩ := hlast.distinctKeys_and_stateSame ih.1
      exact ⟨hkeys, ih.2.trans hsame⟩

/-! ## From a document to settings -/

/-- The settings of a document are what the entries that count state, and the defaults where
none does.  Going through the entries one after the other leads to the same settings, and so
does it when entries that do not count are removed and the others are put in any order. -/
theorem ofDocument?_of_parse? {document : List Char} {table : Table}
    (hparse : Toml.parse? document = some table) :
    let settings := ofTable table
    ofDocument? document = some settings ∧
      StatedOr (fun b => ("color".toList, .boolean b) ∈ table) true settings.color ∧
      StatedOr (fun b => ("dark-mode".toList, .boolean b) ∈ table) false settings.darkMode ∧
      StatedOr (fun b => ("badges".toList, .boolean b) ∈ table) true settings.badges ∧
      StatedOr (fun width => ∃ n, ("tab-width".toList, .integer n) ∈ table ∧
        width = (max 1 (min n 16)).toNat) 4 settings.tabWidth ∧
      (∀ kind color, settings.palette kind = some color ↔ Chooses table kind color) ∧
      ({} : Settings).apply table = settings ∧
      ∀ table', Relation.ReflTransGen Tidies table table' →
        ofTable table' = settings ∧ ({} : Settings).apply table' = settings ∧
          ∀ kind, (ofTable table').styleFor kind = settings.styleFor kind := by
  intro settings
  have hdistinct := distinctKeys_of_parse? hparse
  have hkeys := hdistinct.nodup
  refine ⟨by rw [ofDocument?, hparse, Option.map_some], statedOr_switch hkeys _ _,
    statedOr_switch hkeys _ _, statedOr_switch hkeys _ _, statedOr_tabWidth hkeys,
    fun kind color => palette_eq_some_iff hdistinct, apply_eq_ofTable hdistinct, ?_⟩
  intro table' htidy
  obtain ⟨hdistinct', hsame⟩ := distinctKeys_and_stateSame_of_tidies htidy hdistinct
  have heq : ofTable table' = settings := (hsame.ofTable_eq hdistinct hdistinct').symm
  refine ⟨heq, ?_, fun kind => by rw [heq]⟩
  rw [apply_eq_ofTable hdistinct', heq]

/-- A switch that is a text, a width past the bounds, an unknown key, a class that is none and
a colour that is none: two entries count, and they may change places when the rest is gone. -/
theorem ofDocument?_of_parse?_untidy :
    let document := "color = \"maybe\"\ntab-width = 99\nwidth = 1\n[colors]\n".toList ++
      "tag = \" #E34c26\"\nTag = \"red\"\nstring = \"chartreuse\"\n".toList
    let width : List Char × Value := ("tab-width".toList, .integer 99)
    let tag : List Char × Value := ("tag".toList, .string " #E34c26".toList)
    let noClass : List Char × Value := ("Tag".toList, .string "red".toList)
    let noColor : List Char × Value := ("string".toList, .string "chartreuse".toList)
    let table : Table := [("color".toList, .string "maybe".toList), width,
      ("width".toList, .integer 1), ("colors".toList, .table [tag, noClass, noColor])]
    let tidied : Table := [("colors".toList, .table [tag]), width]
    Toml.parse? document = some table ∧ Relation.ReflTransGen Tidies table tidied ∧
      ofTable tidied = ofTable table ∧ (ofTable table).color = true ∧
      (ofTable table).tabWidth = 16 ∧
      (ofTable table).palette .tag = some (.rgb 0xE3 0x4C 0x26) := by
  intro document width tag noClass noColor table tidied
  have hparse : Toml.parse? document = some table := by
    unfold document table width tag noClass noColor
    cbv
  have hread : Color.ofName? " #E34c26".toList = some (.rgb 0xE3 0x4C 0x26) := by decide +kernel
  have hunread : Color.ofName? "chartreuse".toList = none := by decide +kernel
  have hnoClass : ¬ CountsColor noClass := by
    rintro ⟨kind, text, color, heq, -⟩
    cases kind <;> simp [noClass, TokenClass.name] at heq
  have hnoColor : ¬ CountsColor noColor := by
    rintro ⟨kind, text, color, heq, hcolor⟩
    obtain rfl := Value.string.inj (Prod.mk.inj heq).2
    exact absurd (hunread.symm.trans hcolor) (by simp)
  let colors (entries : Table) : List Char × Value := ("colors".toList, .table entries)
  have hfirst :
      Tidies table [width, ("width".toList, .integer 1), colors [tag, noClass, noColor]] :=
    .settings (@Thins.remove _ [] _ _ (by simp [Counts, switches]))
  have hsecond : Tidies [width, ("width".toList, .integer 1), colors [tag, noClass, noColor]]
      [width, colors [tag, noClass, noColor]] :=
    .settings (@Thins.remove _ [width] _ _ (by simp [Counts, switches]))
  have hthird : Tidies [width, colors [tag, noClass, noColor]] [width, colors [tag, noColor]] :=
    @Tidies.colors [width] [] _ _ (@Thins.remove _ [tag] [noColor] _ hnoClass)
  have hfourth : Tidies [width, colors [tag, noColor]] [width, colors [tag]] :=
    @Tidies.colors [width] [] _ _ (@Thins.remove _ [tag] [] _ hnoColor)
  have hlast : Tidies [width, colors [tag]] tidied := .settings (.reorder (List.Perm.swap _ _ []))
  have htidies : Relation.ReflTransGen Tidies table tidied :=
    .head hfirst (.head hsecond (.head hthird (.head hfourth (.single hlast))))
  obtain ⟨-, hcolor, -, -, hwidth, hpalette, -, hsame⟩ := ofDocument?_of_parse? hparse
  refine ⟨hparse, htidies, (hsame tidied htidies).1, hcolor.of_silent ?_, ?_, ?_⟩
  · simp [table, width]
  · exact hwidth.of_stated 16 ⟨99, by simp [table, width], rfl⟩
  · exact (hpalette _ _).mpr ⟨[tag, noClass, noColor], " #E34c26".toList, by simp [table],
      List.mem_cons_self, hread⟩

end Settings

end Triptych
