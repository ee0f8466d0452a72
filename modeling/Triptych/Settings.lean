import Triptych.Style
import Triptych.Token
import Triptych.Toml.Document

/-!
# Settings

What a user may choose.  Settings are read from a TOML table, where every entry
stands for itself: an entry that is unknown, or whose value is of the wrong kind,
leaves the default and does NOT touch the others.  Only a text that is no TOML
document at all gives no settings.
-/

namespace Triptych

/-- What a user may choose. -/
structure Settings where
  /-- Write escape sequences for colours. -/
  color : Bool := true
  /-- Show the preview in light text. -/
  darkMode : Bool := false
  /-- Put a badge over each pane. -/
  badges : Bool := true
  /-- The columns of a tab. -/
  tabWidth : Nat := 4
  /-- The foregrounds that were chosen for classes of tokens. -/
  palette : TokenClass → Option Color := fun _ => none

namespace Settings

/-- The entry of a table under a key. -/
def value? (table : Toml.Table) (key : String) : Option Toml.Value := table.lookup key.toList

/-- A number of columns for a tab: one at least, sixteen at most. -/
def columns (n : Int) : Nat := (max 1 (min n 16)).toNat

/-- The colour that a table of colours has for a class. -/
def colorIn? (colors : Toml.Table) (kind : TokenClass) : Option Color := do
  Color.ofName? (← (← value? colors kind.name).asString?)

/-- The settings that a table holds. -/
def ofTable (table : Toml.Table) : Settings where
  color := ((value? table "color").bind Toml.Value.asBool?).getD true
  darkMode := ((value? table "dark-mode").bind Toml.Value.asBool?).getD false
  badges := ((value? table "badges").bind Toml.Value.asBool?).getD true
  tabWidth := (((value? table "tab-width").bind Toml.Value.asInteger?).map columns).getD 4
  palette :=
    match (value? table "colors").bind Toml.Value.asTable? with
    | some colors => colorIn? colors
    | none => fun _ => none

/-- The settings that a TOML document holds; nothing if it is not well formed. -/
def ofDocument? (document : List Char) : Option Settings := (Toml.parse? document).map ofTable

/-- How a class is drawn under these settings. -/
def styleFor (settings : Settings) (kind : TokenClass) : Style :=
  match settings.palette kind with
  | some color => kind.defaultStyle.withForeground color
  | none => kind.defaultStyle

/-- The classes for which a foreground was chosen, with it. -/
def chosen (settings : Settings) : List (TokenClass × Color) :=
  TokenClass.all.filterMap fun kind => (settings.palette kind).map (kind, ·)

/-- Nothing was chosen that differs from what holds without settings. -/
def isDefault (settings : Settings) : Bool :=
  settings.color && !settings.darkMode && settings.badges && settings.tabWidth == 4 &&
    settings.chosen.isEmpty

end Settings

end Triptych
