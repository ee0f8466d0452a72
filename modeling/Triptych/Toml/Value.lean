/-!
# TOML values

What a TOML text says, without how it says it.  A table is the list of its entries.
Floats, dates and times are kept as they are written.
-/

namespace Triptych.Toml

/-- A TOML value. -/
inductive Value where
  | string (text : List Char)
  | integer (n : Int)
  | float (literal : List Char)
  | boolean (b : Bool)
  | datetime (literal : List Char)
  | array (items : List Value)
  | table (entries : List (List Char × Value))
  deriving Repr

/-- The entries of a table, by their keys. -/
abbrev Table := List (List Char × Value)

namespace Value

/-- The truth value, if the value is one. -/
def asBool? : Value → Option Bool
  | .boolean b => some b
  | _ => none

/-- The integer, if the value is one. -/
def asInteger? : Value → Option Int
  | .integer n => some n
  | _ => none

/-- The text, if the value is one. -/
def asString? : Value → Option (List Char)
  | .string text => some text
  | _ => none

/-- The entries, if the value is a table. -/
def asTable? : Value → Option Table
  | .table entries => some entries
  | _ => none

end Value

end Triptych.Toml
