import Triptych.Toml.Scalar

/-!
# TOML documents

A document is a sequence of entries and headers.  How a table came to be decides who
may add to it: a table with a header of its own is closed to dotted keys, one that a
dotted key made is closed to headers, and one that only a longer header made may get
its header later.  No key is given twice.

Values nest at most `depthLimit` deep, and keys have fewer than eighty parts.
-/

namespace Triptych.Toml

/-! ## What a document defines -/

/-- How a table came to be. -/
inductive Origin where
  /-- By a header of its own. -/
  | header
  /-- By a header of a table inside it. -/
  | implied
  /-- By a dotted key. -/
  | dotted
  deriving DecidableEq

/-- What stands under a key while a document is read. -/
inductive Node where
  | value (v : Value)
  | table (origin : Origin) (entries : List (List Char × Node))
  | tables (elements : List (List (List Char × Node)))

/-- The entries of a table while a document is read. -/
abbrev Entries := List (List Char × Node)

/-- Put another node under a key that is there. -/
def Entries.replace (entries : Entries) (key : List Char) (node : Node) : Entries :=
  entries.map fun (k, old) => if k = key then (k, node) else (k, old)

/-- Change the entries of the table at a path.  A table that is not there is made, by
dotted keys or by headers as `byKey` says. -/
def Entries.update? (change : Origin → Entries → Option Entries) (byKey : Bool) :
    List (List Char) → Origin → Entries → Option Entries
  | [], origin, entries => change origin entries
  | key :: path, _, entries =>
      match entries.lookup key with
      | none =>
          let origin := if byKey then .dotted else .implied
          (update? change byKey path origin []).map fun inner =>
            entries ++ [(key, .table origin inner)]
      | some (.value _) => none
      | some (.tables elements) =>
          match elements.getLast? with
          | none => none
          | some last =>
              (update? change byKey path .header last).map fun inner =>
                entries.replace key (.tables (elements.dropLast ++ [inner]))
      | some (.table origin inner) =>
          if byKey && origin == .header then none
          else
            (update? change byKey path origin inner).map fun inner =>
              entries.replace key (.table origin inner)

/-- Add an entry to a table, under a key with the tables that lead to it. -/
def Entries.add? (entries : Entries) (path : List (List Char)) (key : List Char) (v : Value) :
    Option Entries :=
  update? (fun origin inner =>
    if (origin == .dotted) == path.isEmpty || (inner.lookup key).isSome then none
    else some (inner ++ [(key, .value v)])) true path .header entries

/-- Begin the table of a header. -/
def Entries.openTable? (entries : Entries) (path : List (List Char)) (key : List Char) :
    Option Entries :=
  update? (fun _ inner =>
    match inner.lookup key with
    | none => some (inner ++ [(key, .table .header [])])
    | some (.table .implied content) => some (inner.replace key (.table .header content))
    | some _ => none) false path .header entries

/-- Begin the next table of an array of tables. -/
def Entries.openElement? (entries : Entries) (path : List (List Char)) (key : List Char) :
    Option Entries :=
  update? (fun _ inner =>
    match inner.lookup key with
    | none => some (inner ++ [(key, .tables [[]])])
    | some (.tables elements) => some (inner.replace key (.tables (elements ++ [[]])))
    | some _ => none) false path .header entries

mutual

/-- The value that a node has when the document ends. -/
def Node.toValue : Node → Value
  | .value v => v
  | .table _ entries => .table (entriesToTable entries)
  | .tables elements => .array (elementsToValues elements)

/-- The table that entries make. -/
def entriesToTable : List (List Char × Node) → Table
  | [] => []
  | (key, node) :: rest => (key, node.toValue) :: entriesToTable rest

/-- The values that the tables of an array make. -/
def elementsToValues : List (List (List Char × Node)) → List Value
  | [] => []
  | entries :: rest => .table (entriesToTable entries) :: elementsToValues rest

end

/-! ## Keys -/

/-- The characters of a key without quotes. -/
def isBareKey (c : Char) : Bool := c.isAlphanum || c == '-' || c == '_'

/-- Read one part of a key. -/
def readKeyPart? (s : List Char) : Option (List Char × List Char) :=
  match s with
  | '"' :: rest => readBasic? rest
  | '\'' :: rest => readLiteral? rest
  | _ =>
      let key := s.takeWhile isBareKey
      if key.isEmpty then none else some (key, s.dropWhile isBareKey)

/-- Read a key: parts with dots between them, and blanks around each. -/
def readKey? (s : List Char) : Option (List (List Char) × List Char) :=
  match readKeyPart? (skipBlanks s) with
  | none => none
  | some (part, rest) =>
      match skipBlanks rest with
      | '.' :: more =>
          if more.length < s.length then
            (readKey? more).map fun (others, after) => (part :: others, after)
          else none
      | after => some ([part], after)
termination_by s.length

/-- Read a key of fewer than eighty parts: the last part and those before it. -/
def readPath? (s : List Char) : Option ((List (List Char) × List Char) × List Char) :=
  match readKey? s with
  | some (parts, rest) =>
      match parts.getLast? with
      | some last => if parts.length < 80 then some ((parts.dropLast, last), rest) else none
      | none => none
  | none => none

/-! ## Values -/

/-- Read a comment, after its sign, up to the end of the line. -/
def skipComment (s : List Char) : List Char := s.dropWhile isPrintable

/-- Leave out blanks, comments and ends of lines.  A comment must end with its line. -/
def skipLines? (s : List Char) : Option (List Char) :=
  match skipBlanks s with
  | '#' :: rest =>
      match readLineEnd? (skipComment rest) with
      | some more => if more.length < s.length then skipLines? more else none
      | none => none
  | '\r' :: '\n' :: rest | '\n' :: rest =>
      if rest.length < s.length then skipLines? rest else none
  | '\r' :: _ => none
  | rest => some rest
termination_by s.length

/-- Read the items of an array to its closing bracket.  A comma may follow the last. -/
def readItems? (item : List Char → Option (Value × List Char)) (s : List Char) :
    Option (List Value × List Char) := do
  match ← skipLines? s with
  | ']' :: rest => return ([], rest)
  | start =>
      let (v, rest) ← item start
      match ← skipLines? rest with
      | ']' :: more => return ([v], more)
      | ',' :: more =>
          if more.length < s.length then do
            let (vs, after) ← readItems? item more
            return (v :: vs, after)
          else none
      | _ => none
termination_by s.length

/-- Read an entry: a key, an equals sign and a value. -/
def readEntry? (item : List Char → Option (Value × List Char)) (s : List Char) :
    Option ((List (List Char) × List Char) × Value × List Char) := do
  let (path, rest) ← readPath? s
  let rest ← expect? '=' rest
  let (v, rest) ← item (skipBlanks rest)
  return (path, v, rest)

/-- Read the entries of a table in braces to its closing brace.  There is no comma after
the last, and no end of a line between them. -/
def readFields? (item : List Char → Option (Value × List Char)) (entries : Entries)
    (s : List Char) : Option (Entries × List Char) := do
  let ((path, key), v, rest) ← readEntry? item s
  let entries ← entries.add? path key v
  match skipBlanks rest with
  | '\x7d' :: more => return (entries, more)
  | ',' :: more => if more.length < s.length then readFields? item entries more else none
  | _ => none
termination_by s.length

/-- How deep values nest. -/
def depthLimit : Nat := 79

/-- Read a value with at most `depth` arrays and tables around its innermost parts. -/
def readValue? : Nat → List Char → Option (Value × List Char)
  | depth + 1, '[' :: rest =>
      (readItems? (readValue? depth) rest).map fun (items, more) => (.array items, more)
  | depth + 1, '\x7b' :: rest =>
      match skipBlanks rest with
      | '\x7d' :: more => some (.table [], more)
      | _ =>
          (readFields? (readValue? depth) [] rest).map fun (entries, more) =>
            (.table (entriesToTable entries), more)
  | 0, '[' :: _ => none
  | 0, '\x7b' :: _ => none
  | _, s => readScalar? s

/-! ## Lines -/

/-- What has been read of a document: the entries, and the path of the last header. -/
structure Reading where
  entries : Entries
  current : List (List Char)

/-- Read the rest of a line, which holds nothing but a comment. -/
def readTrailing? (s : List Char) : Option (List Char) :=
  let rest := match skipBlanks s with
    | '#' :: comment => skipComment comment
    | rest => rest
  if rest.isEmpty then some [] else readLineEnd? rest

/-- Add an entry to the table of the last header. -/
def Reading.add? (reading : Reading) (path : List (List Char)) (key : List Char) (v : Value) :
    Option Reading :=
  (Entries.update? (fun _ inner => inner.add? path key v) false reading.current .header
    reading.entries).map fun entries => { reading with entries := entries }

/-- Read a line that is neither empty nor a comment. -/
def Reading.readLine? (reading : Reading) (s : List Char) : Option (Reading × List Char) :=
  match s with
  | '[' :: '[' :: rest => do
      let ((path, key), rest) ← readPath? rest
      let rest ← expect? ']' (← expect? ']' rest)
      let entries ← reading.entries.openElement? path key
      return (⟨entries, path ++ [key]⟩, ← readTrailing? rest)
  | '[' :: rest => do
      let ((path, key), rest) ← readPath? rest
      let rest ← expect? ']' rest
      let entries ← reading.entries.openTable? path key
      return (⟨entries, path ++ [key]⟩, ← readTrailing? rest)
  | _ => do
      let ((path, key), v, rest) ← readEntry? (readValue? depthLimit) s
      return (← reading.add? path key v, ← readTrailing? rest)

/-- Read the lines of a document to its end. -/
def readLines? (reading : Reading) (s : List Char) : Option Table :=
  match skipBlanks s with
  | [] => some (entriesToTable reading.entries)
  | '\r' :: '\n' :: rest | '\n' :: rest =>
      if rest.length < s.length then readLines? reading rest else none
  | '#' :: rest =>
      match readTrailing? ('#' :: rest) with
      | some more => if more.length < s.length then readLines? reading more else none
      | none => none
  | start =>
      match reading.readLine? start with
      | some (next, rest) => if rest.length < s.length then readLines? next rest else none
      | none => none
termination_by s.length

/-- The table that a document defines; nothing if it is not well formed.  A mark of the
byte order in front is left out. -/
def parse? (document : List Char) : Option Table :=
  readLines? ⟨[], []⟩ (if document.head? = some '\uFEFF' then document.tail else document)

end Triptych.Toml
