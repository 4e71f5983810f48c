/-!
# TOML documents

A TOML document is a table.  For the rules on redefinition each table remembers how it came about:
by the header of a table inside it (implicit), by a dotted key, by a header of its own, or inline.
`Toml.define` adds one entry and fails if the rules forbid it.
-/

namespace HybridRetrieval

/-- A TOML value or table.  Floating-point numbers, dates and times are kept as spelled. -/
inductive Toml where
  | string (value : String)
  | integer (value : Int)
  | boolean (value : Bool)
  | float (spelling : String)
  | dateTime (spelling : String)
  | array (items : List Toml)
  | inline (entries : List (String × Toml))
  | table (implicit dotted : Bool) (entries : List (String × Toml))
  | tables (all : List (List (String × Toml)))
deriving Repr, Inhabited

namespace Toml

/-- The entries of a table. -/
abbrev Entries := List (String × Toml)

/-- Replaces the value of a key or adds the key at the end. -/
def Entries.put (entries : Entries) (key : String) (value : Toml) : Entries :=
  if entries.any (·.1 == key) then
    entries.map fun entry => if entry.1 == key then (key, value) else entry
  else entries ++ [(key, value)]

/-- Changes the table at a path, making implicit tables on the way; of an array of tables the last
one is meant.  A dotted key may not enter a table that has a header of its own.  The change sees
whether the table was made by a dotted key. -/
def change (dotted : Bool) (f : (isDotted : Bool) → Entries → Option Entries) (isDotted : Bool)
    (entries : Entries) : List String → Option Entries
  | [] => f isDotted entries
  | key :: path =>
    match entries.lookup key with
    | none => do
      let inner ← change dotted f dotted [] path
      return entries.put key (.table true dotted inner)
    | some (.table implicit isDotted inner) =>
      if dotted && !implicit then none
      else do
        let inner ← change dotted f isDotted inner path
        return entries.put key (.table implicit isDotted inner)
    | some (.tables all) =>
      match all.getLast? with
      | none => none
      | some last => do
        let last ← change dotted f false last path
        return entries.put key (.tables (all.dropLast ++ [last]))
    | some _ => none

/-- Adds an entry with a dotted key to a table; no key may be defined twice, and a dotted key may
not add to a table that another kind of definition made. -/
def define (isDotted : Bool) (entries : Entries) (path : List String) (key : String)
    (value : Toml) : Option Entries :=
  change true (fun isDotted entries =>
    if isDotted == path.isEmpty || entries.any (·.1 == key) then none
    else some (entries ++ [(key, value)])) isDotted entries path

/-- One line of a document: an entry, or the header of a table or of an element of an array of
tables.  The last key of a path stands apart. -/
inductive Statement where
  | entry (path : List String) (key : String) (value : Toml)
  | header (path : List String) (key : String)
  | arrayHeader (path : List String) (key : String)
deriving Repr

/-- Opens the table of a header: a new one, or one that only exists through tables inside it. -/
def openTable (entries : Entries) (path : List String) (key : String) : Option Entries :=
  change false (fun _ entries =>
    match entries.lookup key with
    | none => some (entries.put key (.table false false []))
    | some (.table true false inner) => some (entries.put key (.table false false inner))
    | some _ => none) false entries path

/-- Opens a new element of an array of tables. -/
def openElement (entries : Entries) (path : List String) (key : String) : Option Entries :=
  change false (fun _ entries =>
    match entries.lookup key with
    | none => some (entries.put key (.tables [[]]))
    | some (.tables all) => some (entries.put key (.tables (all ++ [[]])))
    | some _ => none) false entries path

/-- Runs statements on a table; entries go to the table of the last header. -/
def run (current : List String) (entries : Entries) : List Statement → Option Entries
  | [] => some entries
  | .entry path key value :: rest => do
    let entries ← change false (fun isDotted inner => define isDotted inner path key value) false
      entries current
    run current entries rest
  | .header path key :: rest => do
    let entries ← openTable entries path key
    run (path ++ [key]) entries rest
  | .arrayHeader path key :: rest => do
    let entries ← openElement entries path key
    run (path ++ [key]) entries rest

end Toml

end HybridRetrieval
