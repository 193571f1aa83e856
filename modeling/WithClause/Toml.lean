/-! TOML documents as trees of keys and values. -/
namespace WithClause

/-- How a table came to be, which decides what may still be added to it. -/
inductive Toml.Origin where
  /-- Written between braces. -/
  | inline
  /-- Opened by a header of its own. -/
  | header
  /-- Passed through by the header of another table. -/
  | implied
  /-- Passed through by a dotted key. -/
  | dotted
  deriving DecidableEq

inductive Toml where
  | string (s : String)
  | boolean (b : Bool)
  /-- A number or a point in time; its value is not kept. -/
  | quantity
  | array (items : List Toml)
  | table (origin : Toml.Origin) (entries : List (String × Toml))
  /-- Tables under headers in double brackets, of which only the last can still grow. -/
  | tables (earlier : List (List (String × Toml))) (last : List (String × Toml))

namespace Toml

abbrev Entries := List (String × Toml)

/-- The entries with a value put at a key, in its old place if there is one. -/
def put (key : String) (item : Toml) : Entries → Entries
  | [] => [(key, item)]
  | (k, i) :: entries => if k = key then (key, item) :: entries else (k, i) :: put key item entries

def addNew (key : String) (item : Toml) (entries : Entries) : Option Entries :=
  if (entries.lookup key).isSome then none else some (entries ++ [(key, item)])

/-- Adds a value under a dotted key. On the way are only tables that no header has opened, and the
table that takes the value must come from dotted keys itself. -/
def addUnder (key : String) (item : Toml) : List String → Entries → Option Entries
  | [], entries => addNew key item entries
  | step :: path, entries => do
    match entries.lookup step with
    | none => return put step (.table .dotted (← addUnder key item path [])) entries
    | some (.table .dotted sub) =>
      return put step (.table .dotted (← addUnder key item path sub)) entries
    | some (.table .implied sub) =>
      if path.isEmpty then none
      return put step (.table .implied (← addUnder key item path sub)) entries
    | some (.tables earlier last) =>
      if path.isEmpty then none
      return put step (.tables earlier (← addUnder key item path last)) entries
    | _ => none

/-- Adds a value at the key that ends a path. -/
def addPair (entries : Entries) (path : List String) (item : Toml) : Option Entries := do
  addUnder (← path.getLast?) item path.dropLast entries

def addPairs (entries : Entries) (pairs : List (List String × Toml)) : Option Entries :=
  pairs.foldlM (fun entries pair => addPair entries pair.1 pair.2) entries

/-- Changes the entries that a header's path leads to. Of tables in double brackets the last one
is meant, and tables that are missing are implied. -/
def changeUnder (change : Entries → Option Entries) : List String → Entries → Option Entries
  | [], entries => change entries
  | step :: path, entries => do
    match entries.lookup step with
    | none => return put step (.table .implied (← changeUnder change path [])) entries
    | some (.table .inline _) => none
    | some (.table origin sub) =>
      return put step (.table origin (← changeUnder change path sub)) entries
    | some (.tables earlier last) =>
      return put step (.tables earlier (← changeUnder change path last)) entries
    | _ => none

/-- Opens the table of a header. It may have been implied before, but never opened. -/
def openTable (key : String) (fill : Entries → Option Entries) (entries : Entries) :
    Option Entries := do
  match entries.lookup key with
  | none => return put key (.table .header (← fill [])) entries
  | some (.table .implied sub) => return put key (.table .header (← fill sub)) entries
  | _ => none

/-- Opens one more table of a header in double brackets. -/
def openElement (key : String) (fill : Entries → Option Entries) (entries : Entries) :
    Option Entries := do
  match entries.lookup key with
  | none => return put key (.tables [] (← fill [])) entries
  | some (.tables earlier last) => return put key (.tables (earlier ++ [last]) (← fill [])) entries
  | _ => none

/-- The elements of a value that is a list in either notation. -/
def items? : Toml → Option (List Toml)
  | .array items => some items
  | .tables earlier last => some ((earlier ++ [last]).map (.table .header))
  | _ => none

end Toml
end WithClause
