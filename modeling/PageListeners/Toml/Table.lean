import PageListeners.Toml.Value

/-!
# Building TOML tables

A document fills its tables entry by entry. A key is given once; a table may be opened by one
header, and only tables that came up on the way to another header or inside the same dotted keys
are open to further entries. What a value holds is closed.
-/

namespace PageListeners.Toml

/-- How a table came into being. -/
inductive Origin where
  /-- On the way to the table of a header. -/
  | implied
  /-- On the way to the entry of a dotted key. -/
  | dotted
  /-- By a header of its own. -/
  | stated
  deriving DecidableEq, Repr

inductive Node where
  | leaf (v : Value)
  | table (origin : Origin) (entries : List (String × Node))
  /-- Tables under one repeated header; the last is open. -/
  | tables (earlier : List (List (String × Node))) (last : List (String × Node))

abbrev Entries := List (String × Node)

/-- Puts in the place of what `key` holds, if anything, what `f` makes of it. -/
def alter? (key : String) (f : Option Node → Option Node) : Entries → Option Entries
  | [] => (f none).map fun node => [(key, node)]
  | e :: es =>
    if e.1 = key then (f (some e.2)).map fun node => (key, node) :: es
    else (alter? key f es).map (e :: ·)

/-- Gives a value to the last of the keys, below the tables that the others name. -/
def put? (v : Value) : List String → Entries → Option Entries
  | [], _ => none
  | [key], es => alter? key (fun | none => some (.leaf v) | some _ => none) es
  | key :: keys, es =>
    alter? key (fun
      | none => (put? v keys []).map (.table .dotted)
      | some (.table .dotted es) => (put? v keys es).map (.table .dotted)
      | some (.table .implied es) =>
        if keys.length = 1 then none else (put? v keys es).map (.table .implied)
      | some (.tables earlier last) =>
        if keys.length = 1 then none else (put? v keys last).map (.tables earlier)
      | some _ => none) es

/-- Goes along the path of a header up to its last key. -/
def along? (f : Option Node → Option Node) : List String → Entries → Option Entries
  | [], _ => none
  | [key], es => alter? key f es
  | key :: keys, es =>
    alter? key (fun
      | none => (along? f keys []).map (.table .implied)
      | some (.table origin es) => (along? f keys es).map (.table origin)
      | some (.tables earlier last) => (along? f keys last).map (.tables earlier)
      | some (.leaf _) => none) es

/-- The header of one table. -/
def openTable? (path : List String) (es : Entries) : Option Entries :=
  along? (fun
    | none => some (.table .stated [])
    | some (.table .implied es) => some (.table .stated es)
    | some _ => none) path es

/-- The header of one more table in a row of tables. -/
def openItem? (path : List String) (es : Entries) : Option Entries :=
  along? (fun
    | none => some (.tables [] [])
    | some (.tables earlier last) => some (.tables (earlier ++ [last]) [])
    | some _ => none) path es

/-- Changes the table that a header opened; the empty path is the document itself. -/
def inSection? (f : Entries → Option Entries) : List String → Entries → Option Entries
  | [], es => f es
  | key :: keys, es =>
    alter? key (fun
      | some (.table origin es) => (inSection? f keys es).map (.table origin)
      | some (.tables earlier last) => (inSection? f keys last).map (.tables earlier)
      | _ => none) es

mutual

def Node.value : Node → Value
  | .leaf v => v
  | .table _ entries => .table (entryValues entries)
  | .tables earlier last => .array (tableValues earlier ++ [.table (entryValues last)])

def entryValues : List (String × Node) → List (String × Value)
  | [] => []
  | (key, node) :: es => (key, node.value) :: entryValues es

def tableValues : List (List (String × Node)) → List Value
  | [] => []
  | es :: rest => .table (entryValues es) :: tableValues rest

end

end PageListeners.Toml
