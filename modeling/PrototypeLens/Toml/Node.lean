/-!
# Documents

The tree of a configuration document in the TOML format, and how keys and headers build it. Tables
remember how they came about, since that decides what may still be added to them: a table may be
written once under a header, a table that a dotted key made only grows by dotted keys, and an inline
table is closed.
-/

namespace PrototypeLens.Toml

/-! ## Nodes -/

/-- How a table came about. -/
inductive TableForm where
  /-- It has a header of its own. -/
  | header
  /-- A longer header mentions it. -/
  | implied
  /-- A dotted key mentions it. -/
  | dotted
  /-- It is written as a value. -/
  | inline
deriving DecidableEq, Repr

/-- A value or a table. Of floats, dates and times only the presence is kept. -/
inductive Node where
  | text (value : String)
  | integer (value : Int)
  | float
  | boolean (value : Bool)
  /-- A date, a time, or both. -/
  | moment
  | array (items : List Node)
  /-- A table, with its entries in order. -/
  | table (form : TableForm) (entries : List (String × Node))
  /-- A list of tables that are written under headers of the same name. -/
  | tables (rows : List (List (String × Node)))

/-- The entries of a table, in order. -/
abbrev Entries := List (String × Node)

/-! ## Building tables -/

/-- Puts a node in the place of the entry with a given key. -/
def replaceEntry (key : String) (node : Node) (entries : Entries) : Entries :=
  entries.map fun entry => if entry.1 = key then (key, node) else entry

/-- Changes the entries of the table that a path leads to. Tables on the way are entered if `opens`
allows their form, and made with the form `fresh` where they are missing; the last of a list of
tables stands for the list. -/
def changeAt (opens : TableForm → Bool) (fresh : TableForm)
    (change : TableForm → Entries → Option Entries) :
    List String → TableForm → Entries → Option Entries
  | [], form, entries => change form entries
  | key :: path, _, entries =>
    match entries.lookup key with
    | none =>
      (changeAt opens fresh change path fresh []).map fun sub =>
        entries ++ [(key, .table fresh sub)]
    | some (.table form sub) =>
      if opens form then
        (changeAt opens fresh change path form sub).map fun sub =>
          replaceEntry key (.table form sub) entries
      else none
    | some (.tables rows) =>
      (changeAt opens fresh change path .header (rows.getLast?.getD [])).map fun row =>
        replaceEntry key (.tables (rows.dropLast ++ [row])) entries
    | some _ => none

/-- Whether a header may lead through a table. -/
def opensToHeader (form : TableForm) : Bool := form != .inline

/-- Whether a dotted key may lead through a table. -/
def opensToKey (form : TableForm) : Bool := form == .implied || form == .dotted

/-- Adds an entry under a dotted key. No key may be given twice, and the last table on the way has
to be one that dotted keys made. -/
def insertKey (path : List String) (key : String) (node : Node) (entries : Entries) :
    Option Entries :=
  changeAt opensToKey .dotted (fun form entries =>
    -- A dotted key may lead through a table that headers mention, but not end in one.
    if !path.isEmpty && form != .dotted then none
    else if (entries.lookup key).isSome then none
    else some (entries ++ [(key, node)])) path .header entries

/-- Opens the table with a given header. If longer headers mentioned it before, it moves to the
end. -/
def openTable (path : List String) (key : String) (entries : Entries) : Option Entries :=
  changeAt opensToHeader .implied (fun _ entries =>
    match entries.lookup key with
    | none => some (entries ++ [(key, .table .header [])])
    | some (.table .implied sub) =>
      some (entries.filter (·.1 ≠ key) ++ [(key, .table .header sub)])
    | some _ => none) path .header entries

/-- Opens the next table of the list with a given header. -/
def openRow (path : List String) (key : String) (entries : Entries) : Option Entries :=
  changeAt opensToHeader .implied (fun _ entries =>
    match entries.lookup key with
    | none => some (entries ++ [(key, .tables [[]])])
    | some (.tables rows) => some (replaceEntry key (.tables (rows ++ [[]])) entries)
    | some _ => none) path .header entries

/-! ## Documents from lines -/

/-- A key with at least one part. -/
structure Key where
  /-- The parts before the last one. -/
  path : List String
  /-- The last part. -/
  last : String
deriving DecidableEq, Repr

/-- All parts of a key. -/
def Key.parts (key : Key) : List String := key.path ++ [key.last]

/-- A line of a document. -/
inductive Line where
  /-- `key = value` -/
  | entry (key : Key) (node : Node)
  /-- `[key]` -/
  | table (key : Key)
  /-- `[[key]]` -/
  | row (key : Key)

/-- A document that is being built: its entries and the header that the next line belongs to. -/
structure Progress where
  /-- The entries of the root table. -/
  entries : Entries := []
  /-- The path of the current table. -/
  current : List String := []

/-- Takes a line. -/
def Progress.take (p : Progress) : Line → Option Progress
  | .entry key node =>
    (changeAt opensToHeader .implied (fun _ => insertKey key.path key.last node) p.current .header
      p.entries).map fun entries => { p with entries }
  | .table key => (openTable key.path key.last p.entries).map fun entries => ⟨entries, key.parts⟩
  | .row key => (openRow key.path key.last p.entries).map fun entries => ⟨entries, key.parts⟩

/-- The root table that lines build. -/
def ofLines (lines : List Line) : Option Entries :=
  (lines.foldlM Progress.take {}).map (·.entries)

end PrototypeLens.Toml
