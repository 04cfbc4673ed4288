/-!
# Settings files as trees

A settings file is a tree of tables. Each table knows how it came about, because that decides what
may be added to it later; `Toml.Entries` is the contents of a table.
-/
set_option autoImplicit false

namespace CloudAudit

inductive TableOrigin where
  /-- It has a header of its own. -/
  | header
  /-- It lies on the way to the table of a header. -/
  | passage
  /-- It lies on the way to the value of a dotted key. -/
  | dotted
  /-- It was written in braces, and is complete. -/
  | inline
  deriving DecidableEq, Repr, Inhabited

inductive Toml where
  | string (text : String)
  | integer (value : Int)
  | float
  | bool (value : Bool)
  /-- A date, a time, or both. -/
  | moment
  /-- An array; `ofTables` when its items are tables with headers. -/
  | array (items : List Toml) (ofTables : Bool)
  | table (origin : TableOrigin) (entries : List (String × Toml))
  deriving Repr, Inhabited

namespace Toml

abbrev Entries := List (String × Toml)

def Entries.put (entries : Entries) (key : String) (value : Toml) : Entries :=
  match entries with
  | [] => [(key, value)]
  | (found, old) :: more =>
    if found == key then (key, value) :: more else (found, old) :: Entries.put more key value

/-- Whether the way to a value may lead through a table. Headers lead through all but complete
tables. Dotted keys lead through tables that have no header, and end only in tables that dotted
keys made. -/
def mayPass (dotted last : Bool) (origin : TableOrigin) : Bool :=
  match origin with
  | .inline => false
  | .header => !dotted
  | .passage => !(dotted && last)
  | .dotted => true

/-- How a table that is missing on a way comes about. -/
def newOrigin (dotted : Bool) : TableOrigin :=
  if dotted then .dotted else .passage

/-- Change the table at the end of a way, making the tables that are missing. A way leads through
the last table of an array of tables. -/
def changeAt (dotted : Bool) (change : Entries → Option Entries) :
    List String → Entries → Option Entries
  | [], entries => change entries
  | key :: path, entries =>
    match entries.lookup key with
    | none => (changeAt dotted change path []).map fun inner =>
        entries.put key (.table (newOrigin dotted) inner)
    | some (.table origin inner) =>
      if mayPass dotted path.isEmpty origin then
        (changeAt dotted change path inner).map fun inner => entries.put key (.table origin inner)
      else none
    | some (.array items true) =>
      if dotted && path.isEmpty then none
      else
        match items.getLast? with
        | some (.table origin inner) =>
          (changeAt dotted change path inner).map fun inner =>
            entries.put key (.array (items.dropLast ++ [.table origin inner]) true)
        | _ => none
    | some _ => none

def addNew (key : String) (value : Toml) (entries : Entries) : Option Entries :=
  match entries.lookup key with
  | none => some (entries.put key value)
  | some _ => none

structure Path where
  way : List String
  key : String
  deriving DecidableEq, Repr, Inhabited

def insert (entries : Entries) (path : Path) (value : Toml) : Option Entries :=
  changeAt true (addNew path.key value) path.way entries

def insertAll (entries : Entries) (lines : List (Path × Toml)) : Option Entries :=
  lines.foldlM (fun entries line => insert entries line.1 line.2) entries

structure Section where
  path : Path
  ofArray : Bool
  lines : List (Path × Toml)
  deriving Repr, Inhabited

/-- The table of a header in the table that it lies in. A header may give lines to a table that
only lay on the way so far. -/
def openTable (part : Section) (entries : Entries) : Option Entries :=
  match entries.lookup part.path.key with
  | none => (insertAll [] part.lines).map fun body =>
      entries.put part.path.key (.table .header body)
  | some (.table .passage body) => (insertAll body part.lines).map fun body =>
      entries.put part.path.key (.table .header body)
  | some _ => none

def appendTable (part : Section) (entries : Entries) : Option Entries := do
  let body ← insertAll [] part.lines
  match entries.lookup part.path.key with
  | none => some (entries.put part.path.key (.array [.table .header body] true))
  | some (.array items true) =>
    some (entries.put part.path.key (.array (items ++ [.table .header body]) true))
  | some _ => none

def addSection (entries : Entries) (part : Section) : Option Entries :=
  changeAt false (if part.ofArray then appendTable part else openTable part) part.path.way entries

/-- The tree of the lines before the first header and the headers with theirs. -/
def assemble (lines : List (Path × Toml)) (parts : List Section) : Option Entries := do
  let root ← insertAll [] lines
  parts.foldlM addSection root

end Toml

end CloudAudit
