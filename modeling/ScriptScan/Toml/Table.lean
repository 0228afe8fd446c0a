import ScriptScan.Toml

/-!
# ScriptScan.Toml.Table

Building tables.  A key is defined once: no statement may change what an earlier
one has defined, except that a header may come after the headers below it and
that dotted keys may share their first steps.
-/

namespace ScriptScan.Toml.Table

/-- Changes the entry of a key.  The change is given what is there and may refuse. -/
def alter? (key : String) (change : Option Node → Option Node) : Table → Option Table
  | [] => (change none).map fun node => [(key, node)]
  | (name, node) :: entries =>
    if name = key then (change (some node)).map fun changed => (name, changed) :: entries
    else (alter? key change entries).map ((name, node) :: ·)

/-- Changes the last of several tables. -/
def alterLast? (change : Table → Option Table) : List Table → Option (List Table)
  | [] => none
  | [table] => (change table).map ([·])
  | table :: tables => (alterLast? change tables).map (table :: ·)

/-- Gives a dotted key a value.  The tables on the way are made if they are
missing.  The table that gets the value must be one that dotted keys made, unless
it is the first one. -/
def insert? (value : Node) : List String → Table → Option Table
  | [], _ => none
  | [key], table =>
    table.alter? key fun
      | none => some value
      | some _ => none
  | key :: path, table =>
    table.alter? key fun
      | none => (insert? value path []).map (.table .dotted)
      | some (.table form entries) =>
        if form = .dotted ∨ (form = .implied ∧ 1 < path.length) then
          (insert? value path entries).map (.table form)
        else
          none
      | some (.tables elements) =>
        if 1 < path.length then (alterLast? (insert? value path) elements).map .tables else none
      | some _ => none

/-- Changes the entry at the end of a header's path.  The tables on the way are
made if they are missing; of several tables the last one is meant. -/
def alterAt? (change : Option Node → Option Node) : List String → Table → Option Table
  | [], _ => none
  | [key], table => table.alter? key change
  | key :: path, table =>
    table.alter? key fun
      | none => (alterAt? change path []).map (.table .implied)
      | some (.table .inline _) => none
      | some (.table form entries) => (alterAt? change path entries).map (.table form)
      | some (.tables elements) => (alterLast? (alterAt? change path) elements).map .tables
      | some _ => none

/-- Opens the table of a header.  Only a table that headers below it implied may
be there already. -/
def openTable? (path : List String) (root : Table) : Option Table :=
  alterAt?
    (fun
      | none => some (.table .header [])
      | some (.table .implied entries) => some (.table .header entries)
      | some _ => none)
    path root

/-- Opens one more table of a header in double brackets. -/
def openElement? (path : List String) (root : Table) : Option Table :=
  alterAt?
    (fun
      | none => some (.tables [[]])
      | some (.tables elements) => some (.tables (elements ++ [[]]))
      | some _ => none)
    path root

/-- Gives a dotted key a value in the table that a header has opened.  Without a
header that is the root. -/
def define? (header key : List String) (value : Node) (root : Table) : Option Table :=
  match header with
  | [] => insert? value key root
  | _ =>
    alterAt?
      (fun
        | some (.table form entries) => (insert? value key entries).map (.table form)
        | some (.tables elements) => (alterLast? (insert? value key) elements).map .tables
        | _ => none)
      header root

end ScriptScan.Toml.Table
