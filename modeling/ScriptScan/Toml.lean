/-!
# ScriptScan.Toml

The tree that a TOML document spells.  Settings are texts, so numbers, truth
values and dates are checked when they are read but not kept.
-/

namespace ScriptScan.Toml

/-- How a table came into being, which decides what may be added to it later. -/
inductive Form where
  /-- By a header of its own, or as the root. -/
  | header
  /-- As a step on the way to the table of a header. -/
  | implied
  /-- As a step of a dotted key. -/
  | dotted
  /-- As a value in braces. -/
  | inline
  deriving DecidableEq

/-- A part of a TOML document. -/
inductive Node where
  | string (text : String)
  /-- A number, a truth value or a date. -/
  | scalar
  | array (items : List Node)
  | table (form : Form) (entries : List (String × Node))
  /-- The tables of repeated headers in double brackets. -/
  | tables (elements : List (List (String × Node)))

/-- The entries of a table, in the order in which they were made. -/
abbrev Table := List (String × Node)

end ScriptScan.Toml
