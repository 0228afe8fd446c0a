/-!
# ScriptScan.LineRule

Which separating characters end a line.
-/

namespace ScriptScan

/-- A rule for counting lines.  It decides about blanks between tokens only:
inside strings and comments a line feed is always the one line end. -/
inductive LineRule where
  /-- Only a line feed ends a line. -/
  | newline
  /-- A carriage return and a tab end a line as well. -/
  | legacy
  deriving DecidableEq, Inhabited

namespace LineRule

/-- Every rule, the default one first. -/
def all : List LineRule := [newline, legacy]

/-- The name of a rule in settings. -/
def name : LineRule → String
  | newline => "newline"
  | legacy => "legacy"

/-- The rule of a given name. -/
def ofName? (name : String) : Option LineRule := all.find? (·.name == name)

/-- Whether a separating character ends a line. -/
def endsLine : LineRule → Char → Bool
  | newline, c => c == '\n'
  | legacy, c => c == '\n' || c == '\r' || c == '\t'

/-- A line feed ends a line under every rule. -/
@[simp] theorem endsLine_lineFeed (rule : LineRule) : rule.endsLine '\n' = true := by
  cases rule <;> rfl

end LineRule

end ScriptScan
