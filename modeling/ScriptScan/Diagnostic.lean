import ScriptScan.Diagnostic.Code
import ScriptScan.Span

/-!
# ScriptScan.Diagnostic

A message about a source for people: what is wrong, where, under which code,
with notes and advice.
-/

namespace ScriptScan

/-- An error message with its location, code, notes and advice. -/
structure Diagnostic where
  message : String
  span : Span := .nowhere
  code : Option Code := none
  notes : List String := []
  helps : List String := []
  deriving DecidableEq

namespace Diagnostic

/-- The same diagnostic under a code; an earlier code is replaced. -/
def withCode (diagnostic : Diagnostic) (code : Code) : Diagnostic :=
  { diagnostic with code := some code }

/-- The same diagnostic at a place; an earlier place is replaced. -/
def withSpan (diagnostic : Diagnostic) (span : Span) : Diagnostic :=
  { diagnostic with span }

/-- The same diagnostic with one more note. -/
def withNote (diagnostic : Diagnostic) (note : String) : Diagnostic :=
  { diagnostic with notes := diagnostic.notes ++ [note] }

/-- The same diagnostic with one more piece of advice. -/
def withHelp (diagnostic : Diagnostic) (help : String) : Diagnostic :=
  { diagnostic with helps := diagnostic.helps ++ [help] }

/-- The message of a diagnostic on one line, without its place. -/
def summary (diagnostic : Diagnostic) : String := "error: " ++ diagnostic.message

end Diagnostic

end ScriptScan
