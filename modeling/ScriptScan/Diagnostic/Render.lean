import ScriptScan.Diagnostic
import ScriptScan.Diagnostic.Snippet

/-!
# ScriptScan.Diagnostic.Render

Diagnostics as text for people: a headline, the place, the quoted source line if
the source is at hand, then all notes and all advice.
-/

namespace ScriptScan

namespace Diagnostic

/-- The first row of a diagnostic: its code, if it has one, and its message. -/
def headline (diagnostic : Diagnostic) : String :=
  match diagnostic.code with
  | some code => "error[" ++ code.text ++ "]: " ++ diagnostic.message
  | none => "error: " ++ diagnostic.message

/-- The rows that say where a diagnostic points.  A span on line 0 is nowhere. -/
def location (diagnostic : Diagnostic) (source : Option (List Char)) : List String :=
  let span := diagnostic.span
  if span.line = 0 then
    []
  else
    ("  --> line " ++ toString span.line ++ ":" ++ toString span.column) ::
      ((source.bind (Snippet.of? span)).map (·.rows span.line)).getD []

/-- The rows of a diagnostic, in order. -/
def rows (diagnostic : Diagnostic) (source : Option (List Char)) : List String :=
  diagnostic.headline :: diagnostic.location source
    ++ diagnostic.notes.map ("  = note: " ++ ·)
    ++ diagnostic.helps.map ("  = help: " ++ ·)

/-- A diagnostic as text, each row ended by a line feed. -/
def render (diagnostic : Diagnostic) (source : Option (List Char)) : String :=
  String.join ((diagnostic.rows source).map (· ++ "\n"))

end Diagnostic

end ScriptScan
