import ScriptScan.Diagnostic.Render
import ScriptScan.Scan
import ScriptScan.Sink

/-!
# ScriptScan.Journal

A list of diagnostics that only grows.
-/

namespace ScriptScan

/-- The diagnostics recorded so far, the oldest first. -/
structure Journal where
  diagnostics : List Diagnostic := []
  deriving DecidableEq

namespace Journal

/-- Records one more diagnostic. -/
def add (journal : Journal) (diagnostic : Diagnostic) : Journal :=
  { diagnostics := journal.diagnostics ++ [diagnostic] }

/-- The number of recorded diagnostics. -/
def count (journal : Journal) : Nat := journal.diagnostics.length

/-- Whether anything is recorded. -/
def hasErrors (journal : Journal) : Bool := !journal.diagnostics.isEmpty

@[simp] theorem diagnostics_add (journal : Journal) (diagnostic : Diagnostic) :
    (journal.add diagnostic).diagnostics = journal.diagnostics ++ [diagnostic] := rfl

/-- Scans a source under the default settings and records the error that stops the
scan, if one does. -/
def scan (journal : Journal) (source : List Char) : Except ScanError (List Token) × Journal :=
  match ScriptScan.scan source with
  | .ok tokens => (.ok tokens, journal)
  | .error error => (.error error, journal.add error.toDiagnostic)

/-- Sends every diagnostic as text to a sink, in order. -/
def writeTo (journal : Journal) (sink : Sink) (source : Option (List Char)) :
    Sink × Except WriteError Unit :=
  sink.writeAll (journal.diagnostics.map (·.render source))

end Journal

namespace ScanError

/-- Sends the console report of an error to a sink. -/
def reportTo (error : ScanError) (sink : Sink) : Sink × Except WriteError Unit :=
  sink.write (Sink.bytesOf error.report)

end ScanError

end ScriptScan
