import ScriptScan.Journal

/-!
# ScriptScan.Journal.Session

A journal driven by a list of requests.
-/

namespace ScriptScan

namespace Journal

/-- A request to a journal. -/
inductive Request where
  /-- To record a diagnostic. -/
  | add (diagnostic : Diagnostic)
  /-- To scan a source and record its error. -/
  | scan (source : List Char)
  /-- To list what is recorded. -/
  | list
  /-- To send what is recorded to a sink. -/
  | writeTo (sink : Sink) (source : Option (List Char))
  deriving DecidableEq

/-- What comes back from a request. -/
inductive Reply where
  | done
  | outcome (value : Except ScanError (List Token))
  | listed (diagnostics : List Diagnostic)
  /-- The sink after the text was sent, and the error if it did not take all of it. -/
  | sent (sink : Sink) (result : Except WriteError Unit)
  deriving DecidableEq

/-- Carries out a request. -/
def handle (journal : Journal) : Request → Reply × Journal
  | .add diagnostic => (.done, journal.add diagnostic)
  | .scan source =>
    let (outcome, after) := journal.scan source
    (.outcome outcome, after)
  | .list => (.listed journal.diagnostics, journal)
  | .writeTo sink source =>
    let (filled, result) := journal.writeTo sink source
    (.sent filled result, journal)

/-- Carries out requests in order and gives each reply with the journal after it. -/
def run (journal : Journal) : List Request → List (Reply × Journal)
  | [] => []
  | request :: requests =>
    let (reply, after) := journal.handle request
    (reply, after) :: after.run requests

end Journal

end ScriptScan
