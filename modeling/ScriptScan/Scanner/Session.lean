import ScriptScan.Scanner

/-!
# ScriptScan.Scanner.Session

A scanner driven by a list of calls.  A call for all that is left uses the
scanner up.
-/

namespace ScriptScan

namespace Scanner

/-- A call to a scanner. -/
inductive Call where
  | nextToken
  | next
  | scan
  deriving DecidableEq

/-- What comes back from a call. -/
inductive Reply where
  /-- The answer to a call for one token, with the scanner after it. -/
  | one (answer : Answer) (after : Scanner)
  /-- The outcome of a scan of all that was left. -/
  | all (outcome : Except ScanError (List Token))
  /-- The scanner was used up before. -/
  | usedUp
  deriving DecidableEq

/-- Answers a call and gives the scanner for the next one, unless it is used up. -/
def answer : Option Scanner → Call → Reply × Option Scanner
  | none, _ => (.usedUp, none)
  | some scanner, .nextToken =>
    let (answer, after) := scanner.nextToken
    (.one answer after, some after)
  | some scanner, .next =>
    let (answer, after) := scanner.next
    (.one answer after, some after)
  | some scanner, .scan => (.all scanner.scan, none)

/-- Answers calls in order. -/
def run (scanner : Option Scanner) : List Call → List Reply
  | [] => []
  | call :: calls =>
    let (reply, after) := answer scanner call
    reply :: run after calls

end Scanner

end ScriptScan
