import ScriptScan.Log
import ScriptScan.Scanner

/-!
# ScriptScan.Trace

The record that a scan leaves of itself: it is opened with the size of the
source, then every lexeme is noted, then the outcome, and it is closed.

A lexeme is noted where it is made into a token, before anything asks whether it
is a separator.  So the notes pass through the same levels as the tokens do:

* `Scanner.nextTokenNoting`, `Scanner.nextNoting`, `Scanner.scanNoting` — each
  calls for the next token as its namesake does, and gathers the notes on the way;
* `Scanner.nextNoting_snd`, `Scanner.scanNoting_snd` — taking notes changes no
  answer.
-/

namespace ScriptScan

namespace Trace

/-- One entry in the record of a scan. -/
inductive Entry where
  /-- A scan of a source of so many bytes is announced. -/
  | opened (bytes : Nat)
  /-- The scan begins. -/
  | entered
  /-- A lexeme was made into a token. -/
  | token (kind : Kind) (line : Nat) (text : String)
  /-- The scan made so many tokens, separators not counted. -/
  | completed (count : Nat)
  /-- The scan stopped at an error. -/
  | failed (message : String) (line : Nat) (position : Nat)
  /-- The scan is over. -/
  | exited
  deriving DecidableEq

/-- The entry about a token. -/
def Entry.ofToken (token : Token) : Entry := .token token.kind token.line token.text

/-- The entry about the outcome of a scan. -/
def Entry.ofOutcome : Except ScanError (List Token) → Entry
  | .ok tokens => .completed tokens.length
  | .error error => .failed error.message error.line error.position

/-- The log message of an entry.  The frame around a scan has none. -/
def Entry.message? : Entry → Option Log.Message
  | .token kind line text =>
    some ⟨.trace, "token", [("kind", kind.name), ("line", toString line), ("text", text)]⟩
  | .completed count => some ⟨.debug, "scan complete", [("count", toString count)]⟩
  | .failed message line position =>
    some ⟨.warn, "scan failed",
      [("line", toString line), ("position", toString position), ("err", message)]⟩
  | .opened _ | .entered | .exited => none

/-- The stretch of work that an entry announces. -/
def Entry.frame? : Entry → Option Log.Frame
  | .opened bytes => some ⟨.debug, "scan", [("bytes", toString bytes)]⟩
  | .entered | .token _ _ _ | .completed _ | .failed _ _ _ | .exited => none

/-- What is noted of an answer.  Only a token is. -/
def notes : Answer → List Entry
  | some (.ok token) => [.ofToken token]
  | some (.error _) | none => []

end Trace

namespace Scanner

/-- The next lexeme as a token, and the note of it. -/
def nextTokenNoting (scanner : Scanner) : List Trace.Entry × Answer × Scanner :=
  let (answer, after) := scanner.nextToken
  (Trace.notes answer, answer, after)

/-- A noted token leaves less to scan. -/
theorem length_rest_nextTokenNoting_lt {scanner after : Scanner} {token : Token}
    {notes : List Trace.Entry}
    (h : scanner.nextTokenNoting = (notes, some (.ok token), after)) :
    after.cursor.rest.length < scanner.cursor.rest.length :=
  length_rest_nextToken_lt (congrArg Prod.snd h)

/-- The next token that is not a separator, and the notes of the lexemes up to it. -/
def nextNoting (scanner : Scanner) : List Trace.Entry × Answer × Scanner :=
  match _h : scanner.nextTokenNoting with
  | (notes, some (.ok token), after) =>
    if token.kind = .ignore then
      let (more, found) := after.nextNoting
      (notes ++ more, found)
    else
      (notes, some (.ok token), after)
  | (notes, some (.error error), after) => (notes, some (.error error), after)
  | (notes, none, after) => (notes, none, after)
termination_by scanner.cursor.rest.length
decreasing_by exact length_rest_nextTokenNoting_lt ‹_›

/-- Taking notes does not change the next token. -/
theorem nextNoting_snd (scanner : Scanner) : scanner.nextNoting.2 = scanner.next := by
  fun_induction nextNoting scanner with
  | case1 scanner notes token after h hignore more found hmore ih =>
    have hstep : scanner.nextToken = (some (.ok token), after) := congrArg Prod.snd h
    rw [next]
    split <;> simp_all
  | case2 scanner notes token after h hignore =>
    have hstep : scanner.nextToken = (some (.ok token), after) := congrArg Prod.snd h
    rw [next]
    split <;> simp_all
  | case3 scanner notes error after h =>
    have hstep : scanner.nextToken = (some (.error error), after) := congrArg Prod.snd h
    rw [next]
    split <;> simp_all
  | case4 scanner notes after h =>
    have hstep : scanner.nextToken = (none, after) := congrArg Prod.snd h
    rw [next]
    split <;> simp_all

/-- The tokens that are left, without separators, or the first error, and the notes
of all lexemes up to there. -/
def scanNoting (scanner : Scanner) : List Trace.Entry × Except ScanError (List Token) :=
  match _h : scanner.nextNoting with
  | (notes, some (.ok token), after) =>
    let (more, outcome) := after.scanNoting
    (notes ++ more, outcome.map (token :: ·))
  | (notes, some (.error error), _) => (notes, .error error)
  | (notes, none, _) => (notes, .ok [])
termination_by scanner.cursor.rest.length
decreasing_by exact length_rest_next_lt ((nextNoting_snd _).symm.trans (congrArg Prod.snd ‹_›))

/-- Scans what is left and gives the full record of the scan with its outcome. -/
def scanTraced (scanner : Scanner) : List Trace.Entry × Except ScanError (List Token) :=
  let (entries, outcome) := scanner.scanNoting
  (.opened (Text.byteLength scanner.cursor.source) :: .entered :: entries
      ++ [.ofOutcome outcome, .exited],
    outcome)

end Scanner

end ScriptScan
