import ScriptScan.Lexeme

/-!
# ScriptScan.Scanner

Cutting a source into tokens: lexeme by lexeme, token by token without the
separators, or all at once.

* `Scanner.nextToken` gives every lexeme as a token, separators included;
* `Scanner.next` passes over separators;
* `Scanner.scan` collects what is left.

The first error ends a scan for good.
-/

namespace ScriptScan

/-- Equality of results can be decided if that of errors and values can. -/
instance decidableEqResult {ε α : Type} [DecidableEq ε] [DecidableEq α] :
    DecidableEq (Except ε α)
  | .ok a, .ok b => decidable_of_iff (a = b) ⟨congrArg _, Except.ok.inj⟩
  | .error a, .error b => decidable_of_iff (a = b) ⟨congrArg _, Except.error.inj⟩
  | .ok _, .error _ => isFalse nofun
  | .error _, .ok _ => isFalse nofun

/-- A scan under way.  Once it has failed it gives no more tokens. -/
structure Scanner where
  cursor : Cursor
  failed : Bool := false
  deriving DecidableEq

/-- What a scanner answers when it is asked for a token: a token, an error, or
nothing when there is no more to come. -/
abbrev Answer := Option (Except ScanError Token)

namespace Scanner

/-- The scan of a source from its start. -/
def start (rule : LineRule) (source : List Char) : Scanner :=
  { cursor := .start rule source }

/-- The line at which the scan stands. -/
def line (scanner : Scanner) : Nat := scanner.cursor.place.line

/-- The byte at which the scan stands. -/
def position (scanner : Scanner) : Nat := scanner.cursor.place.offset

/-- The next lexeme as a token, be it a separator or not. -/
def nextToken (scanner : Scanner) : Answer × Scanner :=
  if scanner.failed || scanner.cursor.atEnd then
    (none, scanner)
  else
    match scanner.cursor.readLexeme with
    | (.ok token, cursor) => (some (.ok token), { scanner with cursor })
    | (.error error, cursor) => (some (.error error), { cursor, failed := true })

/-- A token leaves less to scan. -/
theorem length_rest_nextToken_lt {scanner after : Scanner} {token : Token}
    (h : scanner.nextToken = (some (.ok token), after)) :
    after.cursor.rest.length < scanner.cursor.rest.length := by
  unfold nextToken at h
  split at h
  · simp at h
  · next hmore =>
    have hrest : scanner.cursor.rest ≠ [] := by
      intro hnil; simp [Cursor.atEnd, hnil] at hmore
    split at h
    · next t cursor hread =>
      cases h
      exact Cursor.length_rest_readLexeme_lt hrest hread
    · simp at h

/-- The next token that is not a separator. -/
def next (scanner : Scanner) : Answer × Scanner :=
  match _h : scanner.nextToken with
  | (some (.ok token), after) =>
    if token.kind = .ignore then after.next else (some (.ok token), after)
  | (some (.error error), after) => (some (.error error), after)
  | (none, after) => (none, after)
termination_by scanner.cursor.rest.length
decreasing_by exact length_rest_nextToken_lt ‹_›

/-- A token that is not a separator leaves less to scan, too. -/
theorem length_rest_next_lt {scanner after : Scanner} {token : Token}
    (h : scanner.next = (some (.ok token), after)) :
    after.cursor.rest.length < scanner.cursor.rest.length := by
  fun_induction next scanner generalizing token after with
  | case1 scanner t mid hstep hkind ih =>
    exact Nat.lt_trans (ih h) (length_rest_nextToken_lt hstep)
  | case2 scanner t mid hstep hkind =>
    cases h
    exact length_rest_nextToken_lt hstep
  | case3 => simp at h
  | case4 => simp at h

/-- The tokens that are left, without separators, or the first error. -/
def scan (scanner : Scanner) : Except ScanError (List Token) :=
  match _h : scanner.next with
  | (some (.ok token), after) => after.scan.map (token :: ·)
  | (some (.error error), _) => .error error
  | (none, _) => .ok []
termination_by scanner.cursor.rest.length
decreasing_by exact length_rest_next_lt ‹_›

end Scanner

end ScriptScan
