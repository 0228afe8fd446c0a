import ScriptScan.Proofs.Run
import ScriptScan.Scanner.Session

/-!
# ScriptScan.Proofs.Driving

One scanner driven by calls of every kind, in any order.

A call takes its answer from the front of the results that are still to come.  So
whatever the order of the calls, the answers given and the results to come make up the
results of the whole source, separators apart.

* `Gives` — what one call for a token can do; `Gives.exists_nextToken` brings a call for
  a token that is no separator down to a call for a lexeme;
* `Serves` — a run of such calls; `Serves.kept_eq` is what a run preserves;
* `Serves.stopped` — after the end and after an error nothing comes any more;
* `calls_share_one_scan` — the answers to calls against the scan of the whole source.
-/

namespace ScriptScan

namespace Scanner

/-! ## what a scan keeps -/

/-- Whether an answer is a separator. -/
def isSeparator : Except ScanError Token → Bool
  | .ok token => token.kind = .ignore
  | .error _ => false

/-- The answers that are no separators. -/
def kept (answers : List (Except ScanError Token)) : List (Except ScanError Token) :=
  answers.filter (!isSeparator ·)

/-- The tokens among answers. -/
def tokensIn (answers : List (Except ScanError Token)) : List Token :=
  answers.filterMap Except.toOption

@[simp] theorem kept_append (answers others : List (Except ScanError Token)) :
    kept (answers ++ others) = kept answers ++ kept others :=
  List.filter_append answers others

@[simp] theorem tokensIn_append (answers others : List (Except ScanError Token)) :
    tokensIn (answers ++ others) = tokensIn answers ++ tokensIn others :=
  List.filterMap_append

/-- Answers without an error are their tokens. -/
theorem eq_map_tokensIn {answers : List (Except ScanError Token)}
    (h : ∀ error, .error error ∉ answers) : answers = (tokensIn answers).map .ok := by
  induction answers with
  | nil => rfl
  | cons answer answers ih =>
      have htail := ih fun error hmem => h error (List.mem_cons_of_mem answer hmem)
      cases answer with
      | error error => exact absurd List.mem_cons_self (h error)
      | ok token => exact congrArg (Except.ok token :: ·) htail

variable {scanner after last : Scanner} {call : Call} {given : Answer}

/-- A scan collects the results that are no separators. -/
theorem scan_eq_kept (scanner : Scanner) : scanner.scan = (kept scanner.results).mapM id := by
  fun_induction results scanner with
  | case1 scanner token next h ih =>
      rw [scan_of_ok h]
      by_cases hignore : token.kind = .ignore
      · simp [kept, isSeparator, hignore, ih]
      · have hkept : kept (.ok token :: next.results) = .ok token :: kept next.results := by
          simp [kept, isSeparator, hignore]
        rw [if_neg hignore, ih, hkept, List.mapM_cons]
        cases (kept next.results).mapM id <;> rfl
  | case2 scanner error next h => rw [scan_of_error h]; rfl
  | case3 scanner next h => rw [scan_of_none h]; rfl

/-! ## one call -/

/-- A scanner that has nothing more to give. -/
def Exhausted (scanner : Scanner) : Prop := scanner.nextToken = (none, scanner)

theorem Exhausted.scan_eq (h : scanner.Exhausted) : scanner.scan = .ok [] := scan_of_none h

/-- A call for a lexeme takes the first of the results to come. -/
theorem results_nextToken (scanner : Scanner) :
    scanner.results = scanner.nextToken.1.toList ++ scanner.nextToken.2.results := by
  match h : scanner.nextToken with
  | (some (.ok token), next) => rw [results_of_ok h]; rfl
  | (some (.error error), next) =>
      have hlast := nextToken_of_failed (failed_of_nextToken_error h)
      rw [results_of_error h, results_of_none hlast]
      rfl
  | (none, next) =>
      obtain rfl := eq_of_nextToken_none h
      rw [results_of_none h]
      rfl

/-- An error and the end of the source leave nothing to give. -/
theorem exhausted_of_nextToken (h : scanner.nextToken = (given, after))
    (hgiven : given = none ∨ ∃ error, given = some (.error error)) : after.Exhausted := by
  rcases hgiven with rfl | ⟨error, rfl⟩
  · obtain rfl := eq_of_nextToken_none h
    exact h
  · exact nextToken_of_failed (failed_of_nextToken_error h)

/-- A call for a token that is no separator is a call for a lexeme behind the separators. -/
theorem exists_next (scanner : Scanner) : ∃ last : Scanner,
    kept scanner.results = kept last.results ∧ last.nextToken = scanner.next ∧
      ∀ token, scanner.next.1 = some (.ok token) → token.kind ≠ .ignore := by
  fun_induction next scanner with
  | case1 scanner token after hstep hignore ih =>
      obtain ⟨last, hkept, hnext, hkind⟩ := ih
      refine ⟨last, ?_, hnext, hkind⟩
      rw [results_of_ok hstep, ← hkept]
      simp [kept, isSeparator, hignore]
  | case2 scanner token after hstep hignore =>
      refine ⟨scanner, rfl, hstep, fun other hother => ?_⟩
      cases hother
      exact hignore
  | case3 scanner error after hstep => exact ⟨scanner, rfl, hstep, by simp⟩
  | case4 scanner after hstep => exact ⟨scanner, rfl, hstep, by simp⟩

/-- What a call for one token gives, and the scanner after it. -/
inductive Gives (scanner : Scanner) : Call → Answer → Scanner → Prop
  | nextToken : Gives scanner .nextToken scanner.nextToken.1 scanner.nextToken.2
  | next : Gives scanner .next scanner.next.1 scanner.next.2

namespace Gives

theorem answer_eq (h : Gives scanner call given after) :
    answer (some scanner) call = (.one given after, some after) := by
  cases h <;> rfl

/-- **What one call can do**: it gives what a call for a lexeme would, perhaps behind
separators. -/
theorem exists_nextToken (h : Gives scanner call given after) : ∃ last : Scanner,
    kept scanner.results = kept last.results ∧ last.nextToken = (given, after) ∧
      (call = .next → ∀ token, given = some (.ok token) → token.kind ≠ .ignore) := by
  cases h with
  | nextToken => exact ⟨scanner, rfl, rfl, nofun⟩
  | next =>
      obtain ⟨last, hkept, hnext, hkind⟩ := scanner.exists_next
      exact ⟨last, hkept, hnext, fun _ => hkind⟩

/-- A call takes its answer from the front of the results to come. -/
theorem kept_eq (h : Gives scanner call given after) :
    kept scanner.results = kept given.toList ++ kept after.results := by
  obtain ⟨last, hkept, hnext, -⟩ := h.exists_nextToken
  rw [hkept, last.results_nextToken, hnext, kept_append]

theorem exhausted (h : Gives scanner call given after)
    (hgiven : given = none ∨ ∃ error, given = some (.error error)) : after.Exhausted := by
  obtain ⟨last, -, hnext, -⟩ := h.exists_nextToken
  exact exhausted_of_nextToken hnext hgiven

/-- A scanner that has nothing more to give stays as it is. -/
theorem of_exhausted (h : Gives scanner call given after) (hscanner : scanner.Exhausted) :
    given = none ∧ after = scanner := by
  cases h with
  | nextToken => rw [hscanner]; exact ⟨rfl, rfl⟩
  | next =>
      have hnext : scanner.next = (none, scanner) := by
        rw [Scanner.next]
        split <;> simp_all [Exhausted]
      rw [hnext]
      exact ⟨rfl, rfl⟩

end Gives

/-- No lexeme is of no known kind. -/
theorem ne_undefined_of_isLexeme {kind : Kind} {text : List Char} (h : IsLexeme kind text) :
    kind ≠ .undefined := by
  cases h with
  | @mark c _ hmem =>
      have hall : ∀ entry ∈ marks, entry.2 ≠ .undefined := by decide
      exact hall (c, kind) hmem
  | @comparison c _ paired hmem =>
      have hall : ∀ entry ∈ comparisons, entry.2.1 ≠ .undefined := by decide
      exact hall (c, kind, paired) hmem
  | @comparisonEquals c alone _ hmem =>
      have hall : ∀ entry ∈ comparisons, entry.2.2 ≠ .undefined := by decide
      exact hall (c, alone, kind) hmem
  | word _ _ hkind =>
      have hall : ∀ entry ∈ Kind.keywords, entry.2 ≠ .undefined := by decide
      rcases hkind with hmem | ⟨rfl, -⟩
      · exact hall _ hmem
      · decide
  | blank | divide | comment | string | number => decide

theorem kind_ne_undefined {token : Token} (h : scanner.nextToken = (some (.ok token), after)) :
    token.kind ≠ .undefined := by
  obtain ⟨cursor, failed⟩ := scanner
  cases failed with
  | true => rw [nextToken_of_failed rfl] at h; cases h
  | false =>
      rcases cursor.nextToken_cases with ⟨-, hnext⟩ | ⟨piece, rest, -, hlex, hnext⟩ |
        ⟨fault, bad, -, hnext⟩
      · cases hnext.symm.trans h
      · cases hnext.symm.trans h
        exact ne_undefined_of_isLexeme hlex
      · cases hnext.symm.trans h

/-! ## any number of calls -/

/-- What a list of calls for one token each gives, and the scanner after them. -/
inductive Serves : Scanner → List Call → List Reply → Scanner → Prop
  | done {scanner : Scanner} : Serves scanner [] [] scanner
  | call {scanner after last : Scanner} {call : Call} {given : Answer} {calls : List Call}
      {replies : List Reply} (h : Gives scanner call given after)
      (hrest : Serves after calls replies last) :
      Serves scanner (call :: calls) (.one given after :: replies) last

/-- The answer in a reply, if there is one. -/
def Reply.answer? : Reply → Option (Except ScanError Token)
  | .one answer _ => answer
  | .all _ | .usedUp => none

/-- The answers in replies. -/
def answersIn (replies : List Reply) : List (Except ScanError Token) :=
  replies.filterMap Reply.answer?

theorem answersIn_cons_one (given : Answer) (after : Scanner) (replies : List Reply) :
    answersIn (.one given after :: replies) = given.toList ++ answersIn replies := by
  cases given <;> rfl

theorem mem_answersIn {answer : Except ScanError Token} {replies : List Reply}
    (h : .one (some answer) after ∈ replies) : answer ∈ answersIn replies :=
  List.mem_filterMap.2 ⟨_, h, rfl⟩

theorem exists_serves (scanner : Scanner) {calls : List Call} (h : .scan ∉ calls) :
    ∃ replies last, Serves scanner calls replies last := by
  induction calls generalizing scanner with
  | nil => exact ⟨[], scanner, .done⟩
  | cons call calls ih =>
      obtain ⟨hcall, hcalls⟩ := not_or.1 (mt List.mem_cons.2 h)
      cases call with
      | nextToken =>
          obtain ⟨replies, last, hserves⟩ := ih scanner.nextToken.2 hcalls
          exact ⟨_, last, .call .nextToken hserves⟩
      | next =>
          obtain ⟨replies, last, hserves⟩ := ih scanner.next.2 hcalls
          exact ⟨_, last, .call .next hserves⟩
      | scan => exact absurd rfl hcall

namespace Serves

variable {calls : List Call} {replies : List Reply}

theorem run_append (h : Serves scanner calls replies last) (more : List Call) :
    run (some scanner) (calls ++ more) = replies ++ run (some last) more := by
  induction h with
  | done => rfl
  | call h _ ih => rw [List.cons_append, List.cons_append, ← ih, run, h.answer_eq]

theorem length_eq (h : Serves scanner calls replies last) : replies.length = calls.length := by
  induction h with
  | done => rfl
  | call _ _ ih => rw [List.length_cons, List.length_cons, ih]

/-- **No token is lost**: separators apart, the answers given and the results to come are
the results there were. -/
theorem kept_eq (h : Serves scanner calls replies last) :
    kept scanner.results = kept (answersIn replies) ++ kept last.results := by
  induction h with
  | done => rfl
  | call h _ ih => rw [h.kept_eq, ih, answersIn_cons_one, kept_append, List.append_assoc]

theorem kind_of_next (h : Serves scanner calls replies last) {i : Nat} {token : Token}
    {after : Scanner} (hcall : calls[i]? = some .next)
    (hreply : replies[i]? = some (.one (some (.ok token)) after)) :
    token.kind ≠ .ignore ∧ token.kind ≠ .undefined := by
  induction h generalizing i with
  | done => cases hcall
  | call h _ ih =>
      cases i with
      | succ i => exact ih hcall hreply
      | zero =>
          cases hcall
          cases hreply
          obtain ⟨before, -, hnext, hkind⟩ := h.exists_nextToken
          exact ⟨hkind rfl token rfl, kind_ne_undefined hnext⟩

/-- A scanner that has nothing more to give answers every call so and stays as it is. -/
theorem of_exhausted (h : Serves scanner calls replies last) (hscanner : scanner.Exhausted) :
    (∀ reply ∈ replies, reply = .one none scanner) ∧ last = scanner := by
  induction h with
  | done => exact ⟨by simp, rfl⟩
  | call h _ ih =>
      obtain ⟨rfl, rfl⟩ := h.of_exhausted hscanner
      obtain ⟨hreplies, hlast⟩ := ih hscanner
      exact ⟨List.forall_mem_cons.2 ⟨rfl, hreplies⟩, hlast⟩

/-- **An end is final**: once a call has given nothing or an error, no later call gives
anything, and the scanner no longer changes. -/
theorem stopped (h : Serves scanner calls replies last) {before later : List Reply}
    {given : Answer} {after : Scanner} (hreplies : replies = before ++ .one given after :: later)
    (hgiven : given = none ∨ ∃ error, given = some (.error error)) :
    (∀ reply ∈ later, reply = .one none after) ∧ last.Exhausted := by
  induction h generalizing before with
  | done => simp at hreplies
  | call h hrest ih =>
      cases before with
      | nil =>
          cases hreplies
          have hafter := h.exhausted hgiven
          obtain ⟨hlater, rfl⟩ := hrest.of_exhausted hafter
          exact ⟨hlater, hafter⟩
      | cons reply before => exact ih (List.cons.inj hreplies).2

end Serves

/-- An error among the results is the last of them. -/
theorem results_of_mem_error {error : ScanError} (h : .error error ∈ scanner.results) :
    ∃ tokens : List Token, scanner.results = tokens.map .ok ++ [.error error] := by
  fun_induction results scanner with
  | case1 scanner token next hstep ih =>
      obtain ⟨tokens, hresults⟩ := ih (by simpa using h)
      exact ⟨token :: tokens, congrArg (Except.ok token :: ·) hresults⟩
  | case2 scanner other next hstep =>
      obtain rfl : error = other := by simpa using h
      exact ⟨[], rfl⟩
  | case3 => cases h

/-! ## calls against the scan of the whole source -/

/-- What the replies to calls for one token each, and the outcome of a call for all that
is left after them, have to do with the source. -/
structure Agrees (settings : Settings) (source : List Char) (calls : List Call)
    (replies : List Reply) (outcome : Except ScanError (List Token)) : Prop where
  /-- Every call is answered. -/
  length_eq : replies.length = calls.length
  /-- The tokens given, separators apart, are the first ones of the source. -/
  tokens_lead : tokensIn (kept (answersIn replies)) <+:
    tokensIn (kept (start settings.lineRule source).results)
  /-- A call for a token that is no separator gives none. -/
  next_kind : ∀ (i : Nat) (token : Token) (after : Scanner), calls[i]? = some .next →
    replies[i]? = some (.one (some (.ok token)) after) →
      token.kind ≠ .ignore ∧ token.kind ≠ .undefined
  /-- Without an error the tokens given and those that are left are those of the source. -/
  scan_eq : (∀ error after, .one (some (.error error)) after ∉ replies) →
    scanWith settings source = outcome.map (tokensIn (kept (answersIn replies)) ++ ·)
  /-- An error that is given is that of the source. -/
  scan_error : ∀ error after, .one (some (.error error)) after ∈ replies →
    scanWith settings source = .error error
  /-- After the end or an error nothing is given, and the scanner stays where it is. -/
  stopped : ∀ before given after later, replies = before ++ .one given after :: later →
    (given = none ∨ ∃ error, given = some (.error error)) →
      (∀ reply ∈ later, reply = .one none after) ∧ outcome = .ok []

theorem Serves.agrees {settings : Settings} {source : List Char} {calls : List Call}
    {replies : List Reply} (h : Serves (start settings.lineRule source) calls replies last) :
    Agrees settings source calls replies last.scan where
  length_eq := h.length_eq
  tokens_lead := by
    rw [h.kept_eq, tokensIn_append]
    exact List.prefix_append _ _
  next_kind i token after hcall hreply := h.kind_of_next hcall hreply
  scan_eq hnone := by
    have htokens : kept (answersIn replies) = (tokensIn (kept (answersIn replies))).map .ok := by
      refine eq_map_tokensIn fun error hmem => ?_
      obtain ⟨reply, hreply, hanswer⟩ := List.mem_filterMap.1 (List.mem_filter.1 hmem).1
      cases reply with
      | one given after =>
          obtain rfl : given = some (.error error) := hanswer
          exact hnone error after hreply
      | all outcome => cases hanswer
      | usedUp => cases hanswer
    rw [scanWith, scan_eq_kept, h.kept_eq, htokens, mapM_ok_append, ← scan_eq_kept, ← htokens]
  scan_error error after hmem := by
    have hkept : .error error ∈ kept (answersIn replies) :=
      List.mem_filter.2 ⟨mem_answersIn hmem, rfl⟩
    have hresult : .error error ∈ kept (start settings.lineRule source).results := by
      rw [h.kept_eq]
      exact List.mem_append_left _ hkept
    obtain ⟨tokens, hresults⟩ := results_of_mem_error (List.mem_filter.1 hresult).1
    exact scan_of_results_error hresults
  stopped before given after later hreplies hgiven := by
    obtain ⟨hlater, hlast⟩ := h.stopped hreplies hgiven
    exact ⟨hlater, hlast.scan_eq⟩

/-- **All ways of driving a scanner agree**: whatever calls for one token each are made of
a fresh scanner, and in whatever order, a call for all that is left can follow them, and
answers and outcome together are those of one scan of the source. -/
theorem calls_share_one_scan (settings : Settings) (source : List Char) (calls : List Call)
    (h : .scan ∉ calls) :
    ∃ replies outcome,
      run (some (start settings.lineRule source)) calls = replies ∧
      run (some (start settings.lineRule source)) (calls ++ [.scan]) = replies ++ [.all outcome] ∧
      Agrees settings source calls replies outcome := by
  obtain ⟨replies, last, hserves⟩ := exists_serves (start settings.lineRule source) h
  refine ⟨replies, last.scan, ?_, ?_, hserves.agrees⟩
  · have hrun := hserves.run_append []
    rwa [List.append_nil, run, List.append_nil] at hrun
  · exact hserves.run_append [.scan]

/-- Calls of both kinds, over a blank and into an error. -/
theorem calls_share_one_scan_into_error :
    Call.scan ∉ [Call.nextToken, .next, .nextToken] ∧ ∃ replies outcome,
      run (some (start .newline ['a', ' ', '#'])) [.nextToken, .next, .nextToken] = replies ∧
      run (some (start .newline ['a', ' ', '#'])) [.nextToken, .next, .nextToken, .scan] =
        replies ++ [.all outcome] ∧
      Agrees {} ['a', ' ', '#'] [.nextToken, .next, .nextToken] replies outcome :=
  ⟨by decide, calls_share_one_scan {} ['a', ' ', '#'] [.nextToken, .next, .nextToken] (by decide)⟩

end Scanner

end ScriptScan
