import ScriptScan.Proofs.Reading
import ScriptScan.Scan

/-!
# ScriptScan.Proofs.Run

What a scanner answers when it is asked for lexemes until there are no more.

* `nextToken_after` — the answer to call `n` is entry `n` of `Scanner.results`;
* `results_of_cuts` — the pieces into which a text is cut are the tokens of the
  run over it, each at the place behind the pieces before it;
* `scan_eq` — a scan of all that is left collects the results and leaves the
  separators out;
* `exists_answers` — what a scan answers depends on the text before it alone, but
  for the places.
-/

namespace ScriptScan

namespace Scanner

/-- Every answer that `nextToken` gives until there are no more: tokens, separators
included, and last the error, if there is one. -/
def results (scanner : Scanner) : List (Except ScanError Token) :=
  match _h : scanner.nextToken with
  | (some (.ok token), next) => .ok token :: next.results
  | (some (.error error), _) => [.error error]
  | (none, _) => []
termination_by scanner.cursor.rest.length
decreasing_by exact length_rest_nextToken_lt ‹_›

/-- The scanner after a number of calls for a lexeme. -/
def after (scanner : Scanner) : Nat → Scanner
  | 0 => scanner
  | n + 1 => scanner.nextToken.2.after n

/-! ## one call -/

variable {scanner next : Scanner} {token : Token} {error : ScanError}

theorem results_of_ok (h : scanner.nextToken = (some (.ok token), next)) :
    scanner.results = .ok token :: next.results := by
  rw [results]
  split <;> simp_all

theorem results_of_error (h : scanner.nextToken = (some (.error error), next)) :
    scanner.results = [.error error] := by
  rw [results]
  split <;> simp_all

theorem results_of_none (h : scanner.nextToken = (none, next)) : scanner.results = [] := by
  rw [results]
  split <;> simp_all

/-- A scanner that has no more to give stays as it is. -/
theorem eq_of_nextToken_none (h : scanner.nextToken = (none, next)) : next = scanner := by
  unfold nextToken at h
  split at h
  · exact (congrArg Prod.snd h).symm
  · split at h <;> simp at h

/-- An error is the last answer. -/
theorem nextToken_of_failed (h : scanner.failed = true) : scanner.nextToken = (none, scanner) := by
  simp [nextToken, h]

theorem failed_of_nextToken_error (h : scanner.nextToken = (some (.error error), next)) :
    next.failed = true := by
  unfold nextToken at h
  split at h
  · simp at h
  · split at h
    · simp at h
    · cases h; rfl

/-- The answers of a scanner, one call after the other, are its results. -/
theorem nextToken_after (scanner : Scanner) (n : Nat) :
    (scanner.after n).nextToken.1 = scanner.results[n]? := by
  induction n generalizing scanner with
  | zero =>
      rw [after]
      match h : scanner.nextToken with
      | (some (.ok token), next) => simp [results_of_ok h]
      | (some (.error error), next) => simp [results_of_error h]
      | (none, next) => simp [results_of_none h]
  | succ n ih =>
      rw [after, ih]
      match h : scanner.nextToken with
      | (some (.ok token), next) => simp [results_of_ok h]
      | (some (.error error), next) =>
          have hlast := nextToken_of_failed (failed_of_nextToken_error h)
          simp [results_of_error h, results_of_none hlast]
      | (none, next) =>
          obtain rfl := eq_of_nextToken_none h
          simp [results_of_none h]

theorem after_succ (scanner : Scanner) (n : Nat) :
    scanner.after (n + 1) = (scanner.after n).nextToken.2 := by
  induction n generalizing scanner with
  | zero => rfl
  | succ n ih => rw [after, ih]; rfl

/-! ## scanning all that is left -/

/-- A scan depends on the next token alone. -/
theorem scan_congr {other : Scanner} (h : scanner.next = other.next) :
    scanner.scan = other.scan := by
  rw [scan, scan]
  split <;> split <;> simp_all

theorem next_of_ok (h : scanner.nextToken = (some (.ok token), next)) :
    scanner.next = if token.kind = .ignore then next.next else (some (.ok token), next) := by
  rw [Scanner.next]
  split <;> simp_all

theorem scan_of_ok (h : scanner.nextToken = (some (.ok token), next)) :
    scanner.scan = if token.kind = .ignore then next.scan else next.scan.map (token :: ·) := by
  have hnext := next_of_ok h
  by_cases hignore : token.kind = .ignore
  · rw [if_pos hignore] at hnext ⊢
    exact scan_congr hnext
  · rw [if_neg hignore] at hnext ⊢
    rw [scan]
    split <;> simp_all

theorem scan_of_error (h : scanner.nextToken = (some (.error error), next)) :
    scanner.scan = .error error := by
  have hnext : scanner.next = (some (.error error), next) := by
    rw [Scanner.next]
    split <;> simp_all
  rw [scan]
  split <;> simp_all

theorem scan_of_none (h : scanner.nextToken = (none, next)) : scanner.scan = .ok [] := by
  have hnext : scanner.next = (none, next) := by
    rw [Scanner.next]
    split <;> simp_all
  rw [scan]
  split <;> simp_all

/-- **Scanning is collecting**: a scan gives the tokens among the results that are
no separators, or the error among them. -/
theorem scan_eq (scanner : Scanner) :
    scanner.scan = (scanner.results.mapM id).map (List.filter (·.kind ≠ .ignore)) := by
  fun_induction results scanner with
  | case1 scanner token next h ih =>
      rw [scan_of_ok h, ih, List.mapM_cons]
      cases next.results.mapM id with
      | error error => by_cases hignore : token.kind = .ignore <;> simp [hignore] <;> rfl
      | ok tokens =>
          by_cases hignore : token.kind = .ignore <;>
            simp [hignore, bind, Except.bind, Except.map, pure, Except.pure]
  | case2 scanner error next h => rw [scan_of_error h]; rfl
  | case3 scanner next h => rw [scan_of_none h]; rfl

/-- Collecting tokens and then other results puts the tokens in front of what the
others make. -/
theorem mapM_ok_append (tokens : List Token) (others : List (Except ScanError Token)) :
    (tokens.map Except.ok ++ others).mapM id = (others.mapM id).map (tokens ++ ·) := by
  induction tokens with
  | nil => simp only [List.map_nil, List.nil_append]; cases others.mapM id <;> rfl
  | cons token tokens ih =>
      rw [List.map_cons, List.cons_append, List.mapM_cons, ih]
      cases others.mapM id <;> rfl

theorem scan_of_results_ok {tokens : List Token} (h : scanner.results = tokens.map .ok) :
    scanner.scan = .ok (tokens.filter (·.kind ≠ .ignore)) := by
  have hcollect := mapM_ok_append tokens []
  rw [List.append_nil] at hcollect
  rw [scan_eq, h, hcollect]
  simp [Except.map, pure, Except.pure]

theorem scan_of_results_error {tokens : List Token}
    (h : scanner.results = tokens.map .ok ++ [.error error]) : scanner.scan = .error error := by
  rw [scan_eq, h, mapM_ok_append]
  rfl

end Scanner

/-! ## the run over a text that is cut -/

/-- The place after pieces. -/
def Place.pastPieces (rule : LineRule) (place : Place) (pieces : List Piece) : Place :=
  pieces.foldl (Place.pastPiece rule) place

/-- The tokens of pieces, each at the place behind the pieces before it. -/
def Place.tokens (rule : LineRule) (place : Place) : List Piece → List Token
  | [] => []
  | piece :: pieces => piece.token place :: (place.pastPiece rule piece).tokens rule pieces

@[simp] theorem Place.offset_pastPieces (rule : LineRule) (place : Place) (pieces : List Piece) :
    (place.pastPieces rule pieces).offset = place.offset + Text.byteLength (joined pieces) := by
  induction pieces generalizing place with
  | nil => rfl
  | cons piece pieces ih =>
      rw [Place.pastPieces, List.foldl_cons, ← Place.pastPieces, ih, Place.offset_pastPiece,
        joined_cons, Text.byteLength_append, Nat.add_assoc]

theorem Place.pastPieces_concat (rule : LineRule) (place : Place) (pieces : List Piece)
    (piece : Piece) :
    place.pastPieces rule (pieces ++ [piece]) = (place.pastPieces rule pieces).pastPiece rule piece :=
  List.foldl_append

/-- Where only line feeds end lines, pieces are passed over as text. -/
theorem Place.pastPieces_newline (place : Place) (pieces : List Piece) :
    place.pastPieces .newline pieces = place.past (joined pieces) := by
  induction pieces generalizing place with
  | nil => rfl
  | cons piece pieces ih =>
      rw [joined_cons, Place.past_append, ← ih, ← Place.pastPiece_newline]
      rfl

theorem Place.tokens_append (rule : LineRule) (place : Place) (xs ys : List Piece) :
    place.tokens rule (xs ++ ys) =
      place.tokens rule xs ++ (place.pastPieces rule xs).tokens rule ys := by
  induction xs generalizing place with
  | nil => rfl
  | cons piece pieces ih => rw [List.cons_append, tokens, ih]; rfl

/-- Cut out of the source, the span of a token gives the text of its piece. -/
theorem slice?_token {source before rest : List Char} {place : Place} {piece : Piece}
    (hsource : source = before ++ (piece.text ++ rest))
    (hplace : place.offset = Text.byteLength before) :
    (piece.token place).span.slice? source = some piece.text := by
  rw [Span.slice?_eq_some_iff]
  refine ⟨before, rest, by simp [hsource], hplace.symm, ?_⟩
  rw [← hplace]
  rfl

theorem map_slice?_tokens (rule : LineRule) {source before left : List Char} {place : Place}
    {pieces : List Piece} (hsource : source = before ++ (joined pieces ++ left))
    (hplace : place.offset = Text.byteLength before) :
    (place.tokens rule pieces).map (fun token => (token.kind, token.span.slice? source)) =
      pieces.map fun piece => (piece.kind, some piece.text) := by
  induction pieces generalizing before place with
  | nil => rfl
  | cons piece pieces ih =>
      rw [joined_cons, List.append_assoc] at hsource
      have htail := @ih (before ++ piece.text) (place.pastPiece rule piece)
        (by simp [hsource]) (by simp [hplace])
      rw [Place.tokens, List.map_cons, List.map_cons, htail, slice?_token hsource hplace]
      rfl

namespace Cursor

/-- The scanner that stands at a cursor and has met no error. -/
def toScanner (cursor : Cursor) : Scanner := { cursor }

/-- The cursor behind pieces, with `left` still to be read. -/
def behindAll (cursor : Cursor) (pieces : List Piece) (left : List Char) : Cursor :=
  { cursor with rest := left, place := cursor.place.pastPieces cursor.rule pieces }

variable {cursor : Cursor} {rest : List Char}

theorem nextToken_of_nil (h : cursor.rest = []) :
    cursor.toScanner.nextToken = (none, cursor.toScanner) := by
  simp [Scanner.nextToken, toScanner, atEnd, h]

theorem nextToken_of_isLexeme {piece : Piece} (h : cursor.rest = piece.text ++ rest)
    (hlex : IsLexeme piece.kind piece.text) (hends : Ends piece.text rest) :
    cursor.toScanner.nextToken =
      (some (.ok (piece.token cursor.place)), (cursor.behind piece rest).toScanner) := by
  have hmore : cursor.atEnd = false := by
    simp [atEnd, h, hlex.ne_nil]
  simp [Scanner.nextToken, toScanner, hmore, readLexeme_of_isLexeme h hlex hends]

theorem nextToken_of_breaks {fault : Fault} {bad : List Char}
    (h : Breaks cursor.rest fault bad) :
    cursor.toScanner.nextToken =
      (some (.error (cursor.faultAt fault bad)),
        { cursor := cursor.pastFault fault bad, failed := true }) := by
  have hmore : cursor.atEnd = false := by
    simp [atEnd, h.ne_nil]
  simp [Scanner.nextToken, toScanner, hmore, readLexeme_of_breaks h]

/-- **What one call can do**: at the end of the text nothing comes; else a lexeme is
passed over, or a fault ends the scan. -/
theorem nextToken_cases (cursor : Cursor) :
    cursor.rest = [] ∧ cursor.toScanner.nextToken = (none, cursor.toScanner) ∨
      (∃ piece rest, cursor.rest = piece.text ++ rest ∧ IsLexeme piece.kind piece.text ∧
        cursor.toScanner.nextToken =
          (some (.ok (piece.token cursor.place)), (cursor.behind piece rest).toScanner)) ∨
      ∃ fault bad, Breaks cursor.rest fault bad ∧
        cursor.toScanner.nextToken =
          (some (.error (cursor.faultAt fault bad)),
            { cursor := cursor.pastFault fault bad, failed := true }) := by
  match hrest : cursor.rest with
  | [] => exact .inl ⟨rfl, nextToken_of_nil hrest⟩
  | c :: cs =>
      rcases begins_or_breaks c cs with ⟨piece, rest, htext, hlex, hends⟩ | ⟨fault, bad, hbreaks⟩
      · rw [htext] at hrest
        exact .inr (.inl ⟨piece, rest, htext, hlex, nextToken_of_isLexeme hrest hlex hends⟩)
      · have hbreaks' : Breaks cursor.rest fault bad := hrest ▸ hbreaks
        exact .inr (.inr ⟨fault, bad, hbreaks, nextToken_of_breaks hbreaks'⟩)

/-- **The run over a text that is cut** gives the tokens of the pieces and goes on
with what is left. -/
theorem results_of_cuts {text left : List Char} {pieces : List Piece}
    (hrest : cursor.rest = text) (h : Cuts text pieces left) :
    cursor.toScanner.results =
      (cursor.place.tokens cursor.rule pieces).map .ok ++
        (cursor.behindAll pieces left).toScanner.results := by
  induction h generalizing cursor with
  | done => subst hrest; rfl
  | piece hlex hends h ih =>
      rw [Scanner.results_of_ok (nextToken_of_isLexeme hrest hlex hends), ih rfl]
      rfl

/-- A call for each piece takes the scanner behind all of them. -/
theorem after_of_cuts {text left : List Char} {pieces : List Piece}
    (hrest : cursor.rest = text) (h : Cuts text pieces left) :
    cursor.toScanner.after pieces.length = (cursor.behindAll pieces left).toScanner := by
  induction h generalizing cursor with
  | done => subst hrest; rfl
  | piece hlex hends h ih =>
      rw [List.length_cons, Scanner.after, nextToken_of_isLexeme hrest hlex hends, ih rfl]
      rfl

/-- The answers to a run end where the text does or with the error about the place
where the grammar breaks. -/
theorem results_of_breaks {fault : Fault} {bad : List Char} (h : Breaks cursor.rest fault bad) :
    cursor.toScanner.results = [.error (cursor.faultAt fault bad)] :=
  Scanner.results_of_error (nextToken_of_breaks h)

theorem results_of_nil (h : cursor.rest = []) : cursor.toScanner.results = [] :=
  Scanner.results_of_none (nextToken_of_nil h)

end Cursor

/-! ## one text, wherever it starts -/

/-- The error about a faulty text at a place. -/
def Place.faultAt (place : Place) (fault : Fault) (bad : List Char) : ScanError :=
  ⟨fault, ⟨place.offset, place.offset + Text.byteLength bad, place.line, place.column⟩⟩

/-- The answers that pieces make from a place on, and behind them the error about the
faulty text that follows, if one does. -/
def Place.answers (rule : LineRule) (place : Place) (pieces : List Piece)
    (stop : Option (Fault × List Char)) : List (Except ScanError Token) :=
  (place.tokens rule pieces).map .ok ++
    (stop.map fun (fault, bad) =>
      .error ((place.pastPieces rule pieces).faultAt fault bad)).toList

theorem Place.answers_cons (rule : LineRule) (place : Place) (piece : Piece)
    (pieces : List Piece) (stop : Option (Fault × List Char)) :
    place.answers rule (piece :: pieces) stop =
      .ok (piece.token place) :: (place.pastPiece rule piece).answers rule pieces stop :=
  rfl

/-- **The text alone decides what comes**: wherever a scan stands and whichever rule it
counts lines by, before the same text it answers with the same pieces and stops at the
same fault.  Only the places differ. -/
theorem exists_answers (text : List Char) : ∃ pieces stop, ∀ cursor : Cursor,
    cursor.rest = text → cursor.toScanner.results = cursor.place.answers cursor.rule pieces stop := by
  obtain ⟨pieces, left, hcuts, hleft⟩ := exists_cuts text
  rcases hleft with rfl | ⟨fault, bad, hbreaks⟩
  · refine ⟨pieces, none, fun cursor hrest => ?_⟩
    rw [Cursor.results_of_cuts hrest hcuts, Cursor.results_of_nil rfl]
    rfl
  · refine ⟨pieces, some (fault, bad), fun cursor hrest => ?_⟩
    rw [Cursor.results_of_cuts hrest hcuts, Cursor.results_of_breaks hbreaks]
    rfl

namespace Scanner

/-- The cursor of a fresh scanner behind the pieces of its source. -/
def cursorAfter (rule : LineRule) (source : List Char) (pieces : List Piece)
    (left : List Char) : Cursor :=
  (Cursor.start rule source).behindAll pieces left

/-- The tokens that the pieces of a source make, from its start. -/
def tokensOf (rule : LineRule) (pieces : List Piece) : List Token :=
  Place.tokens rule {} pieces

theorem results_start (rule : LineRule) {source left : List Char} {pieces : List Piece}
    (h : Cuts source pieces left) :
    (start rule source).results =
      (tokensOf rule pieces).map .ok ++ (cursorAfter rule source pieces left).toScanner.results :=
  Cursor.results_of_cuts (show (Cursor.start rule source).rest = source from rfl) h

/-- The tokens of a fresh scanner cover the pieces of its source. -/
theorem map_slice?_tokensOf (rule : LineRule) {source left : List Char} {pieces : List Piece}
    (h : Cuts source pieces left) :
    (tokensOf rule pieces).map (fun token => (token.kind, token.span.slice? source)) =
      pieces.map fun piece => (piece.kind, some piece.text) :=
  map_slice?_tokens rule (show source = [] ++ (joined pieces ++ left) from h.text_eq) rfl

/-- **How a run ends**: the answers of a fresh scanner are the tokens of the pieces of
its source, and after them the error about the place where the grammar breaks. -/
theorem exists_results (rule : LineRule) (source : List Char) :
    ∃ pieces left, Cuts source pieces left ∧
      (left = [] ∧ (start rule source).results = (tokensOf rule pieces).map .ok ∨
        ∃ fault bad, Breaks left fault bad ∧
          (start rule source).results = (tokensOf rule pieces).map .ok ++
            [.error ((cursorAfter rule source pieces left).faultAt fault bad)]) := by
  obtain ⟨pieces, left, hcuts, hleft⟩ := exists_cuts source
  refine ⟨pieces, left, hcuts, ?_⟩
  have hresults := results_start rule hcuts
  rcases hleft with rfl | ⟨fault, bad, hbreaks⟩
  · rw [Cursor.results_of_nil rfl, List.append_nil] at hresults
    exact .inl ⟨rfl, hresults⟩
  · rw [Cursor.results_of_breaks hbreaks] at hresults
    exact .inr ⟨fault, bad, hbreaks, hresults⟩

end Scanner

end ScriptScan
