import ScriptScan.Proofs.Location

/-!
# ScriptScan.Proofs.Relocation

Answers of a scan whose locations are changed and nothing else, and the one change
that takes a scan from the start of a text to the middle of a source.

* `relocate`, `relocateAll` — a change of spans, carried over to answers and to the
  outcomes of scans; `collect_relocate` says that collecting commutes with it;
* `Span.shift` — where a span of a text lies if the text starts at a given place;
* `Place.answers_shift` — passing over pieces commutes with it;
* `results_after_eq_shift` — between two lexemes a scan goes on as a fresh one over
  what is left would, but for that change.
-/

namespace ScriptScan

/-! ## changing locations -/

/-- A token with its location changed.  Its own line changes as that of its span. -/
def Token.relocate (move : Span → Span) (token : Token) : Token :=
  { token with
    line := (move { token.span with line := token.line }).line
    span := move token.span }

/-- An error with its location changed. -/
def ScanError.relocate (move : Span → Span) (error : ScanError) : ScanError :=
  { error with span := move error.span }

/-- A token or an error with its location changed. -/
def relocate (move : Span → Span) : Except ScanError Token → Except ScanError Token
  | .ok token => .ok (token.relocate move)
  | .error error => .error (error.relocate move)

/-- The outcome of a scan with all locations in it changed. -/
def relocateAll (move : Span → Span) :
    Except ScanError (List Token) → Except ScanError (List Token)
  | .ok tokens => .ok (tokens.map (·.relocate move))
  | .error error => .error (error.relocate move)

/-- What a scan makes of the answers to its calls: the tokens that are no separators,
or the first error. -/
def collect (answers : List (Except ScanError Token)) : Except ScanError (List Token) :=
  (answers.mapM id).map (List.filter (·.kind ≠ .ignore))

theorem Scanner.scan_eq_collect (scanner : Scanner) : scanner.scan = collect scanner.results :=
  scan_eq scanner

theorem collect_append (tokens : List Token) (answers : List (Except ScanError Token)) :
    collect (tokens.map .ok ++ answers) =
      (collect answers).map (tokens.filter (·.kind ≠ .ignore) ++ ·) := by
  rw [collect, Scanner.mapM_ok_append, collect]
  cases answers.mapM id with
  | error error => rfl
  | ok others => exact congrArg Except.ok (List.filter_append tokens others)

theorem collect_ok_cons (token : Token) (answers : List (Except ScanError Token)) :
    collect (.ok token :: answers) =
      (collect answers).map ([token].filter (·.kind ≠ .ignore) ++ ·) :=
  collect_append [token] answers

/-- Changed locations change nothing about what is collected but the locations. -/
theorem collect_relocate (move : Span → Span) (answers : List (Except ScanError Token)) :
    collect (answers.map (relocate move)) = relocateAll move (collect answers) := by
  induction answers with
  | nil => rfl
  | cons answer answers ih =>
      cases answer with
      | error error => rfl
      | ok token =>
          rw [List.map_cons, relocate, collect_ok_cons, collect_ok_cons, ih]
          cases collect answers with
          | error error => rfl
          | ok tokens =>
              by_cases hignore : token.kind = .ignore <;>
                simp [relocateAll, Except.map, Token.relocate, hignore]

/-! ## a text that starts elsewhere -/

/-- Where a place in a text lies in a source if the text starts at `base`.  Only on the
first line of the text does the column of `base` matter. -/
def Place.shift (base place : Place) : Place where
  offset := base.offset + place.offset
  line := base.line - 1 + place.line
  column := if place.line = 1 then base.column - 1 + place.column else place.column

/-- Where a span of a text lies in a source if the text starts at `base`. -/
def Span.shift (base : Place) (span : Span) : Span :=
  let first := base.shift span.place
  ⟨first.offset, base.offset + span.stop, first.line, first.column⟩

namespace Place

/-- The start of the text lies where the text starts. -/
theorem shift_start {base : Place} (hline : 1 ≤ base.line) (hcolumn : 1 ≤ base.column) :
    base.shift {} = base := by
  obtain ⟨offset, line, column⟩ := base
  simp only [shift, Nat.add_zero, Nat.sub_add_cancel hline, Nat.sub_add_cancel hcolumn, if_pos]

variable {place : Place} (base : Place)

theorem shift_newLine (hline : 1 ≤ place.line) :
    (base.shift place).newLine = base.shift place.newLine := by
  have hlater : place.line ≠ 0 := by omega
  simp [shift, newLine, hlater, Nat.add_assoc]

theorem shift_next (hline : 1 ≤ place.line) (c : Char) :
    (base.shift place).next c = base.shift (place.next c) := by
  by_cases hc : c = '\n'
  · have hlater : place.line ≠ 0 := by omega
    simp [next, hc, shift, newLine, hlater, Nat.add_assoc]
  · by_cases hfirst : place.line = 1 <;>
      simp [next, if_neg hc, shift, hfirst, Nat.add_assoc]

theorem shift_nextSeparator (hline : 1 ≤ place.line) (rule : LineRule) (c : Char) :
    (base.shift place).nextSeparator rule c = base.shift (place.nextSeparator rule c) := by
  have hnext : 1 ≤ (place.next c).line := by rw [line_next]; omega
  simp only [nextSeparator, shift_next base hline]
  split
  · rw [shift_newLine base hnext]
  · rfl

theorem shift_past (hline : 1 ≤ place.line) (text : List Char) :
    (base.shift place).past text = base.shift (place.past text) := by
  induction text generalizing place with
  | nil => rfl
  | cons c cs ih =>
      have hnext : 1 ≤ (place.next c).line := by rw [line_next]; omega
      rw [past_cons, past_cons, shift_next base hline, ih hnext]

theorem shift_pastPiece (hline : 1 ≤ place.line) (rule : LineRule) (piece : Piece) :
    (base.shift place).pastPiece rule piece = base.shift (place.pastPiece rule piece) := by
  rw [pastPiece, pastPiece]
  cases piece.blank? with
  | some c => exact shift_nextSeparator base hline rule c
  | none => exact shift_past base hline piece.text

/-- A place never lies above the place where a piece before it starts. -/
theorem line_le_pastPiece (place : Place) (rule : LineRule) (piece : Piece) :
    place.line ≤ (place.pastPiece rule piece).line := by
  rw [pastPiece]
  cases piece.blank? with
  | some c =>
      show place.line ≤ (place.nextSeparator rule c).line
      unfold nextSeparator
      split <;> simp only [newLine, line_next] <;> omega
  | none => exact line_past place piece.text ▸ Nat.le_add_right _ _

theorem offset_shift (base place : Place) :
    (base.shift place).offset = base.offset + place.offset := rfl

theorem token_shift (base place : Place) (piece : Piece) :
    piece.token (base.shift place) = (piece.token place).relocate (Span.shift base) := by
  rw [Piece.token, offset_shift, Nat.add_assoc]
  rfl

theorem faultAt_shift (base place : Place) (fault : Fault) (bad : List Char) :
    (base.shift place).faultAt fault bad =
      (place.faultAt fault bad).relocate (Span.shift base) := by
  rw [faultAt, offset_shift, Nat.add_assoc]
  rfl

/-- **Answers move with the text**: the answers that pieces make do not depend on where
the text of the pieces starts, but for their locations. -/
theorem answers_shift (hline : 1 ≤ place.line) (rule : LineRule) (pieces : List Piece)
    (stop : Option (Fault × List Char)) :
    (base.shift place).answers rule pieces stop =
      (place.answers rule pieces stop).map (relocate (Span.shift base)) := by
  induction pieces generalizing place with
  | nil =>
      cases stop with
      | none => rfl
      | some found =>
          obtain ⟨fault, bad⟩ := found
          show [Except.error ((base.shift place).faultAt fault bad)] = _
          rw [faultAt_shift]
          rfl
  | cons piece pieces ih =>
      have htail := ih (Nat.le_trans hline (place.line_le_pastPiece rule piece))
      rw [answers_cons, answers_cons, List.map_cons, shift_pastPiece base hline, htail, token_shift]
      rfl

end Place

/-- **No memory**: what a scan answers from a cursor on is what a fresh one answers over
the text that is left, moved to where the cursor stands. -/
theorem Cursor.results_eq_shift {cursor : Cursor} (hline : 1 ≤ cursor.place.line)
    (hcolumn : 1 ≤ cursor.place.column) :
    cursor.toScanner.results =
      (Scanner.start cursor.rule cursor.rest).results.map
        (relocate (Span.shift cursor.place)) := by
  obtain ⟨pieces, stop, hanswers⟩ := exists_answers cursor.rest
  have hfresh : (Scanner.start cursor.rule cursor.rest).results =
      Place.answers cursor.rule {} pieces stop :=
    hanswers (.start cursor.rule cursor.rest) rfl
  rw [hanswers cursor rfl, hfresh, ← Place.answers_shift cursor.place (Nat.le_refl 1),
    Place.shift_start hline hcolumn]

/-! ## from the middle of a source -/

/-- The places that a scan passes have lines and columns from 1 on. -/
theorem one_le_pastPieces (rule : LineRule) (pieces : List Piece) :
    1 ≤ (Place.pastPieces rule {} pieces).line ∧ 1 ≤ (Place.pastPieces rule {} pieces).column := by
  have hcounts := Place.Counts.start.pastPieces rule pieces
  rw [hcounts.line_eq, hcounts.column_eq]
  omega

/-- A scan behind the first pieces of its source answers as a fresh one over what is
left would. -/
theorem Scanner.results_cursorAfter (rule : LineRule) (source : List Char)
    (pieces : List Piece) (left : List Char) :
    (cursorAfter rule source pieces left).toScanner.results =
      (start rule left).results.map
        (relocate (Span.shift (Place.pastPieces rule {} pieces))) :=
  Cursor.results_eq_shift (one_le_pastPieces rule pieces).1 (one_le_pastPieces rule pieces).2

/-- Calls that all give tokens pass over as many pieces. -/
theorem Scanner.exists_after (rule : LineRule) (source : List Char) (k : Nat)
    (h : ∀ i < k, ∃ token, ((start rule source).after i).nextToken.1 = some (.ok token)) :
    ∃ pieces left, Cuts source pieces left ∧
      (start rule source).after k = (cursorAfter rule source pieces left).toScanner := by
  obtain ⟨pieces, hruns⟩ := exists_runsOver rule source
  obtain ⟨left, hcuts⟩ := hruns.cuts
  have hk : k ≤ pieces.length := by
    -- the call behind the last piece gives no token
    by_contra hlt
    obtain ⟨token, htoken⟩ := h pieces.length (by omega)
    obtain ⟨-, error, herror, -⟩ := hruns.error pieces.length _ (by simp) htoken
    cases herror
  rw [← List.take_append_drop k pieces] at hcuts
  obtain ⟨mid, hbefore, -⟩ := hcuts.split
  refine ⟨pieces.take k, mid, hbefore, ?_⟩
  have hafter := Cursor.after_of_cuts (show (Cursor.start rule source).rest = source from rfl) hbefore
  rwa [List.length_take_of_le hk] at hafter

/-- A token of a run is that of a lexeme, behind the pieces of what comes before it. -/
theorem Scanner.exists_cuts_of_mem {rule : LineRule} {source : List Char} {token : Token}
    (h : .ok token ∈ (start rule source).results) :
    ∃ (pieces : List Piece) (piece : Piece) (rest : List Char),
      Cuts source (pieces ++ [piece]) rest ∧
        token = piece.token (Place.pastPieces rule {} pieces) := by
  obtain ⟨pieces, hruns⟩ := exists_runsOver rule source
  obtain ⟨left, hcuts⟩ := hruns.cuts
  obtain ⟨k, piece, hpiece, rfl⟩ := hruns.exists_piece h
  rw [← List.take_append_drop (k + 1) pieces, List.take_add_one, hpiece] at hcuts
  obtain ⟨rest, hupto, -⟩ := hcuts.split
  exact ⟨pieces.take k, piece, rest, hupto, rfl⟩

/-- A token covers `text`, which stands between `before` and `after` in a source. -/
structure Token.Covers (token : Token) (source before text after : List Char) : Prop where
  source_eq : source = before ++ text ++ after
  start_eq : token.span.start = Text.byteLength before
  stop_eq : token.span.stop = Text.byteLength before + Text.byteLength text

/-- A token covers one text of a source, at one place. -/
theorem Token.Covers.unique {token : Token}
    {source before text after before' text' after' : List Char}
    (h : token.Covers source before text after) (h' : token.Covers source before' text' after') :
    before = before' ∧ text = text' ∧ after = after' := by
  have hstart := h.start_eq.symm.trans h'.start_eq
  have hstop := h.stop_eq.symm.trans h'.stop_eq
  have hsource := h.source_eq.symm.trans h'.source_eq
  obtain ⟨hfront, hafter⟩ := Text.append_inj_of_byteLength hsource (by simpa using hstop)
  obtain ⟨hbefore, htext⟩ := Text.append_inj_of_byteLength hfront hstart
  exact ⟨hbefore, htext, hafter⟩

theorem Token.covers_of_cuts (rule : LineRule) {source rest : List Char} {pieces : List Piece}
    {piece : Piece} (h : Cuts source (pieces ++ [piece]) rest) :
    (piece.token (Place.pastPieces rule {} pieces)).Covers source (joined pieces) piece.text rest where
  source_eq := by rw [h.text_eq, joined_append, joined_cons, joined_nil, List.append_nil]
  start_eq := by simp [Piece.token, Token.of]
  stop_eq := by simp [Piece.token, Token.of]

/-- The run over a source around one of its lexemes: the tokens before it, its own, and the
run over what follows it, moved to where it ends. -/
theorem Scanner.results_around (rule : LineRule) {source rest : List Char} {pieces : List Piece}
    {piece : Piece} (h : Cuts source (pieces ++ [piece]) rest) :
    (start rule source).results = (tokensOf rule pieces).map .ok ++
      .ok (piece.token (Place.pastPieces rule {} pieces)) ::
        (start rule rest).results.map (relocate (Span.shift
          ((Place.pastPieces rule {} pieces).pastPiece rule piece))) := by
  rw [results_start rule h, results_cursorAfter, tokensOf, Place.tokens_append, List.map_append,
    Place.pastPieces_concat, List.append_assoc]
  rfl

/-- **Lexemes are read independently of everything before them**: after calls that all
gave tokens, the answers still to come are those of a fresh scan over the rest of the
source, with every span and line moved by where the scan stands. -/
theorem results_after_eq_shift (rule : LineRule) (source : List Char) (k : Nat)
    (h : ∀ i < k, ∃ token,
      ((Scanner.start rule source).after i).nextToken.1 = some (.ok token)) :
    ∃ before rest,
      Text.splitAtByte? ((Scanner.start rule source).after k).position source =
        some (before, rest) ∧
      ((Scanner.start rule source).after k).results =
        (Scanner.start rule rest).results.map
          (relocate (Span.shift ((Scanner.start rule source).after k).cursor.place)) := by
  obtain ⟨pieces, left, hcuts, hafter⟩ := Scanner.exists_after rule source k h
  refine ⟨joined pieces, left, ?_, ?_⟩
  · rw [Text.splitAtByte?_eq_some_iff]
    refine ⟨hcuts.text_eq, ?_⟩
    have hplace := Place.offset_pastPieces rule {} pieces
    rw [Nat.zero_add] at hplace
    rw [hafter]
    exact hplace.symm
  · rw [hafter]
    exact Scanner.results_cursorAfter rule source pieces left

/-- Behind a string of two lines and a tab that ends a line. -/
theorem results_after_eq_shift_behind_tab :
    (∀ i < 2, ∃ token,
      ((Scanner.start .legacy ['"', '\n', '"', '\t', '#']).after i).nextToken.1 =
        some (.ok token)) ∧
    ∃ before rest,
      Text.splitAtByte?
          ((Scanner.start .legacy ['"', '\n', '"', '\t', '#']).after 2).position
          ['"', '\n', '"', '\t', '#'] =
        some (before, rest) ∧
      ((Scanner.start .legacy ['"', '\n', '"', '\t', '#']).after 2).results =
        (Scanner.start .legacy rest).results.map (relocate (Span.shift
          ((Scanner.start .legacy ['"', '\n', '"', '\t', '#']).after 2).cursor.place)) := by
  have htokens : ∀ i < 2, ∃ token,
      ((Scanner.start .legacy ['"', '\n', '"', '\t', '#']).after i).nextToken.1 =
        some (.ok token) := by
    intro i hi
    match i, hi with
    | 0, _ => exact ⟨.of .string "\n" ⟨0, 3, 1, 1⟩, by decide +kernel⟩
    | 1, _ => exact ⟨.of .ignore "\t" ⟨3, 4, 2, 2⟩, by decide +kernel⟩
  exact ⟨htokens, results_after_eq_shift .legacy ['"', '\n', '"', '\t', '#'] 2 htokens⟩

end ScriptScan
