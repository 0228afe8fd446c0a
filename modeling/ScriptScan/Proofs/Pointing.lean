import ScriptScan.Proofs.Concatenation
import ScriptScan.Proofs.Rendering

/-!
# ScriptScan.Proofs.Pointing

The snippet under an error against the line and column that the error tells.

The snippet is found from the byte at which the error starts, line and column are counted
along the scan.  Both come from the text before the error.

* `Points` — the snippet quotes the line of the error, and its carets stand under the
  column of the error;
* `points_of_breaks` — where only line feeds end lines, it does so before every fault;
* `Snippet.of?_congr`, `textAt_congr` — another line rule leaves snippet and message alone;
* `diagnostics_point_at_error` — the text of a diagnostic under both rules.
-/

namespace ScriptScan

/-! ## the text of a diagnostic -/

/-- The text about an error, with a snippet below the given line and column. -/
def ScanError.textAt (error : ScanError) (snippet : Snippet) (line column : Nat) : String :=
  (error.toDiagnostic.withSpan ⟨error.span.start, error.span.stop, line, column⟩).textWith snippet

theorem span_toDiagnostic (error : ScanError) : error.toDiagnostic.span = error.span := by
  unfold ScanError.toDiagnostic
  cases error.fault <;> rfl

/-- An error with a line and a snippet is shown with both. -/
theorem render_toDiagnostic {error : ScanError} {source : List Char} {snippet : Snippet}
    (hline : 1 ≤ error.line) (hsnippet : Snippet.of? error.span source = some snippet) :
    error.toDiagnostic.render (some source) =
      error.textAt snippet error.line error.span.column := by
  have hsomewhere : 0 < error.span.line := hline
  have hshown : error.toDiagnostic.snippet? (some source) = some snippet := by
    rw [Diagnostic.snippet?, span_toDiagnostic, if_pos hsomewhere]
    exact hsnippet
  have hspan : error.toDiagnostic.withSpan error.span = error.toDiagnostic := by
    rw [← span_toDiagnostic]
    rfl
  rw [Diagnostic.render_eq_textWith, hshown, ← hspan]
  rfl

/-- Of an error only the fault and the byte at which it starts are told in words. -/
theorem textAt_congr {error other : ScanError} (hfault : other.fault = error.fault)
    (hposition : other.position = error.position) : other.textAt = error.textAt := by
  obtain ⟨fault, span⟩ := error
  obtain ⟨fault', span'⟩ := other
  obtain rfl : fault' = fault := hfault
  funext snippet line column
  cases fault' <;>
    simp [ScanError.textAt, ScanError.toDiagnostic, Diagnostic.withSpan, Diagnostic.withHelp,
      Diagnostic.withNote, Diagnostic.textWith, ScanError.message, ScanError.code, hposition]

/-! ## snippets -/

/-- The line and column of a span are of no account to its snippet. -/
theorem Snippet.of?_congr {span other : Span} (hstart : other.start = span.start)
    (hstop : other.stop = span.stop) : Snippet.of? other = Snippet.of? span := by
  funext source
  simp only [Snippet.of?, Snippet.caretCount, Span.slice?, hstart, hstop]

variable {before left bad : List Char} {fault : Fault} {span : Span}

/-- The snippet at the byte where two parts of a source meet. -/
theorem Snippet.of?_append (hstart : span.start = Text.byteLength before) :
    Snippet.of? span (before ++ left) =
      some ⟨Text.trimReturns (Text.lastLine before ++ Text.firstLine left),
        (Text.lastLine before).length, Snippet.caretCount span (before ++ left)⟩ := by
  rw [Snippet.of?, hstart, Text.splitAtByte?_append]
  rfl

/-- No text at fault holds a blank, but for a string that is still open. -/
theorem Breaks.not_mem_blanks (h : Breaks left fault bad) (hfault : fault ≠ .unterminatedString) :
    ∀ c ∈ bad, c ∉ blanks := by
  intro c hc hblank
  cases h with
  | unexpectedCharacter hstart =>
      obtain rfl := List.mem_singleton.1 hc
      exact hstart.1 hblank
  | unterminatedString => exact hfault rfl
  | @tooManyDecimals d ds _ hd hds =>
      have hnumeral : ∀ x ∈ d :: ds, Numeral x := List.forall_mem_cons.2 ⟨.inl hd, hds⟩
      exact not_numeral_of_mem_blanks hblank (hnumeral c hc)

/-- The carets stand under a text at fault that lies on one line. -/
theorem caretCount_of_breaks (h : Breaks left fault bad) (hfeed : '\n' ∉ bad)
    (hstart : span.start = Text.byteLength before)
    (hstop : span.stop = span.start + Text.byteLength bad) :
    Snippet.caretCount span (before ++ left) = bad.length := by
  obtain ⟨hne, rest, rfl⟩ := h.exists_append
  have hslice : span.slice? (before ++ (bad ++ rest)) = some bad :=
    Span.slice?_eq_some_iff.2 ⟨before, rest, (List.append_assoc _ _ _).symm, hstart.symm,
      by rw [hstop, hstart]⟩
  have hpos := List.length_pos_iff.2 hne
  rw [Snippet.caretCount, hslice, Option.map_some, Option.getD_some, Snippet.firstRow,
    if_neg hfeed]
  exact Nat.max_eq_right hpos

/-- The quoted line goes on with a text at fault that lies on one line. -/
theorem prefix_drop_quoted (h : Breaks left fault bad) (hblanks : ∀ c ∈ bad, c ∉ blanks)
    (before : List Char) :
    bad <+: (Text.trimReturns (Text.lastLine before ++ Text.firstLine left)).drop
      (Text.lastLine before).length := by
  obtain ⟨hne, rest, rfl⟩ := h.exists_append
  have hfeed : '\n' ∉ bad := fun hmem => hblanks '\n' hmem (by decide)
  have hlast : (Text.lastLine before ++ bad).getLast? ≠ some '\r' := by
    intro hreturn
    rw [List.getLast?_append_of_ne_nil _ hne] at hreturn
    exact hblanks '\r' (List.mem_of_getLast? hreturn) (by decide)
  rw [Text.firstLine_append_of_not_mem hfeed, ← List.append_assoc,
    Text.trimReturns_append hlast, List.append_assoc, List.drop_left]
  exact List.prefix_append _ _

/-! ## errors and their snippets -/

/-- A snippet quotes the line of an error and underlines the text at fault, as far as that
text is told in the error. -/
structure Points (source : List Char) (error : ScanError) (snippet : Snippet) : Prop where
  /-- Lines and columns count from 1. -/
  one_le : 1 ≤ error.line ∧ 1 ≤ error.span.column
  /-- The quoted text is the line of the error without the carriage returns at its end. -/
  line_eq : ∃ n, (source.splitOn '\n')[error.line - 1]? =
    some (snippet.quoted ++ List.replicate n '\r')
  getLast?_quoted : snippet.quoted.getLast? ≠ some '\r'
  /-- The carets stand under the column of the error. -/
  indent_eq : snippet.indent = error.span.column - 1
  underlined : match error.fault with
    | .unexpectedCharacter c =>
      [c] <+: snippet.quoted.drop snippet.indent ∧ snippet.carets = 1
    | .tooManyDecimals text =>
      text.toList <+: snippet.quoted.drop snippet.indent ∧ snippet.carets = text.length
    | .unterminatedString => True

/-- What is quoted is told by the line. -/
theorem Points.quoted_eq {source line : List Char} {error : ScanError} {snippet : Snippet}
    (h : Points source error snippet)
    (hline : (source.splitOn '\n')[error.line - 1]? = some line) :
    snippet.quoted = Text.trimReturns line := by
  obtain ⟨n, hn⟩ := h.line_eq
  obtain rfl : line = _ := Option.some.inj (hline.symm.trans hn)
  exact (Text.trimReturns_append_replicate h.getLast?_quoted n).symm

/-- The snippet at a fault points to it, if lines were counted by line feeds. -/
theorem points_of_breaks (h : Breaks left fault bad) (before : List Char) :
    ∃ snippet, Snippet.of? ((Place.past {} before).faultAt fault bad).span (before ++ left) =
        some snippet ∧
      Points (before ++ left) ((Place.past {} before).faultAt fault bad) snippet := by
  have hstart : ((Place.past {} before).faultAt fault bad).span.start =
      Text.byteLength before := by
    show (Place.past {} before).offset = _
    rw [Place.offset_past, Nat.zero_add]
  refine ⟨_, Snippet.of?_append hstart, ?_, ?_, ?_, ?_, ?_⟩
  · have hcounts := Place.Counts.start.past before
    show 1 ≤ (Place.past {} before).line ∧ 1 ≤ (Place.past {} before).column
    rw [hcounts.line_eq, hcounts.column_eq]
    omega
  · have hline : ((Place.past {} before).faultAt fault bad).line - 1 = before.count '\n' :=
      Place.line_past_start before
    obtain ⟨⟨n, hn⟩, -⟩ := Text.exists_eq_trimReturns_append
      (Text.lastLine before ++ Text.firstLine left)
    refine ⟨n, ?_⟩
    rw [hline, Text.getElem?_splitOn]
    exact congrArg some hn
  · exact (Text.exists_eq_trimReturns_append _).2
  · exact (Place.column_past_start before).symm
  · have hbad := h.bad_eq
    have hvisible : fault ≠ .unterminatedString →
        bad <+: (Text.trimReturns (Text.lastLine before ++ Text.firstLine left)).drop
            (Text.lastLine before).length ∧
          Snippet.caretCount ((Place.past {} before).faultAt fault bad).span (before ++ left) =
            bad.length := by
      intro hfault
      have hblanks := h.not_mem_blanks hfault
      have hfeed : '\n' ∉ bad := fun hmem => hblanks '\n' hmem (by decide)
      exact ⟨prefix_drop_quoted h hblanks before, caretCount_of_breaks h hfeed hstart rfl⟩
    cases fault with
    | unexpectedCharacter c =>
        subst hbad
        exact hvisible nofun
    | unterminatedString => trivial
    | tooManyDecimals text =>
        subst hbad
        exact hvisible nofun

/-- Where the grammar breaks, the scan stops with the error about it under either rule. -/
theorem scan_of_breaks (rule : LineRule) {source : List Char} {pieces : List Piece}
    (hcuts : Cuts source pieces left) (hbreaks : Breaks left fault bad) :
    (Scanner.start rule source).scan =
      .error ((Place.pastPieces rule {} pieces).faultAt fault bad) := by
  have hresults : (Scanner.start rule source).results =
      (Scanner.tokensOf rule pieces).map .ok ++
        [.error ((Place.pastPieces rule {} pieces).faultAt fault bad)] := by
    rw [Scanner.results_start rule hcuts, Cursor.results_of_breaks hbreaks]
    rfl
  exact Scanner.scan_of_results_error hresults

/-- **Diagnostics point where the scan stopped**: the text about an error quotes the line of
the source that the error tells, and its carets stand under the column that the error
tells.  Under the legacy rule the text is the same but for the line and column in it. -/
theorem diagnostics_point_at_error (source : List Char) (error : ScanError)
    (h : scanWith ⟨.newline⟩ source = .error error) :
    ∃ snippet, Points source error snippet ∧
      error.toDiagnostic.render (some source) =
        error.textAt snippet error.line error.span.column ∧
      ∃ other, scanWith ⟨.legacy⟩ source = .error other ∧
        other.toDiagnostic.render (some source) =
          error.textAt snippet other.line other.span.column := by
  obtain ⟨pieces, left, fault, bad, hcuts, hbreaks, rfl⟩ := cuts_of_scan_error h
  have hsource := hcuts.text_eq
  subst hsource
  obtain ⟨snippet, hsnippet, hpoints⟩ := points_of_breaks hbreaks (joined pieces)
  rw [Place.pastPieces_newline]
  refine ⟨snippet, hpoints, render_toDiagnostic hpoints.one_le.1 hsnippet, _,
    scan_of_breaks .legacy hcuts hbreaks, ?_⟩
  -- the two errors start at the same byte
  have hoffset : (Place.pastPieces .legacy {} pieces).offset =
      (Place.past {} (joined pieces)).offset := by
    rw [Place.offset_pastPieces, Place.offset_past]
  have hsame : Snippet.of? ((Place.pastPieces .legacy {} pieces).faultAt fault bad).span
      (joined pieces ++ left) = some snippet := by
    rw [← hsnippet]
    exact congrFun (Snippet.of?_congr hoffset (congrArg (· + Text.byteLength bad) hoffset)) _
  have htext : ((Place.pastPieces .legacy {} pieces).faultAt fault bad).textAt =
      ((Place.past {} (joined pieces)).faultAt fault bad).textAt :=
    textAt_congr rfl hoffset
  have hline : 1 ≤ ((Place.pastPieces .legacy {} pieces).faultAt fault bad).line :=
    (one_le_pastPieces .legacy pieces).1
  rw [render_toDiagnostic hline hsame, htext]

/-- On the second line, which a tab makes the third one under the legacy rule. -/
theorem diagnostics_point_at_error_behind_tab :
    scanWith ⟨.newline⟩ ['\t', '\n', 'é', '\r'] =
        .error ⟨.unexpectedCharacter 'é', ⟨2, 4, 2, 1⟩⟩ ∧
      Points ['\t', '\n', 'é', '\r'] ⟨.unexpectedCharacter 'é', ⟨2, 4, 2, 1⟩⟩ ⟨['é'], 0, 1⟩ ∧
      (ScanError.mk (.unexpectedCharacter 'é') ⟨2, 4, 2, 1⟩).toDiagnostic.render
          (some ['\t', '\n', 'é', '\r']) =
        "error[E1001]: Unexpected character 'é' at 2\n  --> line 2:1\n  |\n2 | é\n  | ^\n" ++
          "  = help: allowed characters are ASCII letters, digits, whitespace and " ++
            "+ - * / < > = ; ( ) \x7b \x7d | \"\n" ∧
      scanWith ⟨.legacy⟩ ['\t', '\n', 'é', '\r'] =
        .error ⟨.unexpectedCharacter 'é', ⟨2, 4, 3, 1⟩⟩ ∧
      (ScanError.mk (.unexpectedCharacter 'é') ⟨2, 4, 3, 1⟩).toDiagnostic.render
          (some ['\t', '\n', 'é', '\r']) =
        "error[E1001]: Unexpected character 'é' at 2\n  --> line 3:1\n  |\n3 | é\n  | ^\n" ++
          "  = help: allowed characters are ASCII letters, digits, whitespace and " ++
            "+ - * / < > = ; ( ) \x7b \x7d | \"\n" := by
  have hscan : scanWith ⟨.newline⟩ ['\t', '\n', 'é', '\r'] =
      .error ⟨.unexpectedCharacter 'é', ⟨2, 4, 2, 1⟩⟩ := by
    decide +kernel
  have hlegacy : scanWith ⟨.legacy⟩ ['\t', '\n', 'é', '\r'] =
      .error ⟨.unexpectedCharacter 'é', ⟨2, 4, 3, 1⟩⟩ := by
    decide +kernel
  obtain ⟨⟨quoted, indent, carets⟩, hpoints, hrender, other, hother, hrender'⟩ :=
    diagnostics_point_at_error _ _ hscan
  obtain rfl := Except.error.inj (hlegacy.symm.trans hother)
  obtain rfl : quoted = ['é'] := hpoints.quoted_eq (show _ = some ['é', '\r'] by decide)
  obtain rfl : indent = 0 := hpoints.indent_eq
  obtain rfl : carets = 1 := hpoints.underlined.2
  exact ⟨hscan, hpoints, hrender.trans (by decide +kernel), hlegacy,
    hrender'.trans (by decide +kernel)⟩

end ScriptScan
