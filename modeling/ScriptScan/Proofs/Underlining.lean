import ScriptScan.Proofs.Pointing

/-!
# ScriptScan.Proofs.Underlining

The carets under an error against the line above them.

The quoted line loses all carriage returns at its end.  The carets are counted along the
text at fault, whose first row loses one, and only one that stands before a line feed.  The
two rules meet on no text at fault but a string that is still open.

* `Snippet.StaysUnder` — no caret stands past the quoted line;
* `Snippet.staysUnder_of_breaks` — it is so for every other text at fault;
* `Snippet.UnderlinesString`, `Snippet.underlinesString_of?` — the carets under a string, with
  the carriage returns at the end of its first line counted;
* `carets_stay_under_quoted_line` — the text about an error, under either line rule.
-/

namespace ScriptScan

namespace Text

/-- What is left of a line that goes on with a quotation mark: all before the mark, which is
no carriage return, and from the mark on as much as if nothing were before it. -/
theorem exists_shown_of_quote (body : List Char) :
    ∃ shown n, firstLine ('"' :: body) = shown ++ List.replicate n '\r' ∧
      shown.head? = some '"' ∧ shown.getLast? ≠ some '\r' ∧
      ∀ front, trimReturns (front ++ firstLine ('"' :: body)) = front ++ shown := by
  have hfeed : '\n' ∉ ['"'] := by decide
  have hquote : firstLine ('"' :: body) = ['"'] ++ firstLine body :=
    firstLine_append_of_not_mem hfeed body
  have hshown : trimReturns (firstLine ('"' :: body)) = ['"'] ++ trimReturns (firstLine body) := by
    rw [hquote, trimReturns_append (by decide)]
  obtain ⟨⟨n, hline⟩, hlast⟩ := exists_eq_trimReturns_append (firstLine ('"' :: body))
  refine ⟨_, n, hline, by rw [hshown]; rfl, hlast, fun front => ?_⟩
  rw [hshown, hquote, ← List.append_assoc, trimReturns_append (by simp), List.append_assoc]

end Text

namespace Snippet

variable {before left bad shown later body : List Char} {fault : Fault} {span : Span}
  {snippet : Snippet} {n : Nat}

/-- The carets of a snippet stand under characters that it quotes. -/
def StaysUnder (snippet : Snippet) : Prop :=
  snippet.indent + snippet.carets ≤ snippet.quoted.length

/-! ## texts at fault without blanks -/

/-- The carets under a text at fault that holds no blank stand under the quoted line. -/
theorem staysUnder_of_breaks (h : Breaks left fault bad) (hfault : fault ≠ .unterminatedString)
    (hstart : span.start = Text.byteLength before)
    (hstop : span.stop = span.start + Text.byteLength bad)
    (hsnippet : of? span (before ++ left) = some snippet) : snippet.StaysUnder := by
  rw [of?_append hstart] at hsnippet
  obtain rfl := Option.some.inj hsnippet
  have hblanks := h.not_mem_blanks hfault
  have hfeed : '\n' ∉ bad := fun hmem => hblanks '\n' hmem (by decide)
  have hle := (prefix_drop_quoted h hblanks before).length_le
  have hpos := List.length_pos_iff.2 h.exists_append.1
  rw [List.length_drop] at hle
  rw [StaysUnder, caretCount_of_breaks h hfeed hstart hstop]
  show (Text.lastLine before).length + bad.length ≤
    (Text.trimReturns (Text.lastLine before ++ Text.firstLine left)).length
  omega

/-! ## strings that are still open -/

/-- A snippet underlines a string that is still open.  On its first line the string is
`shown`, which the snippet quotes, and then `n` carriage returns; `later` is what it has on
other lines. -/
structure UnderlinesString (snippet : Snippet) (shown : List Char) (n : Nat)
    (later : List Char) : Prop where
  head?_shown : shown.head? = some '"'
  newline_not_mem : '\n' ∉ shown
  getLast?_shown : shown.getLast? ≠ some '\r'
  later_eq : later = [] ∨ later.head? = some '\n'
  /-- What is quoted goes from before the string to the end of what is shown of it. -/
  quoted_eq : ∃ lead, snippet.quoted = lead ++ shown ∧ snippet.indent = lead.length
  /-- The carriage returns have carets too, but for the one before a line feed. -/
  carets_eq : snippet.carets = shown.length + (n - if later = [] then 0 else 1)

theorem UnderlinesString.length_quoted (h : UnderlinesString snippet shown n later) :
    snippet.quoted.length = snippet.indent + shown.length := by
  obtain ⟨lead, hquoted, hindent⟩ := h.quoted_eq
  rw [hquoted, hindent, List.length_append]

/-- **When carets stay under a string**: its first line ends in no carriage return, or in one
that stands directly before a line feed. -/
theorem UnderlinesString.carets_eq_iff (h : UnderlinesString snippet shown n later) :
    snippet.carets = shown.length ↔ n = 0 ∨ n = 1 ∧ later ≠ [] := by
  rw [h.carets_eq]
  by_cases hlater : later = []
  · simp [hlater]
  · simp only [hlater, if_false, ne_eq, not_false_iff, and_true]
    omega

theorem UnderlinesString.staysUnder_iff (h : UnderlinesString snippet shown n later) :
    snippet.StaysUnder ↔ snippet.carets = shown.length := by
  have hcarets := h.carets_eq
  rw [StaysUnder, h.length_quoted]
  omega

/-- The first row of a string keeps all carriage returns of its first line, but for the one
before a line feed. -/
theorem firstRow_append_returns (hfeed : '\n' ∉ shown) (hlast : shown.getLast? ≠ some '\r')
    (n : Nat) (hlater : later = [] ∨ later.head? = some '\n') :
    firstRow (shown ++ List.replicate n '\r' ++ later) =
      shown ++ List.replicate (n - if later = [] then 0 else 1) '\r' := by
  have hline : '\n' ∉ shown ++ List.replicate n '\r' := by
    simp [hfeed]
  rcases hlater with rfl | hhead
  · rw [List.append_nil, firstRow_of_not_mem hline]
    simp
  · obtain ⟨more, rfl⟩ := List.head?_eq_some_iff.1 hhead
    rw [firstRow_append hline, Text.trimReturn_append_replicate hlast]
    simp

/-- The snippet of a span from a quotation mark to the end of the source. -/
theorem underlinesString_of? (body : List Char) (hstart : span.start = Text.byteLength before)
    (hstop : span.stop = span.start + Text.byteLength ('"' :: body))
    (hsnippet : of? span (before ++ '"' :: body) = some snippet) :
    ∃ shown n later, '"' :: body = shown ++ List.replicate n '\r' ++ later ∧
      UnderlinesString snippet shown n later := by
  rw [of?_append hstart] at hsnippet
  obtain rfl := Option.some.inj hsnippet
  have hslice : span.slice? (before ++ '"' :: body) = some ('"' :: body) :=
    Span.slice?_eq_some_iff.2 ⟨before, [], by simp, hstart.symm, by rw [hstop, hstart]⟩
  obtain ⟨later, hbody, hlater⟩ := Text.exists_eq_firstLine_append ('"' :: body)
  have hnot := Text.not_mem_firstLine ('"' :: body)
  obtain ⟨shown, n, hline, hhead, hlast, hquoted⟩ := Text.exists_shown_of_quote body
  rw [hline] at hbody hnot
  have hfeed : '\n' ∉ shown := fun hmem => hnot (List.mem_append_left _ hmem)
  refine ⟨shown, n, later, hbody, hhead, hfeed, hlast, hlater, ⟨_, hquoted _, rfl⟩, ?_⟩
  have hpos : 0 < shown.length := List.length_pos_of_mem (List.mem_of_mem_head? hhead)
  show caretCount span (before ++ '"' :: body) = _
  rw [caretCount, hslice, Option.map_some, Option.getD_some, hbody,
    firstRow_append_returns hfeed hlast n hlater, List.length_append, List.length_replicate]
  exact Nat.max_eq_right (by omega)

end Snippet

/-! ## errors -/

/-- The carets under an error against the line that is quoted above them. -/
structure Underlines (source : List Char) (error : ScanError) (snippet : Snippet) : Prop where
  staysUnder : error.fault ≠ .unterminatedString → snippet.StaysUnder
  /-- The carets under a string end with what is shown of it if its first line ends in no
  carriage return, or in one that stands directly before a line feed; else they go past it. -/
  string : error.fault = .unterminatedString → ∃ before shown n later,
    source = before ++ (shown ++ List.replicate n '\r' ++ later) ∧
      Text.byteLength before = error.position ∧
      snippet.UnderlinesString shown n later ∧
      (snippet.StaysUnder ↔ n = 0 ∨ n = 1 ∧ later ≠ []) ∧
      (snippet.carets = shown.length ↔ n = 0 ∨ n = 1 ∧ later ≠ [])

/-- **Carets stay under the quoted line**, but for those of a string that is still open.  Its
carets go from the quotation mark to the end of the quoted line, and past it if its first
line ends in more carriage returns than the line feed behind it takes. -/
theorem carets_stay_under_quoted_line (settings : Settings) (source : List Char)
    (error : ScanError) (h : scanWith settings source = .error error) :
    ∃ snippet, Snippet.of? error.span source = some snippet ∧
      error.toDiagnostic.render (some source) =
        error.textAt snippet error.line error.span.column ∧
      Underlines source error snippet := by
  obtain ⟨pieces, left, fault, bad, hcuts, hbreaks, rfl⟩ := cuts_of_scan_error h
  have hsource := hcuts.text_eq
  subst hsource
  have hstart : ((Place.pastPieces settings.lineRule {} pieces).faultAt fault bad).span.start =
      Text.byteLength (joined pieces) := by
    show (Place.pastPieces settings.lineRule {} pieces).offset = _
    rw [Place.offset_pastPieces, Nat.zero_add]
  have hline : 1 ≤ ((Place.pastPieces settings.lineRule {} pieces).faultAt fault bad).line :=
    (one_le_pastPieces settings.lineRule pieces).1
  obtain ⟨snippet, hsnippet⟩ : ∃ snippet, Snippet.of? ((Place.pastPieces settings.lineRule {}
      pieces).faultAt fault bad).span (joined pieces ++ left) = some snippet :=
    ⟨_, Snippet.of?_append hstart⟩
  refine ⟨snippet, hsnippet, render_toDiagnostic hline hsnippet, fun hfault => ?_,
    fun hfault => ?_⟩
  · exact Snippet.staysUnder_of_breaks hbreaks hfault hstart rfl hsnippet
  · obtain rfl : fault = .unterminatedString := hfault
    cases hbreaks with
    | @unterminatedString body _ =>
        obtain ⟨shown, n, later, hsplit, hunderlines⟩ :=
          Snippet.underlinesString_of? body hstart rfl hsnippet
        exact ⟨joined pieces, shown, n, later, congrArg _ hsplit, hstart.symm, hunderlines,
          hunderlines.staysUnder_iff.trans hunderlines.carets_eq_iff, hunderlines.carets_eq_iff⟩

/-- Of a string over two lines, whose carriage return stands before the line feed. -/
theorem carets_stay_under_quoted_line_of_two :
    scanWith {} ['"', 'a', '\r', '\n', 'b'] = .error ⟨.unterminatedString, ⟨0, 5, 1, 1⟩⟩ ∧
      (ScanError.mk .unterminatedString ⟨0, 5, 1, 1⟩).toDiagnostic.render
          (some ['"', 'a', '\r', '\n', 'b']) =
        "error[E1002]: No ending double quotes for specified string.\n  --> line 1:1\n" ++
          "  |\n1 | \"a\n  | ^^\n  = help: add a closing '\"' to the string\n" ∧
      Underlines ['"', 'a', '\r', '\n', 'b'] ⟨.unterminatedString, ⟨0, 5, 1, 1⟩⟩
        ⟨['"', 'a'], 0, 2⟩ := by
  have hscan : scanWith {} ['"', 'a', '\r', '\n', 'b'] =
      .error ⟨.unterminatedString, ⟨0, 5, 1, 1⟩⟩ := by
    decide +kernel
  have hof : Snippet.of? ⟨0, 5, 1, 1⟩ ['"', 'a', '\r', '\n', 'b'] = some ⟨['"', 'a'], 0, 2⟩ := by
    decide +kernel
  obtain ⟨snippet, hsnippet, hrender, hunderlines⟩ := carets_stay_under_quoted_line {} _ _ hscan
  obtain rfl := Option.some.inj (hof.symm.trans hsnippet)
  exact ⟨hscan, hrender.trans (by decide +kernel), hunderlines⟩

/-- Under a string that a carriage return ends where the source ends, one caret stands past
the quoted line. -/
theorem caret_past_quoted_line :
    scanWith {} ['"', '\r'] = .error ⟨.unterminatedString, ⟨0, 2, 1, 1⟩⟩ ∧
      Snippet.of? ⟨0, 2, 1, 1⟩ ['"', '\r'] = some ⟨['"'], 0, 2⟩ ∧
      (ScanError.mk .unterminatedString ⟨0, 2, 1, 1⟩).toDiagnostic.render (some ['"', '\r']) =
        "error[E1002]: No ending double quotes for specified string.\n  --> line 1:1\n" ++
          "  |\n1 | \"\n  | ^^\n  = help: add a closing '\"' to the string\n" ∧
      ¬ Snippet.StaysUnder ⟨['"'], 0, 2⟩ := by
  refine ⟨by decide +kernel, by decide +kernel, by decide +kernel, ?_⟩
  rw [Snippet.StaysUnder]
  decide

end ScriptScan
