import ScriptScan.Diagnostic.Render
import ScriptScan.Proofs.Lines
import ScriptScan.Proofs.Registers

/-!
# ScriptScan.Proofs.Rendering

The text of a diagnostic, whatever its span and its source.

A machine finds the quoted line by bytes: it looks for the line feeds next to the span's
start and cuts the source at what it finds.  A cut inside a character, past the end or with
its bounds out of order fails, and so does a sum that is no word.

* `Snippet.search?` — the snippet of a span as a machine finds it, one cut after the other;
* `Snippet.search?_eq` — no cut and no sum fails;
* `Snippet.quotes_of?` — what the snippet of a span shows, in terms of the one line around
  the span's start, and `Snippet.Quotes.unique` that no other one does;
* `Diagnostic.textWith` — the text of a diagnostic, word for word, and
  `Diagnostic.render_eq_textWith` that it is what comes out;
* `render_quotes_line_around_start` — all of it for the text of a diagnostic.
-/

namespace ScriptScan

namespace Text

variable {text line : List Char}

/-! ## looking for line feeds -/

/-- The byte at which the first line feed of a text stands. -/
def findFeed? : List Char → Option Nat
  | [] => none
  | c :: cs => if c = '\n' then some 0 else (findFeed? cs).map (c.utf8Size + ·)

/-- The byte at which the last line feed of a text stands. -/
def findLastFeed? : List Char → Option Nat
  | [] => none
  | c :: cs =>
    match findLastFeed? cs with
    | some i => some (c.utf8Size + i)
    | none => if c = '\n' then some 0 else none

theorem findFeed?_of_not_mem (h : '\n' ∉ text) : findFeed? text = none := by
  induction text with
  | nil => rfl
  | cons c cs ih =>
      rw [List.mem_cons, not_or] at h
      rw [findFeed?, if_neg (Ne.symm h.1), ih h.2, Option.map_none]

theorem findFeed?_append (h : '\n' ∉ line) (more : List Char) :
    findFeed? (line ++ '\n' :: more) = some (byteLength line) := by
  induction line with
  | nil => rfl
  | cons c cs ih =>
      rw [List.mem_cons, not_or] at h
      rw [List.cons_append, findFeed?, if_neg (Ne.symm h.1), ih h.2, Option.map_some,
        byteLength_cons]

theorem findLastFeed?_of_not_mem (h : '\n' ∉ text) : findLastFeed? text = none := by
  induction text with
  | nil => rfl
  | cons c cs ih =>
      rw [List.mem_cons, not_or] at h
      rw [findLastFeed?, ih h.2]
      exact if_neg (Ne.symm h.1)

theorem findLastFeed?_append (h : '\n' ∉ line) (pre : List Char) :
    findLastFeed? (pre ++ '\n' :: line) = some (byteLength pre) := by
  induction pre with
  | nil => simp [findLastFeed?, findLastFeed?_of_not_mem h]
  | cons c cs ih => rw [List.cons_append, findLastFeed?, ih, byteLength_cons]

end Text

/-! ## the first row of a slice -/

/-- The first row of a text: up to its first line feed, without the carriage return that
stands directly before that.  Without a line feed it is all of the text. -/
inductive IsFirstRow : List Char → List Char → Prop
  | whole {row : List Char} (h : '\n' ∉ row) : IsFirstRow row row
  | feed {row : List Char} (more : List Char) (h : '\n' ∉ row) (hlast : row.getLast? ≠ some '\r') :
      IsFirstRow (row ++ '\n' :: more) row
  | returnAndFeed {row : List Char} (more : List Char) (h : '\n' ∉ row) :
      IsFirstRow (row ++ '\r' :: '\n' :: more) row

namespace Snippet

variable {row line pre post : List Char} {span : Span} {source : List Char}

theorem firstRow_of_not_mem (h : '\n' ∉ row) : firstRow row = row := if_neg h

theorem firstRow_append (h : '\n' ∉ row) (more : List Char) :
    firstRow (row ++ '\n' :: more) = Text.trimReturn row := by
  have hline : Text.firstLine (row ++ '\n' :: more) = row := by
    rw [Text.firstLine_append_of_not_mem h, Text.firstLine_eq_nil_iff.2 (.inr rfl),
      List.append_nil]
  rw [firstRow, if_pos (by simp), hline]

theorem isFirstRow_firstRow (text : List Char) : IsFirstRow text (firstRow text) := by
  obtain ⟨post, htext, hpost⟩ := Text.exists_eq_firstLine_append text
  have hfeed := Text.not_mem_firstLine text
  generalize Text.firstLine text = line at htext hfeed
  subst htext
  rcases hpost with rfl | hhead
  · rw [List.append_nil, firstRow_of_not_mem hfeed]
    exact .whole hfeed
  · obtain ⟨more, rfl⟩ := List.head?_eq_some_iff.1 hhead
    rw [firstRow_append hfeed, Text.trimReturn]
    split
    · next hreturn =>
      obtain ⟨row, rfl⟩ := List.getLast?_eq_some_iff.1 hreturn
      rw [List.dropLast_concat, List.append_assoc]
      exact .returnAndFeed more fun hmem => hfeed (List.mem_append_left _ hmem)
    · next hreturn => exact .feed more hfeed hreturn

/-- A text has one first row. -/
theorem eq_firstRow {text : List Char} (h : IsFirstRow text row) : row = firstRow text := by
  cases h with
  | whole hfeed => exact (firstRow_of_not_mem hfeed).symm
  | feed more hfeed hlast => rw [firstRow_append hfeed, Text.trimReturn, if_neg hlast]
  | returnAndFeed more hfeed =>
      have hline : '\n' ∉ row ++ ['\r'] := by simp [hfeed]
      rw [List.append_cons, firstRow_append hline, Text.trimReturn, List.getLast?_concat,
        if_pos rfl, List.dropLast_concat]

/-! ## snippets of any span -/

/-- What the snippet of a span shows: the whole line around the span's start, and carets
under it for the first row of the span. -/
structure Quotes (span : Span) (source : List Char) (snippet : Snippet) : Prop where
  /-- On the one line around the start, as many characters are before the start as there
  are blanks before the carets. -/
  quoted : ∃ pre lead rest post,
    Text.IsLineAround source span.start pre (lead ++ rest) post ∧
    (∀ pre' line' post', Text.IsLineAround source span.start pre' line' post' →
      pre' = pre ∧ line' = lead ++ rest ∧ post' = post) ∧
    Text.byteLength (pre ++ lead) = span.start ∧
    (∃ n, lead ++ rest = snippet.quoted ++ List.replicate n '\r') ∧
    snippet.quoted.getLast? ≠ some '\r' ∧
    snippet.indent = lead.length
  /-- Without a slice there is one caret. -/
  carets_of_none : span.slice? source = none → snippet.carets = 1
  carets_of_some : ∀ slice, span.slice? source = some slice →
    ∃ row, IsFirstRow slice row ∧ snippet.carets = max 1 row.length

/-- A span has one snippet of a source. -/
theorem Quotes.unique {snippet other : Snippet} (h : Quotes span source snippet)
    (h' : Quotes span source other) : other = snippet := by
  obtain ⟨pre, lead, rest, post, -, hunique, hstart, ⟨n, hline⟩, hlast, hindent⟩ := h.quoted
  obtain ⟨pre', lead', rest', post', haround, -, hstart', ⟨n', hline'⟩, hlast', hindent'⟩ :=
    h'.quoted
  -- both lie on the one line around the start, and what is left of a line is settled by it
  obtain ⟨rfl, hsame, rfl⟩ := hunique _ _ _ haround
  have hquoted : other.quoted = snippet.quoted := by
    rw [← Text.trimReturns_append_replicate hlast' n', ← hline', hsame, hline,
      Text.trimReturns_append_replicate hlast n]
  have hlead : lead' = lead := by
    rw [Text.byteLength_append] at hstart hstart'
    exact (Text.append_inj_of_byteLength hsame (by omega)).1
  have hcarets : other.carets = snippet.carets := by
    cases hslice : span.slice? source with
    | none => rw [h.carets_of_none hslice, h'.carets_of_none hslice]
    | some slice =>
        obtain ⟨row, hrow, hcount⟩ := h.carets_of_some slice hslice
        obtain ⟨row', hrow', hcount'⟩ := h'.carets_of_some slice hslice
        rw [hcount, hcount', eq_firstRow hrow, eq_firstRow hrow']
  have hindents : other.indent = snippet.indent := by rw [hindent, hindent', hlead]
  obtain ⟨quoted, indent, carets⟩ := snippet
  obtain ⟨quoted', indent', carets'⟩ := other
  rw [Snippet.mk.injEq]
  exact ⟨hquoted, hindents, hcarets⟩

theorem quotes_of? {snippet : Snippet} (h : of? span source = some snippet) :
    Quotes span source snippet := by
  obtain ⟨⟨before, after⟩, hsplit, rfl⟩ := Option.map_eq_some_iff.1 h
  obtain ⟨rfl, hstart⟩ := Text.eq_of_splitAtByte? hsplit
  obtain ⟨pre, post, hbefore, hafter, hline⟩ := Text.exists_isLineAround before after
  rw [hstart] at hline
  refine ⟨⟨pre, Text.lastLine before, Text.firstLine after, post, hline,
    fun _ _ _ => hline.unique, ?_, ?_, ?_, rfl⟩, fun hnone => ?_, fun slice hslice => ?_⟩
  · rw [← hbefore, hstart]
  · exact (Text.exists_eq_trimReturns_append _).1
  · exact (Text.exists_eq_trimReturns_append _).2
  · show caretCount span (before ++ after) = 1
    rw [caretCount, hnone]
    rfl
  · refine ⟨firstRow slice, isFirstRow_firstRow slice, ?_⟩
    show caretCount span (before ++ after) = _
    rw [caretCount, hslice]
    rfl

/-- There is a snippet exactly if the start lies between two characters or at an end. -/
theorem isSome_of?_iff :
    (of? span source).isSome = true ↔
      ∃ before after, source = before ++ after ∧ Text.byteLength before = span.start := by
  simp [of?, Option.isSome_iff_exists, Text.splitAtByte?_eq_some_iff]

/-! ## snippets found by bytes -/

/-- The byte at which the last line of a text starts. -/
def lineStart? (before : List Char) : Option Nat :=
  match Text.findLastFeed? before with
  | some i => word? offsetLimit (i + 1)
  | none => some 0

/-- The byte of a source at which the line ends that goes on from `start` with `after`. -/
def lineEnd? (source : List Char) (start : Nat) (after : List Char) : Option Nat :=
  match Text.findFeed? after with
  | some i => word? offsetLimit (start + i)
  | none => some (Text.byteLength source)

/-- The snippet of a span, if there is one, as it is found by bytes.  Nothing comes back
after a cut or a sum that fails. -/
def search? (span : Span) (source : List Char) : Option (Option Snippet) :=
  match Text.splitAtByte? span.start source with
  | none => some none
  | some (before, _) => do
    let lineStart ← lineStart? before
    let (_, after) ← Text.splitAtByte? span.start source
    let lineEnd ← lineEnd? source span.start after
    let line ← Span.slice? ⟨lineStart, lineEnd, 0, 0⟩ source
    let lead ← Span.slice? ⟨lineStart, span.start, 0, 0⟩ source
    return some ⟨Text.trimReturns line, lead.length, caretCount span source⟩

/-- The last line of a text starts behind what comes before it. -/
theorem lineStart?_append (hline : '\n' ∉ line) (hpre : pre = [] ∨ pre.getLast? = some '\n')
    (hbytes : Text.byteLength (pre ++ line) < offsetLimit) :
    lineStart? (pre ++ line) = some (Text.byteLength pre) := by
  rcases hpre with rfl | hlast
  · rw [lineStart?, List.nil_append, Text.findLastFeed?_of_not_mem hline]
    rfl
  · obtain ⟨init, rfl⟩ := List.getLast?_eq_some_iff.1 hlast
    have hfeed : Text.byteLength (init ++ ['\n']) = Text.byteLength init + 1 := by
      rw [Text.byteLength_append]
      rfl
    rw [Text.byteLength_append] at hbytes
    rw [lineStart?, List.append_assoc, List.singleton_append, Text.findLastFeed?_append hline,
      hfeed]
    exact word?_of_lt (by omega)

/-- The first line of a text ends before what comes after it. -/
theorem lineEnd?_append (before : List Char) (hline : '\n' ∉ line)
    (hpost : post = [] ∨ post.head? = some '\n')
    (hbytes : Text.byteLength (before ++ (line ++ post)) < offsetLimit) :
    lineEnd? (before ++ (line ++ post)) (Text.byteLength before) (line ++ post) =
      some (Text.byteLength before + Text.byteLength line) := by
  rcases hpost with rfl | hhead
  · rw [lineEnd?, List.append_nil, Text.findFeed?_of_not_mem hline, ← Text.byteLength_append]
  · obtain ⟨more, rfl⟩ := List.head?_eq_some_iff.1 hhead
    rw [← List.append_assoc, Text.byteLength_append, Text.byteLength_append] at hbytes
    rw [lineEnd?, Text.findFeed?_append hline]
    exact word?_of_lt (by omega)

/-- **No cut and no sum fails**: found by bytes, a snippet is what it is found by lines. -/
theorem search?_eq (span : Span) (hsource : Text.byteLength source < offsetLimit) :
    search? span source = some (of? span source) := by
  rw [search?, of?]
  cases hsplit : Text.splitAtByte? span.start source with
  | none => rfl
  | some parts =>
      obtain ⟨before, after⟩ := parts
      obtain ⟨rfl, hstart⟩ := Text.eq_of_splitAtByte? hsplit
      obtain ⟨pre, post, hbefore, hafter, hline⟩ := Text.exists_isLineAround before after
      simp only [Option.map_some]
      generalize Text.lastLine before = lead at hbefore hline ⊢
      generalize Text.firstLine after = rest at hafter hline ⊢
      subst hbefore hafter
      obtain ⟨hlead, hrest⟩ := not_or.1 (mt List.mem_append.2 hline.not_mem)
      have hbytes : Text.byteLength (pre ++ lead) < offsetLimit :=
        Nat.lt_of_le_of_lt (by simp) hsource
      have hlineStart : lineStart? (pre ++ lead) = some (Text.byteLength pre) :=
        lineStart?_append hlead hline.pre_eq hbytes
      have hlineEnd : lineEnd? (pre ++ lead ++ (rest ++ post)) span.start (rest ++ post) =
          some (span.start + Text.byteLength rest) := by
        rw [← hstart]
        exact lineEnd?_append _ hrest hline.post_eq hsource
      have hcutLine : Span.slice? ⟨Text.byteLength pre, span.start + Text.byteLength rest, 0, 0⟩
          (pre ++ lead ++ (rest ++ post)) = some (lead ++ rest) :=
        Span.slice?_eq_some_iff.2 ⟨pre, post, hline.text_eq, rfl, by simp [← hstart, Nat.add_assoc]⟩
      have hcutLead : Span.slice? ⟨Text.byteLength pre, span.start, 0, 0⟩
          (pre ++ lead ++ (rest ++ post)) = some lead :=
        Span.slice?_eq_some_iff.2 ⟨pre, rest ++ post, rfl, rfl, by simp [← hstart]⟩
      simp only [hlineStart, hlineEnd, hcutLine, hcutLead, Option.bind_eq_bind, Option.bind_some,
        Option.pure_def]

/-- Inside a character there is no snippet, and nothing fails. -/
example : search? ⟨1, 2, 1, 1⟩ ['é'] = some none := by decide

end Snippet

/-! ## the text of a diagnostic -/

/-- A snippet as it is printed below the number of its line: a row that is empty behind the
bar, the line behind its number, and the carets behind their blanks.  Rows without a number
have a blank for each digit of it. -/
def Snippet.textUnder (snippet : Snippet) (line : Nat) : String :=
  let margin := String.ofList (List.replicate (toString line).length ' ')
  margin ++ " |\n" ++
    (toString line ++ " | " ++ String.ofList snippet.quoted ++ "\n") ++
    (margin ++ " | " ++ String.ofList (List.replicate snippet.indent ' ') ++
      String.ofList (List.replicate snippet.carets '^') ++ "\n")

namespace Diagnostic

/-- The text of a diagnostic that shows the given snippet: the headline, the line and column
if there is a line, the snippet, all notes and then all advice. -/
def textWith (diagnostic : Diagnostic) (snippet : Option Snippet) : String :=
  let span := diagnostic.span
  (match diagnostic.code with
    | some code => "error[" ++ code.text ++ "]: "
    | none => "error: ") ++ diagnostic.message ++ "\n" ++
  (if 0 < span.line then
    "  --> line " ++ toString span.line ++ ":" ++ toString span.column ++ "\n" else "") ++
  (match snippet with
    | some shown => shown.textUnder span.line
    | none => "") ++
  String.join (diagnostic.notes.map fun note => "  = note: " ++ note ++ "\n") ++
  String.join (diagnostic.helps.map fun help => "  = help: " ++ help ++ "\n")

/-- The text of a diagnostic, whose snippet is found by bytes. -/
def render? (diagnostic : Diagnostic) (source : Option (List Char)) : Option String :=
  match source with
  | some text =>
    if 0 < diagnostic.span.line then
      (Snippet.search? diagnostic.span text).map diagnostic.textWith
    else
      some (diagnostic.textWith none)
  | none => some (diagnostic.textWith none)

/-- The snippet that a diagnostic shows of a source. -/
def snippet? (diagnostic : Diagnostic) (source : Option (List Char)) : Option Snippet :=
  if 0 < diagnostic.span.line then source.bind (Snippet.of? diagnostic.span) else none

/-- The rows of a snippet, each ended by a line feed. -/
theorem join_rows (snippet : Snippet) (line : Nat) :
    String.join ((snippet.rows line).map (· ++ "\n")) = snippet.textUnder line := by
  simp [Snippet.rows, Snippet.textUnder, String.append_assoc]

theorem join_location (diagnostic : Diagnostic) (source : Option (List Char)) :
    String.join ((diagnostic.location source).map (· ++ "\n")) =
      (if 0 < diagnostic.span.line then
        "  --> line " ++ toString diagnostic.span.line ++ ":" ++
          toString diagnostic.span.column ++ "\n" else "") ++
      match diagnostic.snippet? source with
      | some shown => shown.textUnder diagnostic.span.line
      | none => "" := by
  by_cases hline : diagnostic.span.line = 0
  · simp [location, snippet?, hline]
  · rw [location, if_neg hline, snippet?, if_pos (Nat.pos_of_ne_zero hline),
      if_pos (Nat.pos_of_ne_zero hline), List.map_cons, String.join_cons]
    cases source.bind (Snippet.of? diagnostic.span) with
    | none => rfl
    | some shown => exact congrArg _ (join_rows shown _)

theorem render_eq_textWith (diagnostic : Diagnostic) (source : Option (List Char)) :
    diagnostic.render source = diagnostic.textWith (diagnostic.snippet? source) := by
  rw [render, rows, List.map_append, List.map_append, List.map_cons, String.join_append,
    String.join_append, String.join_cons, join_location, headline, List.map_map, List.map_map]
  unfold textWith
  cases diagnostic.code <;> simp only [String.append_assoc] <;> rfl

theorem render?_eq_textWith (diagnostic : Diagnostic) {source : Option (List Char)}
    (hsource : ∀ text, source = some text → Text.byteLength text < offsetLimit) :
    diagnostic.render? source = some (diagnostic.textWith (diagnostic.snippet? source)) := by
  cases source with
  | none => simp [render?, snippet?]
  | some text =>
      rw [render?, snippet?, Snippet.search?_eq _ (hsource text rfl)]
      by_cases hline : 0 < diagnostic.span.line <;> simp [hline]

/-- **A text for every diagnostic and every source**: whatever the span, no cut of the source
and no sum fails, and the text is the headline, the place, the snippet, the notes and the
advice.  There is a snippet if the span has a line and its start is a place between two
characters of the source.  It quotes the whole line around that place, without the carriage
returns at its end, and its carets are for the first row of the span, or one if that is
empty. -/
theorem render_quotes_line_around_start (diagnostic : Diagnostic) (source : Option (List Char))
    (hsource : ∀ text, source = some text → Text.byteLength text < offsetLimit) :
    ∃ snippet, diagnostic.render? source = some (diagnostic.textWith snippet) ∧
      diagnostic.render source = diagnostic.textWith snippet ∧
      (snippet.isSome = true ↔ 0 < diagnostic.span.line ∧ ∃ before after,
        source = some (before ++ after) ∧ Text.byteLength before = diagnostic.span.start) ∧
      ∀ shown, snippet = some shown →
        ∃ text, source = some text ∧ Snippet.Quotes diagnostic.span text shown := by
  refine ⟨diagnostic.snippet? source, diagnostic.render?_eq_textWith hsource,
    diagnostic.render_eq_textWith source, ?_, fun shown hshown => ?_⟩
  · by_cases hline : 0 < diagnostic.span.line
    · cases source with
      | none => simp [snippet?]
      | some text => simp [snippet?, hline, Snippet.isSome_of?_iff]
    · simp [snippet?, hline]
  · rw [snippet?] at hshown
    split at hshown
    · obtain ⟨text, hsource, hof⟩ := Option.bind_eq_some_iff.1 hshown
      exact ⟨text, hsource, Snippet.quotes_of? hof⟩
    · cases hshown

/-- Of a span that ends past the end of a source whose last line ends in a carriage return. -/
theorem render_quotes_line_around_start_past_end :
    (∀ text, some ['é', '\n', 'a', '\r'] = some text → Text.byteLength text < offsetLimit) ∧
      Snippet.Quotes ⟨3, 9, 7, 1⟩ ['é', '\n', 'a', '\r'] ⟨['a'], 0, 1⟩ ∧
      render ⟨"odd", ⟨3, 9, 7, 1⟩, none, ["seen"], []⟩ (some ['é', '\n', 'a', '\r']) =
        "error: odd\n  --> line 7:1\n  |\n7 | a\n  | ^\n  = note: seen\n" := by
  have hsource : ∀ text, some ['é', '\n', 'a', '\r'] = some text →
      Text.byteLength text < offsetLimit := by
    rintro _ ⟨⟩
    decide
  have hquotes : Snippet.Quotes ⟨3, 9, 7, 1⟩ ['é', '\n', 'a', '\r'] ⟨['a'], 0, 1⟩ :=
    Snippet.quotes_of? (by decide +kernel)
  obtain ⟨snippet, -, hrender, hsome, hshown⟩ := render_quotes_line_around_start
    ⟨"odd", ⟨3, 9, 7, 1⟩, none, ["seen"], []⟩ _ hsource
  obtain ⟨shown, rfl⟩ := Option.isSome_iff_exists.1
    (hsome.2 ⟨by decide, ['é', '\n'], ['a', '\r'], rfl, by decide⟩)
  obtain ⟨_, ⟨⟩, hshown⟩ := hshown shown rfl
  obtain rfl := hquotes.unique hshown
  exact ⟨hsource, hquotes, hrender.trans (by decide +kernel)⟩

end Diagnostic

end ScriptScan
