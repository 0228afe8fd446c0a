import ScriptScan.Proofs.Concatenation

/-!
# ScriptScan.Proofs.Opacity

The bodies of comments and strings exchanged for other text.

A reader that is inside a comment or a string looks for the character that ends it and at
nothing else.  So a body may hold whatever does not end it, and what the scan makes of the
rest of the source depends on the place where the lexeme ends alone.

* `Cuts.exchange_last` — a lexeme may be exchanged for one that begins with the same
  character and ends before the same text;
* `Around` — a run and a scan, seen from one of the tokens;
* `bodies_are_opaque` — the scans before and after the exchange.
-/

namespace ScriptScan

/-! ## locations before and after an exchange -/

/-- The same token with another text between its quotes. -/
def Token.withBody (token : Token) (body : List Char) : Token :=
  { token with
    text := String.ofList body
    span := { token.span with stop := token.span.start + Text.byteLength body + 2 } }

/-- Where a span lies after `old` bytes, the last of them in front of byte `stop`, have become
`new` bytes.  Lines and columns stay as they are. -/
def Span.slide (stop old new : Nat) (span : Span) : Span :=
  if span.start < stop then span
  else { span with start := span.start - old + new, stop := span.stop - old + new }

/-- One span lies to another as what stands behind a text to the same behind `other` in place
of the text `body`. -/
structure Span.Moves (body other : List Char) (span moved : Span) : Prop where
  start_eq : moved.start + Text.byteLength body = span.start + Text.byteLength other
  stop_eq : moved.stop + Text.byteLength body = span.stop + Text.byteLength other
  line_eq : moved.line + body.count '\n' = span.line + other.count '\n'

/-- The run and the scan over a source, seen from one of the tokens: `front` comes before it,
and behind it the same as over the text `after` alone, moved to `place`. -/
structure Around (settings : Settings) (source : List Char) (front : List Token) (token : Token)
    (after : List Char) (place : Place) : Prop where
  results_eq : (Scanner.start settings.lineRule source).results = front.map .ok ++
    .ok token :: (Scanner.start settings.lineRule after).results.map
      (relocate (Span.shift place))
  scan_eq : scanWith settings source =
    (relocateAll (Span.shift place) (scanWith settings after)).map
      ((front ++ [token]).filter (·.kind ≠ .ignore) ++ ·)

theorem Token.relocate_slide_eq {stop old new : Nat} {token : Token}
    (h : token.span.start < stop) : token.relocate (Span.slide stop old new) = token := by
  simp [Token.relocate, Span.slide, h]

/-- Behind the exchanged bytes, sliding leads from one end of them to the other. -/
theorem Span.slide_shift {stop old new : Nat} {first second : Place} (hstop : stop ≤ first.offset)
    (hold : old ≤ first.offset) (hoffset : second.offset + old = first.offset + new)
    (hline : second.line = first.line) (hcolumn : second.column = first.column) (span : Span) :
    Span.slide stop old new (Span.shift first span) = Span.shift second span := by
  obtain ⟨offset, line, column⟩ := second
  subst hline hcolumn
  simp only at hoffset
  have hbehind : ¬ first.offset + span.start < stop := by omega
  have hstart : first.offset + span.start - old + new = offset + span.start := by omega
  have hend : first.offset + span.stop - old + new = offset + span.stop := by omega
  simp only [slide, shift, Place.shift, place, if_neg hbehind, hstart, hend]

theorem Span.line_slide (stop old new : Nat) (span : Span) :
    (Span.slide stop old new span).line = span.line := by
  unfold slide
  split <;> rfl

/-- Two changes of locations in a row, the second of which leaves lines alone. -/
theorem relocateAll_relocateAll {first second whole : Span → Span}
    (hspan : ∀ span, second (first span) = whole span)
    (hline : ∀ span, (second span).line = span.line) (outcome : Except ScanError (List Token)) :
    relocateAll second (relocateAll first outcome) = relocateAll whole outcome := by
  have hwhole : ∀ span, (first span).line = (whole span).line := fun span => by
    rw [← hspan, hline]
  cases outcome with
  | error error => simp [relocateAll, ScanError.relocate, hspan]
  | ok tokens => simp [relocateAll, Token.relocate, hspan, hline, hwhole, Function.comp_def]

theorem relocateAll_map_append (move : Span → Span) (tokens : List Token)
    (outcome : Except ScanError (List Token)) :
    relocateAll move (outcome.map (tokens ++ ·)) =
      (relocateAll move outcome).map (tokens.map (·.relocate move) ++ ·) := by
  cases outcome with
  | error error => rfl
  | ok others => exact congrArg Except.ok List.map_append

/-! ## exchanging a lexeme -/

theorem byteLength_comment (body : List Char) :
    Text.byteLength ('/' :: '/' :: body) = Text.byteLength body + 2 := by
  have hslash : '/'.utf8Size = 1 := rfl
  rw [Text.byteLength_cons, Text.byteLength_cons, hslash]
  omega

theorem byteLength_quoted (body : List Char) :
    Text.byteLength ('"' :: (body ++ ['"'])) = Text.byteLength body + 2 := by
  have hquote : '"'.utf8Size = 1 := rfl
  rw [Text.byteLength_cons, Text.byteLength_append, Text.byteLength_cons, Text.byteLength_nil,
    hquote]
  omega

variable {source rest body other : List Char} {pieces : List Piece} {piece : Piece}
  {rule : LineRule} {place : Place}

/-- **Exchanging a lexeme**: the pieces before it stay as they are, since it begins with the
same character as before. -/
theorem Cuts.exchange_last (h : Cuts source (pieces ++ [piece]) rest) (other : Piece)
    (hlex : IsLexeme other.kind other.text) (hends : Ends other.text rest)
    (hhead : other.text.head? = piece.text.head?) :
    Cuts (joined pieces ++ other.text ++ rest) (pieces ++ [other]) rest := by
  obtain ⟨hbefore, -, -⟩ := h.split_last
  rw [List.append_assoc]
  refine (hbefore.replace_left fun c hc => ?_).trans (.piece hlex hends .done)
  obtain ⟨d, ds, hcons⟩ := List.exists_cons_of_ne_nil hlex.ne_nil
  rw [hcons] at hhead hc
  rw [List.head?_append, ← hhead]
  exact hc

/-- A string is read up to its closing quote, whatever follows. -/
theorem ends_string (body rest : List Char) : Ends ('"' :: body) rest := by
  intro c _ hprolongs
  have htaken := prolongs_cases hprolongs
  rwa [startOf_quote] at htaken

/-- Only what stands between quotes makes a string. -/
theorem IsLexeme.of_string {text : List Char} (h : IsLexeme .string text) :
    ∃ body, '"' ∉ body ∧ text = '"' :: (body ++ ['"']) := by
  generalize hkind : Kind.string = kind at h
  cases h with
  | string hbody => exact ⟨_, hbody, rfl⟩
  | mark hmem => exact absurd hkind.symm (isPlain_of_mem_marks hmem).2
  | comparison hmem => exact absurd hkind.symm (isPlain_of_mem_comparisons hmem).1.2
  | comparisonEquals hmem => exact absurd hkind.symm (isPlain_of_mem_comparisons hmem).2.2
  | word _ _ hword => exact absurd hkind.symm (isPlain_of_isWordKind hword).2
  | blank | divide | comment | number => cases hkind

theorem around_of_cuts (settings : Settings) (h : Cuts source (pieces ++ [piece]) rest) :
    Around settings source (Scanner.tokensOf settings.lineRule pieces)
      (piece.token (Place.pastPieces settings.lineRule {} pieces)) rest
      ((Place.pastPieces settings.lineRule {} pieces).pastPiece settings.lineRule piece) := by
  refine ⟨Scanner.results_around settings.lineRule h, ?_⟩
  rw [scanWith, scanWith, scan_of_cuts settings.lineRule h, Place.pastPieces_concat,
    Scanner.tokensOf, Place.tokens_append]
  rfl

/-! ## comments -/

/-- The tokens before a place start before it. -/
theorem start_le_of_mem_tokens {token : Token} (h : token ∈ place.tokens rule pieces) :
    token.span.start ≤ place.offset + Text.byteLength (joined pieces) := by
  induction pieces generalizing place with
  | nil => cases h
  | cons piece pieces ih =>
      rcases List.mem_cons.1 h with rfl | htail
      · exact Nat.le_add_right _ _
      · have hle := ih htail
        rw [Place.offset_pastPiece] at hle
        rw [joined_cons, Text.byteLength_append]
        omega

/-- Behind a comment and the line feed that ends it a line starts, whatever the comment is. -/
theorem Place.pastPiece_comment_feed (rule : LineRule) (place : Place) (hbody : '\n' ∉ body) :
    (place.pastPiece rule ⟨.ignore, '/' :: '/' :: body⟩).pastPiece rule ⟨.ignore, ['\n']⟩ =
      ⟨place.offset + Text.byteLength body + 3, place.line + 1, 1⟩ := by
  have hcomment : place.pastPiece rule ⟨.ignore, '/' :: '/' :: body⟩ =
      place.past ('/' :: '/' :: body) := rfl
  have hfeed : ∀ before : Place, before.pastPiece rule ⟨.ignore, ['\n']⟩ =
      ⟨before.offset + 1, before.line + 1, 1⟩ := fun before =>
    show before.nextSeparator rule '\n' = _ from if_neg fun h => h.1 rfl
  rw [hcomment, hfeed, offset_past, byteLength_comment, line_past,
    List.count_eq_zero_of_not_mem (by simp [hbody])]
  rfl

/-- What a scan makes of a source with a comment: the tokens before it and, behind the line
feed that ends it, what it makes of the rest.  The comment counts with its bytes only. -/
theorem scanWith_of_comment (settings : Settings) (hbody : '\n' ∉ body)
    (h : Cuts source (pieces ++ [⟨.ignore, '/' :: '/' :: body⟩]) rest) :
    (rest = [] ∧ scanWith settings source =
      .ok ((Scanner.tokensOf settings.lineRule pieces).filter (·.kind ≠ .ignore))) ∨
    ∃ tail, rest = '\n' :: tail ∧ scanWith settings source =
      (relocateAll (Span.shift ⟨Text.byteLength (joined pieces) + Text.byteLength body + 3,
        (Place.pastPieces settings.lineRule {} pieces).line + 1, 1⟩)
        (scanWith settings tail)).map
          ((Scanner.tokensOf settings.lineRule pieces).filter (·.kind ≠ .ignore) ++ ·) := by
  obtain ⟨-, -, hends⟩ := h.split_last
  rw [ends_comment_iff] at hends
  cases rest with
  | nil =>
      refine .inl ⟨rfl, ?_⟩
      rw [scanWith, Scanner.scan_of_results_ok (results_of_cuts_nil _ h), Scanner.tokensOf,
        filter_tokens_append _ _ _ (by simp)]
      rfl
  | cons c tail =>
      obtain rfl : c = '\n' := hends c rfl
      refine .inr ⟨tail, rfl, ?_⟩
      have hfeed := h.trans (cuts_blanks (w := ['\n']) (by simp [blanks]) tail)
      have hplace : Place.pastPieces settings.lineRule {}
          (pieces ++ [⟨.ignore, '/' :: '/' :: body⟩] ++ blankPieces ['\n']) =
            ⟨Text.byteLength (joined pieces) + Text.byteLength body + 3,
              (Place.pastPieces settings.lineRule {} pieces).line + 1, 1⟩ := by
        have hlast := Place.pastPiece_comment_feed settings.lineRule
          (Place.pastPieces settings.lineRule {} pieces) hbody
        rw [Place.offset_pastPieces, Nat.zero_add] at hlast
        rw [← hlast, ← Place.pastPieces_concat, ← Place.pastPieces_concat]
        rfl
      rw [scanWith, scan_of_cuts _ hfeed, hplace, Scanner.tokensOf, List.append_assoc,
        filter_tokens_append _ _ _ (by simp [blankPieces])]
      rfl

/-- Another comment in place of one moves what the scan gives behind it by the bytes of their
difference, and nothing else. -/
theorem scanWith_exchange_comment (settings : Settings) (hbody : '\n' ∉ body)
    (h : Cuts source (pieces ++ [⟨.ignore, '/' :: '/' :: body⟩]) rest) (hother : '\n' ∉ other) :
    scanWith settings (joined pieces ++ '/' :: '/' :: other ++ rest) =
      relocateAll (Span.slide (Text.byteLength (joined pieces) + Text.byteLength body + 2)
        (Text.byteLength body) (Text.byteLength other)) (scanWith settings source) := by
  have hends := ends_comment_iff.1 h.split_last.2.2
  have hnew : Cuts (joined pieces ++ '/' :: '/' :: other ++ rest)
      (pieces ++ [⟨.ignore, '/' :: '/' :: other⟩]) rest :=
    h.exchange_last ⟨.ignore, '/' :: '/' :: other⟩ (.comment hother) (ends_comment_iff.2 hends) rfl
  -- the tokens before the comment stay where they are
  have hfront : ((Scanner.tokensOf settings.lineRule pieces).filter (·.kind ≠ .ignore)).map
      (·.relocate (Span.slide (Text.byteLength (joined pieces) + Text.byteLength body + 2)
        (Text.byteLength body) (Text.byteLength other))) =
      (Scanner.tokensOf settings.lineRule pieces).filter (·.kind ≠ .ignore) := by
    refine (List.map_congr_left fun token hmem => ?_).trans (List.map_id _)
    have hle := start_le_of_mem_tokens (List.mem_filter.1 hmem).1
    refine Token.relocate_slide_eq (Nat.lt_of_le_of_lt hle ?_)
    simp only [Nat.zero_add]
    omega
  rcases scanWith_of_comment settings hbody h with ⟨rfl, hscan⟩ | ⟨tail, rfl, hscan⟩
  · rcases scanWith_of_comment settings hother hnew with ⟨-, hscan'⟩ | ⟨tail, hcontra, -⟩
    · rw [hscan', hscan, relocateAll, hfront]
    · cases hcontra
  · rcases scanWith_of_comment settings hother hnew with ⟨hcontra, -⟩ | ⟨tail', htail, hscan'⟩
    · cases hcontra
    · cases htail
      have hslide (line : Nat) (span : Span) :
          Span.slide (Text.byteLength (joined pieces) + Text.byteLength body + 2)
            (Text.byteLength body) (Text.byteLength other)
            (span.shift ⟨Text.byteLength (joined pieces) + Text.byteLength body + 3, line, 1⟩) =
          span.shift ⟨Text.byteLength (joined pieces) + Text.byteLength other + 3, line, 1⟩ := by
        apply Span.slide_shift <;> simp only <;> omega
      rw [hscan', hscan, relocateAll_map_append, hfront,
        relocateAll_relocateAll (hslide _) (Span.line_slide _ _ _)]

/-! ## strings -/

theorem token_withBody (place : Place) (body other : List Char) :
    (⟨.string, '"' :: (other ++ ['"'])⟩ : Piece).token place =
      ((⟨.string, '"' :: (body ++ ['"'])⟩ : Piece).token place).withBody other := by
  simp only [Piece.token, Token.of, Token.withBody, byteLength_quoted]
  simp [Piece.body, Nat.add_assoc]

/-- Where strings end that begin at the same place. -/
theorem moves_behind_string (rule : LineRule) (place : Place) (hline : 1 ≤ place.line)
    (body other : List Char) (span : Span) :
    (span.shift (place.pastPiece rule ⟨.string, '"' :: (body ++ ['"'])⟩)).Moves body other
      (span.shift (place.pastPiece rule ⟨.string, '"' :: (other ++ ['"'])⟩)) := by
  have hstring : Kind.string ≠ .ignore := by decide
  have hfeeds (text : List Char) : ('"' :: (text ++ ['"'])).count '\n' = text.count '\n' := by
    simp
  rw [Place.pastPiece_of_ne_ignore rule place hstring,
    Place.pastPiece_of_ne_ignore rule place hstring]
  constructor <;> simp only [Span.shift, Place.shift, Span.place, Place.offset_past,
    Place.line_past, byteLength_quoted, hfeeds] <;> omega

/-! ## the two scans -/

/-- **Bodies are opaque**.  A comment may hold any text without a line feed: the scan keeps its
tokens and its error, and only their bytes behind the comment move.  A string may hold any text
without a quote: its token holds that text then, the tokens before it stay, and what comes behind
it is what its rest gives by itself, moved by the difference of the two texts in bytes and in
line feeds. -/
theorem bodies_are_opaque (settings : Settings) (source : List Char) :
    (∀ token, .ok token ∈ (Scanner.start settings.lineRule source).results → token.IsComment →
      ∃ before body after, token.Covers source before ('/' :: '/' :: body) after ∧
        ∀ other, '\n' ∉ other →
          scanWith settings (before ++ '/' :: '/' :: other ++ after) =
            relocateAll
              (Span.slide token.span.stop (Text.byteLength body) (Text.byteLength other))
              (scanWith settings source)) ∧
    ∀ token, .ok token ∈ (Scanner.start settings.lineRule source).results →
      token.kind = .string →
      ∃ before body after, token.Covers source before ('"' :: (body ++ ['"'])) after ∧
        ∀ other, '"' ∉ other → ∃ front old new,
          Around settings source front token after old ∧
          Around settings (before ++ '"' :: (other ++ ['"']) ++ after) front
            (token.withBody other) after new ∧
          ∀ span : Span, (span.shift old).Moves body other (span.shift new) := by
  refine ⟨fun token hmem hcomment => ?_, fun token hmem hkind => ?_⟩
  · obtain ⟨pieces, ⟨kind, text⟩, rest, hcuts, rfl⟩ := Scanner.exists_cuts_of_mem hmem
    obtain ⟨hkind, hslashes⟩ := hcomment
    obtain rfl : kind = .ignore := hkind
    obtain ⟨-, hlex, -⟩ := hcuts.split_last
    obtain ⟨-, body, hbody, rfl⟩ := hlex.of_slashes
      (by simpa [Piece.token, Piece.body, Token.of] using hslashes)
    refine ⟨joined pieces, body, rest, Token.covers_of_cuts _ hcuts, fun other hother => ?_⟩
    have hstop : (Piece.token ⟨.ignore, '/' :: '/' :: body⟩
        (Place.pastPieces settings.lineRule {} pieces)).span.stop =
          Text.byteLength (joined pieces) + Text.byteLength body + 2 := by
      rw [(Token.covers_of_cuts _ hcuts).stop_eq, byteLength_comment, Nat.add_assoc]
    rw [scanWith_exchange_comment settings hbody hcuts hother, hstop]
  · obtain ⟨pieces, ⟨kind, text⟩, rest, hcuts, rfl⟩ := Scanner.exists_cuts_of_mem hmem
    obtain rfl : kind = .string := hkind
    obtain ⟨-, hlex, -⟩ := hcuts.split_last
    obtain ⟨body, hbody, rfl⟩ := hlex.of_string
    refine ⟨joined pieces, body, rest, Token.covers_of_cuts _ hcuts, fun other hother => ?_⟩
    have hnew := hcuts.exchange_last ⟨.string, '"' :: (other ++ ['"'])⟩ (.string hother)
      (ends_string _ rest) rfl
    have hafter := around_of_cuts settings hnew
    rw [token_withBody _ body] at hafter
    exact ⟨_, _, _, around_of_cuts settings hcuts, hafter,
      moves_behind_string _ _ (one_le_pastPieces _ _).1 body other⟩

/-- A quote and a tab in a comment, and slashes and a line feed in a string. -/
theorem bodies_are_opaque_behind_tab :
    scanWith ⟨.legacy⟩ ['"', '\t', '"', '/', '/', '"', '\t', '\n', '@'] =
      .error ⟨.unexpectedCharacter '@', ⟨8, 9, 2, 1⟩⟩ ∧
    .ok (.of .string "//\n" ⟨0, 5, 1, 1⟩) ∈ (Scanner.start .legacy
      ['"', '/', '/', '\n', '"', '/', '/', 'x', '\n', '@']).results := by
  obtain ⟨hcomments, hstrings⟩ :=
    bodies_are_opaque ⟨.legacy⟩ ['"', '\t', '"', '/', '/', 'x', '\n', '@']
  constructor
  · obtain ⟨before, body, after, hcovers, hscan⟩ := hcomments (.of .ignore "//x" ⟨3, 6, 1, 4⟩)
      (List.mem_of_getElem? (i := 1) (by decide +kernel)) ⟨rfl, by decide⟩
    obtain ⟨rfl, htext, rfl⟩ := hcovers.unique
      (⟨rfl, rfl, rfl⟩ : Token.Covers _ _ ['"', '\t', '"'] ['/', '/', 'x'] ['\n', '@'])
    cases htext
    exact (hscan ['"', '\t'] (by decide)).trans (by decide +kernel)
  · obtain ⟨before, body, after, hcovers, hchange⟩ := hstrings (.of .string "\t" ⟨0, 3, 1, 1⟩)
      (List.mem_of_getElem? (i := 0) (by decide +kernel)) rfl
    obtain ⟨rfl, -, rfl⟩ := hcovers.unique
      (⟨rfl, rfl, rfl⟩ : Token.Covers _ _ [] ['"', '\t', '"'] ['/', '/', 'x', '\n', '@'])
    obtain ⟨front, old, new, -, haround, -⟩ := hchange ['/', '/', '\n'] (by decide)
    have hmem := haround.results_eq
    simp at hmem
    simp [hmem]
    exact .inr (.inl rfl)

end ScriptScan
