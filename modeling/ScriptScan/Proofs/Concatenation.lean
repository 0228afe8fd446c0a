import ScriptScan.Proofs.Relocation

/-!
# ScriptScan.Proofs.Concatenation

The scan of two sources with blanks between them.

* `Prolongs.of_mem_blanks` — of all lexemes only a comment takes in a blank, and not
  the line feed;
* `Cuts.append_blanks` — so a cut of the first source is that of the front of the whole,
  but for a comment at its end, which may grow;
* `scan_append_blanks` — the scan of the whole is the scan of the first source and then
  that of the second, moved behind the blanks.
-/

namespace ScriptScan

/-! ## blanks behind a lexeme -/

variable {a w text : List Char} {c : Char}

theorem not_numeral_of_mem_blanks (hc : c ∈ blanks) : ¬ Numeral c := by
  have hall : ∀ c ∈ blanks, ¬ Numeral c := List.all_iff_forall_prop.1 (by decide)
  exact hall c hc

theorem not_wordChar_of_mem_blanks (hc : c ∈ blanks) : ¬ WordChar c := by
  have hall : ∀ c ∈ blanks, ¬ WordChar c := List.all_iff_forall_prop.1 (by decide)
  exact hall c hc

/-- Only a comment takes in blanks, and it takes in no line feed. -/
theorem Prolongs.of_mem_blanks (h : Prolongs text c) (hc : c ∈ blanks) :
    c ≠ '\n' ∧ ['/', '/'] <+: text := by
  cases h with
  | comparison => exact absurd hc (by decide)
  | divide => exact absurd hc (by decide)
  | @comment body _ hfeed => exact ⟨hfeed, body, rfl⟩
  | number _ hd => exact absurd hd (not_numeral_of_mem_blanks hc)
  | word _ hd => exact absurd hd (not_wordChar_of_mem_blanks hc)

/-- A lexeme that is no comment ends before blanks. -/
theorem ends_of_blanks (hw : w ≠ []) (hblanks : ∀ c ∈ w, c ∈ blanks)
    (htext : ¬ ['/', '/'] <+: text) (more : List Char) : Ends text (w ++ more) := by
  obtain ⟨c, cs, rfl⟩ := List.exists_cons_of_ne_nil hw
  intro d hd hprolongs
  cases hd
  exact htext (hprolongs.of_mem_blanks (hblanks c List.mem_cons_self)).2

/-- Each blank as a piece. -/
def blankPieces (w : List Char) : List Piece := w.map fun c => ⟨.ignore, [c]⟩

theorem cuts_blanks (hblanks : ∀ c ∈ w, c ∈ blanks) (more : List Char) :
    Cuts (w ++ more) (blankPieces w) more := by
  induction w with
  | nil => exact .done
  | cons c cs ih =>
      obtain ⟨hc, hcs⟩ := List.forall_mem_cons.1 hblanks
      have hends : Ends [c] (cs ++ more) := by
        intro d _ hprolongs
        have htaken := prolongs_cases hprolongs
        rwa [startOf_of_mem_blanks hc] at htaken
      exact @Cuts.piece ⟨.ignore, [c]⟩ _ _ _ (.blank hc) hends (ih hcs)

/-- A lexeme that opens like a comment is one. -/
theorem IsLexeme.of_slashes {kind : Kind} (h : IsLexeme kind text) (htext : ['/', '/'] <+: text) :
    kind = .ignore ∧ ∃ body, '\n' ∉ body ∧ text = '/' :: '/' :: body := by
  obtain ⟨rest, rfl⟩ := htext
  generalize hwhole : ['/', '/'] ++ rest = whole at h
  cases h with
  | comment hbody => exact ⟨rfl, _, hbody, rfl⟩
  | mark | blank | comparison | divide => cases hwhole
  | comparisonEquals | string => cases hwhole
  | number hd =>
      obtain ⟨rfl, -⟩ := List.cons.inj hwhole
      exact absurd hd (by decide)
  | word hl =>
      obtain ⟨rfl, -⟩ := List.cons.inj hwhole
      exact absurd hl (by decide)

/-- **A comment takes in blanks**: of blanks behind a comment, those before the first line feed
become part of it, and the others stay blanks of their own.  If they hold no line feed, one
has to follow them, or nothing. -/
theorem Cuts.grow_comment {solid : List Piece} {body rest : List Char}
    (h : Cuts text solid ('/' :: '/' :: (body ++ rest))) (hbody : '\n' ∉ body)
    (hblanks : ∀ c ∈ w, c ∈ blanks) (more : List Char)
    (hfeed : '\n' ∈ w ∨ ∀ c, more.head? = some c → c = '\n') :
    Cuts (joined solid ++ '/' :: '/' :: (body ++ (w ++ more)))
      (solid ++ ⟨.ignore, '/' :: '/' :: (body ++ w.takeWhile (· ≠ '\n'))⟩ ::
        blankPieces (w.dropWhile (· ≠ '\n'))) more := by
  have hgrown : IsLexeme .ignore ('/' :: '/' :: (body ++ w.takeWhile (· ≠ '\n'))) := by
    refine .comment fun hmem => ?_
    rcases List.mem_append.1 hmem with hmem | hmem
    · exact hbody hmem
    · simpa using List.mem_takeWhile_imp hmem
  have hends : Ends ('/' :: '/' :: (body ++ w.takeWhile (· ≠ '\n')))
      (w.dropWhile (· ≠ '\n') ++ more) := by
    refine ends_comment_iff.2 fun c hc => ?_
    cases hkept : w.dropWhile (· ≠ '\n') with
    | nil =>
        -- the comment takes in all the blanks
        rw [hkept] at hc
        have hnone := List.dropWhile_eq_nil_iff.1 hkept
        exact hfeed.resolve_left (fun hmem => by simpa using hnone _ hmem) c hc
    | cons d ds =>
        rw [hkept] at hc
        cases hc
        simpa using of_head?_dropWhile (congrArg List.head? hkept)
  have hkept := cuts_blanks
    (fun c hc => hblanks c ((List.dropWhile_sublist (· ≠ '\n')).subset hc)) more
  have htail := @Cuts.piece ⟨.ignore, _⟩ _ _ _ hgrown hends hkept
  simp only [List.cons_append, List.append_assoc, ← List.append_assoc (w.takeWhile _),
    List.takeWhile_append_dropWhile] at htail
  have hfront := @Cuts.replace_left _ _ _ h ('/' :: '/' :: (body ++ (w ++ more))) fun _ hc => hc
  exact hfront.trans htail

/-- **The front of a longer source**: pieces that make up a source stay the first ones when
blanks and any other text follow, but for a comment at the end, which takes in blanks up to
the next line feed.  Either way only separators come and go. -/
theorem Cuts.append_blanks {pieces : List Piece} (h : Cuts a pieces []) (hw : w ≠ [])
    (hblanks : ∀ c ∈ w, c ∈ blanks)
    (hlast : '\n' ∈ w ∨ ∀ piece, pieces.getLast? = some piece → ¬ ['/', '/'] <+: piece.text) :
    ∃ solid gone new, pieces = solid ++ gone ∧ (∀ piece ∈ gone ++ new, piece.kind = .ignore) ∧
      ∀ more, Cuts (a ++ w ++ more) (solid ++ new) more := by
  by_cases hcomment : ∃ piece, pieces.getLast? = some piece ∧ ['/', '/'] <+: piece.text
  · obtain ⟨piece, hpiece, hslashes⟩ := hcomment
    obtain ⟨solid, rfl⟩ := List.getLast?_eq_some_iff.1 hpiece
    have hfeed : '\n' ∈ w := by
      rcases hlast with hfeed | hother
      · exact hfeed
      · exact absurd hslashes (hother piece hpiece)
    obtain ⟨hsolid, hlex, -⟩ := h.split_last
    obtain ⟨hkind, body, hbody, htext⟩ := hlex.of_slashes hslashes
    refine ⟨solid, [piece], ⟨.ignore, '/' :: '/' :: (body ++ w.takeWhile (· ≠ '\n'))⟩ ::
      blankPieces (w.dropWhile (· ≠ '\n')), rfl, by simp [hkind, blankPieces], fun more => ?_⟩
    rw [htext] at hsolid
    have hwhole := hsolid.grow_comment hbody hblanks more (.inl hfeed)
    rw [h.text_eq, joined_append, joined_cons, joined_nil, htext]
    simpa using hwhole
  · refine ⟨pieces, [], blankPieces w, (List.append_nil _).symm, by simp [blankPieces], ?_⟩
    intro more
    have hwhole := h.append (w ++ more) fun _ piece hpiece =>
      ends_of_blanks hw hblanks (fun hslashes => hcomment ⟨piece, hpiece, hslashes⟩) more
    rw [List.append_assoc]
    exact hwhole.trans (cuts_blanks hblanks more)

/-- A token is of the kind of its piece. -/
theorem map_kind_tokens (rule : LineRule) (place : Place) (pieces : List Piece) :
    (place.tokens rule pieces).map (·.kind) = pieces.map (·.kind) := by
  induction pieces generalizing place with
  | nil => rfl
  | cons piece pieces ih => rw [Place.tokens, List.map_cons, List.map_cons, ih]; rfl

/-- Separators behind pieces change no other token. -/
theorem filter_tokens_append (rule : LineRule) (place : Place) (pieces : List Piece)
    {others : List Piece} (h : ∀ piece ∈ others, piece.kind = .ignore) :
    (place.tokens rule (pieces ++ others)).filter (·.kind ≠ .ignore) =
      (place.tokens rule pieces).filter (·.kind ≠ .ignore) := by
  have hothers : ((place.pastPieces rule pieces).tokens rule others).filter
      (·.kind ≠ .ignore) = [] := by
    rw [List.filter_eq_nil_iff]
    intro token hmem
    have hkind := List.mem_map_of_mem (f := (·.kind)) hmem
    rw [map_kind_tokens] at hkind
    obtain ⟨piece, hpiece, heq⟩ := List.mem_map.1 hkind
    simp [← heq, h piece hpiece]
  rw [Place.tokens_append, List.filter_append, hothers, List.append_nil]

/-! ## what the outcome of a scan says about its source -/

/-- The place where a scan over a source comes to its end. -/
def Scanner.endPlace (rule : LineRule) (source : List Char) : Place :=
  ((start rule source).after (start rule source).results.length).cursor.place

/-- A token that a comment makes. -/
def Token.IsComment (token : Token) : Prop :=
  token.kind = .ignore ∧ ['/', '/'] <+: token.text.toList

/-- The last lexeme of a source is a comment. -/
def EndsInComment (rule : LineRule) (source : List Char) : Prop :=
  ∃ token, (Scanner.start rule source).results.getLast? = some (.ok token) ∧ token.IsComment

variable {rule : LineRule} {pieces : List Piece}

theorem results_of_cuts_nil (rule : LineRule) (h : Cuts a pieces []) :
    (Scanner.start rule a).results = (Scanner.tokensOf rule pieces).map .ok := by
  rw [Scanner.results_start rule h, Cursor.results_of_nil rfl, List.append_nil]

theorem endPlace_of_cuts (rule : LineRule) (h : Cuts a pieces []) :
    Scanner.endPlace rule a = Place.pastPieces rule {} pieces := by
  have hlength : (Scanner.start rule a).results.length = pieces.length := by
    rw [results_of_cuts_nil rule h, List.length_map, Scanner.tokensOf, length_tokens]
  have hafter := Cursor.after_of_cuts (show (Cursor.start rule a).rest = a from rfl) h
  rw [Scanner.endPlace, hlength]
  exact congrArg (·.cursor.place) hafter

/-- A last piece that opens like a comment makes a source end in one. -/
theorem endsInComment_of_cuts (rule : LineRule) (h : Cuts a pieces []) {piece : Piece}
    (hpiece : pieces.getLast? = some piece) (hslashes : ['/', '/'] <+: piece.text) :
    EndsInComment rule a := by
  obtain ⟨before, rfl⟩ := List.getLast?_eq_some_iff.1 hpiece
  obtain ⟨mid, -, hmid⟩ := h.split
  have hkind : piece.kind = .ignore := by
    cases hmid with
    | piece hlex => exact (hlex.of_slashes hslashes).1
  refine ⟨piece.token (Place.pastPieces rule {} before), ?_, hkind, ?_⟩
  · rw [results_of_cuts_nil rule h, Scanner.tokensOf, Place.tokens_append, List.map_append]
    exact List.getLast?_concat
  · simpa [Piece.token, Piece.body, Token.of, hkind] using hslashes

/-- A scan that makes tokens has cut the whole source. -/
theorem cuts_of_scan_ok {tokens : List Token} (h : (Scanner.start rule a).scan = .ok tokens) :
    ∃ pieces, Cuts a pieces [] ∧
      tokens = (Scanner.tokensOf rule pieces).filter (·.kind ≠ .ignore) := by
  obtain ⟨pieces, left, hcuts, hend⟩ := Scanner.exists_results rule a
  rcases hend with ⟨rfl, hresults⟩ | ⟨fault, bad, -, hresults⟩
  · rw [Scanner.scan_of_results_ok hresults] at h
    exact ⟨pieces, hcuts, (Except.ok.inj h).symm⟩
  · rw [Scanner.scan_of_results_error hresults] at h
    cases h

/-- A scan that gives an error has cut the source up to a fault. -/
theorem cuts_of_scan_error {error : ScanError} (h : (Scanner.start rule a).scan = .error error) :
    ∃ pieces left fault bad, Cuts a pieces left ∧ Breaks left fault bad ∧
      error = (Place.pastPieces rule {} pieces).faultAt fault bad := by
  obtain ⟨pieces, left, hcuts, hend⟩ := Scanner.exists_results rule a
  rcases hend with ⟨-, hresults⟩ | ⟨fault, bad, hbreaks, hresults⟩
  · rw [Scanner.scan_of_results_ok hresults] at h
    cases h
  · rw [Scanner.scan_of_results_error hresults] at h
    exact ⟨pieces, left, fault, bad, hcuts, hbreaks, (Except.error.inj h).symm⟩

/-! ## scanning two sources at once -/

/-- A scan of a source whose front is cut goes on as a fresh one over what is left. -/
theorem scan_of_cuts (rule : LineRule) {source left : List Char} (h : Cuts source pieces left) :
    (Scanner.start rule source).scan =
      (relocateAll (Span.shift (Place.pastPieces rule {} pieces))
        (Scanner.start rule left).scan).map
          ((Scanner.tokensOf rule pieces).filter (·.kind ≠ .ignore) ++ ·) := by
  rw [Scanner.scan_eq_collect, Scanner.results_start rule h, collect_append,
    Scanner.results_cursorAfter, collect_relocate, ← Scanner.scan_eq_collect]

/-- **Scanning is compositional**: a source behind another one and blanks gives the tokens,
or the error, that it gives alone, moved to where the blanks end, and the tokens of the
other source come before them.  Blanks that begin no new line must not follow a comment.
An error of the first source stays as it is, but for a string that is still open. -/
theorem scan_append_blanks (settings : Settings) (a w b : List Char) (hw : w ≠ [])
    (hblanks : ∀ c ∈ w, c ∈ blanks) :
    (∀ tokens, scanWith settings a = .ok tokens →
      '\n' ∈ w ∨ ¬ EndsInComment settings.lineRule a →
        scanWith settings (a ++ w ++ b) =
            (relocateAll (Span.shift (Scanner.endPlace settings.lineRule (a ++ w)))
              (scanWith settings b)).map (tokens ++ ·) ∧
          (Scanner.endPlace settings.lineRule (a ++ w)).offset = Text.byteLength (a ++ w) ∧
          (settings.lineRule = .newline →
            (Scanner.endPlace settings.lineRule (a ++ w)).line = 1 + (a ++ w).count '\n')) ∧
    ∀ error, scanWith settings a = .error error → error.fault ≠ .unterminatedString →
      scanWith settings (a ++ w ++ b) = .error error := by
  refine ⟨fun tokens hscan hlast => ?_, fun error hscan hfault => ?_⟩
  · obtain ⟨pieces, hcuts, rfl⟩ := cuts_of_scan_ok hscan
    have hpieces : '\n' ∈ w ∨
        ∀ piece, pieces.getLast? = some piece → ¬ ['/', '/'] <+: piece.text :=
      hlast.imp_right fun hno piece hpiece hslashes =>
        hno (endsInComment_of_cuts settings.lineRule hcuts hpiece hslashes)
    obtain ⟨solid, gone, new, rfl, hignore, hwhole⟩ := hcuts.append_blanks hw hblanks hpieces
    obtain ⟨hgone, hnew⟩ := List.forall_mem_append.1 hignore
    have hfront : Cuts (a ++ w) (solid ++ new) [] := by simpa using hwhole []
    rw [endPlace_of_cuts settings.lineRule hfront]
    refine ⟨?_, ?_, fun hrule => ?_⟩
    · rw [scanWith, scanWith, scan_of_cuts settings.lineRule (hwhole b), Scanner.tokensOf,
        Scanner.tokensOf, filter_tokens_append _ _ _ hnew, filter_tokens_append _ _ _ hgone]
    · rw [Place.offset_pastPieces, hfront.text_eq, List.append_nil]
      exact Nat.zero_add _
    · rw [hrule, Place.pastPieces_newline, Place.line_past, hfront.text_eq, List.append_nil]
  · obtain ⟨pieces, left, fault, bad, hcuts, hbreaks, rfl⟩ := cuts_of_scan_error hscan
    have hleft := hcuts.append (w ++ b) fun hnil => absurd hnil hbreaks.ne_nil
    have hstill : Breaks (left ++ (w ++ b)) fault bad := by
      refine hbreaks.append hfault fun _ _ c hc => ?_
      obtain ⟨blank, others, rfl⟩ := List.exists_cons_of_ne_nil hw
      obtain rfl : blank = c := Option.some.inj hc
      exact not_numeral_of_mem_blanks (hblanks blank List.mem_cons_self)
    have hresults := Scanner.results_start settings.lineRule hleft
    rw [Cursor.results_of_breaks hstill] at hresults
    rw [List.append_assoc]
    exact Scanner.scan_of_results_error hresults

/-- Behind a comment that takes in the first of two blanks. -/
theorem scan_append_blanks_after_comment :
    [' ', '\n'] ≠ [] ∧ (∀ c ∈ [' ', '\n'], c ∈ blanks) ∧
      scanWith {} ['x', '/', '/'] = .ok [.of .identifier "x" ⟨0, 1, 1, 1⟩] ∧
      scanWith {} ['x', '/', '/', ' ', '\n', 'y'] =
        .ok [.of .identifier "x" ⟨0, 1, 1, 1⟩, .of .identifier "y" ⟨5, 6, 2, 1⟩] := by
  have hw : [' ', '\n'] ≠ [] := by decide
  have hblanks : ∀ c ∈ [' ', '\n'], c ∈ blanks := List.all_iff_forall_prop.1 (by decide)
  have hscan : scanWith {} ['x', '/', '/'] = .ok [.of .identifier "x" ⟨0, 1, 1, 1⟩] := by
    decide +kernel
  obtain ⟨happend, -⟩ := scan_append_blanks {} ['x', '/', '/'] [' ', '\n'] ['y'] hw hblanks
  exact ⟨hw, hblanks, hscan, (happend _ hscan (.inl (by decide))).1.trans (by decide +kernel)⟩

end ScriptScan
