import ScriptScan.Proofs.Run

/-!
# ScriptScan.Proofs.Decomposition

The scanner against its grammar, over whole sources.

* `yields_iff_isCut` — the kinds and texts that a fresh scanner gives are the one
  cut of the source into lexemes of which none could be longer;
* `scan_stops_where_grammar_breaks` — where there is no such cut, the scan gives
  the error about the first text with which no lexeme begins.

Both hold under either line rule and for sources of any length.
-/

namespace ScriptScan

/-! ## the one cut of a source -/

/-- A cut of a source as the grammar wants it: the pieces make up the source, each
is a lexeme of its kind, and none would take in the character that follows it. -/
structure IsCut (source : List Char) (pieces : List Piece) : Prop where
  joined_eq : joined pieces = source
  isLexeme : ∀ piece ∈ pieces, IsLexeme piece.kind piece.text
  ends : ∀ before piece after, pieces = before ++ piece :: after →
    Ends piece.text (joined after)

/-- Asked for lexemes one by one, a fresh scanner gives tokens of these kinds over
these texts of the source, and then nothing more. -/
def Yields (rule : LineRule) (source : List Char) (pieces : List Piece) : Prop :=
  ∃ tokens : List Token,
    (∀ n, ((Scanner.start rule source).after n).nextToken.1 = tokens[n]?.map .ok) ∧
    tokens.map (fun token => (token.kind, token.span.slice? source)) =
      pieces.map fun piece => (piece.kind, some piece.text)

theorem Cuts.isCut {text left : List Char} {pieces : List Piece} (h : Cuts text pieces left)
    (hleft : left = []) : IsCut text pieces := by
  induction h with
  | done => exact ⟨hleft.symm, by simp, by simp⟩
  | @piece piece rest left pieces hlex hends _ ih =>
      obtain ⟨hjoined, hlexes, hafter⟩ := ih hleft
      refine ⟨by rw [joined_cons, hjoined], ?_, fun before middle after heq => ?_⟩
      · simpa [hlex] using hlexes
      · cases before with
        | nil =>
            obtain ⟨rfl, rfl⟩ := List.cons.inj heq
            rwa [hjoined]
        | cons first before => exact hafter before middle after (List.cons.inj heq).2

theorem IsCut.cuts {source : List Char} {pieces : List Piece} (h : IsCut source pieces) :
    Cuts source pieces [] := by
  induction pieces generalizing source with
  | nil => rw [← h.joined_eq]; exact .done
  | cons piece pieces ih =>
      have htail : IsCut (joined pieces) pieces :=
        ⟨rfl, fun other hmem => h.isLexeme other (List.mem_cons_of_mem piece hmem),
          fun before middle after heq => h.ends (piece :: before) middle after (by rw [heq]; rfl)⟩
      rw [← h.joined_eq, joined_cons]
      exact .piece (h.isLexeme piece List.mem_cons_self) (h.ends [] piece pieces rfl) (ih htail)

/-- The answers of a scanner are these tokens and then nothing if its results are
the tokens. -/
theorem results_eq_iff {scanner : Scanner} {tokens : List Token} :
    scanner.results = tokens.map .ok ↔
      ∀ n, (scanner.after n).nextToken.1 = tokens[n]?.map .ok := by
  constructor
  · intro h n
    rw [Scanner.nextToken_after, h, List.getElem?_map]
  · intro h
    apply List.ext_getElem?
    intro n
    rw [← Scanner.nextToken_after, h, List.getElem?_map]

/-- The scanner finds every cut of the source. -/
theorem IsCut.yields {source : List Char} {pieces : List Piece} (rule : LineRule)
    (h : IsCut source pieces) : Yields rule source pieces := by
  have hresults := Scanner.results_start rule h.cuts
  have hend : (Scanner.cursorAfter rule source pieces []).toScanner.results = [] :=
    Cursor.results_of_nil rfl
  rw [hend, List.append_nil] at hresults
  exact ⟨_, results_eq_iff.1 hresults, Scanner.map_slice?_tokensOf rule h.cuts⟩

/-- A piece is known by its kind and its text. -/
theorem pieces_eq_of_map_eq {pieces others : List Piece}
    (h : pieces.map (fun piece => (piece.kind, some piece.text)) =
      others.map fun piece => (piece.kind, some piece.text)) : pieces = others := by
  refine (List.map_inj_right fun piece other heq => ?_).1 h
  obtain ⟨hkind, htext⟩ := Prod.mk.inj heq
  obtain ⟨kind, text⟩ := piece
  simp_all

/-- What a scanner yields is a cut of its source. -/
theorem Yields.isCut {rule : LineRule} {source : List Char} {pieces : List Piece}
    (h : Yields rule source pieces) : IsCut source pieces := by
  obtain ⟨tokens, hanswers, hpieces⟩ := h
  obtain ⟨others, left, hcuts, hend⟩ := Scanner.exists_results rule source
  rw [← results_eq_iff] at hanswers
  rcases hend with ⟨hleft, hresults⟩ | ⟨fault, bad, -, hresults⟩
  · have htokens : tokens = Scanner.tokensOf rule others :=
      (List.map_inj_right fun _ _ => Except.ok.inj).1 (hanswers.symm.trans hresults)
    rw [htokens, Scanner.map_slice?_tokensOf rule hcuts] at hpieces
    rw [← pieces_eq_of_map_eq hpieces]
    exact hcuts.isCut hleft
  · -- a run of tokens alone holds no error
    rw [hanswers] at hresults
    have herror := congrArg List.getLast? hresults
    rw [List.getLast?_concat, List.getLast?_map] at herror
    obtain ⟨token, -, hcontra⟩ := Option.map_eq_some_iff.1 herror
    cases hcontra

/-- A scanner yields one list of pieces at most. -/
theorem Yields.unique {rule : LineRule} {source : List Char} {pieces others : List Piece}
    (h : Yields rule source pieces) (h' : Yields rule source others) : others = pieces := by
  obtain ⟨tokens, hanswers, hpieces⟩ := h
  obtain ⟨tokens', hanswers', hothers⟩ := h'
  rw [← results_eq_iff] at hanswers hanswers'
  obtain rfl : tokens = tokens' :=
    (List.map_inj_right fun _ _ => Except.ok.inj).1 (hanswers.symm.trans hanswers')
  exact pieces_eq_of_map_eq (hothers.symm.trans hpieces)

/-- **Maximal munch**: a fresh scanner gives exactly the pieces of a cut of its source
into lexemes that end where they have to.  A source has one such cut at most, and no
lexeme that begins where a piece of it does is longer than the piece. -/
theorem yields_iff_isCut (rule : LineRule) (source : List Char) (pieces : List Piece) :
    (Yields rule source pieces ↔ IsCut source pieces) ∧
      (IsCut source pieces → ∀ others, IsCut source others → others = pieces) ∧
      (IsCut source pieces → ∀ before piece after kind long,
        pieces = before ++ piece :: after → IsLexeme kind long →
          long <+: piece.text ++ joined after → long.length ≤ piece.text.length) := by
  refine ⟨⟨Yields.isCut, IsCut.yields rule⟩, fun h others h' => ?_, ?_⟩
  · exact (h.yields rule).unique (h'.yields rule)
  · intro h before piece after kind long heq hlong hlead
    have hmem : piece ∈ pieces := by rw [heq]; simp
    exact length_le_of_ends (h.isLexeme piece hmem) (h.ends before piece after heq) hlong hlead

/-! ## the first break -/

/-- The texts of a source that tokens cover, joined. -/
def covered (source : List Char) (tokens : List Token) : List Char :=
  tokens.flatMap fun token => (token.span.slice? source).getD []

theorem covered_tokensOf (rule : LineRule) {source left : List Char} {pieces : List Piece}
    (h : Cuts source pieces left) :
    covered source (Scanner.tokensOf rule pieces) = joined pieces := by
  have hslices := congrArg (List.flatMap (·.2.getD [])) (Scanner.map_slice?_tokensOf rule h)
  rw [List.flatMap_map, List.flatMap_map] at hslices
  exact hslices

/-- How much of a text is at fault. -/
def Fault.bad (text : List Char) : Fault → List Char
  | .unexpectedCharacter c => [c]
  | .unterminatedString => text
  | .tooManyDecimals number => number.toList

theorem Breaks.bad_eq {text bad : List Char} {fault : Fault} (h : Breaks text fault bad) :
    bad = fault.bad text := by
  cases h <;> simp [Fault.bad]

/-- A text breaks the grammar in one way only. -/
theorem Breaks.unique {text bad bad' : List Char} {fault fault' : Fault}
    (h : Breaks text fault bad) (h' : Breaks text fault' bad') : fault' = fault ∧ bad' = bad := by
  have hread := Cursor.readLexeme_of_breaks
    (show Breaks (Cursor.start .newline text).rest fault bad from h)
  have hread' := Cursor.readLexeme_of_breaks
    (show Breaks (Cursor.start .newline text).rest fault' bad' from h')
  have herror := Except.error.inj (congrArg Prod.fst (hread'.symm.trans hread))
  have hfault : fault' = fault := congrArg ScanError.fault herror
  rw [h.bad_eq, h'.bad_eq, hfault]
  exact ⟨rfl, rfl⟩

/-- No character outside ASCII begins a lexeme. -/
theorem startsNothing_of_not_ascii {c : Char} (h : 127 < c.toNat) : StartsNothing c := by
  have hblanks : ∀ x ∈ blanks, x.toNat ≤ 127 := List.all_iff_forall_prop.1 (by decide)
  have hsigns : ∀ x ∈ signs, x.toNat ≤ 127 := List.all_iff_forall_prop.1 (by decide)
  refine ⟨fun hc => ?_, fun hc => ?_, ?_, ?_⟩
  · exact Nat.not_le.2 h (hblanks c hc)
  · exact Nat.not_le.2 h (hsigns c hc)
  · rw [digit_iff]
    omega
  · rw [letter_iff]
    omega

/-- **The first error**: the tokens of a run are lexemes that end where they have to and
cover the source up to its end, and then the scan gives those that are no separators; or
up to a text with which no lexeme begins, and then the scan gives the error about that
text.  What breaks the grammar does so in one way, so that the fault and the text at
fault are determined. -/
theorem scan_stops_where_grammar_breaks (settings : Settings) (source : List Char) :
    (∃ pieces tokens left,
      Cuts source pieces left ∧
      tokens.map (fun token => (token.kind, token.span.slice? source)) =
        pieces.map (fun piece => (piece.kind, some piece.text)) ∧
      source = covered source tokens ++ left ∧
      (left = [] ∧
          (Scanner.start settings.lineRule source).results = tokens.map .ok ∧
          scanWith settings source = .ok (tokens.filter (·.kind ≠ .ignore)) ∨
        left ≠ [] ∧ ∃ fault bad line column,
          Breaks left fault bad ∧
          (∀ fault' bad', Breaks left fault' bad' → fault' = fault ∧ bad' = bad) ∧
          (Scanner.start settings.lineRule source).results = tokens.map .ok ++
            [.error ⟨fault, ⟨Text.byteLength (covered source tokens),
              Text.byteLength (covered source tokens) + Text.byteLength bad, line, column⟩⟩] ∧
          scanWith settings source =
            .error ⟨fault, ⟨Text.byteLength (covered source tokens),
              Text.byteLength (covered source tokens) + Text.byteLength bad, line, column⟩⟩)) ∧
    ∀ c : Char, c = '.' ∨ c = '\x00' ∨ c = '_' ∨ 127 < c.toNat → StartsNothing c := by
  refine ⟨?_, ?_⟩
  · obtain ⟨pieces, left, hcuts, hend⟩ := Scanner.exists_results settings.lineRule source
    have hcovered := covered_tokensOf settings.lineRule hcuts
    refine ⟨pieces, Scanner.tokensOf settings.lineRule pieces, left, hcuts,
      Scanner.map_slice?_tokensOf settings.lineRule hcuts, ?_, ?_⟩
    · rw [hcovered, ← hcuts.text_eq]
    · rcases hend with ⟨hleft, hresults⟩ | ⟨fault, bad, hbreaks, hresults⟩
      · exact .inl ⟨hleft, hresults, Scanner.scan_of_results_ok hresults⟩
      · have hplace : (Scanner.cursorAfter settings.lineRule source pieces left).place.offset =
            Text.byteLength (covered source (Scanner.tokensOf settings.lineRule pieces)) := by
          rw [hcovered]
          simp [Scanner.cursorAfter, Cursor.behindAll, Cursor.start]
        rw [Cursor.faultAt, hplace] at hresults
        exact .inr ⟨hbreaks.ne_nil, fault, bad, _, _, hbreaks, fun _ _ h => hbreaks.unique h,
          hresults, Scanner.scan_of_results_error hresults⟩
  · rintro c (rfl | rfl | rfl | h)
    · exact ⟨by decide, by decide, by decide, by decide⟩
    · exact ⟨by decide, by decide, by decide, by decide⟩
    · exact ⟨by decide, by decide, by decide, by decide⟩
    · exact startsNothing_of_not_ascii h

end ScriptScan
