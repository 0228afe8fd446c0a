import ScriptScan.Proofs.Decomposition

/-!
# ScriptScan.Proofs.Tiling

The spans of a run lie one behind the other and leave out no byte of the source.

* `Tiles` — what holds between two calls of a scan that goes on: the tokens so
  far cover the source up to the cursor;
* `Tiles.token`, `tiles_after` — a call that gives a token keeps it, and so it
  holds after any number of calls until there is an error;
* `spans_tile_source` — where the span of every answer starts and ends, what it
  covers, and where the scanner stands afterwards.
-/

namespace ScriptScan

/-- The text of a token as it stands in a source: that of a string with its
quotes. -/
def Token.spelling (token : Token) : List Char :=
  if token.kind = .string then '"' :: (token.text.toList ++ ['"']) else token.text.toList

/-- Where the last of the tokens ends.  Before any token this is the start. -/
def lastStop (tokens : List Token) : Nat := (tokens.getLast?.map (·.span.stop)).getD 0

/-- The tokens among the first answers of a scanner. -/
def Scanner.tokensBefore (scanner : Scanner) (n : Nat) : List Token :=
  (scanner.results.take n).filterMap Except.toOption

/-- What holds between two calls: the tokens so far cover the source up to the
cursor, and each of them has taken a character at least. -/
structure Tiles (source : List Char) (tokens : List Token) (cursor : Cursor) : Prop where
  source_eq : source = covered source tokens ++ cursor.rest
  offset_eq : cursor.place.offset = Text.byteLength (covered source tokens)
  lastStop_eq : lastStop tokens = cursor.place.offset
  length_le : tokens.length + cursor.rest.length ≤ source.length

theorem tiles_start (rule : LineRule) (source : List Char) :
    Tiles source [] (.start rule source) :=
  ⟨rfl, rfl, rfl, by simp [Cursor.start]⟩

/-! ## one call -/

theorem spelling_token_of_ne_string {kind : Kind} (h : kind ≠ .string) (text : List Char)
    (place : Place) : ((⟨kind, text⟩ : Piece).token place).spelling = text := by
  simp [Token.spelling, Piece.token, Piece.body, Token.of, h]

/-- A lexeme is what its token spells. -/
theorem spelling_token {piece : Piece} (h : IsLexeme piece.kind piece.text) (place : Place) :
    (piece.token place).spelling = piece.text := by
  obtain ⟨kind, text⟩ := piece
  simp only at h
  cases h with
  | mark hmem => exact spelling_token_of_ne_string (isPlain_of_mem_marks hmem).2 _ place
  | comparison hmem =>
      exact spelling_token_of_ne_string (isPlain_of_mem_comparisons hmem).1.2 _ place
  | comparisonEquals hmem =>
      exact spelling_token_of_ne_string (isPlain_of_mem_comparisons hmem).2.2 _ place
  | word _ _ hkind => exact spelling_token_of_ne_string (isPlain_of_isWordKind hkind).2 _ place
  | blank | divide | comment | number => exact spelling_token_of_ne_string (by decide) _ place
  | string =>
      -- the token dropped the quotes, and the spelling puts them back
      simp [Token.spelling, Piece.token, Piece.body, Token.of]

variable {source : List Char} {tokens : List Token} {cursor : Cursor}

theorem byteLength_pos {text : List Char} (h : text ≠ []) : 0 < Text.byteLength text :=
  Nat.lt_of_lt_of_le (List.length_pos_iff.2 h) (Text.length_le_byteLength text)

/-- A call that gives a token keeps the tiling. -/
theorem Tiles.token (h : Tiles source tokens cursor) {piece : Piece} {rest : List Char}
    (hrest : cursor.rest = piece.text ++ rest) (hlex : IsLexeme piece.kind piece.text) :
    Tiles source (tokens ++ [piece.token cursor.place]) (cursor.behind piece rest) := by
  have hsource := h.source_eq
  rw [hrest] at hsource
  have hcovered : covered source (tokens ++ [piece.token cursor.place]) =
      covered source tokens ++ piece.text := by
    simp [covered, slice?_token hsource h.offset_eq]
  refine ⟨?_, ?_, ?_, ?_⟩
  · rw [hcovered, List.append_assoc]
    exact hsource
  · rw [hcovered, Text.byteLength_append, ← h.offset_eq]
    exact Place.offset_pastPiece _ _ _
  · rw [lastStop, List.getLast?_concat]
    exact (Place.offset_pastPiece _ _ _).symm
  · have hpos := List.length_pos_iff.2 hlex.ne_nil
    have hle := h.length_le
    rw [hrest, List.length_append] at hle
    rw [List.length_append, List.length_singleton]
    show tokens.length + 1 + rest.length ≤ source.length
    omega

theorem Breaks.exists_append {text bad : List Char} {fault : Fault} (h : Breaks text fault bad) :
    bad ≠ [] ∧ ∃ rest, text = bad ++ rest := by
  cases h with
  | unexpectedCharacter => exact ⟨by simp, _, rfl⟩
  | unterminatedString => exact ⟨by simp, [], by simp⟩
  | tooManyDecimals => exact ⟨by simp, _, rfl⟩

/-- What an error covers is the text at fault. -/
theorem Tiles.slice?_faultAt (h : Tiles source tokens cursor) {fault : Fault} {bad : List Char}
    (hbreaks : Breaks cursor.rest fault bad) :
    (cursor.faultAt fault bad).span.slice? source = some bad := by
  obtain ⟨-, rest, hrest⟩ := hbreaks.exists_append
  have hsource := h.source_eq
  rw [hrest] at hsource
  rw [Span.slice?_eq_some_iff]
  refine ⟨covered source tokens, rest, by rw [List.append_assoc]; exact hsource,
    h.offset_eq.symm, ?_⟩
  rw [← h.offset_eq]
  rfl

/-! ## any number of calls -/

theorem tokensBefore_succ (scanner : Scanner) (n : Nat) :
    scanner.tokensBefore (n + 1) =
      scanner.tokensBefore n ++ (scanner.after n).nextToken.1.toList.filterMap Except.toOption := by
  rw [Scanner.tokensBefore, List.take_add_one, List.filterMap_append, Scanner.nextToken_after]
  rfl

/-- **The run keeps the tiling**: after any number of calls the tokens so far tile the
source up to the cursor, and every call has shortened what is left; or else there has
been an error. -/
theorem tiles_after (rule : LineRule) (source : List Char) (n : Nat) :
    (∃ cursor, (Scanner.start rule source).after n = cursor.toScanner ∧
        Tiles source ((Scanner.start rule source).tokensBefore n) cursor ∧
        cursor.rest.length ≤ source.length - n) ∨
      ((Scanner.start rule source).after n).failed = true ∧
        (∃ error, .error error ∈ (Scanner.start rule source).results) ∧
        ((Scanner.start rule source).tokensBefore n).length ≤ source.length := by
  induction n with
  | zero =>
      exact .inl ⟨.start rule source, rfl, tiles_start rule source, Nat.le_refl _⟩
  | succ n ih =>
      rw [tokensBefore_succ, Scanner.after_succ]
      rcases ih with ⟨cursor, hafter, htiles, hlen⟩ | ⟨hfailed, herror, hcount⟩
      · have hanswer := Scanner.nextToken_after (.start rule source) n
        rw [hafter] at hanswer ⊢
        rcases cursor.nextToken_cases with ⟨hrest, hnext⟩ | ⟨piece, rest, hrest, hlex, hnext⟩ |
          ⟨fault, bad, hbreaks, hnext⟩
        · rw [hnext]
          refine .inl ⟨cursor, rfl, by simpa using htiles, ?_⟩
          simp [hrest]
        · rw [hnext]
          refine .inl ⟨cursor.behind piece rest, rfl, htiles.token hrest hlex, ?_⟩
          have hpos := List.length_pos_iff.2 hlex.ne_nil
          rw [hrest, List.length_append] at hlen
          show rest.length ≤ source.length - (n + 1)
          omega
        · rw [hnext] at hanswer ⊢
          have hle := htiles.length_le
          refine .inr ⟨rfl, ⟨_, List.mem_of_getElem? hanswer.symm⟩, ?_⟩
          show (_ ++ []).length ≤ source.length
          rw [List.append_nil]
          omega
      · rw [Scanner.nextToken_of_failed hfailed]
        exact .inr ⟨hfailed, herror, by simpa using hcount⟩

/-! ## the spans of a run -/

/-- What a call for a lexeme tells after the given tokens: where its span lies, what
it covers, and where the scanner stands afterwards. -/
structure Accounts (source : List Char) (tokens : List Token) (scanner : Scanner) : Prop where
  token : ∀ token, scanner.nextToken.1 = some (.ok token) →
    token.span.start = lastStop tokens ∧ token.span.start < token.span.stop ∧
      token.span.stop = scanner.nextToken.2.position ∧
      token.span.slice? source = some token.spelling
  error : ∀ error, scanner.nextToken.1 = some (.error error) →
    error.span.start = lastStop tokens ∧
      (∃ text, text ≠ [] ∧ error.span.slice? source = some text) ∧
      match error.fault with
      | .unexpectedCharacter _ =>
        scanner.nextToken.2.position = scanner.position ∧ scanner.nextToken.2.line = scanner.line
      | _ => scanner.nextToken.2.position = error.span.stop

theorem Tiles.accounts (h : Tiles source tokens cursor) :
    Accounts source tokens cursor.toScanner := by
  rcases cursor.nextToken_cases with ⟨-, hnext⟩ | ⟨piece, rest, hrest, hlex, hnext⟩ |
    ⟨fault, bad, hbreaks, hnext⟩
  · constructor <;> simp [hnext]
  · constructor
    · intro token htoken
      obtain rfl : piece.token cursor.place = token := by simpa [hnext] using htoken
      have hpos := byteLength_pos hlex.ne_nil
      have hsource := h.source_eq
      rw [hrest] at hsource
      rw [hnext]
      refine ⟨h.lastStop_eq.symm, Nat.lt_add_of_pos_right hpos, ?_, ?_⟩
      · exact (Place.offset_pastPiece _ _ _).symm
      · rw [spelling_token hlex, slice?_token hsource h.offset_eq]
    · simp [hnext]
  · constructor
    · simp [hnext]
    · intro error herror
      obtain rfl : cursor.faultAt fault bad = error := by simpa [hnext] using herror
      refine ⟨h.lastStop_eq.symm, ⟨bad, hbreaks.exists_append.1, h.slice?_faultAt hbreaks⟩, ?_⟩
      rw [hnext]
      cases fault with
      | unexpectedCharacter => exact ⟨rfl, rfl⟩
      | unterminatedString => exact Place.offset_past _ _
      | tooManyDecimals => exact Place.offset_past _ _

/-- **No byte is left out**: of the answers to any number of calls the spans lie one
behind the other from the start of the source on, each covers what its token spells,
and the scanner stands where the last one ends.  A run without an error ends at the
end of the source, and no run has more tokens than the source has characters. -/
theorem spans_tile_source (rule : LineRule) (source : List Char) (n : Nat) :
    Accounts source ((Scanner.start rule source).tokensBefore n)
        ((Scanner.start rule source).after n) ∧
      (((Scanner.start rule source).after n).nextToken.1 = none →
        (∀ error, .error error ∉ (Scanner.start rule source).results) →
        lastStop ((Scanner.start rule source).tokensBefore n) = Text.byteLength source ∧
          covered source ((Scanner.start rule source).tokensBefore n) = source) ∧
      ((Scanner.start rule source).tokensBefore n).length ≤ source.length ∧
      (source.length ≤ n → ((Scanner.start rule source).after n).nextToken.1 = none) := by
  rcases tiles_after rule source n with ⟨cursor, hafter, htiles, hlen⟩ | ⟨hfailed, herror, hcount⟩
  · rw [hafter]
    refine ⟨htiles.accounts, fun hnone _ => ?_, ?_, fun hn => ?_⟩
    · have hrest : cursor.rest = [] := by
        rcases cursor.nextToken_cases with ⟨hrest, -⟩ | ⟨_, _, -, -, hnext⟩ | ⟨_, _, -, hnext⟩
        · exact hrest
        · simp [hnext] at hnone
        · simp [hnext] at hnone
      have hsource := htiles.source_eq
      rw [hrest, List.append_nil] at hsource
      exact ⟨by rw [htiles.lastStop_eq, htiles.offset_eq, ← hsource], hsource.symm⟩
    · have hle := htiles.length_le
      omega
    · have hrest : cursor.rest = [] := List.eq_nil_of_length_eq_zero (by omega)
      rw [Cursor.nextToken_of_nil hrest]
  · have hnone := Scanner.nextToken_of_failed hfailed
    refine ⟨⟨by simp [hnone], by simp [hnone]⟩, fun _ hnot => ?_, hcount, fun _ => by rw [hnone]⟩
    obtain ⟨error, hmem⟩ := herror
    exact absurd hmem (hnot error)

end ScriptScan
