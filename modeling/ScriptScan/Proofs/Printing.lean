import ScriptScan.Proofs.Concatenation

/-!
# ScriptScan.Proofs.Printing

Tokens written down again, and the scan of what is written.

A token keeps what it takes to write its lexeme down, and blanks behind every lexeme keep
the lexemes apart.

* `isLexeme_of_mem_scan` — what a token of a scan spells is a lexeme of its kind;
* `exists_cuts_spaced` — spelled tokens with blanks behind each of them are cut into the
  same lexemes;
* `scan_of_spaced_tokens` — so the scan of the written tokens gives them back.
-/

namespace ScriptScan

/-! ## what tokens spell -/

/-- A token without its place. -/
def Token.label (token : Token) : Kind × String := (token.kind, token.text)

/-- The lexeme that a token spells, as a piece of a source. -/
def Token.piece (token : Token) : Piece := ⟨token.kind, token.spelling⟩

/-- A blank text that can stand between two tokens. -/
def IsGap (gap : List Char) : Prop := gap ≠ [] ∧ ∀ c ∈ gap, c ∈ blanks

/-- Tokens written down one behind the other, each with a text behind it. -/
def spaced (tokens : List Token) (gaps : List (List Char)) : List Char :=
  (List.zipWith (· ++ ·) (tokens.map (·.spelling)) gaps).flatten

/-- The quotes that a spelling has put around the text of a string are no part of it. -/
theorem body_piece (token : Token) : String.ofList token.piece.body = token.text := by
  by_cases hkind : token.kind = .string <;>
    simp [Piece.body, Token.piece, Token.spelling, hkind]

/-- What tokens spell does not depend on their places. -/
theorem map_spelling_eq {tokens others : List Token}
    (h : tokens.map (·.label) = others.map (·.label)) :
    tokens.map (·.spelling) = others.map (·.spelling) := by
  let spell : Kind × String → List Char := fun label =>
    if label.1 = .string then '"' :: (label.2.toList ++ ['"']) else label.2.toList
  have hspell : Token.spelling = spell ∘ Token.label := rfl
  rw [hspell, ← List.map_map, ← List.map_map, h]

theorem mem_tokens {rule : LineRule} {place : Place} {pieces : List Piece} {token : Token}
    (h : token ∈ place.tokens rule pieces) :
    ∃ piece ∈ pieces, ∃ before : Place, token = piece.token before := by
  induction pieces generalizing place with
  | nil => cases h
  | cons piece pieces ih =>
      rcases List.mem_cons.1 h with rfl | htail
      · exact ⟨piece, List.mem_cons_self, place, rfl⟩
      · obtain ⟨other, hmem, before, heq⟩ := ih htail
        exact ⟨other, List.mem_cons_of_mem piece hmem, before, heq⟩

/-- What a token of a scan spells is a lexeme of its kind. -/
theorem isLexeme_of_mem_scan {rule : LineRule} {source : List Char} {tokens : List Token}
    (h : (Scanner.start rule source).scan = .ok tokens) {token : Token} (hmem : token ∈ tokens) :
    IsLexeme token.kind token.spelling ∧ token.kind ≠ .ignore := by
  obtain ⟨pieces, hcuts, rfl⟩ := cuts_of_scan_ok h
  obtain ⟨hmem, hkind⟩ := List.mem_filter.1 hmem
  obtain ⟨piece, hpiece, place, rfl⟩ := mem_tokens hmem
  have hlex := (hcuts.isCut rfl).isLexeme piece hpiece
  refine ⟨?_, by simpa using hkind⟩
  rw [spelling_token hlex]
  exact hlex

/-! ## scanning what is written -/

/-- Spelled tokens with blanks behind each of them are cut into what the tokens spell, and
the blanks. -/
theorem exists_cuts_spaced {tokens : List Token} {gaps : List (List Char)}
    (htokens : ∀ token ∈ tokens, IsLexeme token.kind token.spelling ∧ token.kind ≠ .ignore)
    (hlength : gaps.length = tokens.length) (hgaps : ∀ gap ∈ gaps, IsGap gap) :
    ∃ pieces, Cuts (spaced tokens gaps) pieces [] ∧
      pieces.filter (·.kind ≠ .ignore) = tokens.map (·.piece) := by
  induction tokens generalizing gaps with
  | nil => exact ⟨[], .done, rfl⟩
  | cons token tokens ih =>
      obtain ⟨gap, others, rfl⟩ := List.exists_cons_of_length_eq_add_one hlength
      obtain ⟨⟨hlex, hkind⟩, htokens⟩ := List.forall_mem_cons.1 htokens
      obtain ⟨⟨hgap, hblanks⟩, hgaps⟩ := List.forall_mem_cons.1 hgaps
      obtain ⟨pieces, hcuts, hfilter⟩ := ih htokens (Nat.succ.inj hlength) hgaps
      refine ⟨token.piece :: (blankPieces gap ++ pieces), ?_, ?_⟩
      · -- only a comment would take in the blanks, and no token is one
        have hends : Ends token.spelling (gap ++ spaced tokens others) :=
          ends_of_blanks hgap hblanks (fun hslashes => hkind (hlex.of_slashes hslashes).1) _
        have htail := (cuts_blanks hblanks (spaced tokens others)).trans hcuts
        have hwhole := @Cuts.piece token.piece _ _ _ hlex hends htail
        simpa [spaced, Token.piece] using hwhole
      · have hnone : (blankPieces gap).filter (·.kind ≠ .ignore) = [] := by
          simp [blankPieces]
        have hsome : decide (token.piece.kind ≠ .ignore) = true := decide_eq_true hkind
        rw [List.filter_cons, if_pos hsome, List.filter_append, hnone, List.nil_append, hfilter,
          List.map_cons]

/-- The tokens of pieces that are no separators have the kinds of the pieces and their
bodies for texts. -/
theorem map_label_filter_tokens (rule : LineRule) (place : Place) (pieces : List Piece) :
    ((place.tokens rule pieces).filter (·.kind ≠ .ignore)).map (·.label) =
      (pieces.filter (·.kind ≠ .ignore)).map fun piece =>
        (piece.kind, String.ofList piece.body) := by
  induction pieces generalizing place with
  | nil => rfl
  | cons piece pieces ih =>
      have hkind : (piece.token place).kind = piece.kind := rfl
      rw [Place.tokens, List.filter_cons, List.filter_cons, hkind]
      split
      · rw [List.map_cons, List.map_cons, ih]
        rfl
      · exact ih _

/-- **Printing and scanning**: the tokens of a scan, written down with blanks behind each
of them, are scanned again under either line rule to tokens of the same kinds and texts,
and these are written down as the same text. -/
theorem scan_of_spaced_tokens (settings : Settings) (source : List Char) (tokens : List Token)
    (gaps : List (List Char)) (hscan : scanWith settings source = .ok tokens)
    (hlength : gaps.length = tokens.length) (hgaps : ∀ gap ∈ gaps, IsGap gap) (other : Settings) :
    ∃ again, scanWith other (spaced tokens gaps) = .ok again ∧
      again.map (·.label) = tokens.map (·.label) ∧ spaced again gaps = spaced tokens gaps := by
  obtain ⟨pieces, hcuts, hfilter⟩ :=
    exists_cuts_spaced (fun _ hmem => isLexeme_of_mem_scan hscan hmem) hlength hgaps
  have hlabels : ((Scanner.tokensOf other.lineRule pieces).filter (·.kind ≠ .ignore)).map
      (·.label) = tokens.map (·.label) := by
    rw [Scanner.tokensOf, map_label_filter_tokens, hfilter, List.map_map]
    exact List.map_congr_left fun token _ => Prod.ext rfl (body_piece token)
  refine ⟨_, Scanner.scan_of_results_ok (results_of_cuts_nil other.lineRule hcuts), hlabels, ?_⟩
  rw [spaced, map_spelling_eq hlabels, spaced]

/-- A number that ends in its point, a slash and a string that looks like a comment, each
kept apart from what follows. -/
theorem scan_of_spaced_tokens_like_comment :
    scanWith {} ['1', '.', '/', '"', '/', '/', '\n', '"'] =
        .ok [.of .number "1." ⟨0, 2, 1, 1⟩, .of .divide "/" ⟨2, 3, 1, 3⟩,
          .of .string "//\n" ⟨3, 8, 1, 4⟩] ∧
      [[' '], ['\t', '\r'], ['\n']].length = 3 ∧
      (∀ gap ∈ [[' '], ['\t', '\r'], ['\n']], IsGap gap) ∧
      ∃ again, scanWith ⟨.legacy⟩
          (spaced [.of .number "1." ⟨0, 2, 1, 1⟩, .of .divide "/" ⟨2, 3, 1, 3⟩,
            .of .string "//\n" ⟨3, 8, 1, 4⟩] [[' '], ['\t', '\r'], ['\n']]) = .ok again ∧
        again.map (·.label) = [(.number, "1."), (.divide, "/"), (.string, "//\n")] ∧
        spaced again [[' '], ['\t', '\r'], ['\n']] =
          ['1', '.', ' ', '/', '\t', '\r', '"', '/', '/', '\n', '"', '\n'] := by
  have hscan : scanWith {} ['1', '.', '/', '"', '/', '/', '\n', '"'] =
      .ok [.of .number "1." ⟨0, 2, 1, 1⟩, .of .divide "/" ⟨2, 3, 1, 3⟩,
        .of .string "//\n" ⟨3, 8, 1, 4⟩] := by
    decide +kernel
  have hgaps : ∀ gap ∈ [[' '], ['\t', '\r'], ['\n']], IsGap gap := by
    simp [IsGap, blanks]
  exact ⟨hscan, rfl, hgaps, scan_of_spaced_tokens {} _ _ _ hscan rfl hgaps ⟨.legacy⟩⟩

end ScriptScan
