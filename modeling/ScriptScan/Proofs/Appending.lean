import ScriptScan.Proofs.Driving

/-!
# ScriptScan.Proofs.Appending

A source and the same source with more text behind it.

No reader looks further than at the one character behind its lexeme, so text behind a
source can be taken in by its last lexeme alone, and only by a lexeme that still takes in
characters.

* `ends_of_isClosed` — the tokens whose lexemes take in nothing, whatever follows;
* `Cuts.exists_init` — all pieces of a source but the last are those of every longer
  source;
* `appended_text_changes_last_lexeme_only` — the answers over the two sources.
-/

namespace ScriptScan

/-! ## lexemes that take in nothing -/

/-- The kinds of token whose lexemes take in no further character. -/
def closedKinds : List Kind := .string :: marks.map (·.2) ++ comparisons.map (·.2.2)

/-- Tokens whose lexemes take in no further character: strings, marks, comparison signs
with their equals sign, and blanks. -/
def Token.IsClosed (token : Token) : Prop :=
  token.kind ∈ closedKinds ∨
    token.kind = .ignore ∧ ∃ c ∈ blanks, token.text = String.ofList [c]

/-- A piece that is no separator makes a closed token if its kind is closed. -/
theorem mem_closedKinds_of_isClosed {piece : Piece} {place : Place}
    (h : (piece.token place).IsClosed) (hkind : piece.kind ≠ .ignore) :
    piece.kind ∈ closedKinds :=
  h.resolve_right fun hblank => hkind hblank.1

/-- No keyword and no identifier is of a closed kind. -/
theorem not_mem_closedKinds_of_isWordKind {word : List Char} {kind : Kind}
    (h : IsWordKind word kind) : kind ∉ closedKinds := by
  have hall : ∀ entry ∈ Kind.keywords, entry.2 ∉ closedKinds := by decide
  rcases h with hmem | ⟨rfl, -⟩
  · exact hall _ hmem
  · decide

/-- A lexeme whose token is closed ends before every text. -/
theorem ends_of_isClosed {piece : Piece} {place : Place}
    (hlex : IsLexeme piece.kind piece.text) (hclosed : (piece.token place).IsClosed)
    (more : List Char) : Ends piece.text more := by
  have hkinds := mem_closedKinds_of_isClosed hclosed
  obtain ⟨kind, text⟩ := piece
  intro d _ hprolongs
  cases hlex with
  | mark hmem =>
      have htaken := prolongs_cases hprolongs
      rwa [startOf_of_mem_marks hmem] at htaken
  | blank hmem =>
      have htaken := prolongs_cases hprolongs
      rwa [startOf_of_mem_blanks hmem] at htaken
  | comparisonEquals hmem =>
      have htaken := prolongs_cases hprolongs
      simp [startOf_of_mem_comparisons hmem] at htaken
  | string =>
      have htaken := prolongs_cases hprolongs
      rwa [startOf_quote] at htaken
  | comment =>
      -- a comment is a separator, but no single blank
      obtain hkind | ⟨-, c, -, htext⟩ := hclosed
      · exact absurd hkind (show Kind.ignore ∉ closedKinds by decide)
      · have hlength := congrArg (·.toList.length) htext
        simp [Piece.token, Piece.body, Token.of] at hlength
  | @comparison c _ paired hmem =>
      have hall : ∀ entry ∈ comparisons, entry.2.1 ∉ closedKinds := by decide
      exact hall (c, kind, paired) hmem (hkinds (isPlain_of_mem_comparisons hmem).1.1)
  | divide =>
      exact absurd (hkinds (show Kind.divide ≠ .ignore by decide))
        (show Kind.divide ∉ closedKinds by decide)
  | number =>
      exact absurd (hkinds (show Kind.number ≠ .ignore by decide))
        (show Kind.number ∉ closedKinds by decide)
  | word _ _ hkind =>
      exact not_mem_closedKinds_of_isWordKind hkind (hkinds (isPlain_of_isWordKind hkind).1)

/-! ## the pieces of a longer source -/

/-- All pieces of a text but the last are the first ones of every longer text, and the
last one is if it ends before what follows. -/
theorem Cuts.exists_init {text : List Char} {pieces : List Piece} {piece : Piece}
    (h : Cuts text (pieces ++ [piece]) []) (more : List Char) :
    IsLexeme piece.kind piece.text ∧ (∃ left, Cuts (text ++ more) pieces left) ∧
      (Ends piece.text more → Cuts (text ++ more) (pieces ++ [piece]) more) := by
  obtain ⟨hinit, hlex, -⟩ := h.split_last
  rw [List.append_nil] at hinit
  refine ⟨hlex, ⟨piece.text ++ more, hinit.append more fun hnil => absurd hnil hlex.ne_nil⟩,
    fun hends => ?_⟩
  refine h.append more fun _ other hother => ?_
  obtain rfl : piece = other := by simpa using hother
  exact hends

theorem Cuts.tokens_prefix_results (rule : LineRule) {source left : List Char}
    {pieces : List Piece} (h : Cuts source pieces left) :
    (Scanner.tokensOf rule pieces).map .ok <+: (Scanner.start rule source).results := by
  rw [Scanner.results_start rule h]
  exact List.prefix_append _ _

/-- The tokens that pieces make are the tokens of the last piece and of those before it. -/
theorem tokensOf_concat (rule : LineRule) (pieces : List Piece) (piece : Piece) :
    Scanner.tokensOf rule (pieces ++ [piece]) =
      Scanner.tokensOf rule pieces ++ [piece.token (Place.pastPieces rule {} pieces)] :=
  Place.tokens_append rule {} pieces [piece]

theorem tokensIn_map_ok (tokens : List Token) : Scanner.tokensIn (tokens.map .ok) = tokens := by
  rw [Scanner.tokensIn, List.filterMap_map]
  exact List.filterMap_some

/-! ## the answers over a longer source -/

/-- **Appended text changes the last lexeme only**: with text put behind a source, a scan
gives the same tokens but for the last one, and that one, too, if it is closed or an error
follows it.  After an unexpected character all answers stay as they are. -/
theorem appended_text_changes_last_lexeme_only (rule : LineRule) (source more : List Char) :
    (∀ tokens last,
      Scanner.tokensIn (Scanner.start rule source).results = tokens ++ [last] →
        tokens.map .ok <+: (Scanner.start rule (source ++ more)).results ∧
        ((∃ error, .error error ∈ (Scanner.start rule source).results) ∨ last.IsClosed →
          (tokens ++ [last]).map .ok <+: (Scanner.start rule (source ++ more)).results)) ∧
    ∀ error c, .error error ∈ (Scanner.start rule source).results →
      error.fault = .unexpectedCharacter c →
        (Scanner.start rule (source ++ more)).results = (Scanner.start rule source).results := by
  obtain ⟨pieces, left, hcuts, ⟨rfl, hresults⟩ | ⟨fault, bad, hbreaks, hresults⟩⟩ :=
    Scanner.exists_results rule source
  · -- the source is cut up to its end
    refine ⟨fun tokens last htokens => ?_, fun error c herror => ?_⟩
    · rw [hresults, tokensIn_map_ok] at htokens
      obtain ⟨init, piece, rfl⟩ : ∃ init piece, pieces = init ++ [piece] := by
        rcases List.eq_nil_or_concat pieces with rfl | ⟨init, piece, hpieces⟩
        · simp [Scanner.tokensOf, Place.tokens] at htokens
        · exact ⟨init, piece, by rw [hpieces, List.concat_eq_append]⟩
      rw [tokensOf_concat] at htokens
      obtain ⟨rfl, hlast⟩ := List.append_inj' htokens rfl
      obtain rfl := List.singleton_inj.1 hlast
      obtain ⟨hlex, ⟨left, hinit⟩, hwhole⟩ := hcuts.exists_init more
      refine ⟨hinit.tokens_prefix_results rule, fun hclosed => ?_⟩
      rw [← tokensOf_concat]
      rcases hclosed with ⟨error, herror⟩ | hclosed
      · simp [hresults] at herror
      · exact (hwhole (ends_of_isClosed hlex hclosed more)).tokens_prefix_results rule
    · simp [hresults] at herror
  · -- the source is cut up to a fault, in front of which nothing changes
    have hlonger : Cuts (source ++ more) pieces (left ++ more) :=
      hcuts.append more fun hnil => absurd hnil hbreaks.ne_nil
    refine ⟨fun tokens last htokens => ?_, fun error c herror hfault => ?_⟩
    · have hsame : Scanner.tokensOf rule pieces = tokens ++ [last] := by
        rw [← htokens, hresults, Scanner.tokensIn_append, tokensIn_map_ok]
        exact (List.append_nil _).symm
      have hprefix := hlonger.tokens_prefix_results rule
      rw [hsame] at hprefix
      refine ⟨List.IsPrefix.trans ?_ hprefix, fun _ => hprefix⟩
      rw [List.map_append]
      exact List.prefix_append _ _
    · obtain rfl : error = (Scanner.cursorAfter rule source pieces left).faultAt fault bad := by
        simpa [hresults] using herror
      have hstill : Breaks (left ++ more) fault bad :=
        hbreaks.append (fun hopen => by cases hopen.symm.trans hfault) fun number hnumber => by
          cases hnumber.symm.trans hfault
      rw [Scanner.results_start rule hlonger, Cursor.results_of_breaks hstill, hresults]
      rfl

end ScriptScan
