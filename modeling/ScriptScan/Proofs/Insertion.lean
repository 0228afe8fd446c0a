import ScriptScan.Proofs.Printing

/-!
# ScriptScan.Proofs.Insertion

Blanks put between two lexemes of a source.

Blanks keep lexemes apart that were apart before, and only a comment takes them in, which
goes unseen, since comments are separators as well.  So what a scan makes of the source is
the same but for the places.

* `Cuts.insert_blanks` — blanks behind pieces change no piece but separators;
* `outline_scan_of_cuts` — a scan, apart from places, is made of the pieces at the front of
  its source and the scan of what is left;
* `outline_scan_insert_blanks` — so blanks can be inserted at every boundary of a run.
-/

namespace ScriptScan

/-- What a scan comes to, apart from places: the kinds and texts of its tokens, or the fault
that stops it. -/
def outline : Except ScanError (List Token) → Except Fault (List (Kind × String))
  | .ok tokens => .ok (tokens.map (·.label))
  | .error error => .error error.fault

/-- A byte of a source at which one lexeme ends and the next one begins: its first byte, or
the one behind a token of the run. -/
def IsBoundary (rule : LineRule) (source : List Char) (n : Nat) : Prop :=
  n = 0 ∨ ∃ token, .ok token ∈ (Scanner.start rule source).results ∧ token.span.stop = n

/-! ## outlines -/

theorem outline_relocateAll (move : Span → Span) (outcome : Except ScanError (List Token)) :
    outline (relocateAll move outcome) = outline outcome := by
  cases outcome with
  | error error => rfl
  | ok tokens =>
      rw [relocateAll, outline, List.map_map]
      rfl

theorem outline_map_append (tokens : List Token) (outcome : Except ScanError (List Token)) :
    outline (outcome.map (tokens ++ ·)) =
      (outline outcome).map (tokens.map (·.label) ++ ·) := by
  cases outcome with
  | error error => rfl
  | ok others => exact congrArg Except.ok List.map_append

/-- A scan of a source whose front is cut gives the pieces that are no separators and then
what it gives for the rest. -/
theorem outline_scan_of_cuts (rule : LineRule) {source left : List Char} {pieces : List Piece}
    (h : Cuts source pieces left) :
    outline (Scanner.start rule source).scan =
      (outline (Scanner.start rule left).scan).map
        ((pieces.filter (·.kind ≠ .ignore)).map
          (fun piece => (piece.kind, String.ofList piece.body)) ++ ·) := by
  rw [scan_of_cuts rule h, outline_map_append, outline_relocateAll, Scanner.tokensOf,
    map_label_filter_tokens]

/-! ## blanks between pieces -/

variable {source rest w : List Char} {pieces : List Piece} {rule : LineRule} {n : Nat}

/-- **Blanks between pieces** change nothing about what is left, and of the pieces none but
separators. -/
theorem Cuts.insert_blanks (h : Cuts source pieces rest) (hblanks : ∀ c ∈ w, c ∈ blanks) :
    ∃ others, Cuts (joined pieces ++ w ++ rest) others rest ∧
      others.filter (·.kind ≠ .ignore) = pieces.filter (·.kind ≠ .ignore) := by
  by_cases hcomment : ∃ piece, pieces.getLast? = some piece ∧ ['/', '/'] <+: piece.text
  · obtain ⟨piece, hpiece, hslashes⟩ := hcomment
    obtain ⟨solid, rfl⟩ := List.getLast?_eq_some_iff.1 hpiece
    obtain ⟨hsolid, hlex, hends⟩ := h.split_last
    obtain ⟨hkind, body, hbody, htext⟩ := hlex.of_slashes hslashes
    rw [htext] at hsolid hends
    have hwhole := hsolid.grow_comment hbody hblanks rest (.inr (ends_comment_iff.1 hends))
    have hsource : joined (solid ++ [piece]) ++ w ++ rest =
        joined solid ++ '/' :: '/' :: (body ++ (w ++ rest)) := by simp [htext]
    rw [← hsource] at hwhole
    exact ⟨_, hwhole, by simp [hkind, blankPieces]⟩
  · by_cases hw : w = []
    · refine ⟨pieces, ?_, rfl⟩
      rw [hw, List.append_nil, ← h.text_eq]
      exact h
    · have hfront : Cuts (joined pieces ++ []) pieces [] := h.replace_left (by simp)
      have hwhole := hfront.append (w ++ rest) fun _ piece hpiece =>
        ends_of_blanks hw hblanks (fun hslashes => hcomment ⟨piece, hpiece, hslashes⟩) rest
      rw [List.append_nil, ← List.append_assoc] at hwhole
      exact ⟨pieces ++ blankPieces w, hwhole.trans (cuts_blanks hblanks rest), by
        simp [blankPieces]⟩

/-- At a boundary a source parts into pieces and the rest. -/
theorem IsBoundary.exists_cuts (h : IsBoundary rule source n) :
    ∃ pieces rest, Cuts source pieces rest ∧ Text.byteLength (joined pieces) = n := by
  rcases h with rfl | ⟨token, hmem, rfl⟩
  · exact ⟨[], source, .done, rfl⟩
  · obtain ⟨pieces, piece, rest, hcuts, rfl⟩ := Scanner.exists_cuts_of_mem hmem
    exact ⟨pieces ++ [piece], rest, hcuts, by simp [Piece.token, Token.of]⟩

/-- **Blanks may be inserted at any lexeme boundary**: a scan of the source with blanks at a
boundary of its run gives tokens of the same kinds and texts, or stops at the same fault. -/
theorem outline_scan_insert_blanks (settings : Settings) (source w : List Char) (n : Nat)
    (hn : IsBoundary settings.lineRule source n) (hblanks : ∀ c ∈ w, c ∈ blanks) :
    ∃ before after, Text.splitAtByte? n source = some (before, after) ∧
      outline (scanWith settings (before ++ w ++ after)) = outline (scanWith settings source) := by
  obtain ⟨pieces, rest, hcuts, hbytes⟩ := hn.exists_cuts
  obtain ⟨others, hothers, hfilter⟩ := hcuts.insert_blanks hblanks
  refine ⟨joined pieces, rest, ?_, ?_⟩
  · rw [Text.splitAtByte?_eq_some_iff]
    exact ⟨hcuts.text_eq, hbytes⟩
  · rw [scanWith, scanWith, outline_scan_of_cuts _ hothers, outline_scan_of_cuts _ hcuts, hfilter]

/-- Behind a comment, which takes in the tab, and in front of the line feed that ended it. -/
theorem outline_scan_insert_blanks_behind_comment :
    IsBoundary .legacy ['1', '<', '/', '/', '\n', '='] 4 ∧ (∀ c ∈ ['\t', '\n'], c ∈ blanks) ∧
      outline (scanWith ⟨.legacy⟩ ['1', '<', '/', '/', '\t', '\n', '\n', '=']) =
        .ok [(.number, "1"), (.lessThan, "<"), (.assign, "=")] := by
  have hboundary : IsBoundary .legacy ['1', '<', '/', '/', '\n', '='] 4 :=
    .inr ⟨.of .ignore "//" ⟨2, 4, 1, 3⟩, List.mem_of_getElem? (i := 2) (by decide +kernel), rfl⟩
  have hblanks : ∀ c ∈ ['\t', '\n'], c ∈ blanks := List.all_iff_forall_prop.1 (by decide)
  obtain ⟨before, after, hsplit, hsame⟩ :=
    outline_scan_insert_blanks ⟨.legacy⟩ ['1', '<', '/', '/', '\n', '='] ['\t', '\n'] 4 hboundary
      hblanks
  cases hsplit.symm.trans (show _ = some (['1', '<', '/', '/'], ['\n', '=']) by decide +kernel)
  exact ⟨hboundary, hblanks, hsame.trans (by decide +kernel)⟩

end ScriptScan
