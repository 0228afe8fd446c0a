import ScriptScan.Proofs.Tiling

/-!
# ScriptScan.Proofs.Location

Lines and columns against the characters of the source.

A place carries its line and column along and corrects them at every movement.
Here they are compared with a count from scratch over all the characters before a
place, where the line rule decides about those that the run gave as separators.

* `Place.Counts` — what every movement keeps: line and column are those of the
  line ends passed so far;
* `map_endsLineAt` — the line ends that the answers of a run tell are those of the
  pieces that the run passes over;
* `locations_count_line_ends` — line and column of every token and every error.
-/

namespace ScriptScan

/-! ## counting from scratch -/

/-- The span of a token or an error. -/
def answerSpan : Except ScanError Token → Span
  | .ok token => token.span
  | .error error => error.span

/-- The line of a token or an error. -/
def answerLine : Except ScanError Token → Nat
  | .ok token => token.line
  | .error error => error.line

/-- Whether the run over a source gives its character `n`, and no other, as a
separator. -/
def separatesAt (rule : LineRule) (source : List Char) (n : Nat) : Bool :=
  (Scanner.start rule source).results.any fun
    | .ok token =>
      token.kind = .ignore ∧ token.span.start = Text.byteLength (source.take n) ∧
        token.span.stop = Text.byteLength (source.take (n + 1))
    | .error _ => false

/-- Whether character `n` of a source ends a line: a line feed always, a carriage
return and a tab if the rule has it so and they are separators. -/
def endsLineAt (rule : LineRule) (source : List Char) (n : Nat) : Bool :=
  source[n]? = some '\n' ∨
    rule = .legacy ∧ (source[n]? = some '\r' ∨ source[n]? = some '\t') ∧ separatesAt rule source n

theorem endsLineAt_of_separatesAt {rule : LineRule} {source : List Char} {n : Nat} {c : Char}
    (hc : source[n]? = some c) (h : separatesAt rule source n = true) :
    endsLineAt rule source n = rule.endsLine c := by
  cases rule <;> simp [endsLineAt, hc, h, LineRule.endsLine, beq_eq_decide, Bool.or_assoc]

theorem endsLineAt_of_not_separatesAt {rule : LineRule} {source : List Char} {n : Nat} {c : Char}
    (hc : source[n]? = some c) (h : separatesAt rule source n = false) :
    endsLineAt rule source n = (c == '\n') := by
  simp [endsLineAt, hc, h, beq_eq_decide]

/-- The line of character `n`: one more than the line ends before it. -/
def lineAt (rule : LineRule) (source : List Char) (n : Nat) : Nat :=
  1 + (List.range n).countP (endsLineAt rule source)

/-- The column of character `n`: one more than the characters between it and the
last line end before it. -/
def columnAt (rule : LineRule) (source : List Char) (n : Nat) : Nat :=
  1 + ((List.range n).reverse.takeWhile fun i => !endsLineAt rule source i).length

/-! ## what a movement does to the counters -/

/-- Which characters of a piece end a line where the piece is passed over. -/
def Piece.lineEnds (rule : LineRule) (piece : Piece) : List Bool :=
  match piece.blank? with
  | some c => [rule.endsLine c]
  | none => piece.text.map (· == '\n')

@[simp] theorem length_lineEnds (rule : LineRule) (piece : Piece) :
    (piece.lineEnds rule).length = piece.text.length := by
  unfold Piece.lineEnds
  cases hblank : piece.blank? with
  | some c => simp [(Piece.blank?_eq_some_iff.1 hblank).2]
  | none => simp

/-- Line and column of a place are those after characters of which the given ones
end a line. -/
structure Place.Counts (place : Place) (ends : List Bool) : Prop where
  line_eq : place.line = 1 + ends.count true
  column_eq : place.column = 1 + (ends.reverse.takeWhile (!·)).length

namespace Place.Counts

variable {place after : Place} {ends : List Bool}

theorem start : Place.Counts {} [] := ⟨rfl, rfl⟩

theorem lineEnd (h : place.Counts ends) (hline : after.line = place.line + 1)
    (hcolumn : after.column = 1) : after.Counts (ends ++ [true]) := by
  constructor
  · rw [hline, h.line_eq, List.count_append]
    simp [Nat.add_assoc]
  · rw [hcolumn]
    simp

theorem sameLine (h : place.Counts ends) (hline : after.line = place.line)
    (hcolumn : after.column = place.column + 1) : after.Counts (ends ++ [false]) := by
  constructor
  · rw [hline, h.line_eq, List.count_append]
    simp
  · rw [hcolumn, h.column_eq, List.reverse_concat]
    simp [Nat.add_assoc]

theorem next (h : place.Counts ends) (c : Char) :
    (place.next c).Counts (ends ++ [c == '\n']) := by
  by_cases hc : c = '\n'
  · subst hc
    exact h.lineEnd rfl rfl
  · rw [beq_eq_false_iff_ne.2 hc]
    exact h.sameLine (by simp [Place.next, hc]) (by simp [Place.next, hc])

theorem nextSeparator (h : place.Counts ends) (rule : LineRule) (c : Char) :
    (place.nextSeparator rule c).Counts (ends ++ [rule.endsLine c]) := by
  by_cases hc : c = '\n'
  · subst hc
    rw [Place.nextSeparator, if_neg (by simp), LineRule.endsLine_lineFeed]
    exact h.next '\n'
  · cases hends : rule.endsLine c with
    | true =>
        -- the character moves the place as any other does, then the line ends
        rw [Place.nextSeparator, if_pos ⟨hc, hends⟩]
        exact h.lineEnd (by simp [newLine, line_next, hc]) rfl
    | false =>
        have hnext := h.next c
        rw [beq_eq_false_iff_ne.2 hc] at hnext
        rwa [Place.nextSeparator, if_neg (by simp [hends])]

theorem past (h : place.Counts ends) (text : List Char) :
    (place.past text).Counts (ends ++ text.map (· == '\n')) := by
  induction text generalizing place ends with
  | nil => simpa using h
  | cons c cs ih =>
      have htail := ih (h.next c)
      rwa [List.append_assoc] at htail

/-- Passing over a piece appends its line ends. -/
theorem pastPiece (h : place.Counts ends) (rule : LineRule) (piece : Piece) :
    (place.pastPiece rule piece).Counts (ends ++ piece.lineEnds rule) := by
  rw [Place.pastPiece, Piece.lineEnds]
  cases piece.blank? with
  | some c => exact h.nextSeparator rule c
  | none => exact h.past piece.text

/-- **The counters along a run**: passing over pieces appends the line ends of all of
them. -/
theorem pastPieces (h : place.Counts ends) (rule : LineRule) (pieces : List Piece) :
    (place.pastPieces rule pieces).Counts (ends ++ pieces.flatMap (·.lineEnds rule)) := by
  induction pieces generalizing place ends with
  | nil =>
      rw [List.flatMap_nil, List.append_nil]
      exact h
  | cons piece pieces ih =>
      have htail := ih (h.pastPiece rule piece)
      rwa [List.append_assoc] at htail

variable {rule : LineRule} {source : List Char} {n : Nat}

theorem line_eq_lineAt (h : place.Counts ((List.range n).map (endsLineAt rule source))) :
    place.line = lineAt rule source n := by
  rw [h.line_eq, lineAt, List.count, List.countP_map]
  congr 2
  funext i
  simp

theorem column_eq_columnAt (h : place.Counts ((List.range n).map (endsLineAt rule source))) :
    place.column = columnAt rule source n := by
  rw [h.column_eq, columnAt, ← List.map_reverse, List.takeWhile_map, List.length_map]
  rfl

end Place.Counts

/-! ## where pieces stand -/

/-- How many characters stand before piece `k`. -/
def charsBefore (pieces : List Piece) (k : Nat) : Nat := (joined (pieces.take k)).length

theorem charsBefore_mono (pieces : List Piece) {k k' : Nat} (h : k ≤ k') :
    charsBefore pieces k ≤ charsBefore pieces k' := by
  have hlead : pieces.take k <+: pieces.take k' := List.take_prefix_take_left h
  obtain ⟨others, hothers⟩ := hlead
  rw [charsBefore, charsBefore, ← hothers, joined_append, List.length_append]
  exact Nat.le_add_right _ _

theorem charsBefore_succ {pieces : List Piece} {k : Nat} {piece : Piece}
    (h : pieces[k]? = some piece) :
    charsBefore pieces (k + 1) = charsBefore pieces k + piece.text.length := by
  rw [charsBefore, List.take_add_one, h, joined_append, List.length_append]
  simp [charsBefore]

theorem Cuts.take_charsBefore {source left : List Char} {pieces : List Piece}
    (h : Cuts source pieces left) (k : Nat) :
    source.take (charsBefore pieces k) = joined (pieces.take k) := by
  have hsource := h.text_eq
  rw [← List.take_append_drop k pieces, joined_append, List.append_assoc] at hsource
  rw [hsource, charsBefore, List.take_left]

/-- The tokens of pieces, one by one. -/
theorem getElem?_tokens (rule : LineRule) (place : Place) (pieces : List Piece) (k : Nat) :
    (place.tokens rule pieces)[k]? =
      pieces[k]?.map (·.token (place.pastPieces rule (pieces.take k))) := by
  induction pieces generalizing place k with
  | nil => rfl
  | cons piece pieces ih =>
      cases k with
      | zero => rfl
      | succ k =>
          rw [Place.tokens, List.getElem?_cons_succ, List.getElem?_cons_succ, ih]
          rfl

@[simp] theorem length_tokens (rule : LineRule) (place : Place) (pieces : List Piece) :
    (place.tokens rule pieces).length = pieces.length := by
  induction pieces generalizing place with
  | nil => rfl
  | cons piece pieces ih => rw [Place.tokens, List.length_cons, ih, List.length_cons]

/-- Bytes tell the characters of a source apart. -/
theorem eq_of_byteLength_take {source : List Char} {n m : Nat} (hn : n ≤ source.length)
    (hm : m ≤ source.length)
    (h : Text.byteLength (source.take n) = Text.byteLength (source.take m)) : n = m := by
  have hcut := Text.splitAtByte?_append (source.take n) (source.drop n)
  have hcut' := Text.splitAtByte?_append (source.take m) (source.drop m)
  rw [List.take_append_drop] at hcut hcut'
  rw [h, hcut'] at hcut
  have htake : source.take m = source.take n := (Prod.mk.inj (Option.some.inj hcut)).1
  have hlength := congrArg List.length htake
  rw [List.length_take_of_le hn, List.length_take_of_le hm] at hlength
  exact hlength.symm

/-! ## the answers of a run -/

/-- The place before piece `k` of a source. -/
def placeBefore (rule : LineRule) (pieces : List Piece) (k : Nat) : Place :=
  Place.pastPieces rule {} (pieces.take k)

/-- The place at which a span starts. -/
def Span.place (span : Span) : Place := ⟨span.start, span.line, span.column⟩

/-- The answers of a run are the tokens of pieces, each at the place before its piece,
and perhaps an error at the place behind the last one. -/
structure RunsOver (rule : LineRule) (source : List Char) (pieces : List Piece) : Prop where
  cuts : ∃ left, Cuts source pieces left
  token : ∀ k piece, pieces[k]? = some piece →
    ((Scanner.start rule source).after k).nextToken.1 =
      some (.ok (piece.token (placeBefore rule pieces k)))
  error : ∀ k answer, pieces[k]? = none →
    ((Scanner.start rule source).after k).nextToken.1 = some answer →
      k = pieces.length ∧
        ∃ error, answer = .error error ∧ error.span.place = placeBefore rule pieces k

theorem exists_runsOver (rule : LineRule) (source : List Char) :
    ∃ pieces, RunsOver rule source pieces := by
  obtain ⟨pieces, left, hcuts, hend⟩ := Scanner.exists_results rule source
  -- behind the tokens come no answers or the one error
  obtain ⟨others, hresults, hlength, hothers⟩ : ∃ others : List (Except ScanError Token),
      (Scanner.start rule source).results =
          (Scanner.tokensOf rule pieces).map .ok ++ others ∧
        others.length ≤ 1 ∧ ∀ answer ∈ others, ∃ error, answer = .error error ∧
          error.span.place = Place.pastPieces rule {} pieces := by
    rcases hend with ⟨-, hresults⟩ | ⟨fault, bad, -, hresults⟩
    · exact ⟨[], by simpa using hresults, by simp, by simp⟩
    · refine ⟨_, hresults, Nat.le_refl 1, fun answer hmem => ?_⟩
      exact ⟨_, List.mem_singleton.1 hmem, rfl⟩
  refine ⟨pieces, ⟨left, hcuts⟩, fun k piece hpiece => ?_, fun k answer hpiece hanswer => ?_⟩
  · have hk : k < pieces.length := (List.getElem?_eq_some_iff.1 hpiece).1
    rw [Scanner.nextToken_after, hresults, List.getElem?_append_left (by simpa [Scanner.tokensOf]),
      List.getElem?_map, Scanner.tokensOf, getElem?_tokens, hpiece]
    rfl
  · have hk : pieces.length ≤ k := List.getElem?_eq_none_iff.1 hpiece
    rw [Scanner.nextToken_after, hresults, List.getElem?_append_right (by simpa [Scanner.tokensOf]),
      List.length_map, Scanner.tokensOf, length_tokens] at hanswer
    obtain ⟨hlt, -⟩ := List.getElem?_eq_some_iff.1 hanswer
    obtain ⟨error, herror, hplace⟩ := hothers answer (List.mem_of_getElem? hanswer)
    have hlast : k = pieces.length := by omega
    refine ⟨hlast, error, herror, ?_⟩
    rw [hplace, placeBefore, hlast, List.take_length]

namespace RunsOver

variable {rule : LineRule} {source : List Char} {pieces : List Piece} {k : Nat} {piece : Piece}

theorem charsBefore_le (h : RunsOver rule source pieces) (k : Nat) :
    charsBefore pieces k ≤ source.length := by
  obtain ⟨left, hcuts⟩ := h.cuts
  rw [charsBefore, ← hcuts.take_charsBefore k]
  exact List.length_take_le' _ _

theorem offset_placeBefore (h : RunsOver rule source pieces) (k : Nat) :
    (placeBefore rule pieces k).offset = Text.byteLength (source.take (charsBefore pieces k)) := by
  obtain ⟨left, hcuts⟩ := h.cuts
  rw [hcuts.take_charsBefore, placeBefore, Place.offset_pastPieces]
  exact Nat.zero_add _

/-- Where the token of a piece ends. -/
theorem stop_token (h : RunsOver rule source pieces) (hpiece : pieces[k]? = some piece) :
    (piece.token (placeBefore rule pieces k)).span.stop =
      Text.byteLength (source.take (charsBefore pieces (k + 1))) := by
  obtain ⟨left, hcuts⟩ := h.cuts
  show (placeBefore rule pieces k).offset + Text.byteLength piece.text = _
  rw [h.offset_placeBefore, hcuts.take_charsBefore, hcuts.take_charsBefore, List.take_add_one,
    hpiece, joined_append, Text.byteLength_append]
  simp

/-- The character at a place in a piece. -/
theorem getElem?_charsBefore_add (h : RunsOver rule source pieces)
    (hpiece : pieces[k]? = some piece) {j : Nat} (hj : j < piece.text.length) :
    source[charsBefore pieces k + j]? = some piece.text[j] := by
  obtain ⟨left, hcuts⟩ := h.cuts
  have hlead := hcuts.take_charsBefore (k + 1)
  have hlt : charsBefore pieces k + j < charsBefore pieces (k + 1) := by
    rw [charsBefore_succ hpiece]
    omega
  rw [← List.getElem?_take_of_lt hlt, hlead, List.take_add_one, hpiece, joined_append, charsBefore,
    List.getElem?_append_right (Nat.le_add_right _ _), Nat.add_sub_cancel_left]
  simp [hj]

/-- A token of the run is that of a piece. -/
theorem exists_piece (h : RunsOver rule source pieces) {token : Token}
    (hmem : .ok token ∈ (Scanner.start rule source).results) :
    ∃ k, ∃ piece : Piece,
      pieces[k]? = some piece ∧ token = piece.token (placeBefore rule pieces k) := by
  obtain ⟨k, hk⟩ := List.mem_iff_getElem?.1 hmem
  rw [← Scanner.nextToken_after] at hk
  cases hpiece : pieces[k]? with
  | some piece =>
      have htoken := h.token k piece hpiece
      rw [hk] at htoken
      exact ⟨k, piece, hpiece, Except.ok.inj (Option.some.inj htoken)⟩
  | none =>
      obtain ⟨-, error, herror, -⟩ := h.error k _ hpiece hk
      cases herror

/-- **Separators found again**: a character is given as a separator if the piece it
stands in is a separator and has no other character. -/
theorem separatesAt_iff (h : RunsOver rule source pieces) (hpiece : pieces[k]? = some piece)
    {j : Nat} (hj : j < piece.text.length) :
    separatesAt rule source (charsBefore pieces k + j) = true ↔
      piece.kind = .ignore ∧ piece.text.length = 1 := by
  have hsucc := charsBefore_succ hpiece
  have hle := h.charsBefore_le (k + 1)
  constructor
  · intro hseparates
    obtain ⟨answer, hmem, hanswer⟩ := List.any_eq_true.1 hseparates
    cases answer with
    | error error => cases hanswer
    | ok token =>
        obtain ⟨hkind, hstart, hstop⟩ := of_decide_eq_true hanswer
        obtain ⟨k', piece', hpiece', rfl⟩ := h.exists_piece hmem
        rw [h.stop_token hpiece'] at hstop
        have hfirst : charsBefore pieces k' = charsBefore pieces k + j :=
          eq_of_byteLength_take (h.charsBefore_le k') (by omega)
            ((h.offset_placeBefore k').symm.trans hstart)
        have hlast : charsBefore pieces (k' + 1) = charsBefore pieces k + j + 1 :=
          eq_of_byteLength_take (h.charsBefore_le (k' + 1)) (by omega) hstop
        -- no other piece than piece `k` has the character
        obtain rfl : k' = k := by
          rcases Nat.lt_trichotomy k' k with hlt | heq | hlt
          · have hmono := charsBefore_mono pieces (show k' + 1 ≤ k from hlt)
            omega
          · exact heq
          · have hmono := charsBefore_mono pieces (show k + 1 ≤ k' from hlt)
            omega
        obtain rfl : piece' = piece := Option.some.inj (hpiece'.symm.trans hpiece)
        exact ⟨hkind, by omega⟩
  · rintro ⟨hkind, hlength⟩
    obtain rfl : j = 0 := by omega
    have hanswer := h.token k piece hpiece
    rw [Scanner.nextToken_after] at hanswer
    refine List.any_eq_true.2 ⟨_, List.mem_of_getElem? hanswer, decide_eq_true ⟨hkind, ?_, ?_⟩⟩
    · exact h.offset_placeBefore k
    · rw [h.stop_token hpiece, hsucc, hlength]

/-- Whether a character ends a line is read off the answers as the piece has it. -/
theorem endsLineAt_eq (h : RunsOver rule source pieces) (hpiece : pieces[k]? = some piece)
    {j : Nat} (hj : j < piece.text.length) :
    some (endsLineAt rule source (charsBefore pieces k + j)) = (piece.lineEnds rule)[j]? := by
  have hchar := h.getElem?_charsBefore_add hpiece hj
  have hseparates := h.separatesAt_iff hpiece hj
  rw [Piece.lineEnds]
  cases hblank : piece.blank? with
  | some c =>
      obtain ⟨hkind, htext⟩ := Piece.blank?_eq_some_iff.1 hblank
      simp only [htext, List.length_singleton, Nat.lt_one_iff] at hj hchar hseparates
      subst hj
      rw [endsLineAt_of_separatesAt hchar (hseparates.2 ⟨hkind, trivial⟩)]
      rfl
  | none =>
      -- only line feeds count, for the character is no separator of its own
      have hfalse : separatesAt rule source (charsBefore pieces k + j) = false := by
        rw [Bool.eq_false_iff, ne_eq, hseparates]
        rintro ⟨hkind, hlength⟩
        obtain ⟨c, htext⟩ := List.length_eq_one_iff.1 hlength
        have hsome := Piece.blank?_eq_some_iff.2 ⟨hkind, htext⟩
        rw [hblank] at hsome
        cases hsome
      rw [endsLineAt_of_not_separatesAt hchar hfalse, List.getElem?_map,
        List.getElem?_eq_getElem hj]
      rfl

/-- **Line ends found again**: those before a piece are the line ends of the pieces
before it. -/
theorem map_endsLineAt (h : RunsOver rule source pieces) (hk : k ≤ pieces.length) :
    (List.range (charsBefore pieces k)).map (endsLineAt rule source) =
      (pieces.take k).flatMap (·.lineEnds rule) := by
  induction k with
  | zero => rfl
  | succ k ih =>
      have hpiece : pieces[k]? = some pieces[k] := List.getElem?_eq_getElem hk
      have hlast : (List.range pieces[k].text.length).map
          (endsLineAt rule source ∘ (charsBefore pieces k + ·)) = pieces[k].lineEnds rule := by
        apply List.ext_getElem?
        intro j
        by_cases hj : j < pieces[k].text.length
        · rw [← h.endsLineAt_eq hpiece hj, List.getElem?_map, List.getElem?_range hj]
          rfl
        · rw [List.getElem?_eq_none (by simpa using hj), List.getElem?_eq_none (by simpa using hj)]
      rw [charsBefore_succ hpiece, List.range_add, List.map_append, ih (Nat.le_of_succ_le hk),
        List.map_map, List.take_add_one, hpiece, List.flatMap_append]
      simpa using hlast

/-- An answer starts at the place before its piece. -/
theorem place_answer (h : RunsOver rule source pieces) {answer : Except ScanError Token}
    (hanswer : ((Scanner.start rule source).after k).nextToken.1 = some answer) :
    k ≤ pieces.length ∧ (answerSpan answer).place = placeBefore rule pieces k ∧
      answerLine answer = (answerSpan answer).line := by
  cases hpiece : pieces[k]? with
  | some piece =>
      rw [h.token k piece hpiece] at hanswer
      cases hanswer
      exact ⟨Nat.le_of_lt (List.getElem?_eq_some_iff.1 hpiece).1, rfl, rfl⟩
  | none =>
      obtain ⟨hk, error, rfl, hplace⟩ := h.error k answer hpiece hanswer
      exact ⟨Nat.le_of_eq hk, hplace, rfl⟩

/-- The counters before a piece are those of the count from scratch. -/
theorem placeBefore_eq (h : RunsOver rule source pieces) (hk : k ≤ pieces.length) :
    (placeBefore rule pieces k).line = lineAt rule source (charsBefore pieces k) ∧
      (placeBefore rule pieces k).column = columnAt rule source (charsBefore pieces k) := by
  have hcounts := Place.Counts.start.pastPieces rule (pieces.take k)
  rw [List.nil_append, ← h.map_endsLineAt hk] at hcounts
  exact ⟨hcounts.line_eq_lineAt, hcounts.column_eq_columnAt⟩

end RunsOver

/-! ## lines and columns of a run -/

/-- An answer starts at character `n` of the source and is located there by a count
from scratch.  A source that is not too long for the counters keeps them below their
limit. -/
structure Located (rule : LineRule) (source : List Char) (answer : Except ScanError Token)
    (n : Nat) : Prop where
  le_length : n ≤ source.length
  start_eq : (answerSpan answer).start = Text.byteLength (source.take n)
  answerLine_eq : answerLine answer = (answerSpan answer).line
  line_eq : (answerSpan answer).line = lineAt rule source n
  column_eq : (answerSpan answer).column = columnAt rule source n
  line_eq_of_newline : rule = .newline → (answerSpan answer).line = 1 + (source.take n).count '\n'
  lt_countLimit : source.length + 1 < countLimit →
    (answerSpan answer).line < countLimit ∧ (answerSpan answer).column < countLimit

/-- Where only line feeds end lines, the line is counted without a look at the run. -/
theorem lineAt_newline (source : List Char) (n : Nat) :
    lineAt .newline source n = 1 + (source.take n).count '\n' := by
  rw [lineAt]
  congr 1
  induction n with
  | zero => rfl
  | succ n ih =>
      rw [List.range_succ, List.countP_append, ih, List.take_add_one, List.count_append]
      cases hc : source[n]? with
      | none => simp [endsLineAt, hc]
      | some c => by_cases hfeed : c = '\n' <;> simp [endsLineAt, hc, hfeed]

theorem lineAt_mono (rule : LineRule) (source : List Char) {n m : Nat} (h : n ≤ m) :
    lineAt rule source n ≤ lineAt rule source m :=
  Nat.add_le_add_left (List.range_sublist.2 h).countP_le 1

theorem lineAt_le (rule : LineRule) (source : List Char) (n : Nat) :
    lineAt rule source n ≤ n + 1 := by
  have hle := List.countP_le_length (p := endsLineAt rule source) (l := List.range n)
  rw [List.length_range] at hle
  rw [lineAt]
  omega

theorem columnAt_le (rule : LineRule) (source : List Char) (n : Nat) :
    columnAt rule source n ≤ n + 1 := by
  have hle := (List.takeWhile_sublist (fun i => !endsLineAt rule source i)
    (l := (List.range n).reverse)).length_le
  rw [List.length_reverse, List.length_range] at hle
  rw [columnAt]
  omega

/-- **Lines and columns are exact**: every token and every error of a run is located by
the line ends before it, and the lines of later ones are no smaller. -/
theorem locations_count_line_ends (rule : LineRule) (source : List Char) :
    (∀ k answer, ((Scanner.start rule source).after k).nextToken.1 = some answer →
      ∃ n, Located rule source answer n) ∧
    ∀ i j first second, i ≤ j →
      ((Scanner.start rule source).after i).nextToken.1 = some first →
      ((Scanner.start rule source).after j).nextToken.1 = some second →
        answerLine first ≤ answerLine second := by
  obtain ⟨pieces, h⟩ := exists_runsOver rule source
  refine ⟨fun k answer hanswer => ⟨charsBefore pieces k, ?_⟩, ?_⟩
  · obtain ⟨hk, hplace, hline⟩ := h.place_answer hanswer
    obtain ⟨hlineAt, hcolumnAt⟩ := h.placeBefore_eq hk
    rw [← hplace] at hlineAt hcolumnAt
    have hle := h.charsBefore_le k
    have hlinele := lineAt_le rule source (charsBefore pieces k)
    have hcolumnle := columnAt_le rule source (charsBefore pieces k)
    refine ⟨hle, ?_, hline, hlineAt, hcolumnAt, ?_, fun hlimit => ?_⟩
    · rw [← h.offset_placeBefore, ← hplace]
      rfl
    · rintro rfl
      exact hlineAt.trans (lineAt_newline source _)
    · simp only [Span.place] at hlineAt hcolumnAt
      omega
  · intro i j first second hij hfirst hsecond
    obtain ⟨hi, hplace, hline⟩ := h.place_answer hfirst
    obtain ⟨hj, hplace', hline'⟩ := h.place_answer hsecond
    have hlineAt := (h.placeBefore_eq hi).1
    have hlineAt' := (h.placeBefore_eq hj).1
    rw [← hplace] at hlineAt
    rw [← hplace'] at hlineAt'
    calc answerLine first = lineAt rule source (charsBefore pieces i) := hline.trans hlineAt
      _ ≤ lineAt rule source (charsBefore pieces j) :=
          lineAt_mono rule source (charsBefore_mono pieces hij)
      _ = answerLine second := (hline'.trans hlineAt').symm

-- the tab between tokens ends a line, the tab inside the string does not
example : lineAt .legacy ['\t', '"', '\t', '"', ';'] 4 = 2 ∧
    columnAt .legacy ['\t', '"', '\t', '"', ';'] 4 = 4 := by
  decide +kernel

end ScriptScan
