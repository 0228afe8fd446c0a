import ScriptScan.Proofs.Relocation

/-!
# ScriptScan.Proofs.LineRules

One source scanned under both line rules.

The two runs read the same pieces and stop at the same fault, so a simulation
between their places is all there is to show.

* `Place.Trails` — how a place of the first run lies to that of the second: at the
  same byte, on the same or an earlier line; every piece keeps it;
* `Token.EndsLegacyLine` — the tokens at which alone the two runs can part;
* `line_rules_agree_but_for_lines` — the two runs, answer by answer, and the two scans.
-/

namespace ScriptScan

/-! ## what the rules have no say in -/

/-- A span without its line and column. -/
def Span.unlocated (span : Span) : Span := { span with line := 0, column := 0 }

/-- A separator at which only one of the two rules ends the line: a carriage return or
a tab. -/
def Token.EndsLegacyLine (token : Token) : Prop :=
  token.kind = .ignore ∧ (token.text = "\r" ∨ token.text = "\t")

/-- Where two runs stand that have read the same text: at the same byte, the first run
on the same line as the second or an earlier one. -/
structure Place.Trails (first second : Place) : Prop where
  offset_eq : first.offset = second.offset
  line_le : first.line ≤ second.line

namespace Place.Trails

variable {first second : Place}

theorem next (h : first.Trails second) (c : Char) : (first.next c).Trails (second.next c) where
  offset_eq := by rw [offset_next, offset_next, h.offset_eq]
  line_le := by rw [line_next, line_next]; exact Nat.add_le_add_right h.line_le _

theorem past (h : first.Trails second) (text : List Char) :
    (first.past text).Trails (second.past text) where
  offset_eq := by rw [offset_past, offset_past, h.offset_eq]
  line_le := by rw [line_past, line_past]; exact Nat.add_le_add_right h.line_le _

/-- A separator that ends a line under the first rule ends one under the second. -/
theorem nextSeparator (h : first.Trails second) (c : Char) :
    (first.nextSeparator .newline c).Trails (second.nextSeparator .legacy c) := by
  have hnext := h.next c
  rw [nextSeparator_newline, Place.nextSeparator]
  split
  · exact ⟨hnext.offset_eq, Nat.le_succ_of_le hnext.line_le⟩
  · exact hnext

theorem pastPiece (h : first.Trails second) (piece : Piece) :
    (first.pastPiece .newline piece).Trails (second.pastPiece .legacy piece) := by
  rw [Place.pastPiece, Place.pastPiece]
  cases piece.blank? with
  | some c => exact h.nextSeparator c
  | none => exact h.past piece.text

end Place.Trails

/-- A piece whose token is no carriage return and no tab moves a place the same way
under both rules. -/
theorem Place.pastPiece_newline_eq (place : Place) {piece : Piece}
    (h : ¬ (piece.token place).EndsLegacyLine) :
    place.pastPiece .newline piece = place.pastPiece .legacy piece := by
  rw [Place.pastPiece, Place.pastPiece]
  cases hblank : piece.blank? with
  | none => rfl
  | some c =>
      obtain ⟨hkind, htext⟩ := Piece.blank?_eq_some_iff.1 hblank
      have hends : LineRule.endsLine .newline c = LineRule.endsLine .legacy c := by
        have hbody : (piece.token place).text = String.ofList [c] := by
          simp [Piece.token, Piece.body, Token.of, hkind, htext]
        have hreturn : c ≠ '\r' := fun hc => h ⟨hkind, .inl (by rw [hbody, hc])⟩
        have htab : c ≠ '\t' := fun hc => h ⟨hkind, .inr (by rw [hbody, hc])⟩
        simp [LineRule.endsLine, beq_false_of_ne hreturn, beq_false_of_ne htab]
      simp only [Place.nextSeparator, hends]

/-! ## two runs over the same pieces -/

variable {first second : Place} {pieces : List Piece} {stop : Option (Fault × List Char)}

/-- Answers that start at the same bytes differ in their lines and columns alone. -/
theorem unlocated_answers (h : first.Trails second) :
    (first.answers .newline pieces stop).map (relocate Span.unlocated) =
      (second.answers .legacy pieces stop).map (relocate Span.unlocated) := by
  induction pieces generalizing first second with
  | nil =>
      cases stop with
      | none => rfl
      | some found =>
          obtain ⟨fault, bad⟩ := found
          simp [Place.answers, Place.tokens, Place.pastPieces, Place.faultAt, relocate,
            ScanError.relocate, Span.unlocated, h.offset_eq]
  | cons piece pieces ih =>
      have hhead : (piece.token first).relocate Span.unlocated =
          (piece.token second).relocate Span.unlocated := by
        simp [Piece.token, Token.of, Token.relocate, Span.unlocated, h.offset_eq]
      rw [Place.answers_cons, Place.answers_cons, List.map_cons, List.map_cons, relocate, relocate,
        hhead, ih (h.pastPiece piece)]

/-- The answers of the first run lie on the same lines as those of the second or on
earlier ones. -/
theorem answerLine_answers_le (h : first.Trails second) {n : Nat}
    {answer other : Except ScanError Token}
    (hanswer : (first.answers .newline pieces stop)[n]? = some answer)
    (hother : (second.answers .legacy pieces stop)[n]? = some other) :
    answerLine answer ≤ answerLine other := by
  induction pieces generalizing first second n with
  | nil =>
      cases stop with
      | none => cases hanswer
      | some found =>
          cases n with
          | zero => cases hanswer; cases hother; exact h.line_le
          | succ n => cases hanswer
  | cons piece pieces ih =>
      rw [Place.answers_cons] at hanswer hother
      cases n with
      | zero => cases hanswer; cases hother; exact h.line_le
      | succ n => exact ih (h.pastPiece piece) hanswer hother

/-- Up to the first carriage return or tab between tokens the two runs are the same. -/
theorem getElem?_answers_eq (place : Place) (rule : LineRule) {n : Nat}
    (h : ∀ token, .ok token ∈ (place.answers rule pieces stop).take n → ¬ token.EndsLegacyLine) :
    (place.answers .newline pieces stop)[n]? = (place.answers .legacy pieces stop)[n]? := by
  induction pieces generalizing place n with
  | nil => rfl
  | cons piece pieces ih =>
      simp only [Place.answers_cons] at h ⊢
      cases n with
      | zero => rfl
      | succ n =>
          have hsame := place.pastPiece_newline_eq (h (piece.token place) List.mem_cons_self)
          have hrule : place.pastPiece rule piece = place.pastPiece .newline piece := by
            cases rule with
            | newline => rfl
            | legacy => exact hsame.symm
          have htail := ih (place.pastPiece rule piece) fun token hmem =>
            h token (List.mem_cons_of_mem _ hmem)
          rw [List.getElem?_cons_succ, List.getElem?_cons_succ, ← hsame, ← hrule]
          exact htail

/-! ## the two rules on one source -/

/-- **The line rule moves lines and columns and nothing else**: the two runs over a source
give the same answers but for their locations, and so do the two scans.  No answer lies
on an earlier line under the legacy rule, and all of them lie at the same line and column
up to the first carriage return or tab that separates tokens. -/
theorem line_rules_agree_but_for_lines (source : List Char) :
    (Scanner.start .newline source).results.map (relocate Span.unlocated) =
        (Scanner.start .legacy source).results.map (relocate Span.unlocated) ∧
      (∀ n answer other,
        (Scanner.start .newline source).results[n]? = some answer →
        (Scanner.start .legacy source).results[n]? = some other →
          answerLine answer ≤ answerLine other ∧
          (∀ rule, (∀ token, .ok token ∈ (Scanner.start rule source).results.take n →
              ¬ token.EndsLegacyLine) →
            answer = other)) ∧
      relocateAll Span.unlocated (scanWith ⟨.newline⟩ source) =
        relocateAll Span.unlocated (scanWith ⟨.legacy⟩ source) := by
  obtain ⟨pieces, stop, hanswers⟩ := exists_answers source
  have hresults : ∀ rule, (Scanner.start rule source).results =
      Place.answers rule {} pieces stop := fun rule => hanswers (.start rule source) rfl
  have hsame : (Scanner.start .newline source).results.map (relocate Span.unlocated) =
      (Scanner.start .legacy source).results.map (relocate Span.unlocated) := by
    rw [hresults, hresults]
    exact unlocated_answers ⟨rfl, Nat.le_refl 1⟩
  refine ⟨hsame, fun n answer other hanswer hother => ⟨?_, fun rule hbefore => ?_⟩, ?_⟩
  · rw [hresults] at hanswer hother
    exact answerLine_answers_le ⟨rfl, Nat.le_refl 1⟩ hanswer hother
  · rw [hresults] at hanswer hother hbefore
    rw [getElem?_answers_eq {} rule hbefore, hother] at hanswer
    exact (Option.some.inj hanswer).symm
  · rw [scanWith, scanWith, Scanner.scan_eq_collect, Scanner.scan_eq_collect,
      ← collect_relocate, ← collect_relocate, hsame]

-- behind a tab the two rules part
example : scanWith ⟨.newline⟩ ['\t', 'x'] = .ok [.of .identifier "x" ⟨1, 2, 1, 2⟩] ∧
    scanWith ⟨.legacy⟩ ['\t', 'x'] = .ok [.of .identifier "x" ⟨1, 2, 2, 1⟩] := by
  decide +kernel

end ScriptScan
