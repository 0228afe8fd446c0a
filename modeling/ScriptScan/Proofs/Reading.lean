import ScriptScan.Proofs.Grammar

/-!
# ScriptScan.Proofs.Reading

The readers of a cursor, each against the class of lexeme that it is for, and
`Cursor.readLexeme`, which picks one of them, against the grammar.

* `readLexeme_of_isLexeme` — where a lexeme stands that ends there, the cursor
  reads it, makes its token and stops behind it;
* `readLexeme_of_breaks` — where the grammar breaks, the cursor gives the error.

Since one of the two is the case in every text that is not empty, they determine
the reading.
-/

namespace ScriptScan

/-! ## the tests of characters -/

section

variable {c : Char}

theorem isDigit_iff : isDigit c = true ↔ Digit c := by
  simp [isDigit, Digit]

theorem isLetter_iff : isLetter c = true ↔ Letter c := by
  simp [isLetter, Letter]

theorem isNumeral_iff : isNumeral c = true ↔ Numeral c := by
  simp [isNumeral, Numeral, isDigit_iff]

theorem isWordChar_iff : isWordChar c = true ↔ WordChar c := by
  simp [isWordChar, WordChar, isDigit_iff, isLetter_iff]

end

/-! ## a piece at a place -/

/-- A kind of token that is neither a separator nor a string. -/
def Kind.IsPlain (kind : Kind) : Prop := kind ≠ .ignore ∧ kind ≠ .string

/-- The character of a piece that is a blank. -/
def Piece.blank? (piece : Piece) : Option Char :=
  match piece.kind, piece.text with
  | .ignore, [c] => some c
  | _, _ => none

theorem Piece.blank?_eq_some_iff {piece : Piece} {c : Char} :
    piece.blank? = some c ↔ piece.kind = .ignore ∧ piece.text = [c] := by
  unfold Piece.blank?
  split <;> simp_all

/-- The place after a piece.  Only for a blank does the line rule have a say. -/
def Place.pastPiece (rule : LineRule) (place : Place) (piece : Piece) : Place :=
  match piece.blank? with
  | some c => place.nextSeparator rule c
  | none => place.past piece.text

@[simp] theorem Place.offset_pastPiece (rule : LineRule) (place : Place) (piece : Piece) :
    (place.pastPiece rule piece).offset = place.offset + Text.byteLength piece.text := by
  unfold Place.pastPiece
  cases hblank : piece.blank? with
  | some c => simp [(Piece.blank?_eq_some_iff.1 hblank).2]
  | none => simp

/-- Where only line feeds end lines, a separator is passed over as any other character. -/
theorem Place.nextSeparator_newline (place : Place) (c : Char) :
    place.nextSeparator .newline c = place.next c :=
  if_neg fun h => h.1 (beq_iff_eq.1 h.2)

/-- Where only line feeds end lines, a piece is passed over as text. -/
theorem Place.pastPiece_newline (place : Place) (piece : Piece) :
    place.pastPiece .newline piece = place.past piece.text := by
  rw [Place.pastPiece]
  cases hblank : piece.blank? with
  | some c => rw [(Piece.blank?_eq_some_iff.1 hblank).2]; exact place.nextSeparator_newline c
  | none => rfl

theorem Place.pastPiece_of_ne_ignore (rule : LineRule) (place : Place) {piece : Piece}
    (h : piece.kind ≠ .ignore) : place.pastPiece rule piece = place.past piece.text := by
  have hblank : piece.blank? = none := by
    rw [Option.eq_none_iff_forall_not_mem]
    exact fun c hc => h (Piece.blank?_eq_some_iff.1 hc).1
  rw [Place.pastPiece, hblank]

namespace Piece

/-- What the token of a piece keeps as its text: of a string what stands between
its quotes. -/
def body (piece : Piece) : List Char :=
  if piece.kind = .string then piece.text.tail.dropLast else piece.text

/-- The token that a piece makes at the place where it stands. -/
def token (piece : Piece) (place : Place) : Token :=
  Token.of piece.kind (String.ofList piece.body)
    ⟨place.offset, place.offset + Text.byteLength piece.text, place.line, place.column⟩

end Piece

namespace Cursor

/-- The cursor behind a piece, with `rest` left to read. -/
def behind (cursor : Cursor) (piece : Piece) (rest : List Char) : Cursor :=
  { cursor with rest, place := cursor.place.pastPiece cursor.rule piece }

/-- The token between a cursor and the cursor behind a piece is that of the piece. -/
theorem token_behind (cursor : Cursor) (piece : Piece) (rest : List Char) :
    cursor.token (cursor.behind piece rest) piece.kind piece.body = piece.token cursor.place := by
  simp [token, Piece.token, spanFrom, behind]

/-- A piece that is no separator is passed over as text. -/
theorem behind_of_ne_ignore (cursor : Cursor) {kind : Kind} (h : kind ≠ .ignore)
    (text rest : List Char) :
    cursor.behind ⟨kind, text⟩ rest = { cursor with rest, place := cursor.place.past text } := by
  rw [behind, Place.pastPiece_of_ne_ignore _ _ h]

/-- The error about a faulty text at the front of what is left to read. -/
def faultAt (cursor : Cursor) (fault : Fault) (bad : List Char) : ScanError :=
  ⟨fault, ⟨cursor.place.offset, cursor.place.offset + Text.byteLength bad, cursor.place.line,
    cursor.place.column⟩⟩

/-- The cursor after a fault.  An unexpected character is not passed over. -/
def pastFault (cursor : Cursor) (fault : Fault) (bad : List Char) : Cursor :=
  match fault with
  | .unexpectedCharacter _ => cursor
  | _ => { cursor with
      rest := cursor.rest.drop bad.length, place := cursor.place.past bad }

theorem error_eq_faultAt {first last : Cursor} {bad : List Char} (fault : Fault)
    (h : last.place = first.place.past bad) : first.error last fault = first.faultAt fault bad := by
  simp [error, faultAt, spanFrom, h]

/-! ## movements -/

variable {cursor : Cursor} {c : Char} {cs rest : List Char}

theorem current_eq (h : cursor.rest = c :: cs) : cursor.current = c := by
  rw [current, h, List.headD_cons]

theorem advance_eq (h : cursor.rest = c :: cs) :
    cursor.advance = { cursor with rest := cs, place := cursor.place.next c } := by
  rw [advance, h]

theorem advanceSeparator_eq (h : cursor.rest = c :: cs) :
    cursor.advanceSeparator =
      { cursor with rest := cs, place := cursor.place.nextSeparator cursor.rule c } := by
  rw [advanceSeparator, h]

theorem eat_eq_true (h : cursor.rest = c :: cs) :
    cursor.eat c = (true, { cursor with rest := cs, place := cursor.place.next c }) := by
  rw [eat, h, List.head?_cons, if_pos rfl, advance_eq h]

theorem eat_eq_false (h : cursor.rest.head? ≠ some c) : cursor.eat c = (false, cursor) := by
  rw [eat, if_neg h]

/-- A run of characters that satisfy a test, up to one that does not, is what
`takeWhile` takes. -/
theorem takeWhile_run {test : Char → Bool} {run : List Char} (hrun : ∀ x ∈ run, test x = true)
    (hrest : ∀ x, rest.head? = some x → test x = false) : (run ++ rest).takeWhile test = run := by
  rw [List.takeWhile_append_of_pos hrun]
  cases rest with
  | nil => simp
  | cons x xs => simp [hrest x rfl]

theorem dropWhile_run {test : Char → Bool} {run : List Char} (hrun : ∀ x ∈ run, test x = true)
    (hrest : ∀ x, rest.head? = some x → test x = false) : (run ++ rest).dropWhile test = rest := by
  rw [List.dropWhile_append_of_pos hrun]
  cases rest with
  | nil => rfl
  | cons x xs => simp [hrest x rfl]

theorem forall_decide_ne {stop : Char} {run : List Char} (h : stop ∉ run) :
    ∀ x ∈ run, decide (x ≠ stop) = true := by
  intro x hx
  simpa using fun heq : x = stop => h (heq ▸ hx)

theorem eatWhile_eq {test : Char → Bool} {run : List Char} (h : cursor.rest = run ++ rest)
    (hrun : ∀ x ∈ run, test x = true) (hrest : ∀ x, rest.head? = some x → test x = false) :
    cursor.eatWhile test = { cursor with rest, place := cursor.place.past run } := by
  rw [eatWhile, h, takeWhile_run hrun hrest, dropWhile_run hrun hrest]

/-! ## the readers -/

theorem readSingle_eq (h : cursor.rest = c :: cs) {kind : Kind} (hkind : kind ≠ .string) :
    cursor.readSingle kind =
      ((⟨kind, [c]⟩ : Piece).token cursor.place, cursor.behind ⟨kind, [c]⟩ cs) := by
  have hlast : (if kind = .ignore then cursor.advanceSeparator else cursor.advance) =
      cursor.behind ⟨kind, [c]⟩ cs := by
    by_cases hignore : kind = .ignore
    · rw [if_pos hignore, advanceSeparator_eq h, hignore]; rfl
    · rw [if_neg hignore, advance_eq h, behind_of_ne_ignore _ hignore]; rfl
  rw [← token_behind cursor ⟨kind, [c]⟩ cs, readSingle, hlast, h]
  simp [Piece.body, hkind]

theorem readComparison?_eq_alone (h : cursor.rest = c :: cs) {alone paired : Kind}
    (hkinds : Kind.ofComparison? c = some (alone, paired)) (hplain : alone.IsPlain)
    (hnext : cs.head? ≠ some '=') :
    cursor.readComparison? =
      some ((⟨alone, [c]⟩ : Piece).token cursor.place, cursor.behind ⟨alone, [c]⟩ cs) := by
  have hlast : cursor.behind ⟨alone, [c]⟩ cs = cursor.advance := by
    rw [advance_eq h, behind_of_ne_ignore _ hplain.1]; rfl
  have heat : cursor.advance.eat '=' = (false, cursor.advance) :=
    eat_eq_false (by rw [advance_eq h]; exact hnext)
  rw [← token_behind cursor ⟨alone, [c]⟩ cs, hlast, readComparison?, current_eq h, hkinds]
  simp [heat, h, Piece.body, hplain.2]

theorem readComparison?_eq_paired (h : cursor.rest = c :: '=' :: rest) {alone paired : Kind}
    (hkinds : Kind.ofComparison? c = some (alone, paired)) (hplain : paired.IsPlain) :
    cursor.readComparison? =
      some ((⟨paired, [c, '=']⟩ : Piece).token cursor.place,
        cursor.behind ⟨paired, [c, '=']⟩ rest) := by
  have hlast : cursor.advance.eat '=' = (true, cursor.behind ⟨paired, [c, '=']⟩ rest) := by
    rw [advance_eq h, eat_eq_true rfl, behind_of_ne_ignore _ hplain.1]; rfl
  rw [← token_behind cursor ⟨paired, [c, '=']⟩ rest, readComparison?, current_eq h, hkinds]
  simp [hlast, h, Piece.body, hplain.2]

theorem readSlash_eq_divide (h : cursor.rest = '/' :: cs) (hnext : cs.head? ≠ some '/') :
    cursor.readSlash =
      ((⟨.divide, ['/']⟩ : Piece).token cursor.place, cursor.behind ⟨.divide, ['/']⟩ cs) := by
  have hlast : cursor.behind ⟨.divide, ['/']⟩ cs = cursor.advance := by
    rw [advance_eq h]; rfl
  have heat : cursor.advance.eat '/' = (false, cursor.advance) :=
    eat_eq_false (by rw [advance_eq h]; exact hnext)
  rw [← token_behind cursor ⟨.divide, ['/']⟩ cs, hlast, readSlash]
  simp [heat, h, Piece.body]

theorem readSlash_eq_comment {body : List Char} (h : cursor.rest = '/' :: '/' :: (body ++ rest))
    (hbody : '\n' ∉ body) (hnext : ∀ x, rest.head? = some x → x = '\n') :
    cursor.readSlash =
      ((⟨.ignore, '/' :: '/' :: body⟩ : Piece).token cursor.place,
        cursor.behind ⟨.ignore, '/' :: '/' :: body⟩ rest) := by
  have hrun := forall_decide_ne hbody
  have hstop : ∀ x, rest.head? = some x → decide (x ≠ '\n') = false := by
    intro x hx
    simpa using hnext x hx
  have hopened : cursor.advance.eat '/' =
      (true, { cursor with
        rest := body ++ rest, place := (cursor.place.next '/').next '/' }) := by
    rw [advance_eq h, eat_eq_true rfl]
  have heaten : eatWhile (· ≠ '\n') { cursor with
        rest := body ++ rest, place := (cursor.place.next '/').next '/' } =
      cursor.behind ⟨.ignore, '/' :: '/' :: body⟩ rest :=
    eatWhile_eq rfl hrun hstop
  rw [← token_behind cursor ⟨.ignore, '/' :: '/' :: body⟩ rest, readSlash]
  simp only [hopened, heaten, takeWhile_run hrun hstop, h]
  simp [Piece.body]

theorem readString_eq_ok {body : List Char} (h : cursor.rest = '"' :: (body ++ '"' :: rest))
    (hbody : '"' ∉ body) :
    cursor.readString =
      (.ok ((⟨.string, '"' :: (body ++ ['"'])⟩ : Piece).token cursor.place),
        cursor.behind ⟨.string, '"' :: (body ++ ['"'])⟩ rest) := by
  have hrun := forall_decide_ne hbody
  have hstop : ∀ x, ('"' :: rest).head? = some x → decide (x ≠ '"') = false := by
    simp
  have heaten : eatWhile (· ≠ '"') { cursor with
        rest := body ++ '"' :: rest, place := cursor.place.next '"' } =
      { cursor with
        rest := '"' :: rest, place := (cursor.place.next '"').past body } :=
    eatWhile_eq rfl hrun hstop
  have hclosed : advance { cursor with
        rest := '"' :: rest, place := (cursor.place.next '"').past body } =
      cursor.behind ⟨.string, '"' :: (body ++ ['"'])⟩ rest := by
    simp [advance, behind_of_ne_ignore]
  rw [← token_behind cursor ⟨.string, '"' :: (body ++ ['"'])⟩ rest, readString, advance_eq h]
  simp only [heaten, hclosed, takeWhile_run hrun hstop]
  simp [atEnd, Piece.body]

theorem readString_eq_error {body : List Char} (h : cursor.rest = '"' :: body)
    (hbody : '"' ∉ body) :
    cursor.readString =
      (.error (cursor.faultAt .unterminatedString ('"' :: body)),
        cursor.pastFault .unterminatedString ('"' :: body)) := by
  have hrun := forall_decide_ne hbody
  have heaten : eatWhile (· ≠ '"') { cursor with rest := body, place := cursor.place.next '"' } =
      cursor.pastFault .unterminatedString ('"' :: body) := by
    rw [eatWhile_eq (List.append_nil body).symm hrun (by simp)]
    simp [pastFault, h]
  have herror : cursor.error (cursor.pastFault .unterminatedString ('"' :: body))
      .unterminatedString = cursor.faultAt .unterminatedString ('"' :: body) :=
    error_eq_faultAt _ rfl
  rw [readString, advance_eq h]
  simp only [heaten, herror]
  simp [atEnd, pastFault, h]

theorem readNumber_eq {text : List Char} (h : cursor.rest = text ++ rest)
    (htext : ∀ x ∈ text, Numeral x) (hrest : ∀ x, rest.head? = some x → ¬ Numeral x) :
    cursor.readNumber =
      if 1 < text.count '.' then
        (.error (cursor.faultAt (.tooManyDecimals (String.ofList text)) text),
          cursor.pastFault (.tooManyDecimals (String.ofList text)) text)
      else
        (.ok ((⟨.number, text⟩ : Piece).token cursor.place),
          cursor.behind ⟨.number, text⟩ rest) := by
  have hrun : ∀ x ∈ text, isNumeral x = true := fun x hx => isNumeral_iff.2 (htext x hx)
  have hstop : ∀ x, rest.head? = some x → isNumeral x = false := fun x hx =>
    Bool.eq_false_iff.2 (mt isNumeral_iff.1 (hrest x hx))
  have hlast := cursor.behind_of_ne_ignore (show Kind.number ≠ .ignore by decide) text rest
  have herror : cursor.error { cursor with rest, place := cursor.place.past text }
      (.tooManyDecimals (String.ofList text)) =
        cursor.faultAt (.tooManyDecimals (String.ofList text)) text :=
    error_eq_faultAt _ rfl
  rw [← token_behind cursor ⟨.number, text⟩ rest, hlast, readNumber, eatWhile_eq h hrun hstop, h,
    takeWhile_run hrun hstop]
  simp [herror, pastFault, h, Piece.body]

theorem readWord_eq {word : List Char} {kind : Kind} (h : cursor.rest = word ++ rest)
    (hword : ∀ x ∈ word, WordChar x) (hrest : ∀ x, rest.head? = some x → ¬ WordChar x)
    (hkind : (Kind.ofKeyword? (String.ofList word)).getD .identifier = kind)
    (hplain : kind.IsPlain) :
    cursor.readWord =
      ((⟨kind, word⟩ : Piece).token cursor.place, cursor.behind ⟨kind, word⟩ rest) := by
  have hrun : ∀ x ∈ word, isWordChar x = true := fun x hx => isWordChar_iff.2 (hword x hx)
  have hstop : ∀ x, rest.head? = some x → isWordChar x = false := fun x hx =>
    Bool.eq_false_iff.2 (mt isWordChar_iff.1 (hrest x hx))
  have hlast := cursor.behind_of_ne_ignore hplain.1 word rest
  rw [← token_behind cursor ⟨kind, word⟩ rest, hlast, readWord, eatWhile_eq h hrun hstop, h,
    takeWhile_run hrun hstop, hkind]
  simp [Piece.body, hplain.2]

end Cursor

/-! ## the tables of kinds -/

theorem ofChar?_eq_some_iff {c : Char} {kind : Kind} :
    Kind.ofChar? c = some kind ↔ (c, kind) ∈ marks ∨ c ∈ blanks ∧ kind = .ignore := by
  unfold Kind.ofChar?
  constructor
  · intro h
    split at h <;> simp_all [marks, blanks]
  · rintro (h | ⟨h, rfl⟩)
    · have hall : ∀ entry ∈ marks, Kind.ofChar? entry.1 = some entry.2 := by decide
      exact hall (c, kind) h
    · have hall : ∀ c ∈ blanks, Kind.ofChar? c = some .ignore :=
          List.all_iff_forall_prop.1 (by decide)
      exact hall c h

theorem ofComparison?_eq_some_iff {c : Char} {alone paired : Kind} :
    Kind.ofComparison? c = some (alone, paired) ↔ (c, alone, paired) ∈ comparisons := by
  unfold Kind.ofComparison?
  constructor
  · intro h
    split at h <;> simp_all [comparisons]
  · intro h
    have hall : ∀ entry ∈ comparisons, Kind.ofComparison? entry.1 = some entry.2 := by decide
    exact hall (c, alone, paired) h

theorem ofChar?_eq_none {c : Char} (hmark : Start.of c ≠ .mark) (hblank : Start.of c ≠ .blank) :
    Kind.ofChar? c = none := by
  rw [Option.eq_none_iff_forall_ne_some]
  intro kind hkind
  rcases ofChar?_eq_some_iff.1 hkind with h | ⟨h, -⟩
  · exact hmark (startOf_of_mem_marks h)
  · exact hblank (startOf_of_mem_blanks h)

theorem ofComparison?_eq_none {c : Char} (h : Start.of c ≠ .comparison) :
    Kind.ofComparison? c = none := by
  rw [Option.eq_none_iff_forall_ne_some]
  intro kinds hkinds
  exact h (startOf_of_mem_comparisons (ofComparison?_eq_some_iff.1 hkinds))

/-- In a table whose keys are distinct, looking a key up finds its entry. -/
theorem lookup_eq_some_iff {table : List (String × Kind)} (h : (table.map (·.1)).Nodup)
    {word : String} {kind : Kind} : table.lookup word = some kind ↔ (word, kind) ∈ table := by
  induction table with
  | nil => simp
  | cons entry table ih =>
      obtain ⟨key, value⟩ := entry
      rw [List.map_cons, List.nodup_cons] at h
      by_cases heq : word = key
      · subst heq
        have hfresh : (word, kind) ∉ table := fun hmem =>
          h.1 (List.mem_map.2 ⟨(word, kind), hmem, rfl⟩)
        simp [hfresh, eq_comm]
      · rw [List.lookup_cons, beq_false_of_ne heq]
        simp [ih h.2, heq]

theorem ofKeyword?_eq {word : List Char} {kind : Kind} (h : IsWordKind word kind) :
    (Kind.ofKeyword? (String.ofList word)).getD .identifier = kind := by
  have hlookup := @lookup_eq_some_iff Kind.keywords (by decide) (String.ofList word)
  rcases h with hmem | ⟨rfl, hnone⟩
  · rw [Kind.ofKeyword?, hlookup.2 hmem, Option.getD_some]
  · have : Kind.ofKeyword? (String.ofList word) = none := by
      rw [Option.eq_none_iff_forall_ne_some]
      exact fun kind hkind => hnone kind (hlookup.1 hkind)
    rw [this, Option.getD_none]

/-- No mark, comparison or word makes a separator or a string. -/
theorem isPlain_of_mem_marks {c : Char} {kind : Kind} (h : (c, kind) ∈ marks) : kind.IsPlain := by
  have hall : ∀ entry ∈ marks, entry.2 ≠ .ignore ∧ entry.2 ≠ .string := by decide
  exact hall (c, kind) h

theorem isPlain_of_mem_comparisons {c : Char} {alone paired : Kind}
    (h : (c, alone, paired) ∈ comparisons) : alone.IsPlain ∧ paired.IsPlain := by
  have hall : ∀ entry ∈ comparisons, (entry.2.1 ≠ .ignore ∧ entry.2.1 ≠ .string) ∧
      entry.2.2 ≠ .ignore ∧ entry.2.2 ≠ .string := by decide
  exact hall (c, alone, paired) h

theorem isPlain_of_isWordKind {word : List Char} {kind : Kind} (h : IsWordKind word kind) :
    kind.IsPlain := by
  have hall : ∀ entry ∈ Kind.keywords, entry.2 ≠ .ignore ∧ entry.2 ≠ .string := by decide
  rcases h with hmem | ⟨rfl, -⟩
  · exact hall _ hmem
  · exact ⟨by decide, by decide⟩

/-! ## reading a lexeme -/

namespace Cursor

variable {cursor : Cursor} {rest : List Char}

/-- A character that is in no table leaves the choice to its class. -/
theorem readLexeme_eq_of_start {c : Char} {cs : List Char} (h : cursor.rest = c :: cs)
    (hmark : Start.of c ≠ .mark) (hblank : Start.of c ≠ .blank)
    (hcomparison : Start.of c ≠ .comparison) :
    cursor.readLexeme =
      if c = '/' then cursor.readSlash.map .ok id
      else if c = '"' then cursor.readString
      else if isDigit c then cursor.readNumber
      else if isLetter c then cursor.readWord.map .ok id
      else (.error (cursor.error cursor.advance (.unexpectedCharacter c)), cursor) := by
  have hread : cursor.readComparison? = none := by
    rw [readComparison?, current_eq h, ofComparison?_eq_none hcomparison]
  simp only [readLexeme, current_eq h, ofChar?_eq_none hmark hblank, hread]

theorem readLexeme_slash {cs : List Char} (h : cursor.rest = '/' :: cs) :
    cursor.readLexeme = cursor.readSlash.map .ok id := by
  rw [readLexeme_eq_of_start h (by simp [startOf_slash]) (by simp [startOf_slash])
    (by simp [startOf_slash]), if_pos rfl]

theorem readLexeme_quote {cs : List Char} (h : cursor.rest = '"' :: cs) :
    cursor.readLexeme = cursor.readString := by
  rw [readLexeme_eq_of_start h (by simp [startOf_quote]) (by simp [startOf_quote])
    (by simp [startOf_quote]), if_neg (by decide), if_pos rfl]

theorem ne_slash_of_start {c : Char} (h : Start.of c ≠ .slash) : c ≠ '/' :=
  fun heq => h (heq ▸ startOf_slash)

theorem ne_quote_of_start {c : Char} (h : Start.of c ≠ .quote) : c ≠ '"' :=
  fun heq => h (heq ▸ startOf_quote)

theorem readLexeme_digit {d : Char} {ds : List Char} (h : cursor.rest = d :: ds)
    (hd : Digit d) : cursor.readLexeme = cursor.readNumber := by
  have hstart := startOf_of_digit hd
  rw [readLexeme_eq_of_start h (by simp [hstart]) (by simp [hstart]) (by simp [hstart]),
    if_neg (ne_slash_of_start (by simp [hstart])), if_neg (ne_quote_of_start (by simp [hstart])),
    if_pos (isDigit_iff.2 hd)]

theorem readLexeme_letter {l : Char} {cs : List Char} (h : cursor.rest = l :: cs)
    (hl : Letter l) : cursor.readLexeme = cursor.readWord.map .ok id := by
  have hstart := startOf_of_letter hl
  rw [readLexeme_eq_of_start h (by simp [hstart]) (by simp [hstart]) (by simp [hstart]),
    if_neg (ne_slash_of_start (by simp [hstart])), if_neg (ne_quote_of_start (by simp [hstart])),
    if_neg (mt isDigit_iff.1 hl.not_digit), if_pos (isLetter_iff.2 hl)]

theorem readLexeme_nothing {c : Char} {cs : List Char} (h : cursor.rest = c :: cs)
    (hc : StartsNothing c) :
    cursor.readLexeme =
      (.error (cursor.error cursor.advance (.unexpectedCharacter c)), cursor) := by
  have hstart := startsNothing_iff.1 hc
  rw [readLexeme_eq_of_start h (by simp [hstart]) (by simp [hstart]) (by simp [hstart]),
    if_neg (ne_slash_of_start (by simp [hstart])), if_neg (ne_quote_of_start (by simp [hstart])),
    if_neg (mt isDigit_iff.1 hc.2.2.1), if_neg (mt isLetter_iff.1 hc.2.2.2)]

/-- **Lexemes are read**: where a lexeme stands that ends there, the cursor makes
its token and stops behind it. -/
theorem readLexeme_of_isLexeme {piece : Piece} (h : cursor.rest = piece.text ++ rest)
    (hlex : IsLexeme piece.kind piece.text) (hends : Ends piece.text rest) :
    cursor.readLexeme = (.ok (piece.token cursor.place), cursor.behind piece rest) := by
  obtain ⟨kind, text⟩ := piece
  simp only at h hlex hends
  cases hlex with
  | @mark c _ hmark =>
      have hchar := ofChar?_eq_some_iff.2 (.inl hmark)
      simp [readLexeme, current_eq h, hchar, readSingle_eq h (isPlain_of_mem_marks hmark).2]
  | @blank c hblank =>
      have hchar := ofChar?_eq_some_iff.2 (.inr ⟨hblank, rfl⟩)
      have hread := @readSingle_eq _ _ _ h .ignore (by decide)
      simp [readLexeme, current_eq h, hchar, hread]
  | @comparison c _ paired hmem =>
      have hstart := startOf_of_mem_comparisons hmem
      have hchar := @ofChar?_eq_none c (by simp [hstart]) (by simp [hstart])
      have hnext : rest.head? ≠ some '=' := fun hhead => hends '=' hhead (.comparison hmem)
      have hread := readComparison?_eq_alone h (ofComparison?_eq_some_iff.2 hmem)
        (isPlain_of_mem_comparisons hmem).1 hnext
      simp [readLexeme, current_eq h, hchar, hread]
  | @comparisonEquals c alone _ hmem =>
      have hstart := startOf_of_mem_comparisons hmem
      have hchar := @ofChar?_eq_none c (by simp [hstart]) (by simp [hstart])
      have hread := readComparison?_eq_paired h (ofComparison?_eq_some_iff.2 hmem)
        (isPlain_of_mem_comparisons hmem).2
      simp [readLexeme, current_eq h, hchar, hread]
  | divide =>
      have hnext : rest.head? ≠ some '/' := fun hhead => hends '/' hhead .divide
      rw [readLexeme_slash h, readSlash_eq_divide h hnext]
      rfl
  | comment hbody =>
      have hnext : ∀ x, rest.head? = some x → x = '\n' := by
        intro x hhead
        by_cases heq : x = '\n'
        · exact heq
        · exact absurd (.comment heq) (hends x hhead)
      rw [readLexeme_slash h, readSlash_eq_comment h hbody hnext]
      rfl
  | @string body hbody =>
      have hquote : cursor.rest = '"' :: (body ++ '"' :: rest) := by simpa using h
      rw [readLexeme_quote h, readString_eq_ok hquote hbody]
  | @number d ds hd hds hpoints =>
      have hdigits : ∀ x ∈ d :: ds, Numeral x := List.forall_mem_cons.2 ⟨.inl hd, hds⟩
      have hnext : ∀ x, rest.head? = some x → ¬ Numeral x := fun x hhead hx =>
        hends x hhead (.number hd hx)
      rw [readLexeme_digit h hd, readNumber_eq h hdigits hnext, if_neg (Nat.not_lt.2 hpoints)]
  | @word l cs _ hl hcs hkind =>
      have hchars : ∀ x ∈ l :: cs, WordChar x := List.forall_mem_cons.2 ⟨.inl hl, hcs⟩
      have hnext : ∀ x, rest.head? = some x → ¬ WordChar x := fun x hhead hx =>
        hends x hhead (.word hl hx)
      rw [readLexeme_letter h hl,
        readWord_eq h hchars hnext (ofKeyword?_eq hkind) (isPlain_of_isWordKind hkind)]
      rfl

/-- **Faults are reported**: where the grammar breaks, the cursor gives the error
about the faulty text. -/
theorem readLexeme_of_breaks {fault : Fault} {bad : List Char}
    (h : Breaks cursor.rest fault bad) :
    cursor.readLexeme = (.error (cursor.faultAt fault bad), cursor.pastFault fault bad) := by
  generalize htext : cursor.rest = text at h
  cases h with
  | @unexpectedCharacter c cs hc =>
      have herror : cursor.error { cursor with rest := cs, place := cursor.place.next c }
          (.unexpectedCharacter c) = cursor.faultAt (.unexpectedCharacter c) [c] :=
        error_eq_faultAt _ rfl
      rw [readLexeme_nothing htext hc, advance_eq htext, herror]
      rfl
  | unterminatedString hbody => rw [readLexeme_quote htext, readString_eq_error htext hbody]
  | @tooManyDecimals d ds rest hd hds hrest hpoints =>
      have hdigits : ∀ x ∈ d :: ds, Numeral x := List.forall_mem_cons.2 ⟨.inl hd, hds⟩
      rw [readLexeme_digit htext hd, readNumber_eq htext hdigits hrest, if_pos hpoints]

end Cursor

end ScriptScan
