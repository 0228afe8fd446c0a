import ScriptScan.Cursor
import ScriptScan.ScanError
import ScriptScan.Token

/-!
# ScriptScan.Lexeme

The shapes of lexeme: single characters, comparisons, a slash and comments,
strings, numbers and words.  There is one reader for each; it starts at a cursor
and leaves another behind the lexeme.  `Cursor.readLexeme` picks the reader by
the next character.

* `Cursor.length_rest_readLexeme_lt` — a reader that makes a token has moved, so
  reading a source lexeme by lexeme comes to an end.
-/

namespace ScriptScan

/-- Whether a character is an ASCII digit. -/
def isDigit (c : Char) : Bool := '0' ≤ c && c ≤ '9'

/-- Whether a character is an ASCII letter. -/
def isLetter (c : Char) : Bool := ('a' ≤ c && c ≤ 'z') || ('A' ≤ c && c ≤ 'Z')

/-- Whether a character can stand in a number. -/
def isNumeral (c : Char) : Bool := isDigit c || c == '.'

/-- Whether a character can stand in a word after its first letter. -/
def isWordChar (c : Char) : Bool := isLetter c || isDigit c

namespace Cursor

/-- The token from one cursor to a later one. -/
def token (first last : Cursor) (kind : Kind) (text : List Char) : Token :=
  Token.of kind (String.ofList text) (last.spanFrom first.place)

/-- The error about the text from one cursor to a later one. -/
def error (first last : Cursor) (fault : Fault) : ScanError :=
  { fault, span := last.spanFrom first.place }

/-! ## one reader for each shape -/

/-- Reads one character, whichever it is, as a token of the given kind.  At the
end of the source the token is empty. -/
def readSingle (kind : Kind) (cursor : Cursor) : Token × Cursor :=
  let last := if kind = .ignore then cursor.advanceSeparator else cursor.advance
  (cursor.token last kind (cursor.rest.take 1), last)

/-- Reads a comparison sign and the equals sign after it, if there is one.  There
is nothing to read at any other character. -/
def readComparison? (cursor : Cursor) : Option (Token × Cursor) :=
  match Kind.ofComparison? cursor.current with
  | none => none
  | some (alone, paired) =>
    let sign := cursor.rest.take 1
    match cursor.advance.eat '=' with
    | (true, last) => some (cursor.token last paired (sign ++ ['=']), last)
    | (false, last) => some (cursor.token last alone sign, last)

/-- Reads one character, which is taken for a slash, and if a slash follows it
the rest of the line as a comment. -/
def readSlash (cursor : Cursor) : Token × Cursor :=
  let sign := cursor.rest.take 1
  match cursor.advance.eat '/' with
  | (true, opened) =>
    let last := opened.eatWhile (· ≠ '\n')
    let comment := opened.rest.takeWhile (· ≠ '\n')
    (cursor.token last .ignore (sign ++ '/' :: comment), last)
  | (false, last) => (cursor.token last .divide sign, last)

/-- Reads one character, which is taken for a quote, and all text up to the next
quote.  The token's text is what stands between the two. -/
def readString (cursor : Cursor) : Except ScanError Token × Cursor :=
  let opened := cursor.advance
  let body := opened.rest.takeWhile (· ≠ '"')
  let last := opened.eatWhile (· ≠ '"')
  if last.atEnd then
    (.error (cursor.error last .unterminatedString), last)
  else
    let closed := last.advance
    (.ok (cursor.token closed .string body), closed)

/-- Reads a run of digits and decimal points, which may hold one point. -/
def readNumber (cursor : Cursor) : Except ScanError Token × Cursor :=
  let text := cursor.rest.takeWhile isNumeral
  let last := cursor.eatWhile isNumeral
  if 1 < text.count '.' then
    (.error (cursor.error last (.tooManyDecimals (String.ofList text))), last)
  else
    (.ok (cursor.token last .number text), last)

/-- Reads a run of letters and digits: a keyword or else an identifier. -/
def readWord (cursor : Cursor) : Token × Cursor :=
  let word := cursor.rest.takeWhile isWordChar
  let last := cursor.eatWhile isWordChar
  let kind := (Kind.ofKeyword? (String.ofList word)).getD .identifier
  (cursor.token last kind word, last)

/-- Reads the lexeme at the cursor, whose next character decides its shape.  A
character that starts no lexeme is an error, and the cursor stays in front of it. -/
def readLexeme (cursor : Cursor) : Except ScanError Token × Cursor :=
  let c := cursor.current
  match Kind.ofChar? c with
  | some kind => (cursor.readSingle kind).map .ok id
  | none =>
    match cursor.readComparison? with
    | some found => found.map .ok id
    | none =>
      if c = '/' then cursor.readSlash.map .ok id
      else if c = '"' then cursor.readString
      else if isDigit c then cursor.readNumber
      else if isLetter c then cursor.readWord.map .ok id
      else (.error (cursor.error cursor.advance (.unexpectedCharacter c)), cursor)

/-! ## a token takes at least one character -/

theorem length_rest_readSingle (kind : Kind) (cursor : Cursor) :
    (cursor.readSingle kind).2.rest.length = cursor.rest.length - 1 := by
  unfold readSingle
  split <;> simp

theorem length_rest_readComparison_le {cursor : Cursor} {found : Token × Cursor}
    (h : cursor.readComparison? = some found) :
    found.2.rest.length ≤ cursor.rest.length - 1 := by
  have heat := length_rest_eat_le '=' cursor.advance
  rw [length_rest_advance] at heat
  unfold readComparison? at h
  split at h
  · simp at h
  · split at h <;> next heq => cases h; simpa [heq] using heat

theorem length_rest_readSlash_le (cursor : Cursor) :
    cursor.readSlash.2.rest.length ≤ cursor.rest.length - 1 := by
  have heat := length_rest_eat_le '/' cursor.advance
  rw [length_rest_advance] at heat
  unfold readSlash
  simp only
  split
  · next opened heq =>
    rw [heq] at heat
    exact Nat.le_trans (length_rest_eatWhile_le _ opened) heat
  · next heq => simpa [heq] using heat

theorem length_rest_readString_le (cursor : Cursor) :
    cursor.readString.2.rest.length ≤ cursor.rest.length - 1 := by
  have heat := length_rest_eatWhile_le (· ≠ '"') cursor.advance
  rw [length_rest_advance] at heat
  unfold readString
  simp only
  split
  · exact heat
  · rw [length_rest_advance]; omega

/-- A lexeme that makes a token is not empty. -/
theorem length_rest_readLexeme_lt {cursor last : Cursor} {token : Token}
    (hrest : cursor.rest ≠ []) (h : cursor.readLexeme = (.ok token, last)) :
    last.rest.length < cursor.rest.length := by
  obtain ⟨c, cs, hcs⟩ := List.exists_cons_of_ne_nil hrest
  have hlen : cursor.rest.length = cs.length + 1 := by simp [hcs]
  have hcur : cursor.current = c := by simp [current, hcs]
  unfold readLexeme at h
  simp only [hcur] at h
  split at h
  · next kind _ =>
    have hlast : (cursor.readSingle kind).2 = last := congrArg Prod.snd h
    have hle := length_rest_readSingle kind cursor
    rw [hlast] at hle; omega
  split at h
  · next found hfound =>
    have hlast : found.2 = last := congrArg Prod.snd h
    have hle := length_rest_readComparison_le hfound
    rw [hlast] at hle; omega
  split at h
  · have hlast : cursor.readSlash.2 = last := congrArg Prod.snd h
    have hle := length_rest_readSlash_le cursor
    rw [hlast] at hle; omega
  split at h
  · have hle := length_rest_readString_le cursor
    rw [h] at hle
    simp only at hle; omega
  split at h
  · next hdigit =>
    have hlt := length_rest_eatWhile_lt isNumeral hcs (by simp [isNumeral, hdigit])
    unfold readNumber at h
    simp only at h
    split at h <;> cases h
    exact hlt
  split at h
  · next hletter =>
    have hlt := length_rest_eatWhile_lt isWordChar hcs (by simp [isWordChar, hletter])
    have hlast : cursor.readWord.2 = last := congrArg Prod.snd h
    rw [← hlast]; exact hlt
  · cases h

end Cursor

end ScriptScan
