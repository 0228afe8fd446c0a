import Mathlib.Data.Nat.Bitwise
import ScriptScan.Proofs.Registers

/-!
# ScriptScan.Proofs.Peeking

What a cursor finds when it looks ahead.

A machine looks ahead in bytes.  The number of the byte is a sum, which has to be a word.  A
byte below 128 is taken for the character of that number, and only at any other byte is the
source decoded.

* `Text.StandsAt` — what stands at a byte of a text, whatever way it is looked up;
* `Text.charAtByte_eq_decode` — the short way gives what decoding gives, at any byte of any
  bytes;
* `Text.StandsAt.decode` — and that is what stands there;
* `peek_finds_what_stands_there` — all of it for a cursor, whatever it was asked before;
* `peek_breaks_off_past_last_word` — where the sum is no word, nothing comes back.
-/

namespace ScriptScan

namespace Text

variable {text before after : List Char} {c found : Char} {n : Nat}

/-! ## what stands at a byte -/

/-- What stands at byte `n` of a text: the character that starts there; or the null
character, if the byte is a later one of a character, or lies behind the text. -/
inductive StandsAt (text : List Char) (n : Nat) : Char → Prop
  | start {before after : List Char} {c : Char} (htext : text = before ++ c :: after)
      (hn : byteLength before = n) : StandsAt text n c
  | inside {before after : List Char} {c : Char} (htext : text = before ++ c :: after)
      (hlow : byteLength before < n) (hhigh : n < byteLength before + c.utf8Size) :
      StandsAt text n '\x00'
  | behind (h : byteLength text ≤ n) : StandsAt text n '\x00'

/-- A character in front moves what stands in a text by its bytes. -/
theorem StandsAt.cons (h : StandsAt text n found) (c : Char) :
    StandsAt (c :: text) (c.utf8Size + n) found := by
  cases h with
  | @start before after _ htext hn =>
      have hall : c :: text = (c :: before) ++ found :: after := congrArg (c :: ·) htext
      exact .start hall (congrArg (c.utf8Size + ·) hn)
  | @inside before after d htext hlow hhigh =>
      have hall : c :: text = (c :: before) ++ d :: after := congrArg (c :: ·) htext
      refine .inside hall (Nat.add_lt_add_left hlow _) ?_
      rw [byteLength_cons, Nat.add_assoc]
      exact Nat.add_lt_add_left hhigh _
  | behind h => exact .behind (Nat.add_le_add_left h _)

/-- Something stands at every byte. -/
theorem exists_standsAt (text : List Char) (n : Nat) : ∃ found, StandsAt text n found := by
  induction text generalizing n with
  | nil => exact ⟨_, .behind (Nat.zero_le n)⟩
  | cons c cs ih =>
      by_cases hsize : c.utf8Size ≤ n
      · obtain ⟨found, h⟩ := ih (n - c.utf8Size)
        exact ⟨found, Nat.add_sub_cancel' hsize ▸ h.cons c⟩
      · rcases Nat.eq_zero_or_pos n with rfl | hpos
        · exact ⟨c, .start (List.nil_append _).symm rfl⟩
        · exact ⟨_, .inside (List.nil_append _).symm hpos (by rw [byteLength_nil]; omega)⟩

/-- It is what comes first after a cut at that byte, if the text can be cut there. -/
theorem standsAt_splitAtByte? (text : List Char) (n : Nat) :
    StandsAt text n
      (((splitAtByte? n text).map fun (_, after) => after.headD '\x00').getD '\x00') := by
  cases hcut : splitAtByte? n text with
  | none =>
      obtain ⟨found, h⟩ := exists_standsAt text n
      cases h with
      | start htext hn =>
          rw [htext, ← hn, splitAtByte?_append] at hcut
          cases hcut
      | inside htext hlow hhigh => exact .inside htext hlow hhigh
      | behind h => exact .behind h
  | some parts =>
      obtain ⟨before, after⟩ := parts
      obtain ⟨htext, hn⟩ := eq_of_splitAtByte? hcut
      cases after with
      | nil => exact .behind (by rw [htext, List.append_nil, hn])
      | cons c cs => exact .start htext hn

/-! ## the bytes of a text -/

theorem utf8Encode_cons (c : Char) (cs : List Char) :
    (c :: cs).utf8Encode = (String.utf8EncodeChar c).toByteArray ++ cs.utf8Encode := by
  rw [List.utf8Encode_cons, List.utf8Encode_singleton]

theorem size_utf8Encode (text : List Char) : text.utf8Encode.size = byteLength text := by
  induction text with
  | nil => rfl
  | cons c cs ih =>
      rw [utf8Encode_cons, ByteArray.size_append, List.size_toByteArray,
        String.length_utf8EncodeChar, ih, byteLength_cons]

/-- The bytes of a character stand behind those of what comes before it. -/
theorem getElem_utf8Encode_append {i : Nat} (hi : i < (String.utf8EncodeChar c).length)
    (h : byteLength before + i < (before ++ c :: after).utf8Encode.size) :
    (before ++ c :: after).utf8Encode[byteLength before + i] = (String.utf8EncodeChar c)[i] := by
  simp only [List.utf8Encode_append, utf8Encode_cons]
  rw [ByteArray.getElem_append_right (by rw [size_utf8Encode]; exact Nat.le_add_right _ _)]
  simp only [size_utf8Encode, Nat.add_sub_cancel_left]
  rw [ByteArray.getElem_append_left (by rwa [List.size_toByteArray]), List.getElem_toByteArray]

/-! ## decoding -/

/-- Where a character starts, it is decoded. -/
theorem utf8DecodeChar?_append (before : List Char) (c : Char) (after : List Char) :
    (before ++ c :: after).utf8Encode.utf8DecodeChar? (byteLength before) = some c := by
  rw [ByteArray.utf8DecodeChar?_eq_utf8DecodeChar?_extract, List.utf8Encode_append,
    ByteArray.extract_append_eq_right (size_utf8Encode before).symm ByteArray.size_append,
    List.utf8DecodeChar?_utf8Encode_cons]

/-- Inside a character nothing is decoded, for only its first byte begins one. -/
theorem utf8DecodeChar?_inside (hlow : byteLength before < n)
    (hhigh : n < byteLength before + c.utf8Size) :
    (before ++ c :: after).utf8Encode.utf8DecodeChar? n = none := by
  obtain ⟨i, rfl⟩ := Nat.exists_eq_add_of_le (Nat.le_of_lt hlow)
  have hi : i < (String.utf8EncodeChar c).length := by
    rw [String.length_utf8EncodeChar]
    exact Nat.lt_of_add_lt_add_left hhigh
  rw [← Option.not_isSome_iff_eq_none]
  intro hsome
  have hfirst := ByteArray.isUTF8FirstByte_of_isSome_utf8DecodeChar? hsome
  rw [getElem_utf8Encode_append hi, UInt8.isUTF8FirstByte_getElem_utf8EncodeChar] at hfirst
  exact Nat.lt_irrefl _ (hfirst ▸ hlow)

/-- Behind the last byte nothing is decoded. -/
theorem utf8DecodeChar?_of_size_le {bytes : ByteArray} (h : bytes.size ≤ n) :
    bytes.utf8DecodeChar? n = none := dif_neg (Nat.not_lt_of_le h)

/-- Decoding finds what stands at a byte. -/
theorem StandsAt.decode (h : StandsAt text n found) :
    (text.utf8Encode.utf8DecodeChar? n).getD '\x00' = found := by
  cases h with
  | @start before after _ htext hn =>
      rw [htext, ← hn, utf8DecodeChar?_append, Option.getD_some]
  | inside htext hlow hhigh => rw [htext, utf8DecodeChar?_inside hlow hhigh, Option.getD_none]
  | behind h =>
      rw [utf8DecodeChar?_of_size_le ((size_utf8Encode text).trans_le h), Option.getD_none]

theorem StandsAt.unique {other : Char} (h : StandsAt text n found) (h' : StandsAt text n other) :
    found = other :=
  h.decode.symm.trans h'.decode

/-! ## the short way -/

/-- The character that a machine finds at a byte, or the null character.  A byte below 128 is
a character of its own.  At any other one the bytes are decoded, which fails inside a
character. -/
def charAtByte (bytes : ByteArray) (n : Nat) : Char :=
  if h : n < bytes.size then
    if bytes[n] < 128 then Char.ofUInt8 bytes[n] else (bytes.utf8DecodeChar? n).getD '\x00'
  else
    '\x00'

open ByteArray.utf8DecodeChar? in
/-- A byte below 128 is all of a character. -/
theorem parseFirstByte_of_lt {byte : UInt8} (h : byte < 128) : parseFirstByte byte = .done := by
  have hbit : byte.toNat &&& 2 ^ 7 = 0 := by
    rw [Nat.and_two_pow, Nat.testBit_lt_two_pow (UInt8.lt_iff_toNat_lt.1 h)]
    rfl
  have hzero : byte &&& 0x80 = 0 := UInt8.toNat_inj.1 hbit
  rw [parseFirstByte, hzero]
  rfl

theorem utf8DecodeChar?_of_lt {bytes : ByteArray} (h : n < bytes.size) (hbyte : bytes[n] < 128) :
    bytes.utf8DecodeChar? n = some (Char.ofUInt8 bytes[n]) := by
  have hdone := parseFirstByte_of_lt hbyte
  rw [ByteArray.utf8DecodeChar?, dif_pos h]
  split
  case h_2 => rfl
  all_goals next hother => rw [hdone] at hother; cases hother

/-- **The short way agrees with decoding**, at any byte of any bytes. -/
theorem charAtByte_eq_decode (bytes : ByteArray) (n : Nat) :
    charAtByte bytes n = (bytes.utf8DecodeChar? n).getD '\x00' := by
  unfold charAtByte
  split
  · next h =>
    split
    · next hbyte => rw [utf8DecodeChar?_of_lt h hbyte, Option.getD_some]
    · rfl
  · next h => rw [utf8DecodeChar?_of_size_le (Nat.le_of_not_lt h), Option.getD_none]

end Text

namespace Cursor

/-! ## looking ahead -/

/-- The character that a machine finds `offset` bytes after the place.  There is none if the
number of that byte is no word. -/
def Registers.charAt? (registers : Registers) (offset : Nat) : Option Char :=
  (word? offsetLimit (registers.place.offset + offset)).map
    (Text.charAtByte (String.ofList registers.source).toUTF8)

section

variable {cursor : Cursor} {offset : Nat} {found : Char}

theorem peek?_of_lt (h : cursor.place.offset + offset < offsetLimit) :
    cursor.peek? offset = some (((Text.splitAtByte? (cursor.place.offset + offset)
      cursor.source).map fun (_, after) => after.headD '\x00').getD '\x00') :=
  if_pos h

theorem peek?_eq_none_iff :
    cursor.peek? offset = none ↔ offsetLimit ≤ cursor.place.offset + offset := by
  by_cases h : cursor.place.offset + offset < offsetLimit
  · simp [peek?_of_lt h, h]
  · exact ⟨fun _ => Nat.le_of_not_lt h, fun _ => if_neg h⟩

theorem peek?_eq_some_iff :
    cursor.peek? offset = some found ↔ cursor.place.offset + offset < offsetLimit ∧
      Text.StandsAt cursor.source (cursor.place.offset + offset) found := by
  have hstands := Text.standsAt_splitAtByte? cursor.source (cursor.place.offset + offset)
  by_cases h : cursor.place.offset + offset < offsetLimit
  · rw [peek?_of_lt h, Option.some_inj]
    exact ⟨fun heq => ⟨h, heq ▸ hstands⟩, fun ⟨_, hfound⟩ => hstands.unique hfound⟩
  · rw [peek?_eq_none_iff.2 (Nat.le_of_not_lt h)]
    exact iff_of_false (Option.some_ne_none found).symm fun hboth => h hboth.1

/-- Looked up in bytes, the character ahead is the same. -/
theorem charAt?_registers (cursor : Cursor) (offset : Nat) :
    cursor.registers.charAt? offset = cursor.peek? offset := by
  have hstands := Text.standsAt_splitAtByte? cursor.source (cursor.place.offset + offset)
  rw [Registers.charAt?, place_registers]
  by_cases h : cursor.place.offset + offset < offsetLimit
  · rw [word?_of_lt h, peek?_of_lt h, Option.map_some, String.toUTF8_eq_toByteArray,
      String.toByteArray_ofList, Text.charAtByte_eq_decode]
    exact congrArg some hstands.decode
  · rw [peek?_eq_none_iff.2 (Nat.le_of_not_lt h), word?, if_neg h, Option.map_none]

/-- With no offset the next character is found. -/
theorem Sound.peek?_zero (h : cursor.Sound) (hword : cursor.place.offset < offsetLimit) :
    cursor.peek? 0 = some cursor.current := by
  rw [peek?_of_lt hword, Nat.add_zero, h.splitAtByte?_offset]
  rfl

end

theorem Session.handle_peek (session : Session) (offset : Nat) :
    session.handle (.peek offset) =
      (session.cursor.peek? offset).map fun c => (.char c, session) := rfl

/-- **Peeking finds what stands there**, whatever was asked of the cursor before: the
character that starts `offset` bytes after its place, and the null character inside a
character and behind the source.  It breaks off only where the number of the byte is no
word.  Looked up in bytes the answer is the same.  With no offset that is the next
character: the first one of what is left, or the null character if nothing is left. -/
theorem peek_finds_what_stands_there (rule : LineRule) (source : List Char)
    (requests : List Request) (session : Session)
    (h : (Session.start rule source).after requests = some session) :
    let cursor := session.cursor
    (∀ offset found, cursor.peek? offset = some found ↔
        cursor.place.offset + offset < offsetLimit ∧
          Text.StandsAt source (cursor.place.offset + offset) found) ∧
      (∀ offset found, cursor.peek? offset = some found →
        session.handle (.peek offset) = some (.char found, session)) ∧
      (∀ offset, session.handle (.peek offset) = none ↔
        offsetLimit ≤ cursor.place.offset + offset) ∧
      (∀ offset, cursor.registers.charAt? offset = cursor.peek? offset) ∧
      (∃ before, source = before ++ cursor.rest ∧
        Text.byteLength before = cursor.place.offset) ∧
      cursor.current = cursor.rest.headD '\x00' ∧
      (cursor.place.offset < offsetLimit →
        cursor.registers.charAt? 0 = some cursor.current) := by
  intro cursor
  obtain ⟨hsound, hsource⟩ : cursor.Sound ∧ cursor.source = source :=
    Session.sound_cursor_of_after h
  refine ⟨fun offset found => hsource ▸ peek?_eq_some_iff, fun offset found hfound => ?_,
    fun offset => Option.map_eq_none_iff.trans peek?_eq_none_iff, cursor.charAt?_registers,
    ⟨cursor.consumed, ?_, hsound.offset_eq.symm⟩, rfl, fun hword => ?_⟩
  · rw [Session.handle_peek, hfound, Option.map_some]
  · rw [← hsource]
    exact hsound.source_eq
  · rw [charAt?_registers]
    exact hsound.peek?_zero hword

/-- One byte behind the place of a cursor, inside the next character. -/
theorem peek_finds_what_stands_there_inside :
    let session : Session := { cursor := ⟨.newline, ['a', 'é'], ['é'], ⟨1, 1, 2⟩⟩ }
    (Session.start .newline ['a', 'é']).after [.advance] = some session ∧
      session.handle (.peek 1) = some (.char '\x00', session) := by
  intro session
  have hafter : (Session.start .newline ['a', 'é']).after [.advance] = some session := rfl
  have hpeek := peek_finds_what_stands_there .newline ['a', 'é'] [.advance] session hafter
  have hinside : Text.StandsAt ['a', 'é'] 2 '\x00' :=
    .inside (show ['a', 'é'] = ['a'] ++ 'é' :: [] from rfl) (by decide) (by decide)
  exact ⟨hafter, hpeek.2.1 1 '\x00' ((hpeek.1 1 '\x00').2 ⟨by decide, hinside⟩)⟩

/-- By the largest offset a cursor that has moved does not peek but breaks off, though it is
the null character that stands there, as it does anywhere behind the source. -/
theorem peek_breaks_off_past_last_word :
    let session : Session := { cursor := ⟨.newline, ['a'], [], ⟨1, 1, 2⟩⟩ }
    (Session.start .newline ['a']).after [.advance] = some session ∧
      18446744073709551615 < offsetLimit ∧
      Text.StandsAt ['a'] (session.cursor.place.offset + 18446744073709551615) '\x00' ∧
      session.handle (.peek 18446744073709551615) = none ∧
      session.cursor.registers.charAt? 18446744073709551615 = none ∧
      (Session.start .newline ['a']).after [.advance, .peek 18446744073709551615] = none := by
  intro session
  have hafter : (Session.start .newline ['a']).after [.advance] = some session := rfl
  have hnone : session.cursor.peek? 18446744073709551615 = none :=
    peek?_eq_none_iff.2 (by decide)
  have hhandle : session.handle (.peek 18446744073709551615) = none := by
    rw [Session.handle_peek, hnone, Option.map_none]
  refine ⟨hafter, by decide, .behind (by decide), hhandle, ?_, ?_⟩
  · rw [charAt?_registers, hnone]
  · exact Session.after_eq_none hafter hhandle []

end Cursor

end ScriptScan
