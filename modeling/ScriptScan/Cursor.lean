import ScriptScan.Place
import ScriptScan.Span

/-!
# ScriptScan.Cursor

A reading position in a source.  A cursor holds the text that is left to read
together with the place where that text starts, so every movement is an
operation on a list.

* `Cursor.eatWhile` takes the longest run of characters that satisfy a test:
  `takeWhile` is what it passes over and `dropWhile` what it leaves;
* `Cursor.peek?` looks at a byte offset ahead without moving;
* `Cursor.lexeme?` cuts out the text between an earlier place and the cursor.
-/

namespace ScriptScan

/-- A reading position in `source`: the text `rest` is still to be read and
starts at `place`. -/
structure Cursor where
  rule : LineRule
  source : List Char
  rest : List Char
  place : Place
  deriving DecidableEq

namespace Cursor

/-- The cursor at the start of a source. -/
def start (rule : LineRule) (source : List Char) : Cursor :=
  { rule, source, rest := source, place := {} }

/-! ## looking -/

/-- Whether nothing is left to read. -/
def atEnd (cursor : Cursor) : Bool := cursor.rest.isEmpty

/-- The next character, or the null character at the end. -/
def current (cursor : Cursor) : Char := cursor.rest.headD '\x00'

/-- The character that starts `offset` bytes after the cursor, or the null
character if none starts there.  There is no answer for a byte whose offset in
the source is no word of 64 bits. -/
def peek? (cursor : Cursor) (offset : Nat) : Option Char :=
  let target := cursor.place.offset + offset
  if target < offsetLimit then
    some (((Text.splitAtByte? target cursor.source).map fun (_, after) => after.headD '\x00').getD
      '\x00')
  else
    none

/-! ## moving -/

/-- Passes over one character.  At the end nothing happens. -/
def advance (cursor : Cursor) : Cursor :=
  match cursor.rest with
  | [] => cursor
  | c :: cs => { cursor with rest := cs, place := cursor.place.next c }

/-- Passes over one character that separates tokens, counting lines by the
cursor's rule. -/
def advanceSeparator (cursor : Cursor) : Cursor :=
  match cursor.rest with
  | [] => cursor
  | c :: cs => { cursor with rest := cs, place := cursor.place.nextSeparator cursor.rule c }

/-- Passes over the longest run of characters that satisfy a test. -/
def eatWhile (test : Char → Bool) (cursor : Cursor) : Cursor :=
  { cursor with
    rest := cursor.rest.dropWhile test
    place := cursor.place.past (cursor.rest.takeWhile test) }

/-- Passes over the next character if it is the expected one, and tells whether
it was. -/
def eat (expected : Char) (cursor : Cursor) : Bool × Cursor :=
  if cursor.rest.head? = some expected then (true, cursor.advance) else (false, cursor)

/-! ## cutting out what was read -/

/-- The part of the source before the cursor. -/
def consumed (cursor : Cursor) : List Char :=
  cursor.source.take (cursor.source.length - cursor.rest.length)

/-- The source text from a byte offset to the cursor.  There is none if the
offset lies after the cursor or inside a character. -/
def sliceFrom? (cursor : Cursor) (start : Nat) : Option (List Char) :=
  (Text.splitAtByte? start cursor.consumed).map (·.2)

/-- The source text from a place to the cursor. -/
def lexeme? (cursor : Cursor) (mark : Place) : Option (List Char) :=
  cursor.sliceFrom? mark.offset

/-- The span from a place to the cursor, located at that place. -/
def spanFrom (cursor : Cursor) (mark : Place) : Span :=
  ⟨mark.offset, cursor.place.offset, mark.line, mark.column⟩

/-! ## what is left -/

@[simp] theorem rest_advance (cursor : Cursor) : cursor.advance.rest = cursor.rest.tail := by
  unfold advance; split <;> simp_all

@[simp] theorem rest_advanceSeparator (cursor : Cursor) :
    cursor.advanceSeparator.rest = cursor.rest.tail := by
  unfold advanceSeparator; split <;> simp_all

/-- What `eatWhile` passes over and what it leaves make up what there was. -/
theorem takeWhile_append_rest_eatWhile (test : Char → Bool) (cursor : Cursor) :
    cursor.rest.takeWhile test ++ (cursor.eatWhile test).rest = cursor.rest :=
  List.takeWhile_append_dropWhile

theorem length_rest_advance (cursor : Cursor) :
    cursor.advance.rest.length = cursor.rest.length - 1 := by
  rw [rest_advance, List.length_tail]

theorem length_rest_eatWhile_le (test : Char → Bool) (cursor : Cursor) :
    (cursor.eatWhile test).rest.length ≤ cursor.rest.length :=
  (List.dropWhile_sublist test).length_le

theorem length_rest_eat_le (expected : Char) (cursor : Cursor) :
    (cursor.eat expected).2.rest.length ≤ cursor.rest.length := by
  unfold eat; split
  · rw [length_rest_advance]; exact Nat.sub_le _ _
  · exact Nat.le_refl _

/-- A test that holds of the next character makes `eatWhile` move. -/
theorem length_rest_eatWhile_lt (test : Char → Bool) {cursor : Cursor} {c : Char}
    {cs : List Char} (hrest : cursor.rest = c :: cs) (hc : test c = true) :
    (cursor.eatWhile test).rest.length < cursor.rest.length := by
  have : ((c :: cs).dropWhile test).length ≤ cs.length := by
    simpa [List.dropWhile_cons, hc] using (List.dropWhile_sublist test (l := cs)).length_le
  simp only [eatWhile, hrest, List.length_cons]
  omega

end Cursor

end ScriptScan
