import ScriptScan.LineRule
import ScriptScan.Text

/-!
# ScriptScan.Place

A place between two characters of a source, and how it moves when a text is
passed over.

* `Place.offset_past` — passing over a text adds its bytes to the offset;
* `Place.line_past` — and its line feeds to the line.

Lines and columns are natural numbers.  `Place.line_add_column_next_le` bounds
their growth: each character passed adds at most one to their sum.
-/

namespace ScriptScan

/-- A place in a source: the bytes before it, and the line and column of the
character after it, both counted from 1. -/
structure Place where
  offset : Nat := 0
  line : Nat := 1
  column : Nat := 1
  deriving DecidableEq

namespace Place

/-- The start of the next line, at the same offset. -/
def newLine (place : Place) : Place :=
  { place with line := place.line + 1, column := 1 }

/-- The place after a character.  A line feed starts a new line. -/
def next (place : Place) (c : Char) : Place :=
  let moved := { place with offset := place.offset + c.utf8Size }
  if c = '\n' then moved.newLine else { moved with column := moved.column + 1 }

/-- The place after a character between tokens, where the line rule has a say. -/
def nextSeparator (rule : LineRule) (place : Place) (c : Char) : Place :=
  if c ≠ '\n' ∧ rule.endsLine c then (place.next c).newLine else place.next c

/-- The place after a text. -/
def past (place : Place) (text : List Char) : Place := text.foldl next place

@[simp] theorem past_nil (place : Place) : place.past [] = place := rfl

@[simp] theorem past_cons (place : Place) (c : Char) (cs : List Char) :
    place.past (c :: cs) = (place.next c).past cs := rfl

@[simp] theorem past_append (place : Place) (xs ys : List Char) :
    place.past (xs ++ ys) = (place.past xs).past ys := by
  simp [past]

@[simp] theorem offset_newLine (place : Place) : place.newLine.offset = place.offset := rfl

@[simp] theorem offset_next (place : Place) (c : Char) :
    (place.next c).offset = place.offset + c.utf8Size := by
  unfold next; split <;> rfl

@[simp] theorem offset_nextSeparator (rule : LineRule) (place : Place) (c : Char) :
    (place.nextSeparator rule c).offset = place.offset + c.utf8Size := by
  unfold nextSeparator; split <;> simp

/-- Passing over a text adds its bytes to the offset. -/
@[simp] theorem offset_past (place : Place) (text : List Char) :
    (place.past text).offset = place.offset + Text.byteLength text := by
  induction text generalizing place with
  | nil => rfl
  | cons c cs ih => simp [ih, Nat.add_assoc]

/-- Passing over a character adds one to the line if it is a line feed. -/
theorem line_next (place : Place) (c : Char) :
    (place.next c).line = place.line + if c = '\n' then 1 else 0 := by
  unfold next; split <;> rfl

/-- Passing over a text adds its line feeds to the line. -/
theorem line_past (place : Place) (text : List Char) :
    (place.past text).line = place.line + text.count '\n' := by
  induction text generalizing place with
  | nil => rfl
  | cons c cs ih =>
    rw [past_cons, ih, line_next, List.count_cons]
    by_cases h : c = '\n' <;> simp [h, Nat.add_comm, Nat.add_left_comm]

/-- A character adds at most one to the sum of line and column. -/
theorem line_add_column_next_le {place : Place} (h : 1 ≤ place.column) (c : Char) :
    (place.next c).line + (place.next c).column ≤ place.line + place.column + 1 := by
  unfold next newLine; split <;> simp <;> omega

end Place

end ScriptScan
