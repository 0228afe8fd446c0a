/-!
# ScriptScan.Reader

Readers for text formats.  A reader takes something from the front of a text and
hands back what is left, with the proof that it is shorter; so a reader can be
repeated without a bound on the number of rounds.

* `Reader.many` — as many finds in a row as there are;
* `Reader.separated` — finds with separators between them;
* `Reader.bind`, `Reader.after` — one reader behind another;
* `Reader.whole?` — what a reader makes of a text as a whole.
-/

namespace ScriptScan

/-- What a reader took from the front of a text: a value, and the rest of the
text, which is shorter. -/
structure Found (α : Type) (text : List Char) where
  value : α
  rest : List Char
  shorter : rest.length < text.length

namespace Found

variable {α β : Type} {text inner outer : List Char}

/-- The find with another value. -/
def map (f : α → β) (found : Found α text) : Found β text :=
  { found with value := f found.value }

/-- A find in the end of a text is one in the whole text. -/
def widen (h : inner.length ≤ outer.length) (found : Found α inner) : Found α outer :=
  { found with shorter := Nat.lt_of_lt_of_le found.shorter h }

/-- The find with the characters that satisfy a test dropped from the rest. -/
def dropAfter (test : Char → Bool) (found : Found α text) : Found α text where
  value := found.value
  rest := found.rest.dropWhile test
  shorter := Nat.lt_of_le_of_lt (List.dropWhile_sublist test).length_le found.shorter

end Found

/-- What is left of a text, which may be all of it. -/
abbrev Remainder (text : List Char) := { rest : List Char // rest.length ≤ text.length }

/-- A reader takes something from the front of a text or refuses the text. -/
abbrev Reader (α : Type) := (text : List Char) → Option (Found α text)

namespace Reader

variable {α β : Type}

/-- One character that satisfies a test. -/
def char (test : Char → Bool) : Reader Char
  | [] => none
  | c :: cs => if test c then some ⟨c, cs, Nat.lt_succ_self _⟩ else none

/-- One given character. -/
def only (expected : Char) : Reader Char := char (· == expected)

/-- The longest run of characters that satisfy a test, at least one. -/
def run (test : Char → Bool) : Reader (List Char)
  | [] => none
  | c :: cs =>
    if test c then
      some ⟨c :: cs.takeWhile test, cs.dropWhile test,
        Nat.lt_succ_of_le (List.dropWhile_sublist test).length_le⟩
    else
      none

/-- The find with another value. -/
def map (f : α → β) (reader : Reader α) : Reader β := fun text =>
  (reader text).map (·.map f)

/-- The find if its value is acceptable, with the value that is made of it. -/
def filterMap (f : α → Option β) (reader : Reader α) : Reader β := fun text =>
  (reader text).bind fun found => (f found.value).map fun value => found.map fun _ => value

/-- A second reader, chosen by what the first one found, on what that one left. -/
def bind (first : Reader α) (second : α → Reader β) : Reader β := fun text =>
  (first text).bind fun found =>
    (second found.value found.rest).map (·.widen (Nat.le_of_lt found.shorter))

/-- The find of the second reader, after the first one. -/
def after (first : Reader α) (second : Reader β) : Reader β := first.bind fun _ => second

/-- The find of the first reader, with the second one after it. -/
def followedBy (first : Reader α) (second : Reader β) : Reader α :=
  first.bind fun value => second.map fun _ => value

/-- The first reader, or the second where the first refuses. -/
def orElse (first second : Reader α) : Reader α := fun text =>
  match first text with
  | some found => some found
  | none => second text

/-- The find, with the blanks after it dropped. -/
def skipping (blank : Char → Bool) (reader : Reader α) : Reader α := fun text =>
  (reader text).map (·.dropAfter blank)

/-- The find behind leading blanks. -/
def behind (blank : Char → Bool) (reader : Reader α) : Reader α := fun text =>
  (reader (text.dropWhile blank)).map (·.widen (List.dropWhile_sublist blank).length_le)

/-- As many finds in a row as there are, and what is left behind them. -/
def many (reader : Reader α) (text : List Char) : List α × Remainder text :=
  match reader text with
  | none => ([], ⟨text, Nat.le_refl _⟩)
  | some ⟨value, rest, shorter⟩ =>
    let (values, ⟨last, hlast⟩) := many reader rest
    (value :: values, ⟨last, Nat.le_trans hlast (Nat.le_of_lt shorter)⟩)
termination_by text.length

/-- A first find and then as many others as there are. -/
def followedByMany (first : Reader α) (others : Reader β) : Reader (α × List β) := fun text =>
  (first text).map fun found =>
    let (values, ⟨rest, hrest⟩) := many others found.rest
    ⟨(found.value, values), rest, Nat.lt_of_le_of_lt hrest found.shorter⟩

/-- The find, with a second one behind it if there is one. -/
def followedByOptional (first : Reader α) (second : Reader β) : Reader (α × Option β) :=
  fun text =>
    (first text).map fun found =>
      match second found.rest with
      | some next => (next.widen (Nat.le_of_lt found.shorter)).map fun value =>
          (found.value, some value)
      | none => found.map fun value => (value, none)

/-- One or more finds with separators between them. -/
def separated (reader : Reader α) (separator : Reader β) : Reader (List α) :=
  (reader.followedByMany (separator.after reader)).map fun (first, others) => first :: others

/-- The find, with all that a second reader finds behind it dropped. -/
def trailedBy (reader : Reader α) (filler : Reader β) : Reader α :=
  (reader.followedByMany filler).map (·.1)

/-- The find, if what is behind it can be ended as asked. -/
def ended (reader : Reader α) (ending : (text : List Char) → Option (Remainder text)) :
    Reader α := fun text =>
  (reader text).bind fun found =>
    (ending found.rest).map fun ⟨rest, hrest⟩ =>
      ⟨found.value, rest, Nat.lt_of_le_of_lt hrest found.shorter⟩

/-- A given number of finds in a row, at least one. -/
def times (reader : Reader α) : Nat → Reader (List α)
  | 0 => fun _ => none
  | 1 => reader.map fun value => [value]
  | n + 1 => reader.bind fun value => (times reader n).map (value :: ·)

/-- A fixed text. -/
def exactly : List Char → Reader Unit
  | [] => fun _ => none
  | [c] => (only c).map fun _ => ()
  | c :: cs => (only c).after (exactly cs)

/-- What a reader finds in a text if nothing is left behind the find. -/
def whole? (reader : Reader α) (text : List Char) : Option α :=
  (reader text).bind fun found => if found.rest.isEmpty then some found.value else none

end Reader

end ScriptScan
