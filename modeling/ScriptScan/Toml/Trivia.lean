import ScriptScan.Reader

/-!
# ScriptScan.Toml.Trivia

Blanks, comments and line ends.
-/

namespace ScriptScan.Toml

/-- Blanks within a line. -/
def isBlank (c : Char) : Bool := c == ' ' || c == '\t'

/-- Whether a character lies outside ASCII. -/
def isWide (c : Char) : Bool := '\x80' ≤ c

/-- What may stand in a comment: anything but control characters. -/
def isCommentChar (c : Char) : Bool := c == '\t' || (' ' ≤ c && c ≤ '~') || isWide c

/-- A line end: a line feed, with or without a carriage return before it. -/
def newline : Reader Unit := (Reader.exactly ['\n']).orElse (Reader.exactly ['\r', '\n'])

/-- A comment up to the end of its line. -/
def comment : Reader Unit := ((Reader.only '#').skipping isCommentChar).map fun _ => ()

/-- What may stand between the parts of an array. -/
def filler : Reader Unit :=
  ((Reader.run isBlank).map fun _ => ()) |>.orElse newline |>.orElse (comment.followedBy newline)

/-- The end of a line, which may be the end of the text. -/
def lineEnd (text : List Char) : Option (Remainder text) :=
  match text, newline text with
  | _, some found => some ⟨found.rest, Nat.le_of_lt found.shorter⟩
  | [], none => some ⟨[], Nat.le_refl _⟩
  | _ :: _, none => none

/-- The end of a line, behind blanks and a comment. -/
def trailer (text : List Char) : Option (Remainder text) :=
  let (_, ⟨inner, hinner⟩) := (((Reader.run isBlank).map fun _ => ()).orElse comment).many text
  (lineEnd inner).map fun ⟨rest, hrest⟩ => ⟨rest, Nat.le_trans hrest hinner⟩

end ScriptScan.Toml
