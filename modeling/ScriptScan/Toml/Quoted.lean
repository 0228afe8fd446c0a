import ScriptScan.Text.CodePoint
import ScriptScan.Toml.Trivia

/-!
# ScriptScan.Toml.Quoted

Strings: basic ones, in double quotes, with escapes, and literal ones, in single
quotes, without; either on one line or, with three quotes at each end, over
several.
-/

namespace ScriptScan.Toml

/-- What a basic string holds without an escape. -/
def isBasicChar (c : Char) : Bool :=
  c == '\t' || (' ' ≤ c && c ≤ '~' && c != '"' && c != '\\') || isWide c

/-- What a literal string holds. -/
def isLiteralChar (c : Char) : Bool :=
  c == '\t' || (' ' ≤ c && c ≤ '~' && c != '\'') || isWide c

/-- The character that a letter after a backslash stands for. -/
def escaped? : Char → Option Char
  | 'b' => some '\x08'
  | 't' => some '\t'
  | 'n' => some '\n'
  | 'f' => some '\x0c'
  | 'r' => some '\r'
  | '"' => some '"'
  | '\\' => some '\\'
  | _ => none

/-- A character given by its code point. -/
def codePoint : Reader Char :=
  (((Reader.only 'u').after (Text.hexNumber 4)).orElse
    ((Reader.only 'U').after (Text.hexNumber 8))).filterMap Text.ofCodePoint?

/-- A backslash and what it escapes. -/
def escape : Reader Char :=
  (Reader.only '\\').after (((Reader.char fun _ => true).filterMap escaped?).orElse codePoint)

/-- A basic string on one line. -/
def basicString : Reader String :=
  ((Reader.only '"').followedByMany ((Reader.char isBasicChar).orElse escape)
    |>.followedBy (.only '"')).map fun (_, chars) => String.ofList chars

/-- A literal string on one line. -/
def literalString : Reader String :=
  ((Reader.only '\'').followedByMany (Reader.char isLiteralChar)
    |>.followedBy (.only '\'')).map fun (_, chars) => String.ofList chars

/-- Three quotes and the line end right behind them, which is not part of the
string. -/
def opening (quote : Char) : Reader Unit :=
  ((Reader.exactly [quote, quote, quote]).followedByOptional newline).map fun _ => ()

/-- One or two quotes inside a string over several lines. -/
def innerQuotes (quote : Char) : Reader (List Char) :=
  (Reader.run (· == quote)).filterMap fun quotes =>
    if quotes.length ≤ 2 then some quotes else none

/-- The quotes that end a string over several lines.  Of three to five quotes the
last three end it, and the others belong to it. -/
def closing (quote : Char) : Reader (List Char) :=
  (Reader.run (· == quote)).filterMap fun quotes =>
    if 3 ≤ quotes.length ∧ quotes.length ≤ 5 then some (quotes.drop 3) else none

/-- A line end that is joined with the next line: a backslash, and all blanks and
line ends behind it. -/
def joinedLine : Reader (List Char) :=
  (((Reader.only '\\').skipping isBlank).followedBy newline
    |>.trailedBy (((Reader.run isBlank).map fun _ => ()).orElse newline)).map fun _ => []

/-- A string over several lines, made of given pieces. -/
def multiline (quote : Char) (piece : Reader (List Char)) : Reader String :=
  ((opening quote).followedByMany
      (piece.orElse ((newline.map fun _ => ['\n']).orElse (innerQuotes quote)))).bind
    fun (_, pieces) => (closing quote).map fun quotes => String.ofList (pieces.flatten ++ quotes)

/-- A basic string over several lines. -/
def multilineBasic : Reader String :=
  multiline '"' (((Reader.char isBasicChar).orElse escape |>.map ([·])).orElse joinedLine)

/-- A literal string over several lines. -/
def multilineLiteral : Reader String :=
  multiline '\'' ((Reader.char isLiteralChar).map ([·]))

/-- Any string. -/
def string : Reader String :=
  multilineBasic |>.orElse basicString |>.orElse multilineLiteral |>.orElse literalString

end ScriptScan.Toml
