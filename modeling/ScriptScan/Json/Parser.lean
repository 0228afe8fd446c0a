import ScriptScan.Json.Number
import ScriptScan.Text.CodePoint

/-!
# ScriptScan.Json.Parser

Reading JSON text.  Values nest up to a fixed depth, so that the depth of the
recursion is bounded whatever the text is.
-/

namespace ScriptScan

namespace Json

namespace Parser

/-- A blank between the parts of a JSON text. -/
def isBlank (c : Char) : Bool := c == ' ' || c == '\n' || c == '\r' || c == '\t'

/-- A reader that also takes the blanks behind its find. -/
def part {α : Type} (reader : Reader α) : Reader α := reader.skipping isBlank

/-- A mark of the JSON grammar and the blanks behind it. -/
def mark (c : Char) : Reader Char := part (.only c)

/-! ## strings -/

/-- The character that a letter after a backslash stands for. -/
def escaped? : Char → Option Char
  | '"' => some '"'
  | '\\' => some '\\'
  | '/' => some '/'
  | 'b' => some '\x08'
  | 'f' => some '\x0c'
  | 'n' => some '\n'
  | 'r' => some '\r'
  | 't' => some '\t'
  | _ => none

/-- A code unit of four hexadecimal digits. -/
def codeUnit : Reader Nat := (Reader.only 'u').after (Text.hexNumber 4)

/-- A character beyond the range of one code unit, written as two of them. -/
def surrogatePair : Reader Char :=
  codeUnit.bind fun high =>
    ((Reader.only '\\').after codeUnit).filterMap fun low =>
      if 0xD800 ≤ high ∧ high ≤ 0xDBFF ∧ 0xDC00 ≤ low ∧ low ≤ 0xDFFF then
        Text.ofCodePoint? (0x10000 + (high - 0xD800) * 0x400 + (low - 0xDC00))
      else
        none

/-- What may stand after a backslash. -/
def escape : Reader Char :=
  ((Reader.char fun _ => true).filterMap escaped?).orElse
    ((codeUnit.filterMap Text.ofCodePoint?).orElse surrogatePair)

/-- One character of a string. -/
def stringChar : Reader Char :=
  (Reader.char fun c => c != '"' && c != '\\' && ' ' ≤ c).orElse
    ((Reader.only '\\').after escape)

/-- A string between quotes. -/
def string : Reader String :=
  ((Reader.only '"').followedByMany stringChar |>.followedBy (.only '"')).map fun (_, chars) =>
    String.ofList chars

/-! ## numbers -/

/-- The value of a decimal digit. -/
def digitValue (c : Char) : Nat := c.toNat - '0'.toNat

/-- A run of decimal digits. -/
def digits : Reader (List Nat) := (Reader.run Char.isDigit).map (·.map digitValue)

/-- Digits of which the first is zero only if it is the only one. -/
def wholeDigits : Reader (List Nat) :=
  digits.filterMap fun ds => if ds.head? = some 0 ∧ 1 < ds.length then none else some ds

/-- Digits after a point. -/
def fraction : Reader (List Nat) := (Reader.only '.').after digits

/-- A power of ten, with or without a sign. -/
def exponent : Reader Int :=
  (Reader.char fun c => c == 'e' || c == 'E').after
    ((((Reader.only '-').after digits).map fun ds => -(Text.ofDigits 10 ds : Int)).orElse
      ((((Reader.only '+').after digits).orElse digits).map fun ds => (Text.ofDigits 10 ds : Int)))

/-- A number without its sign. -/
def unsigned : Reader Numeral :=
  ((wholeDigits.followedByOptional fraction).followedByOptional exponent).map
    fun ((whole, fraction), exponent) => { negative := false, whole, fraction, exponent }

/-- A number. -/
def number : Reader Json :=
  (((Reader.only '-').after (unsigned.map ({ · with negative := true }))).orElse
    unsigned).filterMap Numeral.value?

/-! ## values -/

/-- A value that holds no others. -/
def simple : Reader Json :=
  ((Reader.exactly "null".toList).map fun _ => Json.null)
    |>.orElse ((Reader.exactly "true".toList).map fun _ => Json.bool true)
    |>.orElse ((Reader.exactly "false".toList).map fun _ => Json.bool false)
    |>.orElse (string.map .str)
    |>.orElse number

/-- An array of values that the given reader finds. -/
def array (value : Reader Json) : Reader Json :=
  (((mark '[').after (.only ']')).map fun _ => Json.arr []).orElse
    (((mark '[').after (value.separated (mark ','))).followedBy (.only ']') |>.map .arr)

/-- A name and a value. -/
def field (value : Reader Json) : Reader (String × Json) :=
  (part string).bind fun name => (mark ':').after (value.map fun v => (name, v))

/-- An object of values that the given reader finds.  The last of several fields
of one name counts. -/
def object (value : Reader Json) : Reader Json :=
  (((mark '\x7b').after (.only '\x7d')).map fun _ => Json.obj []).orElse
    (((mark '\x7b').after ((field value).separated (mark ','))).followedBy (.only '\x7d')
      |>.map fun fields => .obj (fields.foldl (fun acc (name, v) => putField acc name v) []))

/-- A value with at most so many values around its innermost part, and the blanks
behind it. -/
def value : Nat → Reader Json
  | 0 => part simple
  | depth + 1 => part (simple.orElse ((array (value depth)).orElse (object (value depth))))

end Parser

/-- How deep arrays and objects may nest. -/
def maxDepth : Nat := 128

/-- Reads a JSON text. -/
def parse? (text : String) : Option Json :=
  ((Parser.value maxDepth).behind Parser.isBlank).whole? text.toList

end Json

end ScriptScan
