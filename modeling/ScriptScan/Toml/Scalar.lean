import ScriptScan.Text.CodePoint
import ScriptScan.Toml.Trivia

/-!
# ScriptScan.Toml.Scalar

Numbers, truth values, dates and times.  They are checked and not kept.
-/

namespace ScriptScan.Toml

/-! ## digits -/

/-- The value of a digit; hexadecimal digits have one, too. -/
def digitValue (c : Char) : Nat := (Text.hexDigit? c).getD 0

/-- Whether a character is a digit in a base up to sixteen. -/
def isDigitOf (base : Nat) (c : Char) : Bool :=
  match Text.hexDigit? c with
  | some value => value < base
  | none => false

/-- Digits in a base, with single underscores between them where one likes. -/
def digitGroup (base : Nat) : Reader (List Nat) :=
  let digit := (Reader.char (isDigitOf base)).map digitValue
  (digit.followedByMany (digit.orElse ((Reader.only '_').after digit))).map
    fun (first, others) => first :: others

/-- A reader behind an optional sign; the value tells whether it is a minus. -/
def signed {α : Type} (reader : Reader α) : Reader (Bool × α) :=
  (((Reader.only '-').after reader).map ((true, ·))).orElse
    ((((Reader.only '+').after reader).orElse reader).map ((false, ·)))

/-- The whole part of a decimal number: it starts with zero only if it is zero. -/
def wholePart : Reader (List Nat) :=
  ((Reader.only '0').map fun _ => [0]).orElse (digitGroup 10)

/-! ## integers -/

/-- The size of the largest negative integer: integers are signed words of 64 bits. -/
def integerLimit : Nat := Nat.pow 2 63

/-- A decimal integer that fits a signed word of 64 bits. -/
def decimalInteger : Reader Unit :=
  (signed wholePart).filterMap fun (negative, digits) =>
    let n := Text.ofDigits 10 digits
    if n < integerLimit ∨ (negative ∧ n = integerLimit) then some () else none

/-- An integer in another base, which a letter after a zero names. -/
def basedInteger (letter : Char) (base : Nat) : Reader Unit :=
  ((Reader.exactly ['0', letter]).after (digitGroup base)).filterMap fun digits =>
    if Text.ofDigits base digits < integerLimit then some () else none

/-- An integer. -/
def integer : Reader Unit :=
  (basedInteger 'x' 16) |>.orElse (basedInteger 'o' 8) |>.orElse (basedInteger 'b' 2)
    |>.orElse decimalInteger

/-! ## floats -/

/-- The least number that is too large for a double when it is rounded. -/
def doubleLimit : Nat := Nat.pow 2 1024 - Nat.pow 2 970

/-- Whether `digits · 10 ^ tens` is too large for a double. -/
def overflows (digits : List Nat) (tens : Int) : Bool :=
  let significant := digits.dropWhile (· == 0)
  let size := significant.length + tens
  if significant.isEmpty ∨ size ≤ 300 then false
  else if 310 < size then true
  else
    let n := Text.ofDigits 10 significant
    if 0 ≤ tens then doubleLimit ≤ n * Nat.pow 10 tens.toNat
    else doubleLimit * Nat.pow 10 tens.natAbs ≤ n

/-- The exponent of a float. -/
def exponent : Reader Int :=
  (Reader.char fun c => c == 'e' || c == 'E').after
    ((signed (digitGroup 10)).map fun (negative, digits) =>
      let n : Int := Text.ofDigits 10 digits
      if negative then -n else n)

/-- The fraction and the exponent of a float, of which one may be missing. -/
def floatTail : Reader (List Nat × Int) :=
  ((((Reader.only '.').after (digitGroup 10)).followedByOptional exponent).map
      fun (fraction, exponent) => (fraction, exponent.getD 0)).orElse
    (exponent.map ([], ·))

/-- A float in digits.  A positive one must not be too large for a double. -/
def decimalFloat : Reader Unit :=
  (signed (wholePart.bind fun whole => floatTail.map fun tail => (whole, tail))).filterMap
    fun (negative, whole, fraction, exponent) =>
      if !negative && overflows (whole ++ fraction) (exponent - fraction.length) then none
      else some ()

/-- An infinity or a value that is no number. -/
def specialFloat : Reader Unit :=
  (signed ((Reader.exactly "inf".toList).orElse (Reader.exactly "nan".toList))).map fun _ => ()

/-! ## dates and times -/

/-- A number of exactly so many digits, within bounds. -/
def field (count least most : Nat) : Reader Nat :=
  ((Reader.char (isDigitOf 10)).times count).filterMap fun digits =>
    let n := Text.ofDigits 10 (digits.map digitValue)
    if least ≤ n ∧ n ≤ most then some n else none

/-- The number of days of a month. -/
def daysIn (year month : Nat) : Nat :=
  if month = 2 then
    if year % 4 = 0 ∧ (year % 100 ≠ 0 ∨ year % 400 = 0) then 29 else 28
  else if month = 4 ∨ month = 6 ∨ month = 9 ∨ month = 11 then 30
  else 31

/-- A date of the calendar. -/
def date : Reader Unit :=
  ((field 4 0 9999).followedBy (.only '-')).bind fun year =>
    ((field 2 1 12).followedBy (.only '-')).bind fun month =>
      (field 2 1 (daysIn year month)).map fun _ => ()

/-- A time of day, with or without a fraction of a second. -/
def time : Reader Unit :=
  ((((field 2 0 23).after (.only ':')).after (field 2 0 59)).after (.only ':')
    |>.after (field 2 0 60)
    |>.followedByOptional ((Reader.only '.').after (.run (isDigitOf 10)))).map fun _ => ()

/-- The offset of a time from universal time. -/
def offset : Reader Unit :=
  ((Reader.char fun c => c == 'Z' || c == 'z').map fun _ => ()).orElse
    ((((Reader.char fun c => c == '+' || c == '-').after (field 2 0 23)).after (.only ':')
      |>.after (field 2 0 59)).map fun _ => ())

/-- A date, a time, or both. -/
def dateTime : Reader Unit :=
  let timeOfDate := (Reader.char fun c => c == 'T' || c == 't' || c == ' ').after
    (time.followedByOptional offset)
  ((date.followedByOptional timeOfDate).map fun _ => ()).orElse time

/-! ## any of them -/

/-- A truth value. -/
def boolean : Reader Unit :=
  (Reader.exactly "true".toList).orElse (Reader.exactly "false".toList)

/-- A number, a truth value, a date or a time. -/
def scalar : Reader Unit :=
  dateTime |>.orElse decimalFloat |>.orElse specialFloat |>.orElse integer |>.orElse boolean

end ScriptScan.Toml
