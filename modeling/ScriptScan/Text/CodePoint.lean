import ScriptScan.Reader

/-!
# ScriptScan.Text.CodePoint

Characters written as hexadecimal code points, as escapes in text formats do.
-/

namespace ScriptScan.Text

/-- The value of a hexadecimal digit. -/
def hexDigit? (c : Char) : Option Nat :=
  if '0' ≤ c ∧ c ≤ '9' then some (c.toNat - '0'.toNat)
  else if 'a' ≤ c ∧ c ≤ 'f' then some (c.toNat - 'a'.toNat + 10)
  else if 'A' ≤ c ∧ c ≤ 'F' then some (c.toNat - 'A'.toNat + 10)
  else none

/-- The number that digits spell in a base, the most significant digit first. -/
def ofDigits (base : Nat) (digits : List Nat) : Nat :=
  digits.foldl (fun n digit => n * base + digit) 0

/-- A number of exactly so many hexadecimal digits. -/
def hexNumber (count : Nat) : Reader Nat :=
  ((Reader.char fun c => (hexDigit? c).isSome).times count).map fun digits =>
    ofDigits 16 (digits.filterMap hexDigit?)

/-- The character of a code point.  Surrogates and numbers that are too large
have none. -/
def ofCodePoint? (n : Nat) : Option Char :=
  if h : n.isValidChar then some (Char.ofNatAux n h) else none

end ScriptScan.Text
