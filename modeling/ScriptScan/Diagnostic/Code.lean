/-!
# ScriptScan.Diagnostic.Code

Codes that identify the kinds of diagnostic, such as `E1001`.
-/

namespace ScriptScan

/-- The code of a kind of diagnostic: a family, such as `E` for errors, and a
number within it. -/
structure Code where
  family : String
  number : Nat
  deriving DecidableEq

namespace Code

/-- A number in decimal with at least four digits: zeros are put in front of a
shorter one. -/
def padded (n : Nat) : List Char := (Nat.toDigits 10 n).leftpad 4 '0'

/-- A code as it is shown: the family followed by the padded number. -/
def text (code : Code) : String := code.family ++ String.ofList (padded code.number)

/-- A code as it is shown when data is inspected. -/
def describe (code : Code) : String := "DiagnosticCode(" ++ code.text ++ ")"

/-- No token starts with the character at hand. -/
def unexpectedCharacter : Code := ⟨"E", 1001⟩

/-- The source ends inside a string. -/
def unterminatedString : Code := ⟨"E", 1002⟩

/-- A number holds more than one decimal point. -/
def invalidNumber : Code := ⟨"E", 1003⟩

end Code

end ScriptScan
