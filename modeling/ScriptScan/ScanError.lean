import ScriptScan.Diagnostic

/-!
# ScriptScan.ScanError

Why a source cannot be cut into tokens, and the words for it.
-/

namespace ScriptScan

/-- What is wrong with a lexeme. -/
inductive Fault where
  /-- No token starts with this character. -/
  | unexpectedCharacter (character : Char)
  /-- A string is still open where the source ends. -/
  | unterminatedString
  /-- A number, as it is written, has more than one decimal point. -/
  | tooManyDecimals (text : String)
  deriving DecidableEq

/-- A fault and the place of the lexeme that has it. -/
structure ScanError where
  fault : Fault
  span : Span
  deriving DecidableEq

namespace ScanError

/-- The line on which the faulty lexeme starts. -/
def line (error : ScanError) : Nat := error.span.line

/-- The byte at which the faulty lexeme starts. -/
def position (error : ScanError) : Nat := error.span.start

/-- The message for people. -/
def message (error : ScanError) : String :=
  match error.fault with
  | .unexpectedCharacter c =>
    "Unexpected character '" ++ c.toString ++ "' at " ++ toString error.position
  | .unterminatedString => "No ending double quotes for specified string."
  | .tooManyDecimals _ => "More than one decimal in number"

/-- The code of the diagnostic for an error. -/
def code (error : ScanError) : Code :=
  match error.fault with
  | .unexpectedCharacter _ => .unexpectedCharacter
  | .unterminatedString => .unterminatedString
  | .tooManyDecimals _ => .invalidNumber

/-- The status with which a program ends that gives up on a faulty source. -/
def exitCode (_ : ScanError) : Nat := 65

/-- The one line that reports an error to a console. -/
def report (error : ScanError) : String :=
  "Error occurred on line " ++ toString error.line ++ " : " ++ error.message ++ "\n"

/-- The error as a diagnostic, with advice on how to mend the source. -/
def toDiagnostic (error : ScanError) : Diagnostic :=
  let diagnostic : Diagnostic :=
    { message := error.message, span := error.span, code := some error.code }
  match error.fault with
  | .unexpectedCharacter _ =>
    diagnostic.withHelp
      ("allowed characters are ASCII letters, digits, whitespace and "
        ++ "+ - * / < > = ; ( ) \x7b \x7d | \"")
  | .unterminatedString => diagnostic.withHelp "add a closing '\"' to the string"
  | .tooManyDecimals text =>
    (diagnostic.withNote ("found `" ++ text ++ "`")).withHelp
      "a number may contain at most one '.'"

end ScanError

end ScriptScan
