import ScriptScan.Span
import ScriptScan.Token.Kind

/-!
# ScriptScan.Token

A token: its kind, its text, where it stands, and the value it spells if one was
attached to it.
-/

namespace ScriptScan

/-- A value that a token can spell. -/
inductive Literal where
  | number (value : Float)
  | str (value : String)
  | bool (value : Bool)
  | null
  deriving DecidableEq

/-- A token of a source.  `text` is the lexeme, for a string without its quotes. -/
structure Token where
  kind : Kind
  text : String
  line : Nat
  span : Span
  literal : Option Literal
  deriving DecidableEq

namespace Token

/-- A token without a value.  Its line is that of its span. -/
def of (kind : Kind) (text : String) (span : Span) : Token :=
  { kind, text, line := span.line, span, literal := none }

/-- The same token with a value. -/
def withLiteral (token : Token) (literal : Literal) : Token :=
  { token with literal := some literal }

/-- A token as one line of a listing. -/
def describe (token : Token) : String :=
  "Line: " ++ toString token.line ++ " Token: " ++ token.kind.name ++ " Text: " ++ token.text

end Token

end ScriptScan
