import ScriptScan.Json.Codec
import ScriptScan.Token

/-!
# ScriptScan.Token.Json

Tokens as JSON values, and JSON values as tokens: what the types of a token declare, and
nothing more.  The rest is up to the library that stores them.
-/

namespace ScriptScan

namespace Kind

/-- The name of a kind in the declaration of its type. -/
def declaredName : Kind → String
  | add => "Add"
  | subtract => "Subtract"
  | multiply => "Multiply"
  | divide => "Divide"
  | lessThan => "LessThan"
  | lessEqual => "LessEqual"
  | greaterThan => "GreaterThan"
  | greaterEqual => "GreaterEqual"
  | equivalent => "Equivalent"
  | assign => "Assign"
  | leftParen => "LeftParen"
  | rightParen => "RightParen"
  | leftBrace => "LeftBrace"
  | rightBrace => "RightBrace"
  | semicolon => "Semicolon"
  | or => "Or"
  | string => "String"
  | number => "Number"
  | identifier => "Identifier"
  | ifWord => "If"
  | elseWord => "Else"
  | forWord => "For"
  | whileWord => "While"
  | trueWord => "True"
  | falseWord => "False"
  | funWord => "Fun"
  | returnWord => "Return"
  | varWord => "Var"
  | printWord => "Print"
  | nullWord => "Null"
  | ignore => "Ignore"
  | undefined => "Undefined"

/-- The kinds as cases of their type. -/
def cases : List JsonCodec.Case := all.map fun kind => { name := kind.declaredName }

/-- The kind of a declared name. -/
def ofDeclaredName? (name : String) : Option Kind := all.find? (·.declaredName == name)

/-- A kind as JSON.  It is stored in capitals, whatever its declared name. -/
def toJson (codec : JsonCodec) (kind : Kind) : Json :=
  codec.writeCase .screamingSnakeCase kind.declaredName none

/-- The kind that a JSON value stands for. -/
def ofJson? (codec : JsonCodec) (json : Json) : Option Kind :=
  (codec.readCase? .screamingSnakeCase cases json).bind fun (name, _) => ofDeclaredName? name

end Kind

namespace Literal

/-- The sorts of literal as cases of their type. -/
def cases : List JsonCodec.Case := [⟨"Number", true⟩, ⟨"Str", true⟩, ⟨"Bool", true⟩, ⟨"Null", false⟩]

/-- A literal as JSON. -/
def toJson (codec : JsonCodec) : Literal → Json
  | number value => codec.writeCase .asDeclared "Number" (some (codec.writeDouble value))
  | str value => codec.writeCase .asDeclared "Str" (some (codec.writeText value))
  | bool value => codec.writeCase .asDeclared "Bool" (some (codec.writeBool value))
  | null => codec.writeCase .asDeclared "Null" none

/-- The literal that a JSON value stands for. -/
def ofJson? (codec : JsonCodec) (json : Json) : Option Literal :=
  match codec.readCase? .asDeclared cases json with
  | some ("Number", some value) => (codec.readDouble? value).map number
  | some ("Str", some value) => (codec.readText? value).map str
  | some ("Bool", some value) => (codec.readBool? value).map bool
  | some ("Null", none) => some null
  | _ => none

end Literal

namespace Span

/-- The fields of a span. -/
def declaration : List JsonCodec.Field :=
  [⟨"start", false⟩, ⟨"end", false⟩, ⟨"line", false⟩, ⟨"column", false⟩]

/-- A span as JSON. -/
def toJson (codec : JsonCodec) (span : Span) : Json :=
  codec.writeRecord
    [("start", codec.writeWord span.start), ("end", codec.writeWord span.stop),
      ("line", codec.writeWord span.line), ("column", codec.writeWord span.column)]

/-- The span that a JSON value stands for. -/
def ofJson? (codec : JsonCodec) (json : Json) : Option Span :=
  match codec.readRecord? declaration json with
  | some [some start, some stop, some line, some column] => do
    some ⟨← codec.readWord? offsetLimit start, ← codec.readWord? offsetLimit stop,
      ← codec.readWord? countLimit line, ← codec.readWord? countLimit column⟩
  | _ => none

end Span

namespace Token

/-- The fields of a token.  The literal is none if it is missing. -/
def declaration : List JsonCodec.Field :=
  [⟨"kind", false⟩, ⟨"text", false⟩, ⟨"line", false⟩, ⟨"span", false⟩, ⟨"literal", true⟩]

/-- A token as JSON. -/
def toJson (codec : JsonCodec) (token : Token) : Json :=
  codec.writeRecord
    [("kind", token.kind.toJson codec), ("text", codec.writeText token.text),
      ("line", codec.writeWord token.line), ("span", token.span.toJson codec),
      ("literal", codec.writeOptional (token.literal.map (Literal.toJson codec)))]

/-- The literal of a token, if it has one. -/
def literalOfJson? (codec : JsonCodec) (json : Option Json) : Option (Option Literal) :=
  match json.bind codec.readOptional with
  | none => some none
  | some json => (Literal.ofJson? codec json).map some

/-- The token that a JSON value stands for. -/
def ofJson? (codec : JsonCodec) (json : Json) : Option Token :=
  match codec.readRecord? declaration json with
  | some [some kind, some text, some line, some span, literal] => do
    some
      { kind := ← Kind.ofJson? codec kind
        text := ← codec.readText? text
        line := ← codec.readWord? countLimit line
        span := ← Span.ofJson? codec span
        literal := ← literalOfJson? codec literal }
  | _ => none

/-- Tokens as JSON. -/
def listToJson (codec : JsonCodec) (tokens : List Token) : Json :=
  codec.writeSequence (tokens.map (toJson codec))

/-- The tokens that a JSON value stands for. -/
def listOfJson? (codec : JsonCodec) (json : Json) : Option (List Token) := do
  (← codec.readSequence? json).mapM (ofJson? codec)

end Token

end ScriptScan
