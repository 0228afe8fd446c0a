/-!
# ScriptScan.Token.Kind

The kinds of token of the script language, their names, and the two tables that
give a kind to a text: one for single characters, one for keywords.
-/

namespace ScriptScan

/-- What a token is. -/
inductive Kind where
  | add | subtract | multiply | divide
  | lessThan | lessEqual | greaterThan | greaterEqual | equivalent
  | assign
  | leftParen | rightParen | leftBrace | rightBrace
  | semicolon
  | or
  | string | number | identifier
  | ifWord | elseWord | forWord | whileWord | trueWord | falseWord | funWord | returnWord | varWord
  | printWord | nullWord
  /-- Blanks and comments, which separate tokens and carry no meaning. -/
  | ignore
  /-- No known kind.  The scanner never makes such a token. -/
  | undefined
  deriving DecidableEq

namespace Kind

/-- Every kind, in the order of the language's description. -/
def all : List Kind :=
  [add, subtract, multiply, divide, lessThan, lessEqual, greaterThan, greaterEqual, equivalent,
    assign, leftParen, rightParen, leftBrace, rightBrace, semicolon, or, string, number,
    identifier, ifWord, elseWord, forWord, whileWord, trueWord, falseWord, funWord, returnWord,
    varWord, printWord, nullWord, ignore, undefined]

/-- The name of a kind, as it is shown and stored. -/
def name : Kind → String
  | add => "ADD"
  | subtract => "SUBTRACT"
  | multiply => "MULTIPLY"
  | divide => "DIVIDE"
  | lessThan => "LESS_THAN"
  | lessEqual => "LESS_EQUAL"
  | greaterThan => "GREATER_THAN"
  | greaterEqual => "GREATER_EQUAL"
  | equivalent => "EQUIVALENT"
  | assign => "ASSIGN"
  | leftParen => "LEFT_PAREN"
  | rightParen => "RIGHT_PAREN"
  | leftBrace => "LEFT_BRACE"
  | rightBrace => "RIGHT_BRACE"
  | semicolon => "SEMICOLON"
  | or => "OR"
  | string => "STRING"
  | number => "NUMBER"
  | identifier => "IDENTIFIER"
  | ifWord => "IF"
  | elseWord => "ELSE"
  | forWord => "FOR"
  | whileWord => "WHILE"
  | trueWord => "TRUE"
  | falseWord => "FALSE"
  | funWord => "FUN"
  | returnWord => "RETURN"
  | varWord => "VAR"
  | printWord => "PRINT"
  | nullWord => "NULL"
  | ignore => "IGNORE"
  | undefined => "UNDEFINED"

/-- The list of all kinds leaves none out. -/
theorem mem_all (kind : Kind) : kind ∈ all := by
  cases kind <;> decide

/-- The keywords, each with its kind. -/
def keywords : List (String × Kind) :=
  [("if", ifWord), ("else", elseWord), ("for", forWord), ("while", whileWord), ("true", trueWord),
    ("false", falseWord), ("fun", funWord), ("return", returnWord), ("var", varWord),
    ("print", printWord), ("null", nullWord)]

/-- The kind of a keyword; a word that is no keyword has none. -/
def ofKeyword? (word : String) : Option Kind := keywords.lookup word

/-- The kind of a character that is a token by itself, whatever follows it. -/
def ofChar? : Char → Option Kind
  | '+' => some add
  | '-' => some subtract
  | '*' => some multiply
  | ';' => some semicolon
  | '(' => some leftParen
  | ')' => some rightParen
  | '|' => some or
  | '\x7b' => some leftBrace
  | '\x7d' => some rightBrace
  | ' ' | '\n' | '\r' | '\t' => some ignore
  | _ => none

/-- The kinds that a comparison sign has alone and before an equals sign. -/
def ofComparison? : Char → Option (Kind × Kind)
  | '<' => some (lessThan, lessEqual)
  | '>' => some (greaterThan, greaterEqual)
  | '=' => some (assign, equivalent)
  | _ => none

/-- Whether a kind belongs to a keyword. -/
def isKeyword (kind : Kind) : Bool := keywords.any (·.2 == kind)

/-- Whether tokens of a kind stand for a value or a name that their text spells. -/
def isLiteral (kind : Kind) : Bool := [string, number, identifier].contains kind

/-- Whether a kind belongs to an arithmetic sign, a comparison or an assignment. -/
def isOperator (kind : Kind) : Bool :=
  [add, subtract, multiply, divide, lessThan, lessEqual, greaterThan, greaterEqual, equivalent,
    assign].contains kind

end Kind

end ScriptScan
