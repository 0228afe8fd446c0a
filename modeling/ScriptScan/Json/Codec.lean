import ScriptScan.Json

/-!
# ScriptScan.Json.Codec

The library through which values are stored as JSON and read back.  A type declares its
fields or its cases, and the library does the rest; no more of it is at hand than what it is
asked for.  So it is a structure here, and what is stored depends on it.

* `JsonCodec` — what a library is asked for;
* `JsonCodec.standard` — a library by which requests are answered.
-/

namespace ScriptScan

namespace JsonCodec

/-- A field of a record as its type declares it.  One that has a default may be missing. -/
structure Field where
  name : String
  hasDefault : Bool := false

/-- A case of a type as the type declares it, and whether a value comes with it. -/
structure Case where
  name : String
  carries : Bool := false

/-- How the names of cases are spelled when they are stored. -/
inductive Naming where
  | asDeclared
  | lowercase
  | screamingSnakeCase

end JsonCodec

/-- A library that writes values as JSON and reads JSON values. -/
structure JsonCodec where
  writeWord : Nat → Json
  /-- The number below a limit. -/
  readWord? : Nat → Json → Option Nat
  writeDouble : Float → Json
  readDouble? : Json → Option Float
  writeText : String → Json
  readText? : Json → Option String
  writeBool : Bool → Json
  readBool? : Json → Option Bool
  writeOptional : Option Json → Json
  readOptional : Json → Option Json
  writeSequence : List Json → Json
  readSequence? : Json → Option (List Json)
  /-- A record is written from its fields in the order of their declaration. -/
  writeRecord : List (String × Json) → Json
  /-- The declared fields in order, without those that take their default. -/
  readRecord? : List JsonCodec.Field → Json → Option (List (Option Json))
  /-- The name under which a case is stored. -/
  caseName : JsonCodec.Naming → String → String
  /-- A case is written from its declared name and the value that comes with it. -/
  writeCase : JsonCodec.Naming → String → Option Json → Json
  /-- The declared name of a case, and the value that comes with it. -/
  readCase? : JsonCodec.Naming → List JsonCodec.Case → Json → Option (String × Option Json)

namespace JsonCodec

/-- A later letter of a name in capitals.  There is an underscore before one that begins a
word. -/
def Naming.spaced (c : Char) : List Char := if c.isUpper then ['_', c] else [c.toUpper]

/-- A name in capitals, with underscores between its words. -/
def Naming.screamingSnake : List Char → List Char
  | [] => []
  | c :: cs => c.toUpper :: cs.flatMap spaced

/-- A declared name as it is stored. -/
def Naming.apply (name : String) : Naming → String
  | asDeclared => name
  | lowercase => name.toLower
  | screamingSnakeCase => String.ofList (screamingSnake name.toList)

/-- What is found of a field.  It may be missing if the field has a default. -/
def Field.admit? (field : Field) (found : Option Json) : Option (Option Json) :=
  if found.isSome || field.hasDefault then some found else none

/-- The fields of a record that is an object.  They go by their names, and entries of other
names are passed over. -/
def objectFields? (entries : List (String × Json)) : List Field → Option (List (Option Json))
  | [] => some []
  | field :: fields => do
    some ((← field.admit? (entries.lookup field.name)) :: (← objectFields? entries fields))

/-- The fields of a record that is an array.  They go by their order. -/
def arrayFields? : List Field → List Json → Option (List (Option Json))
  | [], items => if items.isEmpty then some [] else none
  | field :: fields, items => do
    some ((← field.admit? items.head?) :: (← arrayFields? fields items.tail))

/-- The fields of a record. -/
def recordFields? (fields : List Field) : Json → Option (List (Option Json))
  | .obj entries => objectFields? entries fields
  | .arr items => arrayFields? fields items
  | _ => none

/-- A case: its name for one without a value, or an object that maps the name to the value,
which is null if none comes with it. -/
def caseOf? (naming : Naming) (cases : List Case) : Json → Option (String × Option Json)
  | .str name =>
    (cases.find? fun declared => !declared.carries && naming.apply declared.name == name).map
      fun declared => (declared.name, none)
  | .obj [(name, value)] =>
    (cases.find? (naming.apply ·.name == name)).bind fun declared =>
      match declared.carries, value with
      | true, value => some (declared.name, some value)
      | false, .null => some (declared.name, none)
      | false, _ => none
  | _ => none

/-- The library that answers requests. -/
def standard : JsonCodec where
  writeWord n := .integer n
  readWord? := Json.natBelow?
  writeDouble := .real
  readDouble? := Json.float?
  writeText := .str
  readText? := Json.str?
  writeBool := .bool
  readBool? := Json.bool?
  writeOptional json := json.getD .null
  readOptional
    | .null => none
    | json => some json
  writeSequence := .arr
  readSequence?
    | .arr items => some items
    | _ => none
  writeRecord := .obj
  readRecord? := recordFields?
  caseName naming name := naming.apply name
  writeCase
    | naming, name, none => .str (naming.apply name)
    | naming, name, some value => .obj [(naming.apply name, value)]
  readCase? := caseOf?

end JsonCodec

end ScriptScan
