import ScriptScan.Toml.Quoted
import ScriptScan.Toml.Scalar
import ScriptScan.Toml.Table

/-!
# ScriptScan.Toml.Parser

Reading TOML text: a document is a list of statements, which build its tree one
after the other.
-/

namespace ScriptScan.Toml

/-- How deep arrays and tables in braces may nest, and how many steps a key may
have. -/
def maxDepth : Nat := 79

/-! ## keys -/

/-- What a key without quotes is made of. -/
def isBareChar (c : Char) : Bool := c.isAlphanum || c == '-' || c == '_'

/-- One step of a key. -/
def simpleKey : Reader String :=
  basicString |>.orElse literalString |>.orElse ((Reader.run isBareChar).map String.ofList)

/-- A key: one or more steps with dots between them. -/
def key : Reader (List String) :=
  (((simpleKey.skipping isBlank).behind isBlank).separated (.only '.')).filterMap fun path =>
    if path.length ≤ maxDepth then some path else none

/-! ## values -/

/-- An array of values that the given reader finds.  Its parts may stand on lines
of their own, and a comma may follow the last one. -/
def array (value : Reader Node) : Reader Node :=
  let opened := (Reader.only '[').trailedBy filler
  let comma := (Reader.only ',').trailedBy filler
  let items := (value.trailedBy filler).separated comma
  ((opened.after (.only ']')).map fun _ => Node.array []).orElse
    (((opened.after items).followedByOptional comma).followedBy (.only ']')
      |>.map fun (items, _) => .array items)

/-- A key and a value that the given reader finds. -/
def keyValue (value : Reader Node) : Reader (List String × Node) :=
  key.bind fun path =>
    ((Reader.only '=').skipping isBlank).after (value.map fun node => (path, node))

/-- A table in braces, on one line. -/
def inlineTable (value : Reader Node) : Reader Node :=
  let opened := (Reader.only '\x7b').skipping isBlank
  let pairs := ((keyValue value).skipping isBlank).separated (.only ',')
  ((opened.after (.only '\x7d')).map fun _ => Node.table .inline []).orElse
    (((opened.after pairs).followedBy (.only '\x7d')).filterMap fun pairs =>
      (pairs.foldlM (fun table (path, node) => Table.insert? node path table) []).map
        (.table .inline))

/-- A value that holds no others. -/
def simpleValue : Reader Node := (string.map .string).orElse (scalar.map fun _ => .scalar)

/-- A value with at most so many arrays and tables around its innermost part. -/
def value : Nat → Reader Node
  | 0 => simpleValue
  | depth + 1 => simpleValue.orElse ((array (value depth)).orElse (inlineTable (value depth)))

/-! ## statements -/

/-- One statement of a document. -/
inductive Statement where
  /-- Nothing: an empty line or a comment. -/
  | blank
  /-- A key and its value. -/
  | pair (key : List String) (value : Node)
  /-- The header of a table. -/
  | table (path : List String)
  /-- The header of one of several tables. -/
  | element (path : List String)

/-- A header between brackets. -/
def header : Reader Statement :=
  (((Reader.exactly ['[', '[']).after key).followedBy (Reader.exactly [']', ']'])
      |>.map Statement.element).orElse
    (((Reader.only '[').after key).followedBy (.only ']') |>.map Statement.table)

/-- One statement, with the line end and the blanks behind it. -/
def statement : Reader Statement :=
  let blank := newline.orElse (comment.ended lineEnd)
  let pair := (keyValue (value maxDepth)).map fun (path, node) => Statement.pair path node
  ((blank.map fun _ => Statement.blank) |>.orElse (header.ended trailer)
    |>.orElse (pair.ended trailer)).skipping isBlank

/-- A tree under construction and the path of the header that is in force. -/
structure Draft where
  root : Table := []
  header : List String := []

/-- Adds what a statement says. -/
def Draft.add? (draft : Draft) : Statement → Option Draft
  | .blank => some draft
  | .pair key value =>
    (draft.root.define? draft.header key value).map ({ draft with root := · })
  | .table path => (draft.root.openTable? path).map (⟨·, path⟩)
  | .element path => (draft.root.openElement? path).map (⟨·, path⟩)

/-- Reads a TOML document.  A byte order mark in front of it is passed over. -/
def parse? (text : String) : Option Table :=
  let body := match text.toList with
    | '\ufeff' :: rest => rest
    | all => all
  let (statements, ⟨rest, _⟩) := statement.many (body.dropWhile isBlank)
  if rest.isEmpty then (statements.foldlM Draft.add? {}).map (·.root) else none

end ScriptScan.Toml
