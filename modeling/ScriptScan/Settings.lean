import ScriptScan.Json.Codec
import ScriptScan.LineRule
import ScriptScan.Toml.Parser

/-!
# ScriptScan.Settings

The settings of a scan, as TOML and as JSON.
-/

namespace ScriptScan

/-- The settings of a scan. -/
structure Settings where
  lineRule : LineRule := .newline
  deriving DecidableEq

namespace Settings

/-- The name of the one setting. -/
def lineRuleKey : String := "line_counting"

/-- Settings as a TOML document. -/
def toToml (settings : Settings) : String :=
  lineRuleKey ++ " = \"" ++ settings.lineRule.name ++ "\"\n"

/-- Whether a node holds nothing. -/
def isEmptyNode : Toml.Node → Bool
  | .table _ [] | .array [] => true
  | _ => false

/-- The line rule that a TOML node names: by a text, or by the one key of a table
that has nothing under it. -/
def lineRuleOfNode? : Toml.Node → Option LineRule
  | .string name => LineRule.ofName? name
  | .table _ [(name, node)] => if isEmptyNode node then LineRule.ofName? name else none
  | _ => none

/-- The settings in a TOML document.  What is not a setting is passed over, and a
missing setting has its default. -/
def ofToml? (text : String) : Option Settings :=
  (Toml.parse? text).bind fun root =>
    match root.lookup lineRuleKey with
    | none => some {}
    | some node => (lineRuleOfNode? node).map ({ lineRule := · })

/-- The name of a line rule in the declaration of its type. -/
def declaredRuleName : LineRule → String
  | .newline => "Newline"
  | .legacy => "Legacy"

/-- Settings as JSON. -/
def toJson (codec : JsonCodec) (settings : Settings) : Json :=
  codec.writeRecord
    [(lineRuleKey, codec.writeCase .lowercase (declaredRuleName settings.lineRule) none)]

/-- The line rule that a JSON value stands for. -/
def lineRuleOfJson? (codec : JsonCodec) (json : Json) : Option LineRule :=
  let cases := LineRule.all.map fun rule => { name := declaredRuleName rule }
  (codec.readCase? .lowercase cases json).bind fun (name, _) =>
    LineRule.all.find? (declaredRuleName · == name)

/-- The settings that a JSON value stands for. -/
def ofJson? (codec : JsonCodec) (json : Json) : Option Settings :=
  match codec.readRecord? [⟨lineRuleKey, true⟩] json with
  | some [none] => some {}
  | some [some rule] => (lineRuleOfJson? codec rule).map ({ lineRule := · })
  | _ => none

end Settings

end ScriptScan
