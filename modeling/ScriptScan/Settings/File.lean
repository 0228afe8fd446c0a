import ScriptScan.Log
import ScriptScan.Settings
import ScriptScan.Text.Quoted

/-!
# ScriptScan.Settings.File

Settings in a file.  What stands at a file's name is given as data, so loading is
a function.
-/

namespace ScriptScan

/-- What stands at a name in a file system. -/
inductive FileContent where
  | missing
  | directory
  | bytes (content : ByteArray)

/-- Why a file gives no text. -/
inductive ReadFailure where
  | notFound
  | isDirectory
  | invalidUtf8
  deriving DecidableEq

namespace ReadFailure

/-- The words for a failure. -/
def reason : ReadFailure → String
  | notFound => "No such file or directory (os error 2)"
  | isDirectory => "Is a directory (os error 21)"
  | invalidUtf8 => "stream did not contain valid UTF-8"

end ReadFailure

/-- The text of a file. -/
def FileContent.text : FileContent → Except ReadFailure String
  | missing => .error .notFound
  | directory => .error .isDirectory
  | bytes content =>
    match String.fromUTF8? content with
    | some text => .ok text
    | none => .error .invalidUtf8

namespace Settings

/-- Why settings cannot be loaded. -/
inductive LoadError where
  /-- The file of this name cannot be read. -/
  | unreadable (name : String) (failure : ReadFailure)
  /-- The file holds no settings. -/
  | malformed
  deriving DecidableEq

/-- The message about an unreadable file. -/
def unreadableMessage (name : String) (failure : ReadFailure) : String :=
  "Failed to read config file " ++ Text.quoted name ++ ": " ++ failure.reason

/-- Loads settings from a file. -/
def load (name : String) (content : FileContent) : Except LoadError Settings :=
  match content.text with
  | .error failure => .error (.unreadable name failure)
  | .ok text =>
    match ofToml? text with
    | some settings => .ok settings
    | none => .error .malformed

/-- Settings as they are shown when data is inspected. -/
def describe (settings : Settings) : String :=
  "ScannerConfig \x7b " ++ lineRuleKey ++ ": " ++ declaredRuleName settings.lineRule ++ " \x7d"

/-- What is logged when settings were loaded from a file. -/
def loadedMessage (name : String) (settings : Settings) : Log.Message :=
  ⟨.debug, "loaded scanner config", [("path", name), ("config", settings.describe)]⟩

end Settings

end ScriptScan
