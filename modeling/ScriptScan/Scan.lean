import ScriptScan.Scanner
import ScriptScan.Settings

/-!
# ScriptScan.Scan

Scanning a source text in one go.
-/

namespace ScriptScan

/-- The tokens of a source under given settings, without separators, or the first
error. -/
def scanWith (settings : Settings) (source : List Char) : Except ScanError (List Token) :=
  (Scanner.start settings.lineRule source).scan

/-- The tokens of a source under the default settings. -/
def scan (source : List Char) : Except ScanError (List Token) := scanWith {} source

end ScriptScan
