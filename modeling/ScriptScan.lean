import ScriptScan.Cursor.Session
import ScriptScan.Diagnostic.Render
import ScriptScan.Journal.Session
import ScriptScan.Json.Parser
import ScriptScan.Json.Printer
import ScriptScan.Proofs.Reading
import ScriptScan.Scan
import ScriptScan.Scanner.Session
import ScriptScan.Settings.File
import ScriptScan.Token.Json
import ScriptScan.Trace
import ScriptScan.Proofs.Run
import ScriptScan.Proofs.Decomposition
import ScriptScan.Proofs.Tiling
import ScriptScan.Proofs.Location
import ScriptScan.Proofs.LineRules
import ScriptScan.Proofs.Concatenation
import ScriptScan.Proofs.Driving
import ScriptScan.Proofs.Appending
import ScriptScan.Proofs.Printing
import ScriptScan.Proofs.Lines
import ScriptScan.Proofs.Pointing
import ScriptScan.Proofs.Soundness
import ScriptScan.Proofs.Registers
import ScriptScan.Proofs.Recording
import ScriptScan.Proofs.Journaling
import ScriptScan.Proofs.Rendering
import ScriptScan.Proofs.Underlining
import ScriptScan.Proofs.Numbering
import ScriptScan.Proofs.Insertion
import ScriptScan.Proofs.Opacity
import ScriptScan.Proofs.Storing
import ScriptScan.Proofs.Peeking
import ScriptScan.Proofs.LongestRun
