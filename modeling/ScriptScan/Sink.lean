/-!
# ScriptScan.Sink

A receiver of bytes that may have room for only so many of them.  A text that does not fit
is taken as far as there is room, and the rest of it is an error.
-/

namespace ScriptScan

/-- Why a text could not be sent. -/
inductive WriteError where
  /-- The receiver took none of the bytes that were left. -/
  | writeZero
  deriving DecidableEq

/-- The name of an error. -/
def WriteError.name : WriteError → String
  | writeZero => "WriteZero"

/-- A receiver of bytes.  `room` is the number of bytes that it still takes;
without it there is no bound. -/
structure Sink where
  room : Option Nat := none
  written : List UInt8 := []
  deriving DecidableEq

namespace Sink

/-- The bytes of a text in UTF-8. -/
def bytesOf (text : String) : List UInt8 := text.toUTF8.data.toList

/-- Sends bytes to a sink, which takes what fits. -/
def write (sink : Sink) (bytes : List UInt8) : Sink × Except WriteError Unit :=
  match sink.room with
  | none => ({ sink with written := sink.written ++ bytes }, .ok ())
  | some room =>
    ({ room := some (room - bytes.length), written := sink.written ++ bytes.take room },
      if bytes.length ≤ room then .ok () else .error .writeZero)

/-- Sends texts one after the other, up to the first that does not fit. -/
def writeAll (sink : Sink) : List String → Sink × Except WriteError Unit
  | [] => (sink, .ok ())
  | text :: texts =>
    match sink.write (bytesOf text) with
    | (after, .ok ()) => after.writeAll texts
    | (after, .error error) => (after, .error error)

end Sink

end ScriptScan
