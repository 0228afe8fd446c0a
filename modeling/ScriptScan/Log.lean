/-!
# ScriptScan.Log

What a program records about its own work: messages with named fields, and the stretches of
work in which they fall.
-/

namespace ScriptScan.Log

/-- How much a message matters. -/
inductive Level where
  | trace
  | debug
  | warn
  deriving DecidableEq

/-- The name of a level. -/
def Level.name : Level → String
  | .trace => "TRACE"
  | .debug => "DEBUG"
  | .warn => "WARN"

/-- A recorded message: what happened, as a sentence and as named details. -/
structure Message where
  level : Level
  sentence : String
  details : List (String × String)
  deriving DecidableEq

/-- All fields of a message, its sentence among them. -/
def Message.fields (message : Message) : List (String × String) :=
  message.details ++ [("message", message.sentence)]

/-- A stretch of work that a program announces: its name and what is known of it before it
begins. -/
structure Frame where
  level : Level
  name : String
  details : List (String × String)
  deriving DecidableEq

end ScriptScan.Log
