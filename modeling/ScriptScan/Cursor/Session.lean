import ScriptScan.Lexeme

/-!
# ScriptScan.Cursor.Session

A cursor driven by a list of requests, with a memory of places and of whole
cursors to come back to.
-/

namespace ScriptScan

namespace Cursor

/-- A request to a cursor.  Numbers refer to remembered places and cursors in the
order in which they were remembered. -/
inductive Request where
  | advance
  | advanceSeparator
  | eatWhile (test : Char → Bool)
  | eat (expected : Char)
  | peek (offset : Nat)
  | mark
  | markAt (place : Place)
  | lexeme (mark : Nat)
  | spanFrom (mark : Nat)
  | sliceFrom (start : Nat)
  | source
  | save
  | restore (saved : Nat)
  | readSingle (kind : Kind)
  | readComparison
  | readSlash
  | readString
  | readNumber
  | readWord

/-- What comes back from a request. -/
inductive Reply where
  | done
  | flag (value : Bool)
  | char (value : Char)
  | index (value : Nat)
  | text (value : List Char)
  | span (value : Span)
  | token (value : Token)
  | error (value : ScanError)
  /-- The request refers to what was never remembered, and nothing was done. -/
  | refused
  deriving DecidableEq

/-- A cursor with the places and cursors remembered so far. -/
structure Session where
  cursor : Cursor
  marks : List Place := []
  saved : List Cursor := []
  deriving DecidableEq

namespace Session

/-- A session at the start of a source. -/
def start (rule : LineRule) (source : List Char) : Session := { cursor := .start rule source }

/-- The session after the cursor has moved. -/
def moved (session : Session) (cursor : Cursor) : Session := { session with cursor }

/-- The reply and the session after a reader that always makes a token. -/
def read (session : Session) (found : Token × Cursor) : Reply × Session :=
  (.token found.1, session.moved found.2)

/-- The reply and the session after a reader that can find an error. -/
def readOrFail (session : Session) (found : Except ScanError Token × Cursor) : Reply × Session :=
  match found with
  | (.ok token, cursor) => (.token token, session.moved cursor)
  | (.error error, cursor) => (.error error, session.moved cursor)

/-- Remembers a place. -/
def remember (session : Session) (place : Place) : Reply × Session :=
  (.index session.marks.length, { session with marks := session.marks ++ [place] })

/-- Carries out a request.  Nothing comes back if it breaks off: no byte has the number of
the one to look at, the source cannot be cut there, or there is no comparison to read. -/
def handle (session : Session) (request : Request) : Option (Reply × Session) :=
  let cursor := session.cursor
  match request with
  | .advance => some (.done, session.moved cursor.advance)
  | .advanceSeparator => some (.done, session.moved cursor.advanceSeparator)
  | .eatWhile test => some (.done, session.moved (cursor.eatWhile test))
  | .eat expected =>
    let (eaten, after) := cursor.eat expected
    some (.flag eaten, session.moved after)
  | .peek offset => (cursor.peek? offset).map fun c => (.char c, session)
  | .mark => some (session.remember cursor.place)
  | .markAt place => some (session.remember place)
  | .lexeme mark =>
    match session.marks[mark]? with
    | some place => (cursor.lexeme? place).map fun text => (.text text, session)
    | none => some (.refused, session)
  | .spanFrom mark =>
    match session.marks[mark]? with
    | some place => some (.span (cursor.spanFrom place), session)
    | none => some (.refused, session)
  | .sliceFrom start => (cursor.sliceFrom? start).map fun text => (.text text, session)
  | .source => some (.text cursor.source, session)
  | .save =>
    some (.index session.saved.length, { session with saved := session.saved ++ [cursor] })
  | .restore saved =>
    match session.saved[saved]? with
    | some cursor => some (.done, session.moved cursor)
    | none => some (.refused, session)
  | .readSingle kind => some (session.read (cursor.readSingle kind))
  | .readComparison => cursor.readComparison?.map session.read
  | .readSlash => some (session.read cursor.readSlash)
  | .readString => some (session.readOrFail cursor.readString)
  | .readNumber => some (session.readOrFail cursor.readNumber)
  | .readWord => some (session.read cursor.readWord)

/-- The session after requests in order.  Behind one that breaks off there is none. -/
def after (session : Session) : List Request → Option Session
  | [] => some session
  | request :: requests => (session.handle request).bind fun (_, next) => next.after requests

end Session

end Cursor

end ScriptScan
