import ScriptScan.Span

/-!
# ScriptScan.Diagnostic.Snippet

The line of a source that a span points into, with carets under the span.
-/

namespace ScriptScan

/-- A quoted source line: its text, and how many carets stand below it after how
many blanks. -/
structure Snippet where
  quoted : List Char
  indent : Nat
  carets : Nat
  deriving DecidableEq

namespace Snippet

/-- The characters of a text that lie on its first line.  A carriage return goes
with the line feed that it stands before. -/
def firstRow (text : List Char) : List Char :=
  if '\n' ∈ text then Text.trimReturn (Text.firstLine text) else text

/-- The number of carets under a span: one for each character on the first line
of its slice, and one if there is none. -/
def caretCount (span : Span) (source : List Char) : Nat :=
  max 1 (((span.slice? source).map firstRow).getD []).length

/-- The snippet of a span: the whole line around the span's start, without the
carriage returns at its end.  There is none if the start is not a place between
two characters of the source. -/
def of? (span : Span) (source : List Char) : Option Snippet :=
  (Text.splitAtByte? span.start source).map fun (before, after) =>
    { quoted := Text.trimReturns (Text.lastLine before ++ Text.firstLine after)
      indent := (Text.lastLine before).length
      carets := caretCount span source }

/-- A snippet as it is shown: an empty row, the quoted line after its number, and
the carets. -/
def rows (snippet : Snippet) (line : Nat) : List String :=
  let gutter := toString line
  let margin := String.ofList (List.replicate gutter.length ' ')
  [ margin ++ " |",
    gutter ++ " | " ++ String.ofList snippet.quoted,
    margin ++ " | " ++ String.ofList (List.replicate snippet.indent ' ')
      ++ String.ofList (List.replicate snippet.carets '^') ]

end Snippet

end ScriptScan
