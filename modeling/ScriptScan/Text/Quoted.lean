import ScriptScan.Text.Combining
import ScriptScan.Text.Printable

/-!
# ScriptScan.Text.Quoted

Text in double quotes for people, in which every character can be seen: what
cannot be shown, or would attach to the character before it, is written as its
code point.
-/

namespace ScriptScan.Text

/-- The letter that stands for a character behind a backslash. -/
def quotedLetter? : Char → Option Char
  | '"' => some '"'
  | '\\' => some '\\'
  | '\n' => some 'n'
  | '\r' => some 'r'
  | '\t' => some 't'
  | '\x00' => some '0'
  | _ => none

/-- A character as its code point in hexadecimal. -/
def codePointEscape (c : Char) : List Char :=
  ['\\', 'u', '\x7b'] ++ Nat.toDigits 16 c.toNat ++ ['\x7d']

/-- A character as it is written between quotes. -/
def quotedChar (c : Char) : List Char :=
  match quotedLetter? c with
  | some letter => ['\\', letter]
  | none => if isCombining c || !isPrintable c then codePointEscape c else [c]

/-- A text in quotes. -/
def quoted (text : String) : String :=
  String.ofList ('"' :: text.toList.flatMap quotedChar ++ ['"'])

end ScriptScan.Text
