import FlowCompiler.Text.Hidden

/-!
# Quoted text

A text shown between double quotes, so that its extent and every character of it can be told: the
quote and the backslash stand behind a backslash, four controls have a letter, and what would not
show is written by its code point.
-/

namespace FlowCompiler.Text

/-- The code point of a character in lower-case hexadecimal, between braces behind `\u`. -/
def codePoint (c : Char) : String :=
  "\\u\x7b" ++ String.ofList (Nat.toDigits 16 c.toNat) ++ "\x7d"

/-- A character as it stands inside a quoted text. -/
def quotedChar (c : Char) : String :=
  match c with
  | '"' => "\\\""
  | '\\' => "\\\\"
  | '\t' => "\\t"
  | '\r' => "\\r"
  | '\n' => "\\n"
  | '\x00' => "\\0"
  | _ => if isExtending c || isHidden c then codePoint c else c.toString

/-- A text between double quotes. -/
def quoted (text : String) : String :=
  "\"" ++ String.join (text.toList.map quotedChar) ++ "\""

/-- Quoted texts between square brackets, separated by commas. -/
def quotedList (texts : List String) : String :=
  "[" ++ ", ".intercalate (texts.map quoted) ++ "]"

end FlowCompiler.Text
