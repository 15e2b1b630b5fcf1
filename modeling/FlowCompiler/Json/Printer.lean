import FlowCompiler.Json.Basic
import FlowCompiler.Decimal.Layout

/-!
# Printing documents

A value is printed without white space. In a text the quote, the backslash and five controls have a
short escape, the other controls below U+0020 are written by their code, and every other character
stands for itself.
-/

namespace FlowCompiler

/-- The text of a number. -/
def Number.chars : Number → List Char
  | .whole value =>
    (if value < 0 then ['-'] else []) ++ Nat.toDigits 10 value.natAbs
  | .real value => Decimal.floatText value

/-- The text of a number. -/
def Number.text (number : Number) : String :=
  String.ofList number.chars

namespace Json

/-- A control character by its code: two hexadecimal digits, behind two zeros. -/
def controlCode (c : Char) : List Char :=
  ['\\', 'u', '0', '0', Nat.digitChar (c.toNat / 16), Nat.digitChar (c.toNat % 16)]

/-- A character as it stands inside a text. -/
def escaped (c : Char) : List Char :=
  match c with
  | '"' => ['\\', '"']
  | '\\' => ['\\', '\\']
  | '\x08' => ['\\', 'b']
  | '\t' => ['\\', 't']
  | '\n' => ['\\', 'n']
  | '\x0c' => ['\\', 'f']
  | '\r' => ['\\', 'r']
  | _ => if c.toNat < 0x20 then controlCode c else [c]

/-- A text between quotes. -/
def textChars (text : String) : List Char :=
  '"' :: (text.toList.flatMap escaped ++ ['"'])

mutual

/-- The characters of a value. -/
def chars : Json → List Char
  | .null => ['n', 'u', 'l', 'l']
  | .bool true => ['t', 'r', 'u', 'e']
  | .bool false => ['f', 'a', 'l', 's', 'e']
  | .number value => value.chars
  | .string value => textChars value
  | .list items => '[' :: (itemsChars items ++ [']'])
  | .map entries => '{' :: (entriesChars entries ++ ['}'])

/-- The characters of list items, separated by commas. -/
def itemsChars : List Json → List Char
  | [] => []
  | item :: rest => chars item ++ moreItemsChars rest

/-- The characters of list items, each behind a comma. -/
def moreItemsChars : List Json → List Char
  | [] => []
  | item :: rest => ',' :: (chars item ++ moreItemsChars rest)

/-- The characters of map entries, separated by commas. -/
def entriesChars : List (String × Json) → List Char
  | [] => []
  | (key, value) :: rest => textChars key ++ ':' :: (chars value ++ moreEntriesChars rest)

/-- The characters of map entries, each behind a comma. -/
def moreEntriesChars : List (String × Json) → List Char
  | [] => []
  | (key, value) :: rest => ',' :: (textChars key ++ ':' :: (chars value ++ moreEntriesChars rest))

end

/-- The text of a value. -/
def render (value : Json) : String :=
  String.ofList value.chars

end Json

end FlowCompiler
