/-!
# Blank characters and trimming

`CodeRanges` is a set of characters given by closed ranges of code points, the form in which the
project keeps every Unicode property it needs. `isBlank` is the property White_Space, and `trim`
removes blank characters from both ends of a text.
-/

namespace FlowCompiler

/-- A set of characters: closed ranges of code points, ascending and apart. -/
abbrev CodeRanges := List (Nat × Nat)

/-- Whether the character lies in one of the ranges. -/
def CodeRanges.covers (ranges : CodeRanges) (c : Char) : Bool :=
  ranges.any fun range => range.1 ≤ c.toNat && c.toNat ≤ range.2

namespace Text

/-- The characters with the Unicode property White_Space. -/
def blankRanges : CodeRanges :=
  [(0x9, 0xD), (0x20, 0x20), (0x85, 0x85), (0xA0, 0xA0), (0x1680, 0x1680), (0x2000, 0x200A),
   (0x2028, 0x2029), (0x202F, 0x202F), (0x205F, 0x205F), (0x3000, 0x3000)]

/-- Whether the character is white space, in the sense of the Unicode property. -/
def isBlank (c : Char) : Bool :=
  blankRanges.covers c

/-- The characters without the blank ones at the front. -/
def dropBlank (chars : List Char) : List Char :=
  chars.dropWhile isBlank

/-- The characters without the blank ones at either end. -/
def trimChars (chars : List Char) : List Char :=
  (dropBlank (dropBlank chars).reverse).reverse

/-- The text without the blank characters at either end. -/
def trim (text : String) : String :=
  String.ofList (trimChars text.toList)

/-- A text is blank when no character of it is visible. -/
def isBlankText (text : String) : Bool :=
  text.toList.all isBlank

end Text

end FlowCompiler
