/-!
# Faults in a text

A reader that cannot go on gives a `Fault`: the cause, the text it has not consumed, and how many
bytes of that text it had already looked at. `Fault.locate` turns this into a line and a column of
the whole text. Lines count from one; a column is the number of bytes read on the line.
-/

namespace FlowCompiler.Json

/-- Why a text cannot be read. -/
inductive Cause
  /-- The text ends where a value should stand, or within a word or a number. -/
  | endInValue
  /-- The text ends within a quoted text. -/
  | endInText
  /-- The text ends within a list. -/
  | endInList
  /-- The text ends within a map. -/
  | endInMap
  /-- No value starts here. -/
  | noValue
  /-- A word other than `null`, `true` and `false`. -/
  | unknownWord
  /-- A key without its colon. -/
  | noColon
  /-- A list item that is followed neither by a comma nor by the end of the list. -/
  | noListSeparator
  /-- A map entry that is followed neither by a comma nor by the end of the map. -/
  | noMapSeparator
  /-- A map entry that does not start with a quoted key. -/
  | keyNotText
  /-- A comma before the end of a list or a map. -/
  | commaBeforeEnd
  /-- Something follows the value. -/
  | moreText
  /-- A number with a digit missing or a zero too many. -/
  | malformedNumber
  /-- A number beyond the largest float. -/
  | numberTooLarge
  /-- A backslash before a character that it does not escape. -/
  | unknownEscape
  /-- One half of a surrogate pair. -/
  | loneSurrogate
  /-- The first half of a surrogate pair, without a second escape behind it. -/
  | unfinishedPair
  /-- A control character within a quoted text. -/
  | rawControl
  /-- More nested lists and maps than a reader follows. -/
  | tooDeep
  /-- A value of another kind than the one needed here. -/
  | wrongType (found needed : String)
  /-- A field that is given twice. -/
  | repeatedField (name : String)
deriving DecidableEq, Repr

/-- The wording of a cause. -/
def Cause.message : Cause → String
  | .endInValue => "EOF while parsing a value"
  | .endInText => "EOF while parsing a string"
  | .endInList => "EOF while parsing a list"
  | .endInMap => "EOF while parsing an object"
  | .noValue => "expected value"
  | .unknownWord => "expected ident"
  | .noColon => "expected `:`"
  | .noListSeparator => "expected `,` or `]`"
  | .noMapSeparator => "expected `,` or `\x7d`"
  | .keyNotText => "key must be a string"
  | .commaBeforeEnd => "trailing comma"
  | .moreText => "trailing characters"
  | .malformedNumber => "invalid number"
  | .numberTooLarge => "number out of range"
  | .unknownEscape => "invalid escape"
  | .loneSurrogate => "lone leading surrogate in hex escape"
  | .unfinishedPair => "unexpected end of hex escape"
  | .rawControl => "control character (\\u0000-\\u001F) found while parsing a string"
  | .tooDeep => "recursion limit exceeded"
  | .wrongType found needed => "invalid type: " ++ found ++ ", expected " ++ needed
  | .repeatedField name => "duplicate field `" ++ name ++ "`"

/-- Where and why a reader stops. -/
structure Fault where
  /-- The cause. -/
  cause : Cause
  /-- The text that is not consumed. -/
  rest : List Char
  /-- The number of bytes of it that count as read. -/
  ahead : Nat
deriving DecidableEq, Repr

namespace Fault

/-- A fault of the next character, which counts as read by one byte. -/
def peek (cause : Cause) (rest : List Char) : Fault :=
  ⟨cause, rest, 1⟩

/-- A fault of what has been consumed. -/
def behind (cause : Cause) (rest : List Char) : Fault :=
  ⟨cause, rest, 0⟩

end Fault

/-- A place in a text. -/
structure Position where
  /-- The line, counted from one. -/
  line : Nat
  /-- The number of bytes read on the line. -/
  column : Nat
deriving DecidableEq, Repr

namespace Position

/-- The beginning of a text. -/
def start : Position :=
  ⟨1, 0⟩

/-- The place after a character. -/
def next (position : Position) (c : Char) : Position :=
  if c = '\n' then ⟨position.line + 1, 0⟩ else ⟨position.line, position.column + c.utf8Size⟩

/-- The place after `count` bytes of the text, or after the whole text if it is shorter. -/
def afterBytes (position : Position) (count : Nat) : List Char → Position
  | [] => position
  | c :: rest =>
    if c.utf8Size ≤ count then
      afterBytes (position.next c) (count - c.utf8Size) rest
    else
      ⟨position.line, position.column + count⟩

end Position

/-- The number of bytes of a text. -/
def byteCount (chars : List Char) : Nat :=
  chars.foldr (fun c count => c.utf8Size + count) 0

/-- A cause and the place where it arose. -/
structure Located where
  /-- The cause. -/
  cause : Cause
  /-- The place. -/
  position : Position
deriving DecidableEq, Repr

/-- The fault at its place in the whole text. -/
def Fault.locate (text : List Char) (fault : Fault) : Located :=
  ⟨fault.cause,
    Position.start.afterBytes (byteCount text - byteCount fault.rest + fault.ahead) text⟩

/-- The wording of a fault with its place. -/
def Located.message (located : Located) : String :=
  located.cause.message ++ " at line " ++ toString located.position.line ++ " column "
    ++ toString located.position.column

end FlowCompiler.Json
