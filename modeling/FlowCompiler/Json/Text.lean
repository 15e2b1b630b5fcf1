import FlowCompiler.Json.Step

/-!
# Quoted texts

Two readers of a quoted text, both starting behind the opening quote. `readText` gives its
characters and insists that every escape stands for one: the two halves of a surrogate pair must
follow each other. `skipText` only finds the end; it gives the characters when there are such, and
`none` otherwise.
-/

namespace FlowCompiler.Json

/-- The value of a hexadecimal digit, in either case. -/
def hexValue? (c : Char) : Option Nat :=
  if '0' ≤ c ∧ c ≤ '9' then some (c.toNat - '0'.toNat)
  else if 'a' ≤ c ∧ c ≤ 'f' then some (c.toNat - 'a'.toNat + 10)
  else if 'A' ≤ c ∧ c ≤ 'F' then some (c.toNat - 'A'.toNat + 10)
  else none

/-- The number that four hexadecimal digits stand for. -/
def hexCode? (a b c d : Char) : Option Nat := do
  let a ← hexValue? a
  let b ← hexValue? b
  let c ← hexValue? c
  let d ← hexValue? d
  return ((a * 16 + b) * 16 + c) * 16 + d

/-- Reads four hexadecimal digits. Fewer than four bytes before the end of the text count as an
unfinished text. -/
def readHexCode : Reader Nat := fun text =>
  if byteCount (text.take 4) < 4 then
    .error (.behind .endInText [])
  else
    match text with
    | a :: b :: c :: d :: rest =>
      match hexCode? a b c d with
      | some code => .ok (Step.one code).afterChar.afterChar.afterChar
      | none => .error ⟨.unknownEscape, a :: b :: c :: d :: rest, 4⟩
    | _ => .error ⟨.unknownEscape, text, 4⟩

/-- Whether the code is the first half of a surrogate pair. -/
def isLeading (code : Nat) : Bool :=
  0xD800 ≤ code && code ≤ 0xDBFF

/-- Whether the code is the second half of a surrogate pair. -/
def isTrailing (code : Nat) : Bool :=
  0xDC00 ≤ code && code ≤ 0xDFFF

/-- The character of a surrogate pair. -/
def pairChar (leading trailing : Nat) : Char :=
  Char.ofNat ((leading - 0xD800) * 0x400 + (trailing - 0xDC00) + 0x10000)

/-- Reads the escape that must follow the first half of a surrogate pair. -/
def readSecondHalf (leading : Nat) : Reader Char
  | '\\' :: 'u' :: rest =>
    match readHexCode rest with
    | .error fault => .error fault
    | .ok step =>
      if isTrailing step.value then
        .ok (step.map (pairChar leading)).afterChar.afterChar
      else
        .error (.behind .loneSurrogate step.rest)
  | [] => .error (.behind .endInText [])
  | ['\\'] => .error (.behind .endInText [])
  | '\\' :: rest => .error (.peek .unfinishedPair rest)
  | rest => .error (.peek .unfinishedPair rest)

/-- Reads the character that an escape by code stands for, from the first digit on. -/
def readCodeEscape : Reader Char := fun text =>
  match readHexCode text with
  | .error fault => .error fault
  | .ok ⟨code, rest, shorter⟩ =>
    if isTrailing code then
      .error (.behind .loneSurrogate rest)
    else if isLeading code then
      (readSecondHalf code rest).map (Step.after shorter)
    else
      .ok ⟨Char.ofNat code, rest, shorter⟩

/-- The character that a letter behind a backslash stands for. -/
def shortEscape? (c : Char) : Option Char :=
  match c with
  | '"' => some '"'
  | '\\' => some '\\'
  | '/' => some '/'
  | 'b' => some '\x08'
  | 'f' => some '\x0c'
  | 'n' => some '\n'
  | 'r' => some '\r'
  | 't' => some '\t'
  | _ => none

/-- Reads what stands behind a backslash; `code` reads an escape by code. -/
def readEscape (code : Reader Char) : Reader Char
  | [] => .error (.behind .endInText [])
  | 'u' :: rest => (code rest).map Step.afterChar
  | c :: rest =>
    match shortEscape? c with
    | some escaped => .ok (.one escaped)
    | none => .error (.peek .unknownEscape (c :: rest))

/-- Reads the character at the front of a quoted text, or the closing quote. -/
def readPiece : Reader (Option Char)
  | [] => .error (.behind .endInText [])
  | '"' :: _ => .ok (.one none)
  | '\\' :: rest => (readEscape readCodeEscape rest).map fun step =>
    (step.map some).afterChar
  | c :: rest =>
    if c.toNat < 0x20 then
      .error (.peek .rawControl (c :: rest))
    else
      .ok (.one (some c))

/-- Reads the characters of a quoted text and its closing quote. -/
def readText : Reader String :=
  Reader.map String.ofList (Reader.many readPiece [])

/-- Skips the character at the front of a quoted text, or the closing quote. Any four digits make an
escape by code. -/
def skipPiece : Reader (Option Unit)
  | [] => .error (.behind .endInText [])
  | '"' :: _ => .ok (.one none)
  | '\\' :: rest => (readEscape (Reader.map Char.ofNat readHexCode) rest).map fun step =>
    (step.map fun _ => some ()).afterChar
  | c :: rest =>
    if c.toNat < 0x20 then
      .error (.behind .rawControl (c :: rest))
    else
      .ok (.one (some ()))

/-- Finds the end of a quoted text; gives its characters if `readText` can read them. -/
def skipText : Reader (Option String) := fun text =>
  (Reader.many skipPiece [] text).map fun step =>
    step.map fun _ =>
      match readText text with
      | .ok whole => some whole.value
      | .error _ => none

end FlowCompiler.Json
