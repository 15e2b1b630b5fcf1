import FlowCompiler.Json.Reader

/-!
# Outlines

An `Outline` keeps what a text says before it is known what the values are for. It is read more
generously than a document: texts and numbers need no value, keys may repeat, and nesting is not
limited. Values that nobody asks for need no more than that. `Outline.isSound` says whether a value
would also be accepted in a document with so many nested lists and maps left.
-/

namespace FlowCompiler.Json

/-- A value as it is written. -/
inductive Outline
  /-- No value. -/
  | null
  /-- A truth value. -/
  | bool (value : Bool)
  /-- A number, unless it is too large. -/
  | number (value : Option Number)
  /-- A text, unless an escape in it stands for no character. -/
  | text (value : Option String)
  /-- A list. -/
  | list (items : List Outline)
  /-- A map with all its entries. -/
  | map (entries : List (Option String × Outline))

instance : Inhabited Outline := ⟨.null⟩

/-- How outlines are read. -/
def outlineGrammar : Grammar (Option String) Outline where
  text := skipText
  number := fun text => (readNumeral .malformedNumber text).map fun step =>
    step.map fun numeral => .number numeral.value?
  null := .null
  bool := .bool
  ofText := .text
  ofList := .list
  ofMap := .map
  comma := ⟨.noValue, .keyNotText, .endInMap⟩

/-- Reads the outline of a value. A text cannot nest more deeply than it is long. -/
def readOutline : Reader Outline := fun text =>
  outlineGrammar.value text.length text

namespace Outline

/-- The outline of the one value that a text holds, or `none` when it is malformed. -/
def ofText? (text : String) : Option Outline :=
  match readWhole? readOutline text.toList with
  | .ok outline => some outline
  | .error _ => none

mutual

/-- Whether every number is in range, every text and key has characters, and at most `room` lists
and maps are nested. -/
def isSound (room : Nat) : Outline → Bool
  | .null | .bool _ => true
  | .number value => value.isSome
  | .text value => value.isSome
  | .list items =>
    match room with
    | 0 => false
    | room + 1 => areSound room items
  | .map entries =>
    match room with
    | 0 => false
    | room + 1 => areSoundEntries room entries

/-- Whether every item is sound. -/
def areSound (room : Nat) : List Outline → Bool
  | [] => true
  | item :: rest => isSound room item && areSound room rest

/-- Whether every key and every value is sound. -/
def areSoundEntries (room : Nat) : List (Option String × Outline) → Bool
  | [] => true
  | (key, value) :: rest => key.isSome && isSound room value && areSoundEntries room rest

end

end Outline

end FlowCompiler.Json
