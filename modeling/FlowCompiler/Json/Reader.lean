import FlowCompiler.Json.Grammar
import FlowCompiler.Json.Numeral
import FlowCompiler.Json.Text

/-!
# Reading documents

`Json.read` reads the one value that a text must hold. Every text in it must have characters, every
number must be in range, and at most `nestingLimit` lists and maps may be nested.
-/

namespace FlowCompiler.Json

/-- The number of lists and maps that may be nested in each other. -/
def nestingLimit : Nat := 127

/-- How the values of a document are read. -/
def documentGrammar : Grammar String Json where
  text := readText
  number := Reader.map .number readNumber
  null := .null
  bool := .bool
  ofText := .string
  ofList := .list
  ofMap := fun entries => .map (Document.ofEntries entries)
  comma := ⟨.commaBeforeEnd, .commaBeforeEnd, .endInValue⟩

/-- Reads with the reader; nothing but white space may follow. -/
def readWhole? {α : Type} (reader : Reader α) (text : List Char) : Except Fault α :=
  match reader text with
  | .error fault => .error fault
  | .ok step =>
    match skipSpace step.rest with
    | [] => .ok step.value
    | rest => .error (.peek .moreText rest)

/-- Reads with the reader; a fault comes with its place. -/
def locating {α : Type} (reader : Reader α) (text : String) : Except Located α :=
  (readWhole? reader text.toList).mapError (Fault.locate text.toList)

/-- The value that a text holds. -/
def read (text : String) : Except Located Json :=
  locating (documentGrammar.value nestingLimit) text

end FlowCompiler.Json
