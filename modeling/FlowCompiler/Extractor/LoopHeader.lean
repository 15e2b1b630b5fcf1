import FlowCompiler.Extractor.Basic
import FlowCompiler.Json.Basic
import FlowCompiler.Keyword
import FlowCompiler.Text.Letter
import FlowCompiler.Text.Numeral
import FlowCompiler.Text.Split

/-!
# Loop headers

The header of a loop is a text, `variable in collection` or `key, value in collection`. The first
occurrence of the word between blanks separates the two parts, so the collection may contain it
again.
-/

namespace FlowCompiler.Extractor

/-- What separates the variables from the collection. -/
def loopSeparator : List Char := [' ', 'i', 'n', ' ']

/-- Whether the characters form the name of a loop variable: a letter or an underscore, then
letters, numerals and underscores. -/
def isIdentifier : List Char → Bool
  | [] => false
  | first :: rest =>
    (Text.isLetter first || first == '_')
      && rest.all fun c => Text.isLetter c || Text.isNumeral c || c == '_'

/-- The rejection of a loop header. -/
def badHeader (header reason : String) : ExtractError :=
  .invalid Keyword.header ("'" ++ header ++ "' " ++ reason)

/-- The loop that a header declares. -/
def readLoopHeader (header : String) : Except ExtractError LoopStatement :=
  match Text.splitFirst loopSeparator header.toList with
  | none => .error (badHeader header "must have the form 'var in collection'")
  | some (left, right) =>
    let names := (Text.pieces ',' left).map Text.trimChars
    let collection := Text.trimChars right
    if 2 < names.length || !names.all isIdentifier then
      .error (badHeader header "must declare one or two loop variables")
    else if collection.isEmpty then
      .error (badHeader header "has no collection expression")
    else
      .ok ⟨names.map String.ofList, String.ofList collection⟩

/-- The loop header of a task's body. -/
def extractLoopHeader (document : Document) : Extraction :=
  match document.get? Keyword.header with
  | none => .ok []
  | some (.string header) =>
    (readLoopHeader header).map fun statement => [(Keyword.header, .loop statement)]
  | some other => .error (.wrongShape Keyword.header "a string" other.kind)

/-- The extractor of loop headers. -/
def loopHeader : Extractor where
  name := Keyword.header
  keys := [Keyword.header]
  stages := [.beforeTask]
  extract := extractLoopHeader

end FlowCompiler.Extractor
