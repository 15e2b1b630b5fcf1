import FlowCompiler.Json.Fault
import FlowCompiler.Keyword
import FlowCompiler.Text.Quoted

/-!
# Errors of a source

Why a text cannot be taken apart into a unit and a document.
-/

namespace FlowCompiler

/-- A flaw of a source text. The kinds found are given by name. -/
inductive SourceError
  /-- The text is no document. -/
  | malformed (fault : Json.Located)
  /-- The document is not a map. -/
  | notMap (found : String)
  /-- The namespace is not a text. -/
  | spaceNotText (found : String)
  /-- The table of aliases is not a map. -/
  | importsNotMap (found : String)
  /-- An alias does not name a namespace. -/
  | importNotText (target found : String)
  /-- Not exactly one key is left. -/
  | notOneExecutable (keys : List String)
  /-- The key that is left is no kind of source. -/
  | unknownType (key : String)
  /-- The executable is not a map. -/
  | bodyNotMap (key found : String)
  /-- The executable has no name. -/
  | unnamed (key : String)
deriving DecidableEq, Repr

namespace SourceError

/-- The code of the rule that is broken. -/
def code : SourceError → String
  | .malformed _ | .notMap _ => "P001"
  | .importsNotMap _ | .importNotText .. => "P003"
  | .spaceNotText _ | .notOneExecutable _ | .unknownType _ | .bodyNotMap .. | .unnamed _ => "P002"

/-- The wording without the code. -/
def message : SourceError → String
  | .malformed fault => "Failed to parse source JSON: " ++ fault.message
  | .notMap found => "Source must be a map, found " ++ found
  | .spaceNotText found => "'" ++ Keyword.space ++ "' must be a string, found " ++ found
  | .importsNotMap found =>
    "'" ++ Keyword.importTable ++ "' must be a map of aliases, found " ++ found
  | .importNotText target found =>
    "Import '" ++ target ++ "' must name a namespace string, found " ++ found
  | .notOneExecutable keys =>
    "Source must declare exactly one of '" ++ Keyword.flow ++ "', '" ++ Keyword.operation
      ++ "' or '" ++ Keyword.systemProperty ++ "', found " ++ Text.quotedList keys
  | .unknownType key => "Unrecognized source type '" ++ key ++ "'"
  | .bodyNotMap key found => "'" ++ key ++ "' must be a map, found " ++ found
  | .unnamed key => "'" ++ key ++ "' must declare a string '" ++ Keyword.name ++ "'"

end SourceError

end FlowCompiler
