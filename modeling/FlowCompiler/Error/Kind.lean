/-!
# Kinds of error

A coarse classification of what can go wrong in a compilation.
-/

namespace FlowCompiler

/-- A class of errors. -/
inductive ErrorKind
  /-- A reserved section is of the wrong kind. -/
  | shape
  /-- A section that must be there is absent or empty. -/
  | missingData
  /-- A key that no extractor claims. -/
  | unknownKeyword
  /-- An alias that the table of aliases does not have. -/
  | reference
  /-- An extractor has rejected what it was given. -/
  | extractor
  /-- The compiled workflow breaks a rule. -/
  | structural
  /-- The text is not a source. -/
  | source
deriving DecidableEq, Repr

/-- What a kind is called. -/
def ErrorKind.title : ErrorKind → String
  | .shape => "Shape"
  | .missingData => "Missing data"
  | .unknownKeyword => "Unknown keyword"
  | .reference => "Reference"
  | .extractor => "Extractor"
  | .structural => "Structure"
  | .source => "Source"

end FlowCompiler
