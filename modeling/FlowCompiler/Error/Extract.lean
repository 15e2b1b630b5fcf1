/-!
# Errors of an extractor

Why an extractor rejects what stands under its keys.
-/

namespace FlowCompiler

/-- The rejection of a value. -/
inductive ExtractError
  /-- The value at the place is not of the kind expected. -/
  | wrongShape (place expected found : String)
  /-- The value at the place is of the right kind but not acceptable. -/
  | invalid (place reason : String)
deriving DecidableEq, Repr

namespace ExtractError

/-- The wording. -/
def message : ExtractError → String
  | .wrongShape place expected found =>
    "'" ++ place ++ "' must be " ++ expected ++ ", found " ++ found
  | .invalid place reason => "'" ++ place ++ "': " ++ reason

end ExtractError

end FlowCompiler
