/-!
# Errors of a reference

Why a reference cannot be resolved.
-/

namespace FlowCompiler

/-- A reference without a meaning. -/
inductive ReferenceError
  /-- The table of aliases does not have the alias. -/
  | unresolvedAlias (target reference : String)
  /-- There is no table of aliases. -/
  | noImports (reference : String)
deriving DecidableEq, Repr

namespace ReferenceError

/-- The code of the rule that is broken. -/
def code : ReferenceError → String
  | .unresolvedAlias .. => "R001"
  | .noImports _ => "R002"

/-- The wording. -/
def message : ReferenceError → String
  | .unresolvedAlias target reference =>
    "Unresolved alias: " ++ target ++ " (in reference '" ++ reference ++ "')"
  | .noImports reference => "No imports specified for source: " ++ reference

end ReferenceError

end FlowCompiler
