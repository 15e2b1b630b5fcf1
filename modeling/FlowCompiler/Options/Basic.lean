/-!
# Options

The checks that a compiled flow must pass. They never change what is compiled.
-/

namespace FlowCompiler

/-- Which checks are made. -/
structure Options where
  /-- No two tasks of a flow may have one name, be they in the main body or in error sections. -/
  uniqueTaskNames : Bool := true
  /-- The navigation of a flow must break no rule. -/
  validateNavigation : Bool := false
deriving DecidableEq, Repr, Inhabited

end FlowCompiler
