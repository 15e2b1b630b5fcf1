/-!
# Diagnostics

What can be wrong with the navigation of a workflow. Each diagnostic is about one task.
-/

namespace FlowCompiler

/-- A flaw in the navigation of a workflow. -/
inductive Diagnostic
  /-- The task sends the label to a target that is neither a task nor an end of the workflow. -/
  | danglingTarget (task label target : String)
  /-- No path leads from the first task to the task. -/
  | unreachable (task first : String)
  /-- The task does not say where to go for the label. -/
  | unhandled (task label : String)
deriving DecidableEq, Repr

namespace Diagnostic

/-- The code of the rule that is broken. -/
def code : Diagnostic → String
  | .danglingTarget .. => "V001"
  | .unreachable .. => "V002"
  | .unhandled .. => "V003"

/-- The task that the diagnostic is about. -/
def task : Diagnostic → String
  | .danglingTarget task _ _ => task
  | .unreachable task _ => task
  | .unhandled task _ => task

/-- The wording without the code. -/
def message : Diagnostic → String
  | .danglingTarget task label target =>
    "Task '" ++ task ++ "' navigates '" ++ label ++ "' to '" ++ target
      ++ "', which is neither a task nor a result"
  | .unreachable task first => "Task '" ++ task ++ "' is not reachable from '" ++ first ++ "'"
  | .unhandled task label => "Task '" ++ task ++ "' has no navigation for '" ++ label ++ "'"

/-- The wording behind the code. -/
def text (diagnostic : Diagnostic) : String :=
  "[" ++ diagnostic.code ++ "] " ++ diagnostic.message

end Diagnostic

end FlowCompiler
