import FlowCompiler.Assembly.Task
import FlowCompiler.Model.Executable

/-!
# Assembling an action

The action of an operation consists of the fields that the extractors of its stage produce; no
other keys may occur.
-/

namespace FlowCompiler

/-- The unit of errors in the action of an executable. -/
def actionUnit (name : String) : String :=
  name ++ " " ++ Keyword.action

/-- The action that the document describes. -/
def assembleAction (scope : Scope) (document : Document) : Except CompileError Action := do
  let extractors := scope.registry.stage .action
  validateKeys (actionUnit scope.unit) document extractors []
  let data ← runStage (actionUnit scope.unit) document extractors
  return ⟨data⟩

end FlowCompiler
