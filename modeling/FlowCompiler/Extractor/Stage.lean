/-!
# Stages

The moments of a compilation at which extractors run.
-/

namespace FlowCompiler

/-- A moment of a compilation. -/
inductive Stage
  /-- On the executable's document, for what is needed before it runs. -/
  | beforeExecutable
  /-- On the executable's document, for what is needed after it has run. -/
  | afterExecutable
  /-- On the action of an operation. -/
  | action
  /-- On the body of a task, for what is needed before its call. -/
  | beforeTask
  /-- On the body of a task, for what is needed after its call. -/
  | afterTask
deriving DecidableEq, Repr

namespace Stage

/-- All stages in order. -/
def all : List Stage := [beforeExecutable, afterExecutable, action, beforeTask, afterTask]

/-- What a stage is called. -/
def title : Stage → String
  | beforeExecutable => "before-executable"
  | afterExecutable => "after-executable"
  | action => "action"
  | beforeTask => "before-task"
  | afterTask => "after-task"

/-- The stages of an executable's document. -/
def ofExecutable : List Stage := [beforeExecutable, afterExecutable]

/-- The stages of a task's body. -/
def ofTask : List Stage := [beforeTask, afterTask]

end Stage

end FlowCompiler
