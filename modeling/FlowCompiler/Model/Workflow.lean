import FlowCompiler.Keyword
import FlowCompiler.Model.Field

/-!
# Workflows

A workflow is a list of tasks, the first of which is where it begins. A task calls an executable
and says, for every outcome of the call, where the workflow goes next.
-/

namespace FlowCompiler

/-- A step of a workflow. -/
structure Task where
  /-- The name. -/
  name : String
  /-- The identifier of the executable that is called. -/
  refId : String
  /-- Where the workflow goes next. -/
  navigation : Navigation
  /-- The fields that are needed before the call. -/
  preTaskData : FieldMap
  /-- The fields that are needed after the call. -/
  postTaskData : FieldMap
deriving DecidableEq

namespace Task

/-- The bindings of the call. -/
def inputs (task : Task) : List Input :=
  ((task.preTaskData.get? Keyword.callee).bind FieldValue.inputs?).getD []

/-- The loop header, if the task is a loop. -/
def loopStatement (task : Task) : Option LoopStatement :=
  (task.preTaskData.get? Keyword.header).bind FieldValue.loop?

/-- The values that the task publishes. -/
def publish (task : Task) : List Output :=
  ((task.postTaskData.get? Keyword.publish).bind FieldValue.outputs?).getD []

/-- Where the workflow goes after an outcome with the label. -/
def next (task : Task) (label : String) : Option String :=
  task.navigation.get? label

end Task

/-- The tasks of a flow: those of the main body, then those of its error sections. -/
structure Workflow where
  /-- The tasks in order. -/
  tasks : List Task
deriving DecidableEq

namespace Workflow

/-- The task at which the workflow begins. -/
def first (workflow : Workflow) : Option Task :=
  workflow.tasks.head?

/-- The first task of the name. -/
def task? (workflow : Workflow) (name : String) : Option Task :=
  workflow.tasks.find? fun task => task.name == name

/-- The number of tasks. -/
def length (workflow : Workflow) : Nat :=
  workflow.tasks.length

/-- Whether the workflow has no task. -/
def isEmpty (workflow : Workflow) : Bool :=
  workflow.tasks.isEmpty

/-- The names of the tasks in order. -/
def names (workflow : Workflow) : List String :=
  workflow.tasks.map Task.name

/-- The first of the names that is among the earlier ones or stands before itself in the list. -/
def firstRepeated? (earlier : List String) : List String → Option String
  | [] => none
  | name :: rest => if name ∈ earlier then some name else firstRepeated? (name :: earlier) rest

/-- The name of the first task in order that has the name of an earlier one. -/
def repeatedName? (workflow : Workflow) : Option String :=
  firstRepeated? [] workflow.names

end Workflow

end FlowCompiler
