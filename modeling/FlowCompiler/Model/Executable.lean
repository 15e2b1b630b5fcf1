import FlowCompiler.Model.Workflow

/-!
# Executables

The result of a compilation: a flow with its workflow or an operation with its action, together with
the declarations that both have and the executables that it calls.
-/

namespace FlowCompiler

/-- What an operation does. -/
structure Action where
  /-- The fields of the action. -/
  data : FieldMap
deriving DecidableEq

/-- The kind of a thing that an executable depends on. -/
inductive DependencyKind
  /-- Another executable. -/
  | executable
deriving DecidableEq, Repr

/-- What an executable depends on, by identifier. -/
abbrev Dependencies := SortedMap DependencyKind

/-- What distinguishes flows and operations. -/
inductive Body
  /-- The workflow of a flow. -/
  | flow (workflow : Workflow)
  /-- The action of an operation. -/
  | operation (action : Action)
deriving DecidableEq

/-- A compiled flow or operation. -/
structure Executable where
  /-- The namespace, empty if there is none. -/
  space : String
  /-- The name within the namespace. -/
  name : String
  /-- What it is given. -/
  inputs : List Input
  /-- What it gives back. -/
  outputs : List Output
  /-- The ways in which it may end. -/
  results : List ResultDef
  /-- Further fields that are needed before it runs. -/
  preExecutableData : FieldMap
  /-- Further fields that are needed after it has run. -/
  postExecutableData : FieldMap
  /-- The workflow or the action. -/
  body : Body
  /-- What it depends on. -/
  dependencies : Dependencies
deriving DecidableEq

/-- A name within a namespace; without a namespace it stands alone. -/
def qualified (space name : String) : String :=
  if space.isEmpty then name else space ++ "." ++ name

namespace Executable

/-- The full name. -/
def id (executable : Executable) : String :=
  qualified executable.space executable.name

/-- The workflow of a flow. -/
def workflow? (executable : Executable) : Option Workflow :=
  match executable.body with
  | .flow workflow => some workflow
  | .operation _ => none

/-- The action of an operation. -/
def action? (executable : Executable) : Option Action :=
  match executable.body with
  | .flow _ => none
  | .operation action => some action

/-- Whether the executable is a flow. -/
def isFlow (executable : Executable) : Bool :=
  executable.workflow?.isSome

end Executable

/-- The executables that the tasks of a workflow call. -/
def Workflow.dependencies (workflow : Workflow) : Dependencies :=
  .ofList (workflow.tasks.map fun task => (task.refId, .executable))

end FlowCompiler
