import FlowCompiler.Diagnostic
import FlowCompiler.Error.Extract
import FlowCompiler.Error.Kind
import FlowCompiler.Error.Reference
import FlowCompiler.Error.Source

/-!
# Errors

Every way in which a compilation can fail, with its code, its kind, the unit it is about and its
wording. An error keeps the cause as a value; the wording is made from it on demand.
-/

namespace FlowCompiler

/-- A flaw of an executable's document. `name` is the name of the executable. -/
inductive ExecutableError
  /-- The unit is neither a flow nor an operation. -/
  | unsupportedKind
  /-- The document is empty. -/
  | empty (name : String)
  /-- A flow without a workflow. -/
  | noWorkflow (name : String)
  /-- A flow whose workflow is not a map. -/
  | workflowNotMap (name found : String)
  /-- A flow whose workflow is empty. -/
  | emptyWorkflow (name : String)
  /-- An operation whose action is not a map. -/
  | actionNotMap (name found : String)
  /-- An operation without an action. -/
  | noAction (name : String)
deriving DecidableEq, Repr

/-- A flaw of a map of tasks. -/
inductive WorkflowError
  /-- There is no task. -/
  | noTasks
  /-- Two tasks have one name. -/
  | repeatedTask (task : String)
  /-- The error section is not a map. -/
  | failureNotMap (found : String)
  /-- An error section where one has been given already. -/
  | failureTwice
deriving DecidableEq, Repr

/-- A flaw of a task's body. -/
inductive TaskError
  /-- The body is empty. -/
  | empty
  /-- The body is not a map. -/
  | notMap (found : String)
  /-- The body of the loop is not a map. -/
  | loopNotMap (found : String)
  /-- The task calls nothing. -/
  | noCallee
  /-- What the task calls is not given by a map. -/
  | calleeNotMap
  /-- The task calls more than one executable. -/
  | manyCallees
deriving DecidableEq, Repr

/-- A failed compilation. -/
inductive CompileError
  /-- The text is no source. -/
  | source (cause : SourceError)
  /-- The text of the options cannot be read. -/
  | options (fault : Json.Located)
  /-- The executable cannot be compiled. -/
  | executable (unit : String) (cause : ExecutableError)
  /-- A map of tasks cannot be compiled. -/
  | workflow (unit : String) (cause : WorkflowError)
  /-- A task cannot be compiled. -/
  | task (name : String) (cause : TaskError)
  /-- A key that nothing claims. -/
  | unknownKeyword (unit key : String)
  /-- A reference without a meaning; the unit is known once the place of the reference is. -/
  | reference (unit : Option String) (cause : ReferenceError)
  /-- An extractor has rejected what it was given. -/
  | extraction (unit : String) (cause : ExtractError)
  /-- The navigation of the workflow has a flaw. -/
  | navigation (unit : String) (diagnostic : Diagnostic)
deriving DecidableEq, Repr

namespace ExecutableError

/-- The code of the rule that is broken. -/
def code : ExecutableError → String
  | .unsupportedKind => "A001"
  | .empty _ => "A002"
  | .noWorkflow _ => "A003"
  | .workflowNotMap .. => "A004"
  | .emptyWorkflow _ => "A005"
  | .actionNotMap .. => "A007"
  | .noAction _ => "A008"

/-- The class of the error. -/
def kind : ExecutableError → ErrorKind
  | .unsupportedKind => .structural
  | .workflowNotMap .. | .actionNotMap .. => .shape
  | .empty _ | .noWorkflow _ | .emptyWorkflow _ | .noAction _ => .missingData

/-- The wording without the unit. -/
def message : ExecutableError → String
  | .unsupportedKind => "It is not of flow or operation type"
  | .empty name => "Executable data for '" ++ name ++ "' is empty"
  | .noWorkflow name => "Flow '" ++ name ++ "' has no '" ++ Keyword.workflow ++ "' property"
  | .workflowNotMap name found =>
    "Flow '" ++ name ++ "': below '" ++ Keyword.workflow
      ++ "' there should be a map of tasks, found " ++ found
  | .emptyWorkflow name => "Flow '" ++ name ++ "' has no workflow data"
  | .actionNotMap name found =>
    "Operation '" ++ name ++ "': below '" ++ Keyword.action ++ "' there should be a map such as '"
      ++ Keyword.pythonScript ++ ":' or '" ++ Keyword.javaAction ++ ":', found " ++ found
  | .noAction name => "Operation '" ++ name ++ "' has no action data"

end ExecutableError

namespace WorkflowError

/-- The code of the rule that is broken. -/
def code : WorkflowError → String
  | .noTasks => "W001"
  | .repeatedTask _ => "W002"
  | .failureNotMap _ => "W003"
  | .failureTwice => "W004"

/-- The class of the error. -/
def kind : WorkflowError → ErrorKind
  | .noTasks => .missingData
  | .repeatedTask _ => .structural
  | .failureNotMap _ | .failureTwice => .shape

/-- The wording without the unit. -/
def message : WorkflowError → String
  | .noTasks => "A workflow must have tasks"
  | .repeatedTask task => "Task name '" ++ task ++ "' is used more than once in the workflow"
  | .failureNotMap found =>
    "Below '" ++ Keyword.onFailure ++ "' there should be a map of tasks, found " ++ found
  | .failureTwice => "'" ++ Keyword.onFailure ++ "' is declared more than once"

end WorkflowError

namespace TaskError

/-- The code of the rule that is broken. -/
def code : TaskError → String
  | .empty => "T001"
  | .notMap _ => "T002"
  | .loopNotMap _ => "T003"
  | .noCallee => "T004"
  | .calleeNotMap | .manyCallees => "T005"

/-- The class of the error. -/
def kind : TaskError → ErrorKind
  | .empty | .noCallee => .missingData
  | .notMap _ | .loopNotMap _ | .calleeNotMap | .manyCallees => .shape

/-- The wording without the unit, which is the task. -/
def message (name : String) : TaskError → String
  | .empty => "Task '" ++ name ++ "' has no data"
  | .notMap found =>
    "Task '" ++ name ++ "' must be a map holding '" ++ Keyword.callee
      ++ ": \x7bop_name: ...\x7d', found " ++ found
  | .loopNotMap found =>
    "Task '" ++ name ++ "': '" ++ Keyword.loop ++ "' must be a map holding '" ++ Keyword.header
      ++ "' and '" ++ Keyword.callee ++ "', found " ++ found
  | .noCallee => "Task '" ++ name ++ "' has no reference information"
  | .calleeNotMap =>
    "Task '" ++ name ++ "': '" ++ Keyword.callee
      ++ "' must map one executable reference to its bindings"
  | .manyCallees =>
    "Task '" ++ name ++ "': '" ++ Keyword.callee ++ "' must reference exactly one executable"

end TaskError

namespace CompileError

/-- The code of the rule that is broken. -/
def code : CompileError → String
  | .source cause => cause.code
  | .options _ => "P004"
  | .executable _ cause => cause.code
  | .workflow _ cause => cause.code
  | .task _ cause => cause.code
  | .unknownKeyword .. => "K001"
  | .reference _ cause => cause.code
  | .extraction .. => "X001"
  | .navigation _ diagnostic => diagnostic.code

/-- The class of the error. -/
def kind : CompileError → ErrorKind
  | .source _ | .options _ => .source
  | .executable _ cause => cause.kind
  | .workflow _ cause => cause.kind
  | .task _ cause => cause.kind
  | .unknownKeyword .. => .unknownKeyword
  | .reference .. => .reference
  | .extraction .. => .extractor
  | .navigation .. => .structural

/-- The executable or the task that the error is about, if it is known. -/
def unit? : CompileError → Option String
  | .source _ | .options _ => none
  | .executable unit _ | .workflow unit _ | .task unit _ | .unknownKeyword unit _
  | .extraction unit _ | .navigation unit _ => some unit
  | .reference unit _ => unit

/-- What is said about a unit that does not compile. -/
def compiling (unit reason : String) : String :=
  "Error compiling " ++ unit ++ ". " ++ reason

/-- The wording. -/
def message : CompileError → String
  | .source cause => "[" ++ cause.code ++ "] " ++ cause.message
  | .options fault => "[P004] Failed to parse builder config JSON: " ++ fault.message
  | .executable unit cause => compiling unit cause.message
  | .workflow unit cause => compiling unit cause.message
  | .task name cause => compiling name (cause.message name)
  | .unknownKeyword unit key => compiling unit ("Unrecognized keyword: '" ++ key ++ "'")
  | .reference _ cause => cause.message
  | .extraction unit cause => "For " ++ unit ++ " syntax is illegal.\n" ++ cause.message
  | .navigation unit diagnostic => compiling unit diagnostic.text

/-- The error with the unit filled in, if that is not known yet. -/
def inUnit (unit : String) : CompileError → CompileError
  | .reference none cause => .reference (some unit) cause
  | error => error

end CompileError

end FlowCompiler
