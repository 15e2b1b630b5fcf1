/-!
# Reserved words

The keys that the flow language gives a meaning to, and the two labels that a task's outcome may
have. The labels also mark the ends of a workflow.
-/

namespace FlowCompiler

/-! ## Keys of a source -/

namespace Keyword

/-- The namespace of the executable. -/
def space : String := "namespace"

/-- The table of aliases. -/
def importTable : String := "imports"

/-- A flow: a workflow of tasks. -/
def flow : String := "flow"

/-- An operation: a single action. -/
def operation : String := "operation"

/-- A set of system properties. In an input, the property that supplies its value. -/
def systemProperty : String := "system_property"

/-! ## Keys of an executable -/

/-- The name of the executable. -/
def name : String := "name"

/-- What the executable is given. -/
def inputs : String := "inputs"

/-- What the executable gives back. -/
def outputs : String := "outputs"

/-- The ways in which the executable may end. -/
def results : String := "results"

/-- The tasks of a flow. -/
def workflow : String := "workflow"

/-- What an operation does. -/
def action : String := "action"

/-- The tasks that run when a task of the section has failed. -/
def onFailure : String := "on_failure"

/-! ## Keys of a task -/

/-- The executable that the task calls, with its bindings. -/
def callee : String := "do"

/-- The body of a task that runs once for every element. -/
def loop : String := "loop"

/-- The header of a loop. -/
def header : String := "for"

/-- The values that the task makes known to later ones. -/
def publish : String := "publish"

/-- The task that follows, for every outcome. -/
def navigate : String := "navigate"

/-! ## Properties of an input -/

/-- The value that is used when none is given. -/
def defaultValue : String := "default"

/-- Whether a value must be there. -/
def required : String := "required"

/-- Whether the value is kept secret. -/
def encrypted : String := "encrypted"

/-- Whether the caller's value is overridden. -/
def override : String := "override"

/-! ## Keys of an action -/

/-- A call of a Java method. -/
def javaAction : String := "java_action"

/-- A Python script. -/
def pythonScript : String := "python_script"

/-- The class of the method. -/
def className : String := "className"

/-- The name of the method. -/
def methodName : String := "methodName"

/-! ## Keys without an extractor -/

/-- The keys that a task body may have whatever the extractors are. -/
def ofTask : List String := [loop, callee, navigate]

/-- The keys that an executable may have whatever the extractors are. -/
def ofExecutable : List String := [action, workflow, name]

end Keyword

/-! ## Outcomes -/

namespace Outcome

/-- The label of a good outcome, and the end of a workflow that has gone well. -/
def success : String := "SUCCESS"

/-- The label of a bad outcome, and the end of a workflow that has failed. -/
def failure : String := "FAILURE"

/-- Both labels. -/
def all : List String := [success, failure]

/-- Whether the target is one of the two ends of a workflow. -/
def isTerminal (target : String) : Bool :=
  target == success || target == failure

end Outcome

end FlowCompiler
