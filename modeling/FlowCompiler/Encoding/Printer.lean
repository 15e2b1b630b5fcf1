import FlowCompiler.Json.Printer
import FlowCompiler.Model.Executable
import FlowCompiler.SourceUnit

/-!
# Encoding the model

Every type of the model as a document: a record is the map of its fields in their order, a missing
value is `null`, a sorted map keeps its order. A field value is wrapped in a map that names its
variant; the body of an executable names its kind beside its content.
-/

namespace FlowCompiler

namespace Encoding

/-- A text that may be missing. -/
def optionalText : Option String → Json
  | none => .null
  | some text => .string text

/-- A sorted map. -/
def sortedMap {α : Type} (encode : α → Json) (map : SortedMap α) : Json :=
  .map (map.entries.map fun entry => (entry.1, encode entry.2))

/-- A list. -/
def list {α : Type} (encode : α → Json) (items : List α) : Json :=
  .list (items.map encode)

/-- The name of a kind of unit. -/
def unitKind : UnitKind → String
  | .flow => "flow"
  | .operation => "operation"
  | .systemProperties => "system_properties"

/-- The name of a kind of dependency. -/
def dependencyKind : DependencyKind → String
  | .executable => "EXECUTABLE"

/-- The name of a variant of field values. -/
def variant : FieldValue → String
  | .inputs _ => "inputs"
  | .outputs _ => "outputs"
  | .results _ => "results"
  | .navigation _ => "navigation"
  | .loop _ => "loop"
  | .javaAction _ => "java_action"
  | .pythonScript _ => "python_script"

end Encoding

open Encoding

/-- The encoding of an input. -/
def Input.encode (input : Input) : Json :=
  .map [("name", .string input.name), ("expression", optionalText input.expression),
    ("required", .bool input.required), ("encrypted", .bool input.encrypted),
    ("overridable", .bool input.overridable),
    ("system_property", optionalText input.systemProperty)]

/-- The encoding of an output. -/
def Output.encode (output : Output) : Json :=
  .map [("name", .string output.name), ("expression", optionalText output.expression)]

/-- The encoding of a result. -/
def ResultDef.encode (result : ResultDef) : Json :=
  .map [("name", .string result.name), ("expression", optionalText result.expression)]

/-- The encoding of a loop header. -/
def LoopStatement.encode (statement : LoopStatement) : Json :=
  .map [("variables", list .string statement.names),
    ("collection", .string statement.collection)]

/-- The encoding of a method call. -/
def JavaAction.encode (action : JavaAction) : Json :=
  .map [("class_name", .string action.className), ("method_name", .string action.methodName)]

/-- The encoding of what a field value holds. -/
def FieldValue.content : FieldValue → Json
  | .inputs held => list Input.encode held
  | .outputs held => list Output.encode held
  | .results held => list ResultDef.encode held
  | .navigation held => sortedMap .string held
  | .loop held => held.encode
  | .javaAction held => held.encode
  | .pythonScript held => .string held

/-- The encoding of a field value. -/
def FieldValue.encode (field : FieldValue) : Json :=
  .map [("type", .string (variant field)), ("value", field.content)]

/-- The encoding of fields by name. -/
def Encoding.fieldMap (fields : FieldMap) : Json :=
  sortedMap FieldValue.encode fields

/-- The encoding of a task. -/
def Task.encode (task : Task) : Json :=
  .map [("name", .string task.name), ("ref_id", .string task.refId),
    ("navigation", sortedMap .string task.navigation),
    ("pre_task_data", fieldMap task.preTaskData), ("post_task_data", fieldMap task.postTaskData)]

/-- The encoding of a workflow. -/
def Workflow.encode (workflow : Workflow) : Json :=
  .map [("tasks", list Task.encode workflow.tasks)]

/-- The encoding of an action. -/
def Action.encode (action : Action) : Json :=
  .map [("data", fieldMap action.data)]

/-- The encoding of a body. -/
def Body.encode : Body → Json
  | .flow workflow => .map [("kind", .string "flow"), ("workflow", workflow.encode)]
  | .operation action => .map [("kind", .string "operation"), ("action", action.encode)]

/-- The encoding of what an executable depends on. -/
def Encoding.dependencyMap (dependencies : Dependencies) : Json :=
  sortedMap (fun kind => .string (dependencyKind kind)) dependencies

/-- The encoding of an executable. -/
def Executable.encode (executable : Executable) : Json :=
  .map [("namespace", .string executable.space), ("name", .string executable.name),
    ("inputs", list Input.encode executable.inputs),
    ("outputs", list Output.encode executable.outputs),
    ("results", list ResultDef.encode executable.results),
    ("pre_executable_data", fieldMap executable.preExecutableData),
    ("post_executable_data", fieldMap executable.postExecutableData),
    ("body", executable.body.encode), ("dependencies", dependencyMap executable.dependencies)]

/-- The encoding of a table of aliases that may be missing. -/
def Encoding.optionalImports : Option Imports → Json
  | none => .null
  | some imports => sortedMap .string imports

/-- The encoding of a unit. -/
def SourceUnit.encode (unit : SourceUnit) : Json :=
  .map [("name", .string unit.name), ("kind", .string (unitKind unit.kind)),
    ("namespace", .string unit.space), ("imports", optionalImports unit.imports)]

end FlowCompiler
