import FlowCompiler.Assembly.Action
import FlowCompiler.Assembly.Workflow
import FlowCompiler.Extractor.Standard
import FlowCompiler.Navigation.Check
import FlowCompiler.Options.Basic
import FlowCompiler.Source

/-!
# Assembling an executable

`Compiler.assemble` compiles the document of a flow or an operation: the declarations that both
have, then the workflow or the action, and for a flow the checks that the options ask for.
-/

namespace FlowCompiler

/-- What a compilation depends on besides the source. -/
structure Compiler where
  /-- The extractors. -/
  registry : Registry := .standard
  /-- The checks. -/
  options : Options := {}

/-- Makes the checks of the options, first that of the names. -/
def Options.check (options : Options) (unit : String) (workflow : Workflow) :
    Except CompileError Unit :=
  match options.uniqueTaskNames, workflow.repeatedName? with
  | true, some name => .error (.workflow unit (.repeatedTask name))
  | _, _ =>
    match options.validateNavigation, workflow.diagnostics with
    | true, diagnostic :: _ => .error (.navigation unit diagnostic)
    | _, _ => .ok ()

/-- The tasks of a flow. -/
def flowTasks (unit name : String) (document : Document) : Except CompileError Document :=
  match document.get? Keyword.workflow with
  | none => .error (.executable unit (.noWorkflow name))
  | some .null | some (.map []) => .error (.executable unit (.emptyWorkflow name))
  | some (.map (entry :: rest)) => .ok (entry :: rest)
  | some other => .error (.executable unit (.workflowNotMap name other.kind))

/-- The chain of error sections among the tasks, compiled. -/
def assembleChain (scope : Scope) (tasks : Document) : Except CompileError (Option Workflow) :=
  match errorSection scope.unit tasks with
  | .error cause => .error cause
  | .ok none => .ok none
  | .ok (some inner) => (assembleWorkflow scope .recovery none inner).map some

/-- The workflow of a flow. -/
def assembleFlow (scope : Scope) (options : Options) (unit : String) (document : Document) :
    Except CompileError Workflow := do
  let tasks ← flowTasks unit scope.unit document
  let chain ← assembleChain scope tasks
  let workflow ← assembleWorkflow scope .main chain (ordinaryTasks tasks)
  options.check unit workflow
  return workflow

/-- The document of an operation's action. -/
def actionDocument (unit name : String) (document : Document) : Except CompileError Document :=
  match document.get? Keyword.action with
  | none | some .null | some (.map []) => .error (.executable unit (.noAction name))
  | some (.map (entry :: rest)) => .ok (entry :: rest)
  | some other => .error (.executable unit (.actionNotMap name other.kind))

/-- The action of an operation. -/
def assembleOperation (scope : Scope) (unit : String) (document : Document) :
    Except CompileError Action := do
  let action ← actionDocument unit scope.unit document
  assembleAction scope action

/-- The body of an executable with what it depends on. -/
def assembleBody (scope : Scope) (options : Options) (unit : SourceUnit) (document : Document) :
    Except CompileError (Body × Dependencies) :=
  match unit.kind with
  | .flow => (assembleFlow scope options unit.name document).map fun workflow =>
    (.flow workflow, workflow.dependencies)
  | .operation => (assembleOperation scope unit.name document).map fun action =>
    (.operation action, .empty)
  | .systemProperties => .error (.executable unit.name .unsupportedKind)

/-- The values that a field of the map declares; none if the field is absent or of another kind. -/
def declared {α : Type} (fields : FieldMap) (key : String)
    (values? : FieldValue → Option (List α)) : List α :=
  ((fields.get? key).bind values?).getD []

namespace Compiler

/-- The executable of the name that the document of the unit describes. -/
def assemble (compiler : Compiler) (unit : SourceUnit) (name : String) (document : Document) :
    Except CompileError Executable := do
  if document.isEmpty then
    .error (.executable unit.name (.empty name))
  else
    let registry := compiler.registry
    validateKeys name document (registry.stages Stage.ofExecutable) Keyword.ofExecutable
    let before ← runStage name document (registry.stage .beforeExecutable)
    let after ← runStage name document (registry.stage .afterExecutable)
    let scope : Scope := ⟨registry, unit.imports, name⟩
    let inputs ← scope.resolveInputs unit.name (declared before Keyword.inputs FieldValue.inputs?)
    let (body, dependencies) ← assembleBody scope compiler.options unit document
    return {
      space := unit.space
      name := name
      inputs := inputs
      outputs := declared after Keyword.outputs FieldValue.outputs?
      results := declared after Keyword.results FieldValue.results?
      preExecutableData := before.erase Keyword.inputs
      postExecutableData := (after.erase Keyword.outputs).erase Keyword.results
      body := body
      dependencies := dependencies }

/-- The executable of a source. -/
def compileSource (compiler : Compiler) (source : Source) : Except CompileError Executable :=
  compiler.assemble source.unit source.executableName source.document

end Compiler

end FlowCompiler
