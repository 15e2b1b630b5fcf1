import FlowCompiler.Extractor.Registry
import FlowCompiler.Extractor.Run
import FlowCompiler.Model.Workflow
import FlowCompiler.Reference

/-!
# Assembling a task

A task is made from its body, which has already been taken out of a loop. The body must call
exactly one executable; the reference to it and the system properties among the bindings are
resolved. Unless the body says where the workflow goes next, it goes to the targets supplied.
-/

namespace FlowCompiler

/-- What everything that is compiled for one executable has in common. -/
structure Scope where
  /-- The extractors. -/
  registry : Registry
  /-- The table of aliases, if there is one. -/
  imports : Option Imports
  /-- The name of the executable, which is the unit of errors that are not about a task. -/
  unit : String

namespace Scope

/-- What a reference stands for; in an error the reference belongs to the unit. -/
def resolve (scope : Scope) (unit reference : String) : Except CompileError String :=
  (Reference.resolve scope.imports reference).mapError fun cause =>
    (CompileError.reference none cause).inUnit unit

/-- The inputs with their system properties resolved; in an error these belong to the unit. -/
def resolveInputs (scope : Scope) (unit : String) (inputs : List Input) :
    Except CompileError (List Input) :=
  (Reference.resolveAll scope.imports inputs).mapError fun cause =>
    (CompileError.reference none cause).inUnit unit

end Scope

/-- The targets of a task that says nothing about where to go. -/
def defaultNavigation (success failure : String) : Navigation :=
  .ofList [(Outcome.success, success), (Outcome.failure, failure)]

/-- The navigation that the fields of a task hold, if it is not empty. -/
def authoredNavigation? (fields : FieldMap) : Option Navigation :=
  ((fields.get? Keyword.navigate).bind FieldValue.navigation?).filter fun navigation =>
    !navigation.isEmpty

/-- The reference to the one executable that a task calls. -/
def calleeReference (name : String) (body : Document) : Except CompileError String :=
  match body.get? Keyword.callee with
  | none | some .null => .error (.task name .noCallee)
  | some (.map []) => .error (.task name .noCallee)
  | some (.map [(reference, _)]) => .ok reference
  | some (.map _) => .error (.task name .manyCallees)
  | some _ => .error (.task name .calleeNotMap)

/-- The fields with the system properties among the bindings resolved. -/
def resolveBindings (scope : Scope) (name : String) (fields : FieldMap) :
    Except CompileError FieldMap :=
  match (fields.get? Keyword.callee).bind FieldValue.inputs? with
  | none => .ok fields
  | some inputs =>
    (scope.resolveInputs name inputs).map fun resolved =>
      fields.insert Keyword.callee (.inputs resolved)

/-- The task of the name with the body. -/
def assembleTask (scope : Scope) (name : String) (body : Document)
    (success failure : String) : Except CompileError Task := do
  if body.isEmpty then
    .error (.task name .empty)
  else
    validateKeys name body (scope.registry.stages Stage.ofTask) Keyword.ofTask
    let before ← runStage name body (scope.registry.stage .beforeTask)
    let after ← runStage name body (scope.registry.stage .afterTask)
    let before ← resolveBindings scope name before
    let reference ← calleeReference name body
    let refId ← scope.resolve name reference
    let navigation := (authoredNavigation? after).getD (defaultNavigation success failure)
    return ⟨name, refId, navigation, before, after⟩

end FlowCompiler
