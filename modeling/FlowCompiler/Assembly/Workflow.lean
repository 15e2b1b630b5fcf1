import FlowCompiler.Assembly.Task

/-!
# Assembling a workflow

A map of tasks is compiled in authoring order. A good outcome leads to the next task; a bad one
leads from the main body to the first task of its error section, if there is one. The error section
stands among the tasks under a key of its own and is compiled first, with an error section of its
own if it has one; its tasks follow those of the main body.
-/

namespace FlowCompiler

/-- The part that a map of tasks plays in a flow. -/
inductive SectionRole
  /-- The tasks with which the flow begins. -/
  | main
  /-- The tasks that run after a failure. -/
  | recovery
deriving DecidableEq, Repr

/-- Where a section ends when its last task goes well. -/
def SectionRole.ending : SectionRole → String
  | .main => Outcome.success
  | .recovery => Outcome.failure

/-- The body of a task: the map itself, or the one under the key of a loop, in which case the other
keys do not count. -/
def unwrapBody (name : String) : Json → Except CompileError Document
  | .null => .ok []
  | .map body =>
    match Document.get? body Keyword.loop with
    | none => .ok body
    | some .null => .ok []
    | some (.map inner) => .ok inner
    | some other => .error (.task name (.loopNotMap other.kind))
  | other => .error (.task name (.notMap other.kind))

/-- The error section among the tasks, if there is one that is not empty. -/
def errorSection (unit : String) (tasks : Document) : Except CompileError (Option Document) :=
  match tasks.get? Keyword.onFailure with
  | none | some .null => .ok none
  | some (.map []) => .ok none
  | some (.map (entry :: rest)) => .ok (some (entry :: rest))
  | some other => .error (.workflow unit (.failureNotMap other.kind))

/-- The tasks without the error section among them. -/
def ordinaryTasks (tasks : Document) : Document :=
  tasks.erase Keyword.onFailure

/-- Where a task goes when all is well: to the task after it, or to the end of the section. -/
def successTarget (ending : String) : Document → String
  | [] => ending
  | (next, _) :: _ => next

/-- The tasks of a section in order. All of them go to `failure` when something is wrong. -/
def assembleTasks (scope : Scope) (ending failure : String) :
    Document → Except CompileError (List Task)
  | [] => .ok []
  | (name, body) :: rest => do
    let body ← unwrapBody name body
    let task ← assembleTask scope name body (successTarget ending rest) failure
    let others ← assembleTasks scope ending failure rest
    return task :: others

/-- Where the tasks of a section go when something is wrong. -/
def failureTarget (role : SectionRole) (chain : Option Workflow) : String :=
  match role, chain with
  | .main, some chain => (chain.first.map Task.name).getD Outcome.failure
  | _, _ => Outcome.failure

/-- The workflow of a section without error section, followed by the tasks of the chain. -/
def assembleSection (scope : Scope) (role : SectionRole) (chain : Option Workflow)
    (tasks : Document) : Except CompileError Workflow :=
  if tasks.isEmpty then
    .error (.workflow scope.unit .noTasks)
  else
    (assembleTasks scope role.ending (failureTarget role chain) tasks).map fun assembled =>
      ⟨assembled ++ (chain.map Workflow.tasks).getD []⟩

theorem sizeOf_lt_of_get? {document : Document} {key : String} {inner : Document}
    (h : document.get? key = some (.map inner)) : sizeOf inner < sizeOf document := by
  induction document with
  | nil => simp [Document.get?] at h
  | cons entry rest ih =>
    obtain ⟨other, value⟩ := entry
    simp only [Document.get?, List.lookup_cons] at h
    split at h
    · cases h
      simp only [List.cons.sizeOf_spec, Prod.mk.sizeOf_spec, Json.map.sizeOf_spec]
      omega
    · have := ih h
      simp only [List.cons.sizeOf_spec]
      omega

theorem sizeOf_lt_of_errorSection {unit : String} {tasks inner : Document}
    (h : errorSection unit tasks = .ok (some inner)) : sizeOf inner < sizeOf tasks := by
  unfold errorSection at h
  split at h <;> simp_all only [Except.ok.injEq, Option.some.injEq, reduceCtorEq]
  next hget => exact sizeOf_lt_of_get? hget

/-- The workflow of a map of tasks. An error section among them is compiled as the chain; it must
not be there when a chain is supplied. -/
def assembleWorkflow (scope : Scope) (role : SectionRole) (chain : Option Workflow)
    (tasks : Document) : Except CompileError Workflow :=
  match _h : errorSection scope.unit tasks with
  | .error cause => .error cause
  | .ok none => assembleSection scope role chain (ordinaryTasks tasks)
  | .ok (some inner) =>
    match chain with
    | some _ => .error (.workflow scope.unit .failureTwice)
    | none =>
      match assembleWorkflow scope .recovery none inner with
      | .error cause => .error cause
      | .ok chain => assembleSection scope role (some chain) (ordinaryTasks tasks)
termination_by sizeOf tasks
decreasing_by exact sizeOf_lt_of_errorSection _h

end FlowCompiler
