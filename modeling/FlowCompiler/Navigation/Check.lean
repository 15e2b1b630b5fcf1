import FlowCompiler.Diagnostic
import FlowCompiler.Navigation.Reach

/-!
# Navigation rules

Three rules for the navigation of a workflow: every target is a task or an end of the workflow,
every task can be reached from the first one, and every task says where to go for both outcomes.
`Workflow.diagnostics` lists what breaks them, rule by rule and within a rule in the order of the
tasks.
-/

namespace FlowCompiler

namespace NavigationGraph

/-- The entries whose target is neither a task nor an end. -/
def danglingTargets (graph : NavigationGraph) (workflow : Workflow) : List Diagnostic :=
  (graph.dangling workflow).map fun passage =>
    .danglingTarget passage.task passage.label passage.target

/-- Whether the node of the name is among the nodes; a name without a node counts as such. -/
def isAmong (graph : NavigationGraph) (nodes : List Nat) (name : String) : Bool :=
  match graph.index.get? name with
  | none => true
  | some node => nodes.contains node

/-- The tasks that cannot be reached from the first one. -/
def unreachableTasks (graph : NavigationGraph) (workflow : Workflow) : List Diagnostic :=
  match workflow.first with
  | none => []
  | some first =>
    match graph.index.get? first.name with
    | none => []
    | some start =>
      let reached := graph.reachable start
      (workflow.names.filter fun name => !graph.isAmong reached name).map fun name =>
        .unreachable name first.name

end NavigationGraph

/-- The outcomes that a task says nothing about. -/
def Task.unhandledOutcomes (task : Task) : List Diagnostic :=
  (Outcome.all.filter fun label => (task.next label).isNone).map fun label =>
    .unhandled task.name label

/-- Everything that is wrong with the navigation of the workflow. -/
def Workflow.diagnostics (workflow : Workflow) : List Diagnostic :=
  let graph := NavigationGraph.build workflow
  graph.danglingTargets workflow ++ graph.unreachableTasks workflow
    ++ workflow.tasks.flatMap Task.unhandledOutcomes

end FlowCompiler
