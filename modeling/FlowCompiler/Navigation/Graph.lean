import FlowCompiler.Model.Workflow

/-!
# The navigation graph

The graph of a workflow has a node for every task and one for each end of the workflow that some
task goes to, and an edge for every navigation entry whose target has a node. Nodes are numbered:
the tasks in order, then the ends in the order in which they are first used. Tasks that share a
name each have a node, but `index` gives the first one, so all edges join that.
-/

namespace FlowCompiler

/-- A navigation entry whose target has a node. -/
structure Edge where
  /-- The number of the task's node. -/
  source : Nat
  /-- The label of the outcome. -/
  label : String
  /-- The number of the target's node. -/
  target : Nat
deriving DecidableEq, Repr

/-- The tasks and ends of a workflow with the ways between them. -/
structure NavigationGraph where
  /-- The names of the nodes, by number. -/
  nodes : List String
  /-- The edges in the order of the navigation entries. -/
  edges : List Edge
  /-- The least number of a node of the name. -/
  index : SortedMap Nat
deriving DecidableEq

/-- A navigation entry: a task, the label of an outcome, and the target. -/
structure Passage where
  /-- The name of the task. -/
  task : String
  /-- The label of the outcome. -/
  label : String
  /-- Where the task goes for it. -/
  target : String
deriving DecidableEq, Repr

/-- The navigation entries of a workflow, in the order of the tasks and then of the labels. -/
def Workflow.passages (workflow : Workflow) : List Passage :=
  workflow.tasks.flatMap fun task =>
    task.navigation.entries.map fun entry => ⟨task.name, entry.1, entry.2⟩

namespace NavigationGraph

/-- The graph without nodes. -/
def empty : NavigationGraph := ⟨[], [], .empty⟩

/-- The graph with one more node. The index keeps an earlier node of the name. -/
def addNode (graph : NavigationGraph) (name : String) : NavigationGraph :=
  { graph with
    nodes := graph.nodes ++ [name]
    index :=
      if graph.index.contains name then graph.index
      else graph.index.insert name graph.nodes.length }

/-- The graph with a node for the name, if that is an end of workflows and has none yet. -/
def addEnd (graph : NavigationGraph) (name : String) : NavigationGraph :=
  if !graph.index.contains name && Outcome.isTerminal name then graph.addNode name else graph

/-- The graph with an edge between the nodes of the two names, if there are such. -/
def addEdge (graph : NavigationGraph) (passage : Passage) : NavigationGraph :=
  match graph.index.get? passage.task, graph.index.get? passage.target with
  | some source, some target =>
    { graph with edges := graph.edges ++ [⟨source, passage.label, target⟩] }
  | _, _ => graph

/-- The graph with a navigation entry added. -/
def addPassage (graph : NavigationGraph) (passage : Passage) : NavigationGraph :=
  (graph.addEnd passage.target).addEdge passage

/-- The graph of a workflow. -/
def build (workflow : Workflow) : NavigationGraph :=
  workflow.passages.foldl addPassage (workflow.names.foldl addNode empty)

/-- The navigation entries whose target has no node. -/
def dangling (graph : NavigationGraph) (workflow : Workflow) : List Passage :=
  workflow.passages.filter fun passage => !graph.index.contains passage.target

/-- The name of the node of the number. -/
def nameOf (graph : NavigationGraph) (node : Nat) : String :=
  graph.nodes[node]?.getD ""

/-- The labels and targets of the edges that leave the first node of the name, the newest first. -/
def successors (graph : NavigationGraph) (name : String) : List (String × String) :=
  match graph.index.get? name with
  | none => []
  | some node =>
    ((graph.edges.filter fun edge => edge.source == node).map fun edge =>
      (edge.label, graph.nameOf edge.target)).reverse

/-- The number of edges that enter the first node of the name. -/
def incoming (graph : NavigationGraph) (name : String) : Nat :=
  match graph.index.get? name with
  | none => 0
  | some node => (graph.edges.filter fun edge => edge.target == node).length

/-- The nodes to which edges lead from the node. -/
def next (graph : NavigationGraph) (node : Nat) : List Nat :=
  (graph.edges.filter fun edge => edge.source == node).map Edge.target

end NavigationGraph

end FlowCompiler
