import FlowCompiler.Navigation.Graph

/-!
# Reachability

`explore` walks a graph depth first and lists the nodes it comes to. It ends because every visit
shortens the list of nodes that have not been visited.
-/

namespace FlowCompiler.NavigationGraph

/-- The unvisited nodes that can be reached from those on the stack through unvisited ones. -/
def explore (next : Nat → List Nat) (unvisited stack : List Nat) : List Nat :=
  match stack with
  | [] => []
  | node :: rest =>
    if _h : node ∈ unvisited then
      node :: explore next (unvisited.erase node) (next node ++ rest)
    else
      explore next unvisited rest
termination_by (unvisited.length, stack.length)
decreasing_by
  · have := List.length_erase_of_mem _h
    have := List.length_pos_of_mem _h
    exact Prod.Lex.left _ _ (by omega)
  · exact Prod.Lex.right _ (Nat.lt_succ_self _)

/-- The nodes that can be reached from the node. -/
def reachable (graph : NavigationGraph) (start : Nat) : List Nat :=
  explore graph.next (List.range graph.nodes.length) [start]

end FlowCompiler.NavigationGraph
