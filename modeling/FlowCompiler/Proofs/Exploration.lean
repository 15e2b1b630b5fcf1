import FlowCompiler.Navigation.Reach
import Mathlib.Logic.Relation

/-!
# Exploration

A walk through a graph lists exactly the nodes to which a path leads from where it starts
(`mem_reachable_iff`). What it lists is reached by a path (`exists_path_of_mem_explore`); it lists
everything it is sent to (`mem_explore_of_mem_stack`), and with a node whatever follows that
(`mem_explore_of_mem_next`), so that no path leaves the list.
-/

namespace FlowCompiler.NavigationGraph

open Relation (ReflTransGen)

variable {next : Nat → List Nat} {unvisited stack : List Nat}

theorem explore_of_mem {node : Nat} {rest : List Nat} (h : node ∈ unvisited) :
    explore next unvisited (node :: rest)
      = node :: explore next (unvisited.erase node) (next node ++ rest) := by
  rw [explore, dif_pos h]

theorem explore_of_notMem {node : Nat} {rest : List Nat} (h : node ∉ unvisited) :
    explore next unvisited (node :: rest) = explore next unvisited rest := by
  rw [explore, dif_neg h]

/-- What is listed is reached from the stack. -/
theorem exists_path_of_mem_explore {node : Nat} (h : node ∈ explore next unvisited stack) :
    ∃ start ∈ stack, ReflTransGen (fun a b => b ∈ next a) start node := by
  induction unvisited, stack using explore.induct next with
  | case1 unvisited =>
    rw [explore] at h
    cases h
  | case2 unvisited first rest hfirst ih =>
    rw [explore_of_mem hfirst, List.mem_cons] at h
    rcases h with rfl | h
    · exact ⟨node, List.mem_cons_self, .refl⟩
    · obtain ⟨start, hstart, hpath⟩ := ih h
      rcases List.mem_append.mp hstart with hstart | hstart
      · exact ⟨first, List.mem_cons_self, .head hstart hpath⟩
      · exact ⟨start, List.mem_cons_of_mem _ hstart, hpath⟩
  | case3 unvisited first rest hfirst ih =>
    rw [explore_of_notMem hfirst] at h
    obtain ⟨start, hstart, hpath⟩ := ih h
    exact ⟨start, List.mem_cons_of_mem _ hstart, hpath⟩

/-- Every node of the stack that may be visited is listed. -/
theorem mem_explore_of_mem_stack {node : Nat} (hnode : node ∈ unvisited) (hstack : node ∈ stack) :
    node ∈ explore next unvisited stack := by
  induction unvisited, stack using explore.induct next with
  | case1 unvisited => cases hstack
  | case2 unvisited first rest hfirst ih =>
    rw [explore_of_mem hfirst, List.mem_cons]
    by_cases heq : node = first
    · exact .inl heq
    · have hrest := (List.mem_cons.mp hstack).resolve_left heq
      exact .inr (ih ((List.mem_erase_of_ne heq).mpr hnode) (List.mem_append_right _ hrest))
  | case3 unvisited first rest hfirst ih =>
    rw [explore_of_notMem hfirst]
    refine ih hnode ((List.mem_cons.mp hstack).resolve_left ?_)
    rintro rfl
    exact hfirst hnode

/-- With a node everything is listed that follows it and may be visited. -/
theorem mem_explore_of_mem_next {a b : Nat} (ha : a ∈ explore next unvisited stack)
    (hb : b ∈ next a) (hunvisited : b ∈ unvisited) : b ∈ explore next unvisited stack := by
  induction unvisited, stack using explore.induct next with
  | case1 unvisited =>
    rw [explore] at ha
    cases ha
  | case2 unvisited first rest hfirst ih =>
    rw [explore_of_mem hfirst, List.mem_cons] at ha ⊢
    by_cases heq : b = first
    · exact .inl heq
    · have hb' : b ∈ unvisited.erase first := (List.mem_erase_of_ne heq).mpr hunvisited
      rcases ha with rfl | ha
      · exact .inr (mem_explore_of_mem_stack hb' (List.mem_append_left _ hb))
      · exact .inr (ih ha hb')
  | case3 unvisited first rest hfirst ih =>
    rw [explore_of_notMem hfirst] at ha ⊢
    exact ih ha hunvisited

/-- The nodes listed from a start are those to which a path leads, if no edge leaves the graph. -/
theorem mem_reachable_iff {graph : NavigationGraph} {start node : Nat}
    (hedges : ∀ edge ∈ graph.edges, edge.target < graph.nodes.length)
    (hstart : start < graph.nodes.length) :
    node ∈ graph.reachable start ↔ ReflTransGen (fun a b => b ∈ graph.next a) start node := by
  apply Iff.intro
  · intro h
    obtain ⟨_, hmem, hpath⟩ := exists_path_of_mem_explore h
    rwa [List.mem_singleton.mp hmem] at hpath
  · intro hpath
    induction hpath with
    | refl =>
      exact mem_explore_of_mem_stack (List.mem_range.mpr hstart) List.mem_cons_self
    | @tail a b _ hb ih =>
      refine mem_explore_of_mem_next ih hb (List.mem_range.mpr ?_)
      obtain ⟨edge, hedge, rfl⟩ := List.mem_map.mp hb
      exact hedges edge (List.mem_filter.mp hedge).1

end FlowCompiler.NavigationGraph
