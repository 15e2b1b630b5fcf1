import FlowCompiler.Navigation.Graph
import Mathlib.Data.List.Basic

/-!
# The graph of a workflow

`build` draws a graph passage by passage. `Draws` says what the graph is after some of them, and
each of them keeps it (`Draws.addPassage`): the nodes are the names of the tasks and then the ends
met so far, the index gives the least number of a name, and there is one edge for every passage
whose target has a node. So this holds of the whole graph (`draws_build`).
-/

namespace FlowCompiler

namespace NavigationGraph

variable {graph : NavigationGraph} {names : List String} {done : List Passage} {passage : Passage}

/-! ## Numbers of names -/

theorem idxOf?_concat (nodes : List String) (name other : String) :
    (nodes ++ [name]).idxOf? other
      = (nodes.idxOf? other).or (if name = other then some nodes.length else none) := by
  simp only [List.idxOf?, List.findIdx?_append, List.findIdx?_singleton, beq_iff_eq]
  split <;> simp

theorem idxOf?_concat_of_ne {nodes : List String} {name other : String} (h : name ≠ other) :
    (nodes ++ [name]).idxOf? other = nodes.idxOf? other := by
  rw [idxOf?_concat, if_neg h, Option.or_none]

theorem idxOf?_concat_of_mem {nodes : List String} {name other : String} (h : other ∈ nodes) :
    (nodes ++ [name]).idxOf? other = nodes.idxOf? other := by
  obtain ⟨number, hnumber⟩ := Option.isSome_iff_exists.mp (List.isSome_idxOf?.mpr h)
  rw [idxOf?_concat, hnumber, Option.some_or]

theorem lt_of_idxOf? {nodes : List String} {name : String} {number : Nat}
    (h : nodes.idxOf? name = some number) : number < nodes.length :=
  (List.idxOf?_eq_some_iff.mp h).1

theorem idxOf?_injective {nodes : List String} {name other : String} {number : Nat}
    (hname : nodes.idxOf? name = some number) (hother : nodes.idxOf? other = some number) :
    name = other := by
  obtain ⟨_, hname, -⟩ := List.idxOf?_eq_some_iff.mp hname
  obtain ⟨_, hother, -⟩ := List.idxOf?_eq_some_iff.mp hother
  exact hname.symm.trans hother

/-! ## The index -/

/-- The index gives every name the least number of a node of the name. -/
def IsIndexed (graph : NavigationGraph) : Prop :=
  ∀ name, graph.index.get? name = graph.nodes.idxOf? name

theorem IsIndexed.contains_iff (h : graph.IsIndexed) {name : String} :
    graph.index.contains name = true ↔ name ∈ graph.nodes := by
  rw [SortedMap.contains, h name, List.isSome_idxOf?]

theorem isIndexed_empty : empty.IsIndexed := fun _ => rfl

theorem IsIndexed.addNode (h : graph.IsIndexed) (name : String) :
    (graph.addNode name).IsIndexed := by
  intro other
  show (if graph.index.contains name = true then graph.index
      else graph.index.insert name graph.nodes.length).get? other
    = (graph.nodes ++ [name]).idxOf? other
  split
  · next hmem =>
    rw [h other]
    by_cases heq : name = other
    · exact (idxOf?_concat_of_mem (heq ▸ h.contains_iff.mp hmem)).symm
    · exact (idxOf?_concat_of_ne heq).symm
  · next hmem =>
    have hnone : graph.nodes.idxOf? name = none :=
      List.idxOf?_eq_none_iff.mpr fun hname => hmem (h.contains_iff.mpr hname)
    rw [SortedMap.get?_insert, idxOf?_concat, h other]
    by_cases heq : name = other
    · rw [if_pos heq.symm, if_pos heq, ← heq, hnone, Option.none_or]
    · rw [if_neg (Ne.symm heq), if_neg heq, Option.or_none]

/-! ## The nodes -/

/-- The ends among the targets of the passages that no task is called by, in the order in which they
are first met. -/
def usedEnds (names : List String) (passages : List Passage) : List String :=
  ((passages.map Passage.target).filter fun target =>
    Outcome.isTerminal target && !names.contains target).eraseDups

theorem mem_usedEnds {passages : List Passage} {name : String} :
    name ∈ usedEnds names passages
      ↔ (∃ passage ∈ passages, passage.target = name)
        ∧ Outcome.isTerminal name = true ∧ name ∉ names := by
  simp [usedEnds]

theorem usedEnds_concat :
    usedEnds names (done ++ [passage])
      = if Outcome.isTerminal passage.target = true ∧ passage.target ∉ names ++ usedEnds names done
        then usedEnds names done ++ [passage.target] else usedEnds names done := by
  have hsplit : usedEnds names (done ++ [passage])
      = usedEnds names done
        ++ (([passage.target].filter fun target =>
            Outcome.isTerminal target && !names.contains target).removeAll
          ((done.map Passage.target).filter fun target =>
            Outcome.isTerminal target && !names.contains target)).eraseDups := by
    rw [usedEnds, usedEnds, List.map_append, List.filter_append, List.eraseDups_append,
      List.map_singleton]
  rw [hsplit]
  by_cases hend : Outcome.isTerminal passage.target = true ∧ passage.target ∉ names
  · by_cases hmet : ∃ earlier ∈ done, earlier.target = passage.target
    · simp [mem_usedEnds, hend, hmet, List.removeAll]
    · simp [mem_usedEnds, hend, hmet, List.removeAll, List.eraseDups_cons]
  · rw [if_neg fun h => hend ⟨h.1, fun hmem => h.2 (List.mem_append_left _ hmem)⟩]
    simp only [not_and, not_not] at hend
    cases hterminal : Outcome.isTerminal passage.target with
    | false => simp [hterminal, List.removeAll]
    | true => simp [hend hterminal, List.removeAll]

theorem nodes_addEnd (h : graph.IsIndexed) (name : String) :
    (graph.addEnd name).nodes
      = if Outcome.isTerminal name = true ∧ name ∉ graph.nodes then graph.nodes ++ [name]
        else graph.nodes := by
  by_cases hmem : name ∈ graph.nodes
  · rw [addEnd, h.contains_iff.mpr hmem]
    simp [hmem]
  · have hnot : graph.index.contains name = false :=
      Bool.eq_false_iff.mpr fun hcontains => hmem (h.contains_iff.mp hcontains)
    simp only [addEnd, hnot, hmem, Bool.not_false, Bool.true_and, not_false_eq_true, and_true]
    split <;> rfl

theorem edges_addEnd (graph : NavigationGraph) (name : String) :
    (graph.addEnd name).edges = graph.edges := by
  rw [addEnd]
  split <;> rfl

theorem IsIndexed.addEnd (h : graph.IsIndexed) (name : String) : (graph.addEnd name).IsIndexed := by
  rw [NavigationGraph.addEnd]
  split
  · exact h.addNode name
  · exact h

/-! ## The edges -/

/-- The edge of a passage in a graph with these nodes, if its target has a node. -/
def edgeOf? (nodes : List String) (passage : Passage) : Option Edge :=
  (nodes.idxOf? passage.task).bind fun source =>
    (nodes.idxOf? passage.target).map fun target => ⟨source, passage.label, target⟩

theorem edgeOf?_eq_some_iff {nodes : List String} {edge : Edge} :
    edgeOf? nodes passage = some edge
      ↔ nodes.idxOf? passage.task = some edge.source ∧ passage.label = edge.label
        ∧ nodes.idxOf? passage.target = some edge.target := by
  obtain ⟨source, label, target⟩ := edge
  simp only [edgeOf?, Option.bind_eq_some_iff, Option.map_eq_some_iff, Edge.mk.injEq]
  apply Iff.intro
  · intro h
    obtain ⟨_, hsource, _, htarget, rfl, rfl, rfl⟩ := h
    exact ⟨hsource, rfl, htarget⟩
  · intro h
    obtain ⟨hsource, rfl, htarget⟩ := h
    exact ⟨source, hsource, target, htarget, rfl, rfl, rfl⟩

theorem edges_addEdge (h : graph.IsIndexed) :
    (graph.addEdge passage).edges = graph.edges ++ (edgeOf? graph.nodes passage).toList := by
  rw [addEdge, h, h, edgeOf?]
  cases graph.nodes.idxOf? passage.task with
  | none => simp
  | some source => cases graph.nodes.idxOf? passage.target <;> simp

theorem nodes_addEdge (graph : NavigationGraph) (passage : Passage) :
    (graph.addEdge passage).nodes = graph.nodes := by
  rw [addEdge]
  split <;> rfl

theorem index_addEdge (graph : NavigationGraph) (passage : Passage) :
    (graph.addEdge passage).index = graph.index := by
  rw [addEdge]
  split <;> rfl

/-! ## The graph after some passages -/

/-- The graph that the tasks of the names and the passages make. -/
structure Draws (names : List String) (passages : List Passage) (graph : NavigationGraph) :
    Prop where
  indexed : graph.IsIndexed
  nodes_eq : graph.nodes = names ++ usedEnds names passages
  edges_eq : graph.edges = passages.filterMap (edgeOf? graph.nodes)

/-- A further node has no part in the edges drawn so far. -/
theorem edgeOf?_concat {nodes : List String} {name : String} (htask : passage.task ∈ nodes)
    (htarget : name ≠ passage.target) :
    edgeOf? (nodes ++ [name]) passage = edgeOf? nodes passage := by
  rw [edgeOf?, idxOf?_concat_of_mem htask, idxOf?_concat_of_ne htarget, edgeOf?]

theorem Draws.edges_addEnd (h : Draws names done graph)
    (hdone : ∀ earlier ∈ done, earlier.task ∈ names) (name : String) :
    done.filterMap (edgeOf? (graph.addEnd name).nodes) = graph.edges := by
  rw [h.edges_eq, nodes_addEnd h.indexed]
  split
  · next hnew =>
    refine List.filterMap_congr fun earlier hearlier => edgeOf?_concat ?_ ?_
    · rw [h.nodes_eq]
      exact List.mem_append_left _ (hdone earlier hearlier)
    · -- An end that an earlier passage leads to has a node already.
      rintro rfl
      refine hnew.2 ?_
      rw [h.nodes_eq, List.mem_append, mem_usedEnds]
      by_cases hmem : earlier.target ∈ names
      · exact .inl hmem
      · exact .inr ⟨⟨earlier, hearlier, rfl⟩, hnew.1, hmem⟩
  · rfl

theorem Draws.addPassage (h : Draws names done graph)
    (hdone : ∀ earlier ∈ done, earlier.task ∈ names) (passage : Passage) :
    Draws names (done ++ [passage]) (graph.addPassage passage) where
  indexed := by
    intro name
    rw [NavigationGraph.addPassage, index_addEdge, nodes_addEdge]
    exact h.indexed.addEnd passage.target name
  nodes_eq := by
    rw [NavigationGraph.addPassage, nodes_addEdge, nodes_addEnd h.indexed, usedEnds_concat,
      h.nodes_eq]
    split
    · rw [List.append_assoc]
    · rfl
  edges_eq := by
    have hedge : [passage].filterMap (edgeOf? (graph.addEnd passage.target).nodes)
        = (edgeOf? (graph.addEnd passage.target).nodes passage).toList := by
      cases hedge : edgeOf? (graph.addEnd passage.target).nodes passage <;>
        simp [hedge]
    rw [NavigationGraph.addPassage, edges_addEdge (h.indexed.addEnd passage.target), nodes_addEdge,
      List.filterMap_append, h.edges_addEnd hdone, hedge, NavigationGraph.edges_addEnd]

theorem Draws.foldl_addPassage {rest : List Passage} (h : Draws names done graph)
    (hall : ∀ passage ∈ done ++ rest, passage.task ∈ names) :
    Draws names (done ++ rest) (rest.foldl NavigationGraph.addPassage graph) := by
  induction rest generalizing done graph with
  | nil => rwa [List.append_nil]
  | cons passage rest ih =>
    rw [List.append_cons] at hall ⊢
    refine ih (h.addPassage (fun earlier hearlier => ?_) passage) hall
    exact hall earlier (List.mem_append_left _ (List.mem_append_left _ hearlier))

theorem draws_names (names : List String) : Draws names [] (names.foldl addNode empty) := by
  have hfold : ∀ (done rest : List String) (graph : NavigationGraph), graph.IsIndexed →
      graph.nodes = done → graph.edges = [] →
      Draws (done ++ rest) [] (rest.foldl addNode graph) := by
    intro done rest
    induction rest generalizing done with
    | nil =>
      rintro graph hindexed rfl hedges
      exact ⟨hindexed, by simp [usedEnds], hedges⟩
    | cons name rest ih =>
      rintro graph hindexed rfl hedges
      rw [List.append_cons]
      exact ih _ (graph.addNode name) (hindexed.addNode name) rfl hedges
  exact hfold [] names empty isIndexed_empty rfl rfl

/-- The graph of a workflow is drawn from all its tasks and passages. -/
theorem draws_build (workflow : Workflow) :
    Draws workflow.names workflow.passages (build workflow) := by
  refine (draws_names workflow.names).foldl_addPassage fun passage hpassage => ?_
  obtain ⟨task, htask, hentry⟩ := List.mem_flatMap.mp hpassage
  obtain ⟨entry, -, rfl⟩ := List.mem_map.mp hentry
  exact List.mem_map.mpr ⟨task, htask, rfl⟩

end NavigationGraph

end FlowCompiler
