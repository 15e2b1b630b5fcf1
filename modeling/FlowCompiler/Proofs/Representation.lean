import FlowCompiler.Proofs.Diagnosis
import FlowCompiler.Proofs.Fields
import Mathlib.Data.List.Forall2

/-!
# What the graph of a workflow says

The graph of a workflow holds all that the navigation entries say, and nothing else
(`Represents`). Its edges are the entries whose targets do not dangle, one by one; so what is
asked of the edges at the node of a name is answered by the entries of the tasks of that name
(`successors_eq`) or by those whose target is the name (`incoming_eq`). The ends of the workflow
have nodes in the order in which they are first used (`pairwise_usedEnds`).
-/

namespace FlowCompiler

namespace NavigationGraph

variable {workflow : Workflow} {graph : NavigationGraph}

/-! ## First uses -/

/-- Which of two texts comes first in a list may be seen in a part of it in which both stand. -/
theorem idxOf_lt_of_filter {p : String → Bool} {texts : List String} {a b : String}
    (ha : p a = true) (hb : p b = true) (h : (texts.filter p).idxOf a < (texts.filter p).idxOf b) :
    texts.idxOf a < texts.idxOf b := by
  induction texts with
  | nil => simp at h
  | cons first rest ih =>
    rw [List.idxOf_cons, List.idxOf_cons]
    by_cases hfirst : p first = true
    · rw [List.filter_cons_of_pos hfirst, List.idxOf_cons, List.idxOf_cons] at h
      cases hfa : first == a <;> cases hfb : first == b <;> simp_all
    · have hne : ∀ text, p text = true → (first == text) = false := fun text htext =>
        beq_false_of_ne fun heq => hfirst (heq ▸ htext)
      rw [List.filter_cons_of_neg hfirst] at h
      simp [hne a ha, hne b hb, ih h]

theorem pairwise_eraseDups : (texts : List String) →
    texts.eraseDups.Pairwise fun a b => texts.idxOf a < texts.idxOf b
  | [] => .nil
  | first :: rest => by
    have ih := pairwise_eraseDups (rest.filter fun text => !text == first)
    rw [List.eraseDups_cons, List.pairwise_cons]
    have hne : ∀ text ∈ (rest.filter fun text => !text == first).eraseDups,
        (!text == first) = true := fun text htext =>
      (List.mem_filter.mp (List.mem_eraseDups.mp htext)).2
    refine ⟨fun text htext => ?_, ih.imp_of_mem fun {a b} ha hb hlt => ?_⟩
    · have hfirst : text ≠ first := by simpa using hne text htext
      simp [List.idxOf_cons, beq_false_of_ne hfirst.symm]
    · refine idxOf_lt_of_filter (p := fun text => !text == first) (hne a ha) (hne b hb) ?_
      rwa [List.filter_cons_of_neg (by simp)]
termination_by texts => texts.length
decreasing_by exact Nat.lt_succ_of_le (List.length_filter_le _ _)

theorem pairwise_usedEnds (names : List String) (passages : List Passage) :
    (usedEnds names passages).Pairwise fun a b =>
      (passages.map Passage.target).idxOf a < (passages.map Passage.target).idxOf b := by
  refine (pairwise_eraseDups _).imp_of_mem fun {a b} ha hb hlt => ?_
  exact idxOf_lt_of_filter (List.mem_filter.mp (List.mem_eraseDups.mp ha)).2
    (List.mem_filter.mp (List.mem_eraseDups.mp hb)).2 hlt

/-! ## Numbers of names -/

/-- The number is that of the first node of the name. -/
def IsFirstNode (nodes : List String) (name : String) (number : Nat) : Prop :=
  nodes[number]? = some name ∧ ∀ earlier < number, nodes[earlier]? ≠ some name

theorem isFirstNode_iff {nodes : List String} {name : String} {number : Nat} :
    IsFirstNode nodes name number ↔ nodes.idxOf? name = some number := by
  rw [List.idxOf?_eq_some_iff, IsFirstNode, List.getElem?_eq_some_iff]
  apply Iff.intro
  · intro h
    obtain ⟨⟨hlt, hname⟩, hearlier⟩ := h
    refine ⟨hlt, hname, fun earlier hless heq => hearlier earlier hless ?_⟩
    rw [List.getElem?_eq_getElem (Nat.lt_trans hless hlt), heq]
  · intro h
    obtain ⟨hlt, hname, hearlier⟩ := h
    refine ⟨⟨hlt, hname⟩, fun earlier hless heq => hearlier earlier hless ?_⟩
    exact (List.getElem?_eq_some_iff.mp heq).2

/-- A name and the number of its first node determine each other. -/
theorem IsFirstNode.eq_iff {nodes : List String} {name other : String} {number node : Nat}
    (hname : IsFirstNode nodes name number) (hother : IsFirstNode nodes other node) :
    name = other ↔ number = node := by
  rw [isFirstNode_iff] at hname hother
  apply Iff.intro
  · rintro rfl
    exact Option.some.inj (hname.symm.trans hother)
  · rintro rfl
    exact idxOf?_injective hname hother

theorem IsFirstNode.nameOf_eq {name : String} {number : Nat}
    (h : IsFirstNode graph.nodes name number) : graph.nameOf number = name := by
  rw [nameOf, h.1, Option.getD_some]

/-! ## The edges and the entries -/

/-- The edge leads from the task of the entry to its target, under its label. -/
structure IsEdgeOf (nodes : List String) (passage : Passage) (edge : Edge) : Prop where
  source : IsFirstNode nodes passage.task edge.source
  label : edge.label = passage.label
  target : IsFirstNode nodes passage.target edge.target

/-- The entries of the workflow whose target has a node. -/
def visible (workflow : Workflow) : List Passage :=
  workflow.passages.filter fun passage => ¬ workflow.Dangles passage.target

theorem edgeOf?_eq_none_iff {passage : Passage} (h : passage ∈ workflow.passages) :
    edgeOf? (build workflow).nodes passage = none ↔ workflow.Dangles passage.target := by
  obtain ⟨number, hnumber⟩ := exists_number (Workflow.task_mem_names h)
  rw [edgeOf?, hnumber, Option.bind_some, Option.map_eq_none_iff, List.idxOf?_eq_none_iff,
    ← (draws_build workflow).indexed.contains_iff, contains_target_iff h, not_not]

/-- The edges of some entries are those of the ones whose target has a node, one by one. -/
theorem forall₂_filterMap_edgeOf? {passages : List Passage}
    (h : ∀ passage ∈ passages, passage ∈ workflow.passages) :
    List.Forall₂ (IsEdgeOf (build workflow).nodes)
      (passages.filter fun passage => ¬ workflow.Dangles passage.target)
      (passages.filterMap (edgeOf? (build workflow).nodes)) := by
  induction passages with
  | nil => exact .nil
  | cons passage rest ih =>
    obtain ⟨hpassage, hrest⟩ := List.forall_mem_cons.mp h
    cases hedge : edgeOf? (build workflow).nodes passage with
    | none =>
      have hdangles := (edgeOf?_eq_none_iff hpassage).mp hedge
      rw [List.filterMap_cons_none hedge, List.filter_cons_of_neg (by simpa using hdangles)]
      exact ih hrest
    | some edge =>
      have hvisible : ¬ workflow.Dangles passage.target := fun hdangles => by
        rw [(edgeOf?_eq_none_iff hpassage).mpr hdangles] at hedge
        cases hedge
      obtain ⟨hsource, hlabel, htarget⟩ := edgeOf?_eq_some_iff.mp hedge
      rw [List.filterMap_cons_some hedge, List.filter_cons_of_pos (by simpa using hvisible)]
      exact .cons ⟨isFirstNode_iff.mpr hsource, hlabel.symm, isFirstNode_iff.mpr htarget⟩ (ih hrest)

theorem forall₂_edges (workflow : Workflow) :
    List.Forall₂ (IsEdgeOf (build workflow).nodes) (visible workflow) (build workflow).edges := by
  rw [(draws_build workflow).edges_eq]
  exact forall₂_filterMap_edgeOf? fun _ h => h

theorem length_passages (workflow : Workflow) :
    workflow.passages.length
      = (workflow.tasks.flatMap fun task => task.navigation.entries).length := by
  simp [Workflow.passages, List.length_flatMap]

/-- Every entry has an edge or dangles. -/
theorem length_edges_add (workflow : Workflow) :
    (build workflow).edges.length + ((build workflow).dangling workflow).length
      = (workflow.tasks.flatMap fun task => task.navigation.entries).length := by
  have hsplit := List.length_eq_length_filter_add (l := workflow.passages) fun passage =>
    decide (workflow.Dangles passage.target)
  rw [← (forall₂_edges workflow).length_eq, dangling_eq, visible, ← length_passages, hsplit,
    Nat.add_comm]
  simp only [decide_not]

/-! ## What leaves and what enters a node -/

/-- Two lists whose items correspond come to the same if corresponding items do. -/
theorem map_filter_eq {α β γ : Type} {R : α → β → Prop} {items : List α} {others : List β}
    {p : α → Bool} {q : β → Bool} {f : α → γ} {g : β → γ} (h : List.Forall₂ R items others)
    (hpq : ∀ a b, R a b → (p a = true ↔ q b = true)) (hfg : ∀ a b, R a b → f a = g b) :
    (items.filter p).map f = (others.filter q).map g := by
  have hfiltered : List.Forall₂ R (items.filter p) (others.filter q) :=
    List.rel_filter (fun a b hab => hpq a b hab) h
  rw [← List.forall₂_eq_eq_eq, List.forall₂_map_left_iff, List.forall₂_map_right_iff]
  exact hfiltered.imp hfg

theorem index_build_iff {name : String} {number : Nat} :
    (build workflow).index.get? name = some number
      ↔ IsFirstNode (build workflow).nodes name number := by
  rw [isFirstNode_iff, (draws_build workflow).indexed name]

theorem contains_build_iff {name : String} :
    (build workflow).index.contains name = true
      ↔ name ∈ workflow.names
        ∨ Outcome.isTerminal name = true
          ∧ ∃ passage ∈ workflow.passages, passage.target = name := by
  rw [(draws_build workflow).indexed.contains_iff, (draws_build workflow).nodes_eq, List.mem_append,
    mem_usedEnds]
  tauto

theorem successors_eq (name : String) :
    (build workflow).successors name
      = (((visible workflow).filter fun passage => passage.task = name).map fun passage =>
        (passage.label, passage.target)).reverse := by
  rw [successors]
  cases hnode : (build workflow).index.get? name with
  | none =>
    -- What has no node is no task, so that no entry is of its tasks.
    have hnone : ∀ passage ∈ visible workflow, passage.task ≠ name := fun passage hpassage heq => by
      have hmem := heq ▸ Workflow.task_mem_names (List.mem_filter.mp hpassage).1
      have hcontains := contains_build_iff.mpr (.inl hmem)
      rw [SortedMap.contains, hnode] at hcontains
      cases hcontains
    rw [List.filter_eq_nil_iff.mpr fun passage hpassage => by simpa using hnone passage hpassage]
    rfl
  | some node =>
    have hfirst := index_build_iff.mp hnode
    refine congrArg List.reverse (map_filter_eq (forall₂_edges workflow) ?_ ?_).symm
    · intro passage edge hedge
      rw [decide_eq_true_eq, beq_iff_eq]
      exact hedge.source.eq_iff hfirst
    · intro passage edge hedge
      rw [hedge.label, hedge.target.nameOf_eq]

theorem incoming_eq (name : String) :
    (build workflow).incoming name
      = ((visible workflow).filter fun passage => passage.target = name).length := by
  rw [incoming]
  cases hnode : (build workflow).index.get? name with
  | none =>
    have hnone : ∀ passage ∈ visible workflow, passage.target ≠ name := by
      intro passage hpassage heq
      obtain ⟨hmem, hvisible⟩ := List.mem_filter.mp hpassage
      have hcontains := (contains_target_iff hmem).mpr (by simpa using hvisible)
      rw [heq, SortedMap.contains, hnode] at hcontains
      cases hcontains
    rw [List.filter_eq_nil_iff.mpr fun passage hpassage => by simpa using hnone passage hpassage]
    rfl
  | some node =>
    have hfirst := index_build_iff.mp hnode
    have hedges : List.Forall₂ (IsEdgeOf (build workflow).nodes)
        ((visible workflow).filter fun passage => passage.target = name)
        ((build workflow).edges.filter fun edge => edge.target == node) := by
      refine List.rel_filter (fun passage edge hedge => ?_) (forall₂_edges workflow)
      simpa using hedge.target.eq_iff hfirst
    exact hedges.length_eq.symm

/-- Every entry that leads to a task or an end is counted where it leads, and no other. -/
theorem incoming_eq_ite (name : String) :
    (build workflow).incoming name
      = if name ∈ workflow.names ∨ Outcome.isTerminal name = true then
          (workflow.passages.filter fun passage => passage.target = name).length
        else 0 := by
  have hdangles : workflow.Dangles name
      ↔ ¬ (name ∈ workflow.names ∨ Outcome.isTerminal name = true) := by
    simp [Workflow.Dangles, Outcome.isTerminal]
  rw [incoming_eq, visible, List.filter_filter]
  split
  · next hnode =>
    refine congrArg List.length (List.filter_congr fun passage _ => ?_)
    rw [Bool.and_eq_left_iff_imp]
    intro htarget
    obtain rfl := of_decide_eq_true htarget
    simpa [hdangles] using hnode
  · next hnone =>
    rw [List.length_eq_zero_iff, List.filter_eq_nil_iff]
    intro passage _ hpassage
    simp only [Bool.and_eq_true, decide_eq_true_eq] at hpassage
    exact hpassage.2 (hpassage.1 ▸ hdangles.mpr hnone)

/-! ## The graph as a whole -/

/-- The graph says what the navigation entries of the workflow say, and nothing else. -/
structure Represents (workflow : Workflow) (graph : NavigationGraph) : Prop where
  /-- The nodes are the tasks in order and then the ends that an entry leads to and no task is
  called by, in the order of their first use. -/
  nodes : ∃ ends, graph.nodes = workflow.names ++ ends
    ∧ (∀ name, name ∈ ends ↔ Outcome.isTerminal name = true ∧ name ∉ workflow.names
        ∧ ∃ passage ∈ workflow.passages, passage.target = name)
    ∧ ends.Pairwise fun a b => (workflow.passages.map Passage.target).idxOf a
        < (workflow.passages.map Passage.target).idxOf b
  /-- The index gives the number of the first node of a name. -/
  index : ∀ name number, graph.index.get? name = some number
    ↔ IsFirstNode graph.nodes name number
  /-- The keys of the index are the tasks and the ends that an entry leads to. -/
  keys : ∀ name, name ∈ graph.index.keys ↔ name ∈ workflow.names
    ∨ Outcome.isTerminal name = true ∧ ∃ passage ∈ workflow.passages, passage.target = name
  /-- There is an edge for every entry that does not dangle, in the order of the entries. -/
  edges : List.Forall₂ (IsEdgeOf graph.nodes)
    (workflow.passages.filter fun passage => ¬ workflow.Dangles passage.target) graph.edges
  /-- The entries that dangle are listed apart. -/
  dangling : graph.dangling workflow
    = workflow.passages.filter fun passage => workflow.Dangles passage.target
  /-- No entry is lost. -/
  count : graph.edges.length + (graph.dangling workflow).length
    = (workflow.tasks.flatMap fun task => task.navigation.entries).length
  /-- The successors of a name are the entries of all tasks of the name, the last of them first. -/
  successors : ∀ name, graph.successors name
    = ((workflow.passages.filter fun passage =>
        passage.task = name ∧ ¬ workflow.Dangles passage.target).map fun passage =>
        (passage.label, passage.target)).reverse
  /-- What enters a task or an end are the entries that lead there. -/
  incoming : ∀ name, graph.incoming name
    = if name ∈ workflow.names ∨ Outcome.isTerminal name = true then
        (workflow.passages.filter fun passage => passage.target = name).length
      else 0

/-- The graph of every workflow represents it, with tasks of one name, loops and parallel edges, and
targets that dangle. -/
theorem build_represents (workflow : Workflow) : Represents workflow (build workflow) where
  nodes := ⟨usedEnds workflow.names workflow.passages, (draws_build workflow).nodes_eq,
    fun name => by rw [mem_usedEnds]; tauto, pairwise_usedEnds _ _⟩
  index _ _ := index_build_iff
  keys name := by
    rw [SortedMap.mem_keys_iff, ← Option.isSome_iff_exists]
    exact contains_build_iff
  edges := forall₂_edges workflow
  dangling := dangling_eq
  count := length_edges_add workflow
  successors name := by
    rw [successors_eq, visible, List.filter_filter]
    simp only [Bool.decide_and]
  incoming := incoming_eq_ite

end NavigationGraph

end FlowCompiler
