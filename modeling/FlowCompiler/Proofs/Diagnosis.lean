import FlowCompiler.Navigation.Check
import FlowCompiler.Proofs.Drawing
import FlowCompiler.Proofs.Exploration

/-!
# The report on a workflow

The diagnostics of a workflow, said without its graph: `Leads` is the relation between names of
tasks that the navigation entries make, and `Reaches` its closure. The nodes that a walk of the
graph finds are the numbers of the names that are reached (`path_iff_reaches`), so that the report
lists exactly what breaks each rule (`diagnostics_exact`).
-/

namespace FlowCompiler

open Relation (ReflTransGen)

namespace Workflow

/-- A navigation entry of a task of the first name leads to the second, which is also a task's. -/
def Leads (workflow : Workflow) (name target : String) : Prop :=
  (∃ task ∈ workflow.tasks, task.name = name ∧ ∃ label, (label, target) ∈ task.navigation.entries)
    ∧ target ∈ workflow.names

/-- Navigation entries lead from the first name to the second by way of any number of tasks. -/
def Reaches (workflow : Workflow) : String → String → Prop :=
  ReflTransGen workflow.Leads

open Classical in
/-- The names of the tasks that are not reached from the first one, in order. -/
noncomputable def unreached (workflow : Workflow) : List String :=
  match workflow.names with
  | [] => []
  | first :: _ => workflow.names.filter fun name => ¬ workflow.Reaches first name

/-- The target is neither a task nor an end. -/
def Dangles (workflow : Workflow) (target : String) : Prop :=
  target ∉ workflow.names ∧ target ≠ Outcome.success ∧ target ≠ Outcome.failure

instance (workflow : Workflow) : DecidablePred workflow.Dangles :=
  fun _ => inferInstanceAs (Decidable (_ ∧ _))

variable {workflow : Workflow}

theorem mem_passages_iff {passage : Passage} :
    passage ∈ workflow.passages
      ↔ ∃ task ∈ workflow.tasks, task.name = passage.task
          ∧ (passage.label, passage.target) ∈ task.navigation.entries := by
  obtain ⟨name, label, target⟩ := passage
  simp [passages, and_comm, and_left_comm]

theorem leads_iff {name target : String} :
    workflow.Leads name target
      ↔ (∃ passage ∈ workflow.passages, passage.task = name ∧ passage.target = target)
        ∧ target ∈ workflow.names := by
  refine and_congr_left fun _ => ⟨?_, ?_⟩
  · intro h
    obtain ⟨task, htask, hname, label, hentry⟩ := h
    exact ⟨⟨name, label, target⟩, mem_passages_iff.mpr ⟨task, htask, hname, hentry⟩, rfl, rfl⟩
  · intro h
    obtain ⟨passage, hpassage, rfl, rfl⟩ := h
    obtain ⟨task, htask, hname, hentry⟩ := mem_passages_iff.mp hpassage
    exact ⟨task, htask, hname, passage.label, hentry⟩

theorem task_mem_names {passage : Passage} (h : passage ∈ workflow.passages) :
    passage.task ∈ workflow.names := by
  obtain ⟨task, htask, hname, -⟩ := mem_passages_iff.mp h
  exact List.mem_map.mpr ⟨task, htask, hname⟩

end Workflow

namespace NavigationGraph

variable {workflow : Workflow}

/-! ## Nodes and names -/

theorem mem_nodes_of_mem_names {name : String} (h : name ∈ workflow.names) :
    name ∈ (build workflow).nodes := by
  rw [(draws_build workflow).nodes_eq]
  exact List.mem_append_left _ h

theorem exists_number {name : String} (h : name ∈ workflow.names) :
    ∃ number, (build workflow).nodes.idxOf? name = some number :=
  Option.isSome_iff_exists.mp (List.isSome_idxOf?.mpr (mem_nodes_of_mem_names h))

/-- The target of a passage has a node if it is a task or an end. -/
theorem target_mem_nodes_iff {passage : Passage} (h : passage ∈ workflow.passages) :
    passage.target ∈ (build workflow).nodes
      ↔ passage.target ∈ workflow.names ∨ Outcome.isTerminal passage.target = true := by
  rw [(draws_build workflow).nodes_eq, List.mem_append, mem_usedEnds]
  by_cases hmem : passage.target ∈ workflow.names
  · simp [hmem]
  · simpa [hmem] using fun _ => ⟨passage, h, rfl⟩

theorem mem_next_iff {node follower : Nat} :
    follower ∈ (build workflow).next node
      ↔ ∃ passage ∈ workflow.passages,
          (build workflow).nodes.idxOf? passage.task = some node
          ∧ (build workflow).nodes.idxOf? passage.target = some follower := by
  simp only [next, List.mem_map, List.mem_filter, beq_iff_eq]
  rw [(draws_build workflow).edges_eq]
  simp only [List.mem_filterMap, edgeOf?_eq_some_iff]
  apply Iff.intro
  · intro h
    obtain ⟨edge, ⟨⟨passage, hpassage, htask, -, htarget⟩, rfl⟩, rfl⟩ := h
    exact ⟨passage, hpassage, htask, htarget⟩
  · intro h
    obtain ⟨passage, hpassage, htask, htarget⟩ := h
    exact ⟨⟨node, passage.label, follower⟩, ⟨⟨passage, hpassage, htask, rfl, htarget⟩, rfl⟩, rfl⟩

/-! ## Paths and names -/

/-- A path ends at the number of a name, and if a task has that name, it is reached. Ends that no
task is called by are left by no edge, so no path leads through them. -/
theorem exists_name_of_path {first : String} {start number : Nat}
    (hstart : (build workflow).nodes.idxOf? first = some start)
    (hpath : ReflTransGen (fun a b => b ∈ (build workflow).next a) start number) :
    ∃ name, (build workflow).nodes.idxOf? name = some number
      ∧ (name ∈ workflow.names → workflow.Reaches first name) := by
  induction hpath with
  | refl => exact ⟨first, hstart, fun _ => .refl⟩
  | tail _ hnext ih =>
    obtain ⟨name, hname, hreaches⟩ := ih
    obtain ⟨passage, hpassage, htask, htarget⟩ := mem_next_iff.mp hnext
    obtain rfl := idxOf?_injective htask hname
    refine ⟨passage.target, htarget, fun hmem => ?_⟩
    have hleads : workflow.Leads passage.task passage.target :=
      Workflow.leads_iff.mpr ⟨⟨passage, hpassage, rfl, rfl⟩, hmem⟩
    exact (hreaches (Workflow.task_mem_names hpassage)).tail hleads

/-- What is reached has a number to which a path leads. -/
theorem exists_path_of_reaches {first name : String} {start : Nat}
    (hstart : (build workflow).nodes.idxOf? first = some start)
    (hreaches : workflow.Reaches first name) :
    ∃ number, (build workflow).nodes.idxOf? name = some number
      ∧ ReflTransGen (fun a b => b ∈ (build workflow).next a) start number := by
  induction hreaches with
  | refl => exact ⟨start, hstart, .refl⟩
  | tail _ hleads ih =>
    obtain ⟨node, hnode, hpath⟩ := ih
    obtain ⟨⟨passage, hpassage, rfl, rfl⟩, hmem⟩ := Workflow.leads_iff.mp hleads
    obtain ⟨number, hnumber⟩ := exists_number hmem
    exact ⟨number, hnumber, hpath.tail (mem_next_iff.mpr ⟨passage, hpassage, hnode, hnumber⟩)⟩

theorem path_iff_reaches {first name : String} {start number : Nat}
    (hstart : (build workflow).nodes.idxOf? first = some start)
    (hnumber : (build workflow).nodes.idxOf? name = some number) (hname : name ∈ workflow.names) :
    ReflTransGen (fun a b => b ∈ (build workflow).next a) start number
      ↔ workflow.Reaches first name := by
  apply Iff.intro
  · intro hpath
    obtain ⟨other, hother, hreaches⟩ := exists_name_of_path hstart hpath
    obtain rfl := idxOf?_injective hother hnumber
    exact hreaches hname
  · intro hreaches
    obtain ⟨other, hother, hpath⟩ := exists_path_of_reaches hstart hreaches
    rw [hnumber] at hother
    rwa [Option.some.inj hother]

theorem target_lt_of_mem_edges {edge : Edge} (h : edge ∈ (build workflow).edges) :
    edge.target < (build workflow).nodes.length := by
  rw [(draws_build workflow).edges_eq, List.mem_filterMap] at h
  obtain ⟨passage, -, hedge⟩ := h
  exact lt_of_idxOf? (edgeOf?_eq_some_iff.mp hedge).2.2

/-- The walk from the first task finds the nodes of the tasks that are reached. -/
theorem isAmong_reachable_iff {first name : String} {start : Nat}
    (hstart : (build workflow).nodes.idxOf? first = some start) (hname : name ∈ workflow.names) :
    (build workflow).isAmong ((build workflow).reachable start) name = true
      ↔ workflow.Reaches first name := by
  obtain ⟨number, hnumber⟩ := exists_number hname
  rw [isAmong, (draws_build workflow).indexed name, hnumber, List.contains_iff_mem,
    mem_reachable_iff (fun _ => target_lt_of_mem_edges) (lt_of_idxOf? hstart),
    path_iff_reaches hstart hnumber hname]

/-! ## The three rules -/

theorem contains_target_iff {passage : Passage} (h : passage ∈ workflow.passages) :
    (build workflow).index.contains passage.target = true ↔ ¬ workflow.Dangles passage.target := by
  rw [(draws_build workflow).indexed.contains_iff, target_mem_nodes_iff h, Workflow.Dangles,
    Outcome.isTerminal, Bool.or_eq_true, beq_iff_eq, beq_iff_eq]
  tauto

theorem dangling_eq :
    (build workflow).dangling workflow
      = workflow.passages.filter fun passage => workflow.Dangles passage.target := by
  refine List.filter_congr fun passage hpassage => ?_
  rw [Bool.eq_iff_iff, Bool.not_eq_true', ← Bool.not_eq_true, contains_target_iff hpassage,
    not_not, decide_eq_true_eq]

theorem danglingTargets_eq :
    (build workflow).danglingTargets workflow
      = (workflow.passages.filter fun passage => workflow.Dangles passage.target).map fun passage =>
        .danglingTarget passage.task passage.label passage.target := by
  rw [danglingTargets, dangling_eq]

theorem unreachableTasks_eq :
    (build workflow).unreachableTasks workflow
      = workflow.unreached.map fun name => .unreachable name (workflow.names.headD "") := by
  classical
  unfold unreachableTasks Workflow.first Workflow.unreached
  cases htasks : workflow.tasks with
  | nil => simp only [List.head?_nil, Workflow.names, htasks, List.map_nil]
  | cons first rest =>
    have hnames : workflow.names = first.name :: rest.map Task.name := by
      rw [Workflow.names, htasks, List.map_cons]
    have hfirst : first.name ∈ workflow.names := hnames ▸ List.mem_cons_self
    obtain ⟨start, hstart⟩ := exists_number hfirst
    simp only [List.head?_cons, (draws_build workflow).indexed first.name, hstart]
    have hreached : (workflow.names.filter fun name =>
          !(build workflow).isAmong ((build workflow).reachable start) name)
        = workflow.names.filter fun name => ¬ workflow.Reaches first.name name := by
      refine List.filter_congr fun name hname => ?_
      rw [Bool.eq_iff_iff, Bool.not_eq_true', ← Bool.not_eq_true,
        isAmong_reachable_iff hstart hname, decide_eq_true_eq]
    rw [hreached, hnames]
    rfl

end NavigationGraph

/-- The outcomes that the navigation of the task says nothing about, a success before a failure. -/
def Task.missing (task : Task) : List String :=
  [Outcome.success, Outcome.failure].filter fun label => task.navigation.get? label = none

theorem Task.unhandledOutcomes_eq (task : Task) :
    task.unhandledOutcomes = task.missing.map fun label => .unhandled task.name label := by
  rw [unhandledOutcomes, missing, Outcome.all]
  refine congrArg _ (List.filter_congr fun label _ => ?_)
  rw [Bool.eq_iff_iff, Option.isNone_iff_eq_none, decide_eq_true_eq, next]

theorem Workflow.unreached_eq_nil_iff {workflow : Workflow} :
    workflow.unreached = []
      ↔ ∀ first, workflow.first = some first →
          ∀ task ∈ workflow.tasks, workflow.Reaches first.name task.name := by
  unfold unreached first names
  cases workflow.tasks with
  | nil => simp
  | cons first rest => simp

/-- There is nothing to report if no target dangles, every task is reached, and every task says
where it goes for both outcomes. -/
theorem Workflow.diagnostics_eq_nil_iff {workflow : Workflow} :
    workflow.diagnostics = []
      ↔ (∀ passage ∈ workflow.passages, ¬ workflow.Dangles passage.target)
        ∧ workflow.unreached = [] ∧ ∀ task ∈ workflow.tasks, task.missing = [] := by
  rw [diagnostics, NavigationGraph.danglingTargets_eq, NavigationGraph.unreachableTasks_eq,
    funext Task.unhandledOutcomes_eq]
  simp only [List.append_eq_nil_iff, List.map_eq_nil_iff, List.filter_eq_nil_iff,
    List.flatMap_eq_nil_iff, decide_eq_true_eq, and_assoc]

/-- The report has, in this order: a flaw for each navigation entry whose target dangles, one for
each task whose name is not reached from that of the first task, and one for each outcome that the
navigation of a task says nothing about. Each has the code of its rule and the name of its task. -/
theorem Workflow.diagnostics_exact (workflow : Workflow) :
    workflow.diagnostics
        = ((workflow.passages.filter fun passage => workflow.Dangles passage.target).map
            fun passage => .danglingTarget passage.task passage.label passage.target)
          ++ (workflow.unreached.map fun name => .unreachable name (workflow.names.headD ""))
          ++ workflow.tasks.flatMap (fun task =>
            task.missing.map fun label => .unhandled task.name label)
    ∧ workflow.diagnostics.map (fun diagnostic => (diagnostic.code, diagnostic.task))
        = ((workflow.passages.filter fun passage => workflow.Dangles passage.target).map
            fun passage => ("V001", passage.task))
          ++ (workflow.unreached.map fun name => ("V002", name))
          ++ workflow.tasks.flatMap fun task => task.missing.map fun _ => ("V003", task.name) := by
  rw [diagnostics, NavigationGraph.danglingTargets_eq, NavigationGraph.unreachableTasks_eq,
    funext Task.unhandledOutcomes_eq]
  refine ⟨rfl, ?_⟩
  simp only [List.map_append, List.map_map, List.map_flatMap]
  rfl

end FlowCompiler
