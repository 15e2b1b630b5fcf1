import FlowCompiler.Proofs.Checks
import FlowCompiler.Proofs.Diagnosis

/-!
# Walks

Whoever runs a flow walks through its workflow: from the first task, each outcome leads to the task
that the navigation names, or out of the workflow if no task is called so (`Workflow.walk`). In a
flow that passes both checks (`Workflow.IsSound`) no walk gets stuck or leaves for anything but one
of the two ends, and every task lies on a walk (`checked_walks`).
-/

namespace FlowCompiler

/-- Where a walk through a workflow has come to. -/
inductive Place
  /-- It is at the task. -/
  | inside (task : Task)
  /-- It has left the workflow for the target, which is no task. -/
  | outside (target : String)
  /-- It has stopped at the task, which says nothing about the label. -/
  | stuck (task : Task) (label : String)
deriving DecidableEq

namespace Workflow

/-- Where the workflow goes from the task after an outcome with the label. -/
def step (workflow : Workflow) (task : Task) (label : String) : Place :=
  match task.next label with
  | none => .stuck task label
  | some target =>
    match workflow.task? target with
    | none => .outside target
    | some follower => .inside follower

/-- Where a walk is after one more outcome; one that has come to an end stays there. -/
def advance (workflow : Workflow) : Place → String → Place
  | .inside task, label => workflow.step task label
  | place, _ => place

/-- Where the walk from the task has come to after outcomes with the labels. -/
def walk (workflow : Workflow) (task : Task) (labels : List String) : Place :=
  labels.foldl workflow.advance (.inside task)

/-- The names are different, every task says where it goes for both outcomes, its targets are tasks
or ends, and it is reached from the first task. -/
structure IsSound (workflow : Workflow) : Prop where
  nodup : workflow.names.Nodup
  handled : ∀ task ∈ workflow.tasks, ∀ label ∈ Outcome.all, ∃ target, task.next label = some target
  targets : ∀ task ∈ workflow.tasks, ∀ label target, task.next label = some target →
    target ∈ workflow.names ∨ target ∈ Outcome.all
  reached : ∀ first, workflow.first = some first → ∀ task ∈ workflow.tasks,
    workflow.Reaches first.name task.name

variable {workflow : Workflow} {first task : Task}

/-! ## Tasks by name -/

theorem task?_eq_none_iff {name : String} : workflow.task? name = none ↔ name ∉ workflow.names := by
  simp [task?, names]

theorem mem_of_task? {name : String} (h : workflow.task? name = some task) :
    task ∈ workflow.tasks ∧ task.name = name :=
  ⟨List.mem_of_find?_eq_some h, by simpa using List.find?_some h⟩

/-- A task is the only one of its name. -/
theorem eq_of_name_eq {other : Task} (hnodup : workflow.names.Nodup) (htask : task ∈ workflow.tasks)
    (hother : other ∈ workflow.tasks) (hname : task.name = other.name) : task = other :=
  List.inj_on_of_nodup_map hnodup htask hother hname

theorem task?_name (hnodup : workflow.names.Nodup) (htask : task ∈ workflow.tasks) :
    workflow.task? task.name = some task := by
  cases hfound : workflow.task? task.name with
  | none => exact absurd (List.mem_map.mpr ⟨task, htask, rfl⟩) (task?_eq_none_iff.mp hfound)
  | some other =>
    obtain ⟨hother, hname⟩ := mem_of_task? hfound
    rw [eq_of_name_eq hnodup hother htask hname]

/-! ## Sound workflows -/

/-- A workflow that passes both checks is sound. -/
theorem isSound_of_check {options : Options} {unit : String}
    (hunique : options.uniqueTaskNames = true) (hvalidate : options.validateNavigation = true)
    (h : options.check unit workflow = .ok ()) : workflow.IsSound := by
  obtain ⟨hnames, hreport⟩ := Options.check_eq_ok_iff.mp h
  obtain ⟨hdangling, hunreached, hmissing⟩ := diagnostics_eq_nil_iff.mp (hreport hvalidate)
  refine ⟨hnames hunique, fun task htask label hlabel => ?_,
    fun task htask label target hnext => ?_, unreached_eq_nil_iff.mp hunreached⟩
  · have hget := List.filter_eq_nil_iff.mp (hmissing task htask) label hlabel
    exact Option.ne_none_iff_exists'.mp fun hnone => hget (decide_eq_true hnone)
  · have hpassage : (⟨task.name, label, target⟩ : Passage) ∈ workflow.passages :=
      mem_passages_iff.mpr ⟨task, htask, rfl, SortedMap.get?_eq_some_iff.mp hnext⟩
    have hkept := hdangling _ hpassage
    simp only [Dangles, not_and_or, not_not, ne_eq] at hkept
    simpa [Outcome.all] using hkept

/-- Whether a walk through the workflow may have come to the place: a task of the workflow or one of
the two ends. -/
def Allows (workflow : Workflow) : Place → Prop
  | .inside task => task ∈ workflow.tasks
  | .outside target => target ∈ Outcome.all
  | .stuck _ _ => False

namespace IsSound

/-- One outcome leads from a task to a task or to an end. -/
theorem allows_step (hsound : workflow.IsSound) (htask : task ∈ workflow.tasks) {label : String}
    (hlabel : label ∈ Outcome.all) : workflow.Allows (workflow.step task label) := by
  obtain ⟨target, htarget⟩ := hsound.handled task htask label hlabel
  cases hfound : workflow.task? target with
  | none =>
    have hstep : workflow.step task label = .outside target := by simp only [step, htarget, hfound]
    rw [hstep]
    exact (hsound.targets task htask label target htarget).resolve_left
      (task?_eq_none_iff.mp hfound)
  | some follower =>
    have hstep : workflow.step task label = .inside follower := by
      simp only [step, htarget, hfound]
    rw [hstep]
    exact (mem_of_task? hfound).1

theorem allows_foldl (hsound : workflow.IsSound) {outcomes : List String}
    (houtcomes : ∀ label ∈ outcomes, label ∈ Outcome.all) {place : Place}
    (hplace : workflow.Allows place) :
    workflow.Allows (outcomes.foldl workflow.advance place) := by
  induction outcomes generalizing place with
  | nil => exact hplace
  | cons label rest ih =>
    obtain ⟨hlabel, hrest⟩ := List.forall_mem_cons.mp houtcomes
    refine ih hrest ?_
    cases place with
    | inside task => exact hsound.allows_step hplace hlabel
    | outside target => exact hplace
    | stuck task label => exact hplace

/-- However the tasks end, a walk is at a task or has left for one of the two ends. -/
theorem allows_walk (hsound : workflow.IsSound) (hfirst : workflow.first = some first)
    {outcomes : List String} (houtcomes : ∀ label ∈ outcomes, label ∈ Outcome.all) :
    workflow.Allows (workflow.walk first outcomes) :=
  hsound.allows_foldl houtcomes (List.mem_of_head? hfirst)

/-- A walk comes to every task whose name is reached. -/
theorem exists_walk_of_reaches (hsound : workflow.IsSound) (hfirst : workflow.first = some first)
    {name : String} (hreaches : workflow.Reaches first.name name) (htask : task ∈ workflow.tasks)
    (hname : task.name = name) : ∃ labels, workflow.walk first labels = .inside task := by
  induction hreaches generalizing task with
  | refl =>
    have hsame := eq_of_name_eq hsound.nodup htask (List.mem_of_head? hfirst) hname
    exact ⟨[], by rw [hsame]; rfl⟩
  | tail _ hleads ih =>
    obtain ⟨⟨before, hbefore, hbeforeName, label, hentry⟩, -⟩ := hleads
    obtain ⟨labels, hwalk⟩ := ih hbefore hbeforeName
    have hnext : before.next label = some task.name :=
      SortedMap.get?_eq_some_iff.mpr (hname ▸ hentry)
    have hstep : workflow.step before label = .inside task := by
      simp only [step, hnext, task?_name hsound.nodup htask]
    refine ⟨labels ++ [label], ?_⟩
    rw [walk, List.foldl_append, ← walk, hwalk]
    exact hstep

end IsSound

end Workflow

/-! ## Flows -/

/-- A flow that passes both checks can always be walked: from its first task, any sequence of good
and bad outcomes leads to a task of the workflow or out of it to one of the two ends, so that no
outcome is left unhandled on the way and no other target is left for. Every task is where some walk
comes to, if all the labels of a task's navigation may occur. -/
theorem checked_walks {compiler : Compiler} {unit : SourceUnit} {name : String}
    {document : Document} {executable : Executable}
    (hunique : compiler.options.uniqueTaskNames = true)
    (hvalidate : compiler.options.validateNavigation = true) (hflow : unit.kind = .flow)
    (h : compiler.assemble unit name document = .ok executable) :
    ∃ workflow first, executable.body = .flow workflow ∧ workflow.first = some first
      ∧ (∀ outcomes, (∀ label ∈ outcomes, label = Outcome.success ∨ label = Outcome.failure) →
          (∃ task ∈ workflow.tasks, workflow.walk first outcomes = .inside task)
            ∨ workflow.walk first outcomes = .outside Outcome.success
            ∨ workflow.walk first outcomes = .outside Outcome.failure)
      ∧ ∀ task ∈ workflow.tasks, ∃ labels, workflow.walk first labels = .inside task := by
  obtain ⟨workflow, hbody, -, hassembled⟩ := Compiler.exists_workflow_of_assemble hflow h
  obtain ⟨first, hfirst⟩ := Compiler.exists_first_of_assemble hflow h hbody
  obtain ⟨_, -, -, -, hcheck⟩ := assembleFlow_eq_ok_iff.mp hassembled
  have hsound := Workflow.isSound_of_check hunique hvalidate hcheck
  refine ⟨workflow, first, hbody, hfirst, fun outcomes houtcomes => ?_, fun task htask => ?_⟩
  · have hallowed := hsound.allows_walk hfirst fun label hlabel => by
      simpa [Outcome.all] using houtcomes label hlabel
    cases hplace : workflow.walk first outcomes with
    | inside task =>
      rw [hplace] at hallowed
      exact .inl ⟨task, hallowed, rfl⟩
    | outside target =>
      rw [hplace] at hallowed
      exact .inr (by simpa [Workflow.Allows, Outcome.all] using hallowed)
    | stuck task label =>
      rw [hplace] at hallowed
      exact hallowed.elim
  · exact hsound.exists_walk_of_reaches hfirst (hsound.reached first hfirst task htask) htask rfl

/-- A flow that may go round in circles; its inner error section is reached by navigation alone. -/
def retryFlow : Document :=
  [(Keyword.workflow, .map
    [("fetch", .map [(Keyword.callee, .map [("ops.get", .null)])]),
     (Keyword.onFailure, .map
      [("repair", .map
        [(Keyword.callee, .map [("ops.fix", .null)]),
         (Keyword.navigate, .map
          [("SUCCESS", .string " fetch "), ("FAILURE", .string "FAILURE"),
           ("GIVE_UP", .string "alert")])]),
       (Keyword.onFailure, .map
        [("alert", .map [(Keyword.callee, .map [("ops.mail", .null)])])])])])]

/-- The unit of `retryFlow`. -/
def retryUnit : SourceUnit where
  name := "demo.retry"
  kind := .flow
  space := "demo"
  imports := some (.ofList [("ops", "org.ops")])

/-- The navigation of `repair` in `retryFlow`. -/
def repairNavigation : Navigation :=
  .ofList [("SUCCESS", "fetch"), ("FAILURE", "FAILURE"), ("GIVE_UP", "alert")]

/-- The workflow of `retryFlow`. -/
def retryWorkflow : Workflow where
  tasks :=
    [⟨"fetch", "org.ops.get", defaultNavigation "SUCCESS" "repair",
      .ofList [(Keyword.callee, .inputs [])], .empty⟩,
     ⟨"repair", "org.ops.fix", repairNavigation, .ofList [(Keyword.callee, .inputs [])],
      .ofList [(Keyword.navigate, .navigation repairNavigation)]⟩,
     ⟨"alert", "org.ops.mail", defaultNavigation "FAILURE" "FAILURE",
      .ofList [(Keyword.callee, .inputs [])], .empty⟩]

/-- From `fetch` a failure leads to `repair`, and from there another label to `alert`. -/
theorem reaches_retryWorkflow {name : String} (h : name ∈ retryWorkflow.names) :
    retryWorkflow.Reaches "fetch" name := by
  have hrepair : retryWorkflow.Leads "fetch" "repair" := Workflow.leads_iff.mpr (by decide)
  have halert : retryWorkflow.Leads "repair" "alert" := Workflow.leads_iff.mpr (by decide)
  have hcases : name = "fetch" ∨ name = "repair" ∨ name = "alert" := by
    simpa [retryWorkflow, Workflow.names] using h
  rcases hcases with rfl | rfl | rfl
  · exact .refl
  · exact .single hrepair
  · exact .tail (.single hrepair) halert

theorem diagnostics_retryWorkflow : retryWorkflow.diagnostics = [] := by
  refine Workflow.diagnostics_eq_nil_iff.mpr ⟨by decide, ?_, by decide⟩
  refine Workflow.unreached_eq_nil_iff.mpr fun first hfirst task htask => ?_
  obtain rfl := Option.some.inj hfirst
  exact reaches_retryWorkflow (List.mem_map.mpr ⟨task, htask, rfl⟩)

theorem retryFlow_walks :
    ∃ executable, (Compiler.mk .standard ⟨true, true⟩).assemble retryUnit "retry" retryFlow
        = .ok executable
      ∧ executable.body = .flow retryWorkflow
      ∧ ∃ workflow first, executable.body = .flow workflow ∧ workflow.first = some first
        ∧ (∀ outcomes, (∀ label ∈ outcomes, label = Outcome.success ∨ label = Outcome.failure) →
            (∃ task ∈ workflow.tasks, workflow.walk first outcomes = .inside task)
              ∨ workflow.walk first outcomes = .outside Outcome.success
              ∨ workflow.walk first outcomes = .outside Outcome.failure)
        ∧ ∀ task ∈ workflow.tasks, ∃ labels, workflow.walk first labels = .inside task := by
  obtain ⟨executable, hplain, hbody⟩ := exists_ok_of_toOption_map
    (show ((Compiler.outcome .standard retryUnit "retry" retryFlow .none).toOption.map
        Executable.body) = some (.flow retryWorkflow) by
      decide +kernel)
  have hnames : retryWorkflow.names.Nodup := by decide
  have hexecutable := (Compiler.outcome_filteredBy ⟨true, true⟩).passed executable retryWorkflow
    hplain hbody (fun _ => hnames) fun _ => diagnostics_retryWorkflow
  exact ⟨executable, hexecutable, hbody, checked_walks rfl rfl rfl hexecutable⟩

end FlowCompiler
