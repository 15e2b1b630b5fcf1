import FlowCompiler.Proofs.Walks

/-!
# Destinations

A target is read as a task where a task has that name, and as an end of the workflow otherwise. In a
flow that passes both checks a target is never both unknown as a task and no end, and no two tasks
have its name, so that it has one reading (`checked_destinations`). Nothing keeps a task from being
called like an end, though. Where an entry leads to such a task, what is written as an end does not
end the flow (`storeFlow_has_no_good_end`); `IsSound.unambiguous_iff` says in which flows that
happens.
-/

namespace FlowCompiler

namespace Workflow

/-- Exactly one task has the name. -/
def NamesOne (workflow : Workflow) (name : String) : Prop :=
  ∃! task, task ∈ workflow.tasks ∧ task.name = name

/-- The text is both the name of a task and an end. -/
def IsAmbiguous (workflow : Workflow) (target : String) : Prop :=
  target ∈ workflow.names ∧ target ∈ Outcome.all

/-- Some task goes to the target for some label. -/
def IsTarget (workflow : Workflow) (target : String) : Prop :=
  ∃ task ∈ workflow.tasks, ∃ label, task.next label = some target

variable {workflow : Workflow} {first task : Task}

theorem namesOne_of_mem_names (hnodup : workflow.names.Nodup) {name : String}
    (h : name ∈ workflow.names) : workflow.NamesOne name := by
  obtain ⟨task, htask, rfl⟩ := List.mem_map.mp h
  refine ⟨task, ⟨htask, rfl⟩, fun other hother => ?_⟩
  exact eq_of_name_eq hnodup hother.1 htask hother.2

/-- In a sound workflow a target is the name of one task, or no task's name and an end. -/
theorem IsSound.namesOne_or_end (hsound : workflow.IsSound) {target : String}
    (htarget : workflow.IsTarget target) :
    workflow.NamesOne target ∨ target ∉ workflow.names ∧ target ∈ Outcome.all := by
  obtain ⟨task, htask, label, hnext⟩ := htarget
  by_cases hmem : target ∈ workflow.names
  · exact .inl (namesOne_of_mem_names hsound.nodup hmem)
  · exact .inr ⟨hmem, (hsound.targets task htask label target hnext).resolve_left hmem⟩

/-- In a sound workflow every task but the first is gone to. -/
theorem IsSound.isTarget_of_ne_first (hsound : workflow.IsSound)
    (hfirst : workflow.first = some first) (htask : task ∈ workflow.tasks) (hne : task ≠ first) :
    workflow.IsTarget task.name := by
  have hreaches := hsound.reached first hfirst task htask
  cases hreaches.cases_tail with
  | inl hname =>
    exact absurd (eq_of_name_eq hsound.nodup htask (List.mem_of_head? hfirst) hname) hne
  | inr hstep =>
    obtain ⟨_, -, ⟨before, hbefore, -, label, hentry⟩, -⟩ := hstep
    exact ⟨before, hbefore, label, SortedMap.get?_eq_some_iff.mpr hentry⟩

/-- No target of a sound workflow is ambiguous just if no task is called like an end, save the first
if nothing leads back to it. -/
theorem IsSound.unambiguous_iff (hsound : workflow.IsSound) (hfirst : workflow.first = some first) :
    (∀ target, workflow.IsTarget target → ¬ workflow.IsAmbiguous target)
      ↔ ∀ task ∈ workflow.tasks, task.name ∈ Outcome.all →
          task = first ∧ ¬ workflow.IsTarget task.name := by
  apply Iff.intro
  · intro h task htask hend
    have hnot : ¬ workflow.IsTarget task.name := fun htarget =>
      h task.name htarget ⟨List.mem_map.mpr ⟨task, htask, rfl⟩, hend⟩
    by_contra hother
    exact hnot (hsound.isTarget_of_ne_first hfirst htask fun heq => hother ⟨heq, hnot⟩)
  · intro h target htarget hambiguous
    obtain ⟨hname, hend⟩ := hambiguous
    obtain ⟨task, htask, rfl⟩ := List.mem_map.mp hname
    exact (h task htask hend).2 htarget

end Workflow

/-- In a flow that passes both checks every target is the name of exactly one task, or no task's
name and one of the two ends. It is both a name and an end for just those flows in which some task
is called like an end and gone to. -/
theorem checked_destinations {compiler : Compiler} {unit : SourceUnit} {name : String}
    {document : Document} {executable : Executable}
    (hunique : compiler.options.uniqueTaskNames = true)
    (hvalidate : compiler.options.validateNavigation = true) (hflow : unit.kind = .flow)
    (h : compiler.assemble unit name document = .ok executable) :
    ∃ workflow first, executable.body = .flow workflow ∧ workflow.first = some first
      ∧ (∀ target, workflow.IsTarget target →
          workflow.NamesOne target ∨ target ∉ workflow.names ∧ target ∈ Outcome.all)
      ∧ ((∀ target, workflow.IsTarget target → ¬ workflow.IsAmbiguous target)
          ↔ ∀ task ∈ workflow.tasks, task.name ∈ Outcome.all →
              task = first ∧ ¬ workflow.IsTarget task.name) := by
  obtain ⟨workflow, hbody, -, hassembled⟩ := Compiler.exists_workflow_of_assemble hflow h
  obtain ⟨first, hfirst⟩ := Compiler.exists_first_of_assemble hflow h hbody
  obtain ⟨_, -, -, -, hcheck⟩ := assembleFlow_eq_ok_iff.mp hassembled
  have hsound := Workflow.isSound_of_check hunique hvalidate hcheck
  exact ⟨workflow, first, hbody, hfirst, fun target htarget => hsound.namesOne_or_end htarget,
    hsound.unambiguous_iff hfirst⟩

/-- A flow whose first task is called like the good end. -/
def storeFlow : Document :=
  [(Keyword.workflow, .map
    [("SUCCESS", .map [(Keyword.callee, .map [("ops.get", .null)])]),
     ("store", .map [(Keyword.callee, .map [("ops.put", .null)])])])]

/-- The unit of `storeFlow`. -/
def storeUnit : SourceUnit where
  name := "demo.store"
  kind := .flow
  space := "demo"
  imports := some (.ofList [("ops", "org.ops")])

/-- The first task of `storeFlow`. -/
def storeFirst : Task where
  name := "SUCCESS"
  refId := "org.ops.get"
  navigation := defaultNavigation "store" "FAILURE"
  preTaskData := .ofList [(Keyword.callee, .inputs [])]
  postTaskData := .empty

/-- The last task of `storeFlow`. -/
def storeLast : Task where
  name := "store"
  refId := "org.ops.put"
  navigation := defaultNavigation "SUCCESS" "FAILURE"
  preTaskData := .ofList [(Keyword.callee, .inputs [])]
  postTaskData := .empty

/-- The first task of `storeFlow` leads to the other one when all is well. -/
theorem diagnostics_storeFlow : (Workflow.mk [storeFirst, storeLast]).diagnostics = [] := by
  have hleads : (Workflow.mk [storeFirst, storeLast]).Leads "SUCCESS" "store" :=
    Workflow.leads_iff.mpr (by decide)
  refine Workflow.diagnostics_eq_nil_iff.mpr ⟨by decide, ?_, by decide⟩
  refine Workflow.unreached_eq_nil_iff.mpr fun first hfirst task htask => ?_
  obtain rfl := Option.some.inj hfirst
  have hcases : task = storeFirst ∨ task = storeLast := by simpa using htask
  rcases hcases with rfl | rfl
  · exact .refl
  · exact .single hleads

theorem exists_assemble_storeFlow :
    ∃ executable, (Compiler.mk .standard ⟨true, true⟩).assemble storeUnit "store" storeFlow
        = .ok executable
      ∧ executable.body = .flow ⟨[storeFirst, storeLast]⟩ := by
  obtain ⟨executable, hplain, hbody⟩ := exists_ok_of_toOption_map
    (show ((Compiler.outcome .standard storeUnit "store" storeFlow .none).toOption.map
        Executable.body) = some (.flow ⟨[storeFirst, storeLast]⟩) by
      decide +kernel)
  have hnames : (Workflow.mk [storeFirst, storeLast]).names.Nodup := by decide
  exact ⟨executable, (Compiler.outcome_filteredBy ⟨true, true⟩).passed executable _ hplain hbody
    (fun _ => hnames) fun _ => diagnostics_storeFlow, hbody⟩

theorem storeFlow_destinations :
    ∃ executable, (Compiler.mk .standard ⟨true, true⟩).assemble storeUnit "store" storeFlow
        = .ok executable
      ∧ ∃ workflow first, executable.body = .flow workflow ∧ workflow.first = some first
        ∧ (∀ target, workflow.IsTarget target →
            workflow.NamesOne target ∨ target ∉ workflow.names ∧ target ∈ Outcome.all)
        ∧ ((∀ target, workflow.IsTarget target → ¬ workflow.IsAmbiguous target)
            ↔ ∀ task ∈ workflow.tasks, task.name ∈ Outcome.all →
                task = first ∧ ¬ workflow.IsTarget task.name) := by
  obtain ⟨executable, hexecutable, -⟩ := exists_assemble_storeFlow
  exact ⟨executable, hexecutable, checked_destinations rfl rfl rfl hexecutable⟩

/-- The last task of `storeFlow` is meant to end the flow when all is well, but the target that says
so is the name of the first task, to which the walk goes back. -/
theorem storeFlow_has_no_good_end :
    ∃ executable workflow,
      (Compiler.mk .standard ⟨true, true⟩).assemble storeUnit "store" storeFlow = .ok executable
        ∧ executable.body = .flow workflow
        ∧ storeLast ∈ workflow.tasks
        ∧ storeLast.next Outcome.success = some Outcome.success
        ∧ workflow.IsAmbiguous Outcome.success
        ∧ workflow.step storeLast Outcome.success = .inside storeFirst := by
  obtain ⟨executable, hexecutable, hbody⟩ := exists_assemble_storeFlow
  refine ⟨executable, _, hexecutable, hbody, by simp, by decide, ?_, by decide⟩
  exact ⟨by decide, by decide⟩

end FlowCompiler
