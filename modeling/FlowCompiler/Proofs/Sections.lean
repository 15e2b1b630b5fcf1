import FlowCompiler.Assembly.Executable
import FlowCompiler.Proofs.Tasks

/-!
# Sections

A map of tasks may have an error section, which may have one of its own, and so on: `sections` lists
these maps from the outside. Every task of every section has a slot, which says where the task goes
by default; `layout` lists the slots in the order of the workflow, that is, section by section.

The assembly of a workflow succeeds exactly if every section has tasks and is rightly formed and the
task of every slot is assembled, and then these are the tasks of the workflow
(`assembleWorkflow_main_eq_ok_iff`). It makes no difference that a flow's error section is taken out
before the rest is compiled (`assembleFlow_eq_ok_iff`).
-/

namespace FlowCompiler

/-! ## The sections of a map of tasks -/

/-- The error section among the tasks, if that is a map with entries. -/
def recovery? (tasks : Document) : Option Document :=
  match tasks.get? Keyword.onFailure with
  | some (.map (entry :: rest)) => some (entry :: rest)
  | _ => none

theorem get?_of_recovery? {tasks inner : Document} (h : recovery? tasks = some inner) :
    tasks.get? Keyword.onFailure = some (.map inner) := by
  unfold recovery? at h
  split at h
  · next hget => exact Option.some.inj h ▸ hget
  · cases h

/-- The error sections below a map of tasks, from the outside. -/
def errorSections (tasks : Document) : List Document :=
  match _h : recovery? tasks with
  | none => []
  | some inner => inner :: errorSections inner
termination_by sizeOf tasks
decreasing_by exact sizeOf_lt_of_get? (get?_of_recovery? _h)

/-- The map of tasks and the error sections below it. -/
def sections (tasks : Document) : List Document :=
  tasks :: errorSections tasks

theorem errorSections_of_none {tasks : Document} (h : recovery? tasks = none) :
    errorSections tasks = [] := by
  rw [errorSections]
  split
  · rfl
  · next inner hinner => rw [h] at hinner; cases hinner

theorem errorSections_of_some {tasks inner : Document} (h : recovery? tasks = some inner) :
    errorSections tasks = sections inner := by
  rw [errorSections]
  split
  · next hnone => rw [h] at hnone; cases hnone
  · next other hother =>
    rw [h] at hother
    cases hother
    rfl

theorem sections_of_none {tasks : Document} (h : recovery? tasks = none) :
    sections tasks = [tasks] := by
  rw [sections, errorSections_of_none h]

theorem sections_of_some {tasks inner : Document} (h : recovery? tasks = some inner) :
    sections tasks = tasks :: sections inner := by
  rw [sections, errorSections_of_some h]

/-- Whether an error section may be compiled: it is absent, nothing or a map. -/
def IsRecovery : Option Json → Prop
  | none | some .null | some (.map _) => True
  | some _ => False

/-- Whether a section is rightly formed: it has a task, and its error section is a map if it is
anything. -/
structure IsSection (tasks : Document) : Prop where
  recovers : IsRecovery (tasks.get? Keyword.onFailure)
  inhabited : ordinaryTasks tasks ≠ []

theorem errorSection_eq_ok_iff {unit : String} {tasks : Document} {found : Option Document} :
    errorSection unit tasks = .ok found
      ↔ IsRecovery (tasks.get? Keyword.onFailure) ∧ found = recovery? tasks := by
  unfold errorSection IsRecovery recovery?
  cases tasks.get? Keyword.onFailure with
  | none => simp [eq_comm]
  | some value =>
    cases value with
    | map entries => cases entries <;> simp [eq_comm]
    | null | bool value | number value | string value | list items => simp [eq_comm]

theorem get?_ordinaryTasks (tasks : Document) :
    (ordinaryTasks tasks).get? Keyword.onFailure = none := by
  rw [ordinaryTasks, Document.get?_erase, if_pos rfl]

theorem ordinaryTasks_ordinaryTasks (tasks : Document) :
    ordinaryTasks (ordinaryTasks tasks) = ordinaryTasks tasks := by
  simp [ordinaryTasks, Document.erase, List.filter_filter]

/-! ## The slots of a workflow -/

/-- A task of a section as it stands in the source, with the targets that it has by default. -/
structure Slot where
  /-- The name. -/
  name : String
  /-- What stands under the name. -/
  body : Json
  /-- Where it goes when all is well. -/
  success : String
  /-- Where it goes when something is wrong. -/
  failure : String

/-- The slots of a section: every task goes to the one after it and the last one to the ending. -/
def slots (ending failure : String) (tasks : Document) : List Slot :=
  List.zipWith (fun entry next => ⟨entry.1, entry.2, next, failure⟩) tasks
    (tasks.keys.tail ++ [ending])

/-- The slots of a section that runs after a failure. -/
def recoverySlots (tasks : Document) : List Slot :=
  slots Outcome.failure Outcome.failure (ordinaryTasks tasks)

/-- Where the tasks of the main body go when something is wrong: to the first task of the error
section, if there is one. -/
def recoveryTarget (tasks : Document) : String :=
  match errorSections tasks with
  | [] => Outcome.failure
  | inner :: _ => (ordinaryTasks inner).keys.headD Outcome.failure

/-- The slots of a workflow. -/
def layout (tasks : Document) : List Slot :=
  slots Outcome.success (recoveryTarget tasks) (ordinaryTasks tasks)
    ++ (errorSections tasks).flatMap recoverySlots

@[simp]
theorem slots_nil (ending failure : String) : slots ending failure [] = [] := rfl

@[simp]
theorem slots_cons (ending failure name : String) (body : Json) (rest : Document) :
    slots ending failure ((name, body) :: rest)
      = ⟨name, body, successTarget ending rest, failure⟩ :: slots ending failure rest := by
  cases rest <;> rfl

/-- The entry of the source that a slot is for. -/
def Slot.entry (slot : Slot) : String × Json :=
  (slot.name, slot.body)

theorem map_entry_slots (ending failure : String) (tasks : Document) :
    (slots ending failure tasks).map Slot.entry = tasks := by
  induction tasks with
  | nil => rfl
  | cons entry rest ih =>
    rw [slots_cons, List.map_cons, ih]
    rfl

/-- The slots of a workflow are for the tasks of its sections, section by section. -/
theorem map_entry_layout (tasks : Document) :
    (layout tasks).map Slot.entry = (sections tasks).flatMap ordinaryTasks := by
  rw [layout, sections, List.map_append, map_entry_slots, List.map_flatMap, List.flatMap_cons]
  simp only [recoverySlots, map_entry_slots]

theorem map_name_layout (tasks : Document) :
    (layout tasks).map Slot.name = (sections tasks).flatMap fun part =>
      (ordinaryTasks part).keys := by
  have hentries := congrArg (List.map Prod.fst) (map_entry_layout tasks)
  rw [List.map_map, List.map_flatMap] at hentries
  exact hentries

theorem forall_mem_layout_iff {P : Json → Prop} {tasks : Document} :
    (∀ slot ∈ layout tasks, P slot.body)
      ↔ ∀ part ∈ sections tasks, ∀ entry ∈ ordinaryTasks part, P entry.2 := by
  have hentries : (∀ entry ∈ (layout tasks).map Slot.entry, P entry.2)
      ↔ ∀ slot ∈ layout tasks, P slot.body := List.forall_mem_map
  rw [← hentries, map_entry_layout]
  simp only [List.forall_mem_flatMap]

namespace Slot

/-- The task of a slot is assembled. -/
def Assembles (scope : Scope) (slot : Slot) (task : Task) : Prop :=
  ∃ body, unwrapBody slot.name slot.body = .ok body
    ∧ assembleTask scope slot.name body slot.success slot.failure = .ok task

theorem Assembles.name_eq {scope : Scope} {slot : Slot} {task : Task}
    (h : slot.Assembles scope task) : task.name = slot.name := by
  obtain ⟨_, -, htask⟩ := h
  exact name_of_assembleTask htask

end Slot

/-! ## The assembly of a section -/

variable {scope : Scope} {tasks : Document} {workflow : Workflow}

theorem assembleTasks_eq_ok_iff {ending failure : String} {assembled : List Task} :
    assembleTasks scope ending failure tasks = .ok assembled
      ↔ List.Forall₂ (Slot.Assembles scope) (slots ending failure tasks) assembled := by
  induction tasks generalizing assembled with
  | nil => simp [assembleTasks, eq_comm]
  | cons entry rest ih =>
    obtain ⟨name, body⟩ := entry
    simp only [assembleTasks, bind_eq_ok_iff, pure, Except.pure, Except.ok.injEq, ih, slots_cons,
      List.forall₂_cons_left_iff, Slot.Assembles]
    apply Iff.intro
    · intro h
      obtain ⟨inner, hinner, task, htask, others, hothers, rfl⟩ := h
      exact ⟨task, others, ⟨inner, hinner, htask⟩, hothers, rfl⟩
    · intro h
      obtain ⟨task, others, ⟨inner, hinner, htask⟩, hothers, rfl⟩ := h
      exact ⟨inner, hinner, task, htask, others, hothers, rfl⟩

theorem assembleSection_eq_ok_iff {role : SectionRole} {chain : Option Workflow} :
    assembleSection scope role chain tasks = .ok workflow
      ↔ tasks ≠ [] ∧ ∃ assembled,
          List.Forall₂ (Slot.Assembles scope) (slots role.ending (failureTarget role chain) tasks)
            assembled
          ∧ workflow.tasks = assembled ++ (chain.map Workflow.tasks).getD [] := by
  unfold assembleSection
  split
  · next hempty => simp [List.isEmpty_iff.mp hempty]
  · next hempty =>
    have htasks : tasks ≠ [] := fun h => hempty (List.isEmpty_iff.mpr h)
    simp only [map_eq_ok_iff, assembleTasks_eq_ok_iff, htasks, ne_eq, not_false_eq_true, true_and]
    obtain ⟨all⟩ := workflow
    simp only [Workflow.mk.injEq, eq_comm (b := all)]

/-- The chain of a map of tasks is its error section, compiled as such. -/
theorem assembleChain_eq_ok_iff {chain : Option Workflow} :
    assembleChain scope tasks = .ok chain
      ↔ IsRecovery (tasks.get? Keyword.onFailure)
        ∧ ((recovery? tasks = none ∧ chain = none)
          ∨ ∃ inner compiled, recovery? tasks = some inner
            ∧ assembleWorkflow scope .recovery none inner = .ok compiled
            ∧ chain = some compiled) := by
  unfold assembleChain
  cases hsection : errorSection scope.unit tasks with
  | error cause =>
    have hnot : ¬ IsRecovery (tasks.get? Keyword.onFailure) := fun h => by
      rw [errorSection_eq_ok_iff.mpr ⟨h, rfl⟩] at hsection
      cases hsection
    simp [hnot]
  | ok found =>
    obtain ⟨hrecovers, rfl⟩ := errorSection_eq_ok_iff.mp hsection
    cases hinner : recovery? tasks with
    | none => simp [hrecovers, eq_comm]
    | some inner => simp [hrecovers, map_eq_ok_iff, eq_comm (b := chain)]

/-- A map of tasks is compiled after its chain. -/
theorem assembleWorkflow_eq_bind (role : SectionRole) :
    assembleWorkflow scope role none tasks = (assembleChain scope tasks >>= fun chain =>
      assembleSection scope role chain (ordinaryTasks tasks)) := by
  rw [assembleWorkflow, assembleChain]
  split
  · next hsection => rw [hsection]; rfl
  · next hsection => rw [hsection]; rfl
  · next inner hsection =>
    rw [hsection]
    simp only
    cases assembleWorkflow scope .recovery none inner <;> rfl

/-- Tasks without an error section are compiled with the chain they are given. -/
theorem assembleWorkflow_ordinaryTasks (role : SectionRole) (chain : Option Workflow) :
    assembleWorkflow scope role chain (ordinaryTasks tasks)
      = assembleSection scope role chain (ordinaryTasks tasks) := by
  have hsection : errorSection scope.unit (ordinaryTasks tasks) = .ok none := by
    rw [errorSection, get?_ordinaryTasks]
  rw [assembleWorkflow, ordinaryTasks_ordinaryTasks]
  split <;> simp_all

/-! ## The assembly of all sections -/

theorem names_eq_of_assembles {places : List Slot} {assembled : List Task}
    (h : List.Forall₂ (Slot.Assembles scope) places assembled) :
    assembled.map Task.name = places.map Slot.name := by
  induction h with
  | nil => rfl
  | cons hslot _ ih => rw [List.map_cons, List.map_cons, hslot.name_eq, ih]

/-- A map of tasks without error section is compiled if its own tasks are. -/
theorem assembleWorkflow_eq_ok_iff_of_none {role : SectionRole} (h : recovery? tasks = none) :
    assembleWorkflow scope role none tasks = .ok workflow
      ↔ IsSection tasks ∧ List.Forall₂ (Slot.Assembles scope)
          (slots role.ending Outcome.failure (ordinaryTasks tasks)) workflow.tasks := by
  have htarget : failureTarget role none = Outcome.failure := by cases role <;> rfl
  rw [assembleWorkflow_eq_bind, bind_eq_ok_iff]
  simp only [assembleChain_eq_ok_iff, assembleSection_eq_ok_iff, h, reduceCtorEq, false_and,
    exists_false, or_false, true_and]
  apply Iff.intro
  · intro h
    obtain ⟨_, ⟨hrecovers, rfl⟩, hinhabited, assembled, hassembled, htasks⟩ := h
    rw [htarget] at hassembled
    rw [htasks, Option.map_none, Option.getD_none, List.append_nil]
    exact ⟨⟨hrecovers, hinhabited⟩, hassembled⟩
  · intro h
    obtain ⟨⟨hrecovers, hinhabited⟩, hassembled⟩ := h
    refine ⟨none, ⟨hrecovers, rfl⟩, hinhabited, workflow.tasks, ?_, (List.append_nil _).symm⟩
    rw [htarget]
    exact hassembled

/-- A map of tasks with an error section is compiled if that and its own tasks are. -/
theorem assembleWorkflow_eq_ok_iff_of_some {role : SectionRole} {inner : Document}
    (h : recovery? tasks = some inner) :
    assembleWorkflow scope role none tasks = .ok workflow
      ↔ IsSection tasks ∧ ∃ compiled, assembleWorkflow scope .recovery none inner = .ok compiled
          ∧ ∃ assembled, List.Forall₂ (Slot.Assembles scope)
              (slots role.ending (failureTarget role (some compiled)) (ordinaryTasks tasks))
              assembled
            ∧ workflow.tasks = assembled ++ compiled.tasks := by
  rw [assembleWorkflow_eq_bind, bind_eq_ok_iff]
  simp only [assembleChain_eq_ok_iff, assembleSection_eq_ok_iff, h, reduceCtorEq, false_and,
    false_or, Option.some.injEq]
  apply Iff.intro
  · intro h
    obtain ⟨_, ⟨hrecovers, _, compiled, rfl, hcompiled, rfl⟩, hinhabited, assembled, hassembled,
      htasks⟩ := h
    exact ⟨⟨hrecovers, hinhabited⟩, compiled, hcompiled, assembled, hassembled, htasks⟩
  · intro h
    obtain ⟨⟨hrecovers, hinhabited⟩, compiled, hcompiled, assembled, hassembled, htasks⟩ := h
    exact ⟨some compiled, ⟨hrecovers, inner, compiled, rfl, hcompiled, rfl⟩, hinhabited, assembled,
      hassembled, htasks⟩

theorem assembleWorkflow_recovery_eq_ok_iff :
    assembleWorkflow scope .recovery none tasks = .ok workflow
      ↔ (∀ part ∈ sections tasks, IsSection part) ∧ List.Forall₂ (Slot.Assembles scope)
          ((sections tasks).flatMap recoverySlots) workflow.tasks := by
  induction tasks using errorSections.induct generalizing workflow with
  | case1 tasks h =>
    rw [assembleWorkflow_eq_ok_iff_of_none h, sections_of_none h, List.flatMap_singleton,
      List.forall_mem_singleton]
    rfl
  | case2 tasks inner h ih =>
    rw [assembleWorkflow_eq_ok_iff_of_some h, sections_of_some h, List.forall_mem_cons,
      List.flatMap_cons, forall₂_append_left_iff]
    simp only [ih]
    apply Iff.intro
    · intro h
      obtain ⟨htasks, compiled, ⟨hsections, hcompiled⟩, assembled, hassembled, hall⟩ := h
      exact ⟨⟨htasks, hsections⟩, assembled, compiled.tasks, hassembled, hcompiled, hall⟩
    · intro h
      obtain ⟨⟨htasks, hsections⟩, assembled, others, hassembled, hothers, hall⟩ := h
      exact ⟨htasks, ⟨others⟩, ⟨hsections, hothers⟩, assembled, hassembled, hall⟩

/-- The tasks of the main body go to the first task of the chain. -/
theorem failureTarget_of_recovery {inner : Document} {compiled : Workflow}
    (h : recovery? tasks = some inner)
    (hcompiled : assembleWorkflow scope .recovery none inner = .ok compiled) :
    failureTarget .main (some compiled) = recoveryTarget tasks := by
  obtain ⟨hsections, hassembled⟩ := assembleWorkflow_recovery_eq_ok_iff.mp hcompiled
  have hinhabited : ordinaryTasks inner ≠ [] := (hsections inner List.mem_cons_self).inhabited
  obtain ⟨⟨name, body⟩, rest, hrest⟩ := List.exists_cons_of_ne_nil hinhabited
  rw [sections, List.flatMap_cons, recoverySlots, hrest, slots_cons, List.cons_append,
    List.forall₂_cons_left_iff] at hassembled
  obtain ⟨first, others, hfirst, -, htasks⟩ := hassembled
  have hname : first.name = name := hfirst.name_eq
  rw [recoveryTarget, errorSections_of_some h, sections]
  simp [failureTarget, Workflow.first, htasks, hname, hrest, Document.keys]

theorem assembleWorkflow_main_eq_ok_iff :
    assembleWorkflow scope .main none tasks = .ok workflow
      ↔ (∀ part ∈ sections tasks, IsSection part)
        ∧ List.Forall₂ (Slot.Assembles scope) (layout tasks) workflow.tasks := by
  cases h : recovery? tasks with
  | none =>
    rw [assembleWorkflow_eq_ok_iff_of_none h, sections, layout, recoveryTarget,
      errorSections_of_none h, List.flatMap_nil, List.append_nil, List.forall_mem_singleton]
    rfl
  | some inner =>
    rw [assembleWorkflow_eq_ok_iff_of_some h, layout, sections, errorSections_of_some h,
      List.forall_mem_cons, forall₂_append_left_iff]
    apply Iff.intro
    · intro h
      obtain ⟨htasks, compiled, hcompiled, assembled, hassembled, hall⟩ := h
      obtain ⟨hsections, hothers⟩ := assembleWorkflow_recovery_eq_ok_iff.mp hcompiled
      rw [failureTarget_of_recovery h hcompiled] at hassembled
      exact ⟨⟨htasks, hsections⟩, assembled, compiled.tasks, hassembled, hothers, hall⟩
    · intro h
      obtain ⟨⟨htasks, hsections⟩, assembled, others, hassembled, hothers, hall⟩ := h
      have hcompiled : assembleWorkflow scope .recovery none inner = .ok ⟨others⟩ :=
        assembleWorkflow_recovery_eq_ok_iff.mpr ⟨hsections, hothers⟩
      refine ⟨htasks, ⟨others⟩, hcompiled, assembled, ?_, hall⟩
      rw [failureTarget_of_recovery h hcompiled]
      exact hassembled

/-! ## Flows -/

/-- Taking the error section out first comes to the same as leaving it among the tasks. -/
theorem assembleChain_bind_eq {role : SectionRole} :
    (assembleChain scope tasks >>= fun chain =>
        assembleWorkflow scope role chain (ordinaryTasks tasks))
      = assembleWorkflow scope role none tasks := by
  rw [assembleWorkflow_eq_bind]
  simp only [assembleWorkflow_ordinaryTasks]

theorem flowTasks_eq_ok_iff {unit name : String} {document : Document} :
    flowTasks unit name document = .ok tasks
      ↔ document.get? Keyword.workflow = some (.map tasks) ∧ tasks ≠ [] := by
  unfold flowTasks
  cases document.get? Keyword.workflow with
  | none => simp
  | some value =>
    cases value with
    | map entries =>
      cases entries with
      | nil => simp
      | cons entry rest =>
        simp only [Except.ok.injEq, Option.some.injEq, Json.map.injEq]
        exact ⟨fun h => ⟨h, h ▸ List.cons_ne_nil _ _⟩, And.left⟩
    | null | bool value | number value | string value | list items => simp

theorem assembleFlow_eq_ok_iff {options : Options} {unit : String} {document : Document} :
    assembleFlow scope options unit document = .ok workflow
      ↔ ∃ tasks, document.get? Keyword.workflow = some (.map tasks)
          ∧ (∀ part ∈ sections tasks, IsSection part)
          ∧ List.Forall₂ (Slot.Assembles scope) (layout tasks) workflow.tasks
          ∧ options.check unit workflow = .ok () := by
  have hflow : assembleFlow scope options unit document
      = (flowTasks unit scope.unit document >>= fun tasks =>
        (assembleChain scope tasks >>= fun chain =>
          assembleWorkflow scope .main chain (ordinaryTasks tasks)) >>= fun workflow =>
        options.check unit workflow >>= fun _ => .ok workflow) := by
    rw [assembleFlow]
    refine congrArg _ (funext fun tasks => ?_)
    cases assembleChain scope tasks <;> rfl
  simp only [hflow, assembleChain_bind_eq, bind_eq_ok_iff, flowTasks_eq_ok_iff,
    assembleWorkflow_main_eq_ok_iff, Except.ok.injEq]
  apply Iff.intro
  · intro h
    obtain ⟨tasks, ⟨htasks, -⟩, _, ⟨hsections, hassembled⟩, _, hcheck, rfl⟩ := h
    exact ⟨tasks, htasks, hsections, hassembled, hcheck⟩
  · intro h
    obtain ⟨tasks, htasks, hsections, hassembled, hcheck⟩ := h
    have hne : tasks ≠ [] := fun hnil =>
      (hsections tasks List.mem_cons_self).inhabited (by rw [hnil]; rfl)
    exact ⟨tasks, ⟨htasks, hne⟩, workflow, ⟨hsections, hassembled⟩, (), hcheck, rfl⟩

end FlowCompiler
