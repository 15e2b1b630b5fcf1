import FlowCompiler.Proofs.Sections

/-!
# Executables

When an executable is assembled, and what it is then (`assemble_eq_ok_iff`), step by step as the
assembly proceeds. For a flow this comes down to its workflow (`exists_workflow_of_assemble`) and to
the slots of that (`exists_layout_of_assemble`).
-/

namespace FlowCompiler

namespace Compiler

/-- What everything has in common that is compiled for one executable. -/
def scope (compiler : Compiler) (unit : SourceUnit) (name : String) : Scope :=
  ⟨compiler.registry, unit.imports, name⟩

variable {compiler : Compiler} {unit : SourceUnit} {name : String} {document : Document}

theorem assemble_eq_ok_iff {executable : Executable} :
    compiler.assemble unit name document = .ok executable
      ↔ document ≠ []
        ∧ validateKeys name document (compiler.registry.stages Stage.ofExecutable)
            Keyword.ofExecutable = .ok ()
        ∧ ∃ before, runStage name document (compiler.registry.stage .beforeExecutable) = .ok before
        ∧ ∃ after, runStage name document (compiler.registry.stage .afterExecutable) = .ok after
        ∧ ∃ inputs, (compiler.scope unit name).resolveInputs unit.name
            (declared before Keyword.inputs FieldValue.inputs?) = .ok inputs
        ∧ ∃ body dependencies,
            assembleBody (compiler.scope unit name) compiler.options unit document
              = .ok (body, dependencies)
        ∧ executable =
          { space := unit.space
            name := name
            inputs := inputs
            outputs := declared after Keyword.outputs FieldValue.outputs?
            results := declared after Keyword.results FieldValue.results?
            preExecutableData := before.erase Keyword.inputs
            postExecutableData := (after.erase Keyword.outputs).erase Keyword.results
            body := body
            dependencies := dependencies } := by
  unfold assemble
  split
  · next hempty => simp [List.isEmpty_iff.mp hempty]
  · next hempty =>
    have hdocument : document ≠ [] := fun h => hempty (List.isEmpty_iff.mpr h)
    simp only [bind_eq_ok_iff, pure, Except.pure, Except.ok.injEq, hdocument, ne_eq,
      not_false_eq_true, true_and, eq_comm (b := executable)]
    apply Iff.intro
    · intro h
      obtain ⟨_, hkeys, before, hbefore, after, hafter, inputs, hinputs, ⟨body, dependencies⟩,
        hbody, hexecutable⟩ := h
      exact ⟨hkeys, before, hbefore, after, hafter, inputs, hinputs, body, dependencies, hbody,
        hexecutable⟩
    · intro h
      obtain ⟨hkeys, before, hbefore, after, hafter, inputs, hinputs, body, dependencies, hbody,
        hexecutable⟩ := h
      exact ⟨(), hkeys, before, hbefore, after, hafter, inputs, hinputs, (body, dependencies),
        hbody, hexecutable⟩

/-- An executable has the namespace of its unit and the name that it is compiled under. -/
theorem names_of_assemble {executable : Executable}
    (h : compiler.assemble unit name document = .ok executable) :
    executable.space = unit.space ∧ executable.name = name := by
  obtain ⟨-, -, _, -, _, -, _, -, _, _, -, rfl⟩ := assemble_eq_ok_iff.mp h
  exact ⟨rfl, rfl⟩

/-- Only a flow is compiled to one. -/
theorem isFlow_iff_of_assemble {executable : Executable}
    (h : compiler.assemble unit name document = .ok executable) :
    executable.isFlow = true ↔ unit.kind = .flow := by
  obtain ⟨-, -, _, -, _, -, _, -, body, _, hbody, rfl⟩ := assemble_eq_ok_iff.mp h
  cases hkind : unit.kind with
  | flow =>
    simp only [assembleBody, hkind, map_eq_ok_iff, Prod.mk.injEq] at hbody
    obtain ⟨workflow, -, rfl, -⟩ := hbody
    exact iff_of_true rfl rfl
  | operation =>
    simp only [assembleBody, hkind, map_eq_ok_iff, Prod.mk.injEq] at hbody
    obtain ⟨action, -, rfl, -⟩ := hbody
    exact iff_of_false Bool.false_ne_true nofun
  | systemProperties =>
    simp only [assembleBody, hkind] at hbody
    cases hbody

/-- The body of a flow is its workflow, and the flow depends on what that calls. -/
theorem exists_workflow_of_assemble {executable : Executable} (hflow : unit.kind = .flow)
    (h : compiler.assemble unit name document = .ok executable) :
    ∃ workflow, executable.body = .flow workflow
      ∧ executable.dependencies = workflow.dependencies
      ∧ assembleFlow (compiler.scope unit name) compiler.options unit.name document
        = .ok workflow := by
  obtain ⟨-, -, before, -, after, -, inputs, -, body, dependencies, hbody, rfl⟩ :=
    assemble_eq_ok_iff.mp h
  simp only [assembleBody, hflow, map_eq_ok_iff, Prod.mk.injEq] at hbody
  obtain ⟨workflow, hworkflow, rfl, rfl⟩ := hbody
  exact ⟨workflow, rfl, rfl, hworkflow⟩

/-- A flow is assembled from its workflow, all of whose sections are rightly formed. -/
theorem exists_layout_of_assemble {executable : Executable} (hflow : unit.kind = .flow)
    (h : compiler.assemble unit name document = .ok executable) :
    ∃ tasks workflow, document.get? Keyword.workflow = some (.map tasks)
      ∧ executable.body = .flow workflow
      ∧ (∀ part ∈ sections tasks, IsSection part)
      ∧ List.Forall₂ (Slot.Assembles (compiler.scope unit name)) (layout tasks) workflow.tasks := by
  obtain ⟨workflow, hbody, -, hworkflow⟩ := exists_workflow_of_assemble hflow h
  obtain ⟨tasks, htasks, hsections, hassembled, -⟩ := assembleFlow_eq_ok_iff.mp hworkflow
  exact ⟨tasks, workflow, htasks, hbody, hsections, hassembled⟩

/-- A flow begins with a task. -/
theorem exists_first_of_assemble {executable : Executable} {workflow : Workflow}
    (hflow : unit.kind = .flow) (h : compiler.assemble unit name document = .ok executable)
    (hbody : executable.body = .flow workflow) : ∃ first, workflow.first = some first := by
  obtain ⟨tasks, assembled, -, hassembled, hsections, hslots⟩ := exists_layout_of_assemble hflow h
  obtain rfl := Body.flow.inj (hbody.symm.trans hassembled)
  have hinhabited : ordinaryTasks tasks ≠ [] := (hsections tasks List.mem_cons_self).inhabited
  obtain ⟨⟨first, body⟩, rest, hrest⟩ := List.exists_cons_of_ne_nil hinhabited
  rw [layout, hrest, slots_cons, List.cons_append, List.forall₂_cons_left_iff] at hslots
  obtain ⟨task, others, -, -, htasks⟩ := hslots
  exact ⟨task, by rw [Workflow.first, htasks, List.head?_cons]⟩

end Compiler

end FlowCompiler
