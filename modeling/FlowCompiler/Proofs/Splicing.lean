import FlowCompiler.Proofs.Attribution

/-!
# Splicing the error section

The error section of a map of tasks may be taken out and compiled first, and be supplied as the
chain when the rest of the map is compiled (`assembleSplit`); that is what is done with the workflow
of a flow. Or the map is compiled as it stands, and the section is found among the tasks. Both come
to the same workflow or the same error (`splitting_agrees`). An error section is given twice only
if a chain is supplied for a map that has a section of its own (`code_eq_failureTwice_iff`), so
neither of the two ever fails with that.
-/

namespace FlowCompiler

/-- The workflow of a map of tasks whose error section is taken out first: the section is compiled
as such, if there is one, and then the rest of the map with it as the chain. -/
def assembleSplit (scope : Scope) (role : SectionRole) (tasks : Document) :
    Except CompileError Workflow := do
  match ← errorSection scope.unit tasks with
  | none => assembleWorkflow scope role none (ordinaryTasks tasks)
  | some inner =>
    let chain ← assembleWorkflow scope .recovery none inner
    assembleWorkflow scope role (some chain) (ordinaryTasks tasks)

variable {scope : Scope} {role : SectionRole} {tasks : Document}

theorem assembleSplit_eq_bind :
    assembleSplit scope role tasks = (assembleChain scope tasks >>= fun chain =>
      assembleWorkflow scope role chain (ordinaryTasks tasks)) := by
  rw [assembleSplit, assembleChain]
  cases errorSection scope.unit tasks with
  | error cause => rfl
  | ok found =>
    cases found with
    | none => rfl
    | some inner =>
      simp only [ok_bind]
      cases assembleWorkflow scope .recovery none inner <;> rfl

theorem assembleSplit_eq :
    assembleSplit scope role tasks = assembleWorkflow scope role none tasks := by
  rw [assembleSplit_eq_bind, assembleChain_bind_eq]

/-- The workflow of a flow is made from its map of tasks with the error section taken out. -/
theorem assembleFlow_eq_bind_split (options : Options) (unit : String) (document : Document) :
    assembleFlow scope options unit document
      = (flowTasks unit scope.unit document >>= fun tasks =>
        assembleSplit scope .main tasks >>= fun workflow =>
        options.check unit workflow >>= fun _ => pure workflow) := by
  rw [assembleFlow]
  refine bind_congr fun tasks => ?_
  rw [assembleSplit_eq_bind, bind_assoc]

/-! ## Error sections that are given twice -/

theorem TasksFail.code_ne {cause : CompileError} (h : TasksFail scope tasks cause) :
    cause.code ≠ "W004" := by
  obtain ⟨part, -, hsection | ⟨entry, -, hentry⟩⟩ := h
  · exact fun hcode => absurd (hcode ▸ hsection.isAbout.2) (by decide)
  · exact fun hcode => absurd (hcode ▸ hentry.isAbout.2) (by decide)

/-- With a chain supplied, a map of tasks must not have an error section. -/
theorem assembleWorkflow_some_eq_bind (chain : Workflow) :
    assembleWorkflow scope role (some chain) tasks
      = (errorSection scope.unit tasks >>= fun found =>
        match found with
        | none => assembleSection scope role (some chain) (ordinaryTasks tasks)
        | some _ => .error (.workflow scope.unit .failureTwice)) := by
  rw [assembleWorkflow]
  split
  · next hsection => rw [hsection, error_bind]
  · next hsection => rw [hsection, ok_bind]
  · next inner hsection => rw [hsection, ok_bind]

/-- An error section is given twice exactly if a chain is supplied for a map with a section of its
own. -/
theorem code_eq_failureTwice_iff (chain : Workflow) :
    (∃ cause, assembleWorkflow scope role (some chain) tasks = .error cause ∧ cause.code = "W004")
      ↔ ∃ inner, recovery? tasks = some inner := by
  rw [assembleWorkflow_some_eq_bind]
  apply Iff.intro
  · intro h
    obtain ⟨cause, hcause, hcode⟩ := h
    rcases bind_eq_error_iff.mp hcause with hsection | ⟨found, hfound, hrest⟩
    · have hfails : TasksFail scope tasks cause := ⟨tasks, List.mem_cons_self, .inl (.inl hsection)⟩
      exact absurd hcode hfails.code_ne
    · obtain ⟨-, rfl⟩ := errorSection_eq_ok_iff.mp hfound
      cases hinner : recovery? tasks with
      | some inner => exact ⟨inner, rfl⟩
      | none =>
        rw [hinner] at hrest
        exact absurd hcode (failsOnly_assembleSection cause hrest).code_ne
  · intro h
    obtain ⟨inner, hinner⟩ := h
    have hrecovers : IsRecovery (tasks.get? Keyword.onFailure) := by
      rw [get?_of_recovery? hinner]
      trivial
    rw [errorSection_eq_ok_iff.mpr ⟨hrecovers, hinner.symm⟩, ok_bind]
    exact ⟨_, rfl, rfl⟩

/-- Taking the error section out of a map of tasks first comes to the same as compiling the map as
it stands, whatever stands under the key of the section: the same workflow or the same error. The
error is never about a section that is given twice. A flow is compiled in the first way. -/
theorem splitting_agrees (scope : Scope) (role : SectionRole) (tasks : Document) :
    assembleSplit scope role tasks = assembleWorkflow scope role none tasks
      ∧ (∀ cause, assembleSplit scope role tasks = .error cause → cause.code ≠ "W004")
      ∧ (∀ chain, (∃ cause, assembleWorkflow scope role (some chain) tasks = .error cause
            ∧ cause.code = "W004")
          ↔ ∃ inner, recovery? tasks = some inner)
      ∧ ∀ options unit document, assembleFlow scope options unit document
          = (flowTasks unit scope.unit document >>= fun found =>
            assembleSplit scope .main found >>= fun workflow =>
            options.check unit workflow >>= fun _ => pure workflow) := by
  refine ⟨assembleSplit_eq, fun cause hcause => ?_, code_eq_failureTwice_iff,
    assembleFlow_eq_bind_split⟩
  rw [assembleSplit_eq] at hcause
  exact (failsOnly_assembleWorkflow cause hcause).code_ne

end FlowCompiler
