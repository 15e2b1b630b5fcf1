import FlowCompiler.Proofs.Checks

/-!
# Compilations that agree

`Agree P` relates two computations that succeed with the same value, or fail with errors that `P`
relates; if `P` is equality they are the same (`Agree.eq`). It is kept by the ways in which
computations are put together.

Two compilations of a document, with registries and tables of aliases of their own, agree if they do
so on its declarations and on its body (`Compiler.agree_assemble`). On the body of a flow they do so
if they do on every task, wherever in the sections it stands (`taskEntries`), and on that of an
operation if they do on the action (`agree_assembleBody`).
-/

namespace FlowCompiler

/-- Both computations succeed with the same value, or both fail, with errors that are related. -/
inductive Agree {ε α : Type} (P : ε → ε → Prop) : Except ε α → Except ε α → Prop
  | failed {cause other : ε} : P cause other → Agree P (.error cause) (.error other)
  | made (a : α) : Agree P (.ok a) (.ok a)

namespace Agree

variable {ε α β : Type} {P : ε → ε → Prop} {x y : Except ε α}

theorem refl [Std.Refl P] (x : Except ε α) : Agree P x x := by
  cases x with
  | error cause => exact .failed (Std.Refl.refl cause)
  | ok a => exact .made a

theorem of_eq [Std.Refl P] (h : x = y) : Agree P x y :=
  h ▸ .refl x

theorem eq (h : Agree Eq x y) : x = y := by
  cases h with
  | failed hcause => rw [hcause]
  | made a => rfl

theorem trans {z : Except ε α} (hP : ∀ {a b c}, P a b → P b c → P a c) (hxy : Agree P x y)
    (hyz : Agree P y z) : Agree P x z := by
  cases hxy with
  | made a => exact hyz
  | failed hleft =>
    cases hyz with
    | failed hright => exact .failed (hP hleft hright)

/-- The second step is taken with the value that the first one has in both. -/
theorem bind {f g : α → Except ε β} (h : Agree P x y)
    (hfg : ∀ a, x = .ok a → Agree P (f a) (g a)) : Agree P (x >>= f) (y >>= g) := by
  cases h with
  | failed hcause => exact .failed hcause
  | made a => exact hfg a rfl

theorem map {f : α → β} (h : Agree P x y) : Agree P (x.map f) (y.map f) := by
  cases h with
  | failed hcause => exact .failed hcause
  | made a => exact .made (f a)

end Agree

/-! ## The tasks of a flow -/

/-- The entries of the tasks of a flow, section by section. -/
def taskEntries (document : Document) : Document :=
  match document.get? Keyword.workflow with
  | some (.map tasks) => (sections tasks).flatMap ordinaryTasks
  | _ => []

theorem taskEntries_eq {document tasks : Document}
    (h : document.get? Keyword.workflow = some (.map tasks)) :
    taskEntries document = (sections tasks).flatMap ordinaryTasks := by
  rw [taskEntries, h]

/-- The task is what the entry is assembled to with some default targets. -/
def IsTaskOf (scope : Scope) (entry : String × Json) (task : Task) : Prop :=
  ∃ success failure, assembleTask scope entry.1 (taskBody entry.2) success failure = .ok task

/-- The tasks of a flow that is compiled are those of its entries. -/
theorem Compiler.isTaskOf_of_assemble {compiler : Compiler} {unit : SourceUnit} {name : String}
    {document : Document} {executable : Executable} {workflow : Workflow}
    (hflow : unit.kind = .flow) (h : compiler.assemble unit name document = .ok executable)
    (hbody : executable.body = .flow workflow) :
    List.Forall₂ (IsTaskOf (compiler.scope unit name)) (taskEntries document) workflow.tasks := by
  obtain ⟨tasks, assembled, htasks, hassembled, -, hslots⟩ := exists_layout_of_assemble hflow h
  obtain rfl := Body.flow.inj (hbody.symm.trans hassembled)
  rw [taskEntries_eq htasks, ← map_entry_layout, List.forall₂_map_left_iff]
  refine hslots.imp fun slot task hslot => ?_
  obtain ⟨body, hunwrapped, htask⟩ := hslot
  obtain ⟨-, rfl⟩ := unwrapBody_eq_ok_iff.mp hunwrapped
  exact ⟨slot.success, slot.failure, htask⟩

theorem names_of_isTaskOf {scope : Scope} {entries : Document} {tasks : List Task}
    (h : List.Forall₂ (IsTaskOf scope) entries tasks) : tasks.map Task.name = entries.keys := by
  induction h with
  | nil => rfl
  | cons htask _ ih =>
    obtain ⟨_, _, htask⟩ := htask
    rw [List.map_cons, name_of_assembleTask htask, ih]
    rfl

section Flows

variable {P : CompileError → CompileError → Prop} [Std.Refl P] {left right : Scope}
  {tasks document : Document}

/-- Whatever its default targets are, the two scopes agree on the task of an entry. -/
def AgreeOnTask (P : CompileError → CompileError → Prop) (left right : Scope)
    (entry : String × Json) : Prop :=
  ∀ success failure, Agree P (assembleTask left entry.1 (taskBody entry.2) success failure)
    (assembleTask right entry.1 (taskBody entry.2) success failure)

theorem agree_assembleTasks {ending failure : String}
    (h : ∀ entry ∈ tasks, AgreeOnTask P left right entry) :
    Agree P (assembleTasks left ending failure tasks) (assembleTasks right ending failure tasks) := by
  induction tasks with
  | nil => exact .refl _
  | cons entry rest ih =>
    obtain ⟨hentry, hrest⟩ := List.forall_mem_cons.mp h
    rw [assembleTasks, assembleTasks]
    refine .bind (.refl _) fun body hbody => ?_
    obtain ⟨-, rfl⟩ := unwrapBody_eq_ok_iff.mp hbody
    refine .bind (hentry _ _) fun task _ => ?_
    exact .bind (ih hrest) fun others _ => .refl _

theorem agree_assembleSection (hunit : left.unit = right.unit) (role : SectionRole)
    (chain : Option Workflow) (h : ∀ entry ∈ tasks, AgreeOnTask P left right entry) :
    Agree P (assembleSection left role chain tasks) (assembleSection right role chain tasks) := by
  unfold assembleSection
  rw [hunit]
  split
  · exact .refl _
  · exact (agree_assembleTasks h).map

theorem agree_assembleChain (hunit : left.unit = right.unit)
    (h : ∀ inner, recovery? tasks = some inner →
      Agree P (assembleWorkflow left .recovery none inner)
        (assembleWorkflow right .recovery none inner)) :
    Agree P (assembleChain left tasks) (assembleChain right tasks) := by
  unfold assembleChain
  rw [hunit]
  cases hsection : errorSection right.unit tasks with
  | error cause => exact .refl _
  | ok found =>
    obtain ⟨-, hfound⟩ := errorSection_eq_ok_iff.mp hsection
    cases found with
    | none => exact .refl _
    | some inner => exact (h inner hfound.symm).map

/-- Two scopes agree on a workflow if they agree on the tasks of all its sections. The induction is
over the error sections. -/
theorem agree_assembleWorkflow (hunit : left.unit = right.unit) {role : SectionRole}
    (h : ∀ entry ∈ (sections tasks).flatMap ordinaryTasks, AgreeOnTask P left right entry) :
    Agree P (assembleWorkflow left role none tasks) (assembleWorkflow right role none tasks) := by
  induction tasks using errorSections.induct generalizing role with
  | case1 tasks hnone =>
    rw [sections_of_none hnone, List.flatMap_singleton] at h
    rw [assembleWorkflow_eq_bind, assembleWorkflow_eq_bind]
    refine .bind (agree_assembleChain hunit fun inner hinner => ?_) fun chain _ =>
      agree_assembleSection hunit role chain h
    rw [hnone] at hinner
    cases hinner
  | case2 tasks inner hsome ih =>
    rw [sections_of_some hsome, List.flatMap_cons, List.forall_mem_append] at h
    rw [assembleWorkflow_eq_bind, assembleWorkflow_eq_bind]
    refine .bind (agree_assembleChain hunit fun found hfound => ?_) fun chain _ =>
      agree_assembleSection hunit role chain h.1
    obtain rfl : inner = found := Option.some.inj (hsome.symm.trans hfound)
    exact ih h.2

theorem agree_assembleFlow (hunit : left.unit = right.unit) (options : Options) (unit : String)
    (h : ∀ entry ∈ taskEntries document, AgreeOnTask P left right entry) :
    Agree P (assembleFlow left options unit document)
      (assembleFlow right options unit document) := by
  rw [assembleFlow_eq_bind_tasks left, assembleFlow_eq_bind_tasks right, hunit]
  refine .bind (.bind (.refl _) fun tasks htasks => ?_) fun workflow _ => .refl _
  rw [taskEntries_eq (flowTasks_eq_ok_iff.mp htasks).1] at h
  exact agree_assembleWorkflow hunit h

end Flows

/-! ## Executables -/

theorem actionDocument_eq_ok_iff {unit name : String} {document action : Document} :
    actionDocument unit name document = .ok action
      ↔ document.get? Keyword.action = some (.map action) ∧ action ≠ [] := by
  unfold actionDocument
  cases document.get? Keyword.action with
  | none => simp
  | some value =>
    cases value with
    | map entries =>
      cases entries with
      | nil => simp
      | cons entry rest =>
        simp only [Except.ok.injEq, Option.some.injEq, Json.map.injEq]
        exact ⟨fun h => ⟨h, h ▸ List.cons_ne_nil _ _⟩, And.left⟩
    | null | bool value | number value | string value | list items => simp

section Executables

variable {P : CompileError → CompileError → Prop} [Std.Refl P] {options : Options}
  {unit : SourceUnit} {name : String} {document : Document}

/-- Two scopes agree on a body if they agree on its tasks or on its action, whichever it has. -/
theorem agree_assembleBody {left right : Scope} (hunit : left.unit = right.unit)
    (htasks : unit.kind = .flow → ∀ entry ∈ taskEntries document, AgreeOnTask P left right entry)
    (haction : unit.kind = .operation → ∀ action,
      document.get? Keyword.action = some (.map action) →
      Agree P (assembleAction left action) (assembleAction right action)) :
    Agree P (assembleBody left options unit document)
      (assembleBody right options unit document) := by
  unfold assembleBody
  split
  · next hflow => exact (agree_assembleFlow hunit options unit.name (htasks hflow)).map
  · next hoperation =>
    refine Agree.map ?_
    unfold assembleOperation
    rw [hunit]
    refine .bind (.refl _) fun action hdocument => ?_
    exact haction hoperation action (actionDocument_eq_ok_iff.mp hdocument).1
  · exact .refl _

/-- Two compilations agree if they agree on every step that depends on the extractors or on the
table. -/
theorem Compiler.agree_assemble {left right : Registry} {imports others : Option Imports}
    (hkeys : Agree P
      (validateKeys name document (left.stages Stage.ofExecutable) Keyword.ofExecutable)
      (validateKeys name document (right.stages Stage.ofExecutable) Keyword.ofExecutable))
    (hstages : ∀ stage ∈ Stage.ofExecutable, Agree P (runStage name document (left.stage stage))
      (runStage name document (right.stage stage)))
    (hinputs : ∀ before, runStage name document (left.stage .beforeExecutable) = .ok before →
      Agree P
        ((Scope.mk left imports name).resolveInputs unit.name
          (declared before Keyword.inputs FieldValue.inputs?))
        ((Scope.mk right others name).resolveInputs unit.name
          (declared before Keyword.inputs FieldValue.inputs?)))
    (hbody : Agree P (assembleBody ⟨left, imports, name⟩ options unit document)
      (assembleBody ⟨right, others, name⟩ options unit document)) :
    Agree P ((Compiler.mk left options).assemble { unit with imports := imports } name document)
      ((Compiler.mk right options).assemble { unit with imports := others } name document) := by
  unfold assemble
  split
  · exact .refl _
  · refine .bind hkeys fun _ _ => ?_
    refine .bind (hstages _ (by decide)) fun before hbefore => ?_
    refine .bind (hstages _ (by decide)) fun after _ => ?_
    refine .bind (hinputs before hbefore) fun inputs _ => ?_
    exact .bind hbody fun compiled _ => .refl _

end Executables

end FlowCompiler
