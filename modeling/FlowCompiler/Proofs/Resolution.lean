import FlowCompiler.Proofs.FlowGrammar

/-!
# Resolved references

A flow refers to other executables in three places: in its inputs, in the bindings of its calls, and
in the calls themselves. `StandsFor` says what a reference stands for, `IsResolved` what an entry of
inputs or bindings becomes, and `Calls` what a task of the source becomes. In a compiled flow every
reference has been resolved once, wherever in the sections it stands, and the flow depends on just
the executables that its tasks call (`references_resolved`).
-/

namespace FlowCompiler

open Extractor Reference

/-! ## Inputs and bindings -/

namespace Reference

/-- The text is the reference with its alias replaced by the namespace that the table has for it. -/
def StandsFor (imports : Option Imports) (reference resolved : String) : Prop :=
  ∃ table space, imports = some table ∧ table.get? (aliasOf reference) = some space
    ∧ resolved = space ++ "." ++ remainderOf reference

/-- The second input is the first, but with its system property, if it has one, replaced by what
that stands for. -/
structure IsRewritten (imports : Option Imports) (input result : Input) : Prop where
  kept : { result with systemProperty := none } = { input with systemProperty := none }
  named : ∀ property, input.systemProperty = some property →
    ∃ resolved, StandsFor imports property resolved ∧ result.systemProperty = some resolved
  unnamed : input.systemProperty = none → result.systemProperty = none

/-- The input is what the entry declares, but with the system property that the entry names, if it
names one, replaced by what that stands for. -/
structure IsResolved (imports : Option Imports) (entry : String × Json) (input : Input) : Prop where
  declared : { input with systemProperty := none }
    = { inputOf (Text.trim entry.1) entry.2 with systemProperty := none }
  named : ∀ property, systemProperty? entry.2 = some property →
    ∃ resolved, StandsFor imports property resolved ∧ input.systemProperty = some resolved
  unnamed : systemProperty? entry.2 = none → input.systemProperty = none

variable {imports : Option Imports}

theorem eq_of_kept {input result : Input}
    (hkept : { result with systemProperty := none } = { input with systemProperty := none })
    (hproperty : result.systemProperty = input.systemProperty) : result = input := by
  cases input
  cases result
  simp_all

theorem resolveInput_eq_ok_iff {input result : Input} :
    resolveInput imports input = .ok result ↔ IsRewritten imports input result := by
  unfold resolveInput
  cases hproperty : input.systemProperty with
  | none =>
    apply Iff.intro
    · intro h
      obtain rfl := Except.ok.inj h
      exact ⟨rfl, fun property hsome => (nomatch hproperty.symm.trans hsome), fun _ => hproperty⟩
    · intro h
      rw [eq_of_kept h.kept ((h.unnamed hproperty).trans hproperty.symm)]
  | some property =>
    rw [map_eq_ok_iff]
    apply Iff.intro
    · intro h
      obtain ⟨resolved, hresolved, rfl⟩ := h
      refine ⟨rfl, fun other hsome => ?_, fun hnone => (nomatch hproperty.symm.trans hnone)⟩
      obtain rfl := Option.some.inj (hproperty.symm.trans hsome)
      exact ⟨resolved, resolve_eq_ok_iff.mp hresolved, rfl⟩
    · intro h
      obtain ⟨resolved, hstands, hresult⟩ := h.named property hproperty
      have heq : result = { input with systemProperty := some resolved } :=
        eq_of_kept h.kept hresult
      exact ⟨resolved, resolve_eq_ok_iff.mpr hstands, heq.symm⟩

theorem isResolved_of_resolveInput {entry : String × Json} {input : Input}
    (h : resolveInput imports (inputOf (Text.trim entry.1) entry.2) = .ok input) :
    IsResolved imports entry input := by
  obtain ⟨hkept, hnamed, hunnamed⟩ := resolveInput_eq_ok_iff.mp h
  rw [systemProperty_inputOf] at hnamed hunnamed
  exact ⟨hkept, hnamed, hunnamed⟩

end Reference

theorem Scope.isResolved_of_resolveInputs {scope : Scope} {unit : String} {entries : Document}
    {inputs : List Input}
    (h : scope.resolveInputs unit (declarations inputOf entries) = .ok inputs) :
    List.Forall₂ (IsResolved scope.imports) entries inputs := by
  rw [resolveInputs, mapError_eq_ok_iff, resolveAll_eq_ok_iff, declarations,
    List.forall₂_map_left_iff] at h
  exact h.imp fun _ _ => isResolved_of_resolveInput

/-! ## Tasks -/

/-- The task is made from the entry of the source: it has its name, it calls what the single key
under the key of the callee stands for, and it has the bindings that stand there, resolved. -/
structure Calls (imports : Option Imports) (entry : String × Json) (task : Task) : Prop where
  name_eq : task.name = entry.1
  call : ∃ reference bindings,
    (taskBody entry.2).get? Keyword.callee = some (.map [(reference, bindings)])
      ∧ StandsFor imports reference task.refId
      ∧ IsBindings bindings ∧ List.Forall₂ (IsResolved imports) (entries bindings) task.inputs

section Tasks

variable {scope : Scope} {name : String} {body : Document}

/-- The bindings of a task are those of its call, resolved. -/
theorem inputs_of_resolveBindings {fields resolved : FieldMap} {held : List Input}
    (hget : fields.get? Keyword.callee = some (.inputs held))
    (h : resolveBindings scope name fields = .ok resolved) :
    ∃ inputs, scope.resolveInputs name held = .ok inputs
      ∧ resolved.get? Keyword.callee = some (.inputs inputs) := by
  rw [resolveBindings, hget, Option.bind_some, FieldValue.inputs?, map_eq_ok_iff] at h
  obtain ⟨inputs, hinputs, rfl⟩ := h
  exact ⟨inputs, hinputs, by rw [SortedMap.get?_insert, if_pos rfl]⟩

theorem call_of_assembleTask {success failure : String} {task : Task}
    (hregistry : scope.registry = .standard)
    (h : assembleTask scope name body success failure = .ok task) :
    ∃ reference bindings, body.get? Keyword.callee = some (.map [(reference, bindings)])
      ∧ StandsFor scope.imports reference task.refId
      ∧ IsBindings bindings
      ∧ List.Forall₂ (IsResolved scope.imports) (entries bindings) task.inputs := by
  obtain ⟨-, -, before, hbefore, _, -, resolved, hresolved, reference, hreference, refId, hrefId,
    rfl⟩ := assembleTask_eq_ok_iff.mp h
  rw [hregistry] at hbefore
  obtain ⟨bindings, hcall⟩ := calleeReference_eq_ok_iff.mp hreference
  obtain ⟨hbindings, -⟩ := (exists_runStage_beforeTask_iff hcall).mp ⟨before, hbefore⟩
  obtain ⟨inputs, hinputs, hget⟩ :=
    inputs_of_resolveBindings (get?_callee_of_beforeTask hcall hbefore) hresolved
  refine ⟨reference, bindings, hcall, ?_, hbindings, ?_⟩
  · exact resolve_eq_ok_iff.mp (mapError_eq_ok_iff.mp hrefId)
  · simp only [Task.inputs, hget, Option.bind_some, FieldValue.inputs?, Option.getD_some]
    exact Scope.isResolved_of_resolveInputs hinputs

theorem Slot.Assembles.calls {slot : Slot} {task : Task} (hregistry : scope.registry = .standard)
    (h : slot.Assembles scope task) : Calls scope.imports slot.entry task := by
  have hname := h.name_eq
  obtain ⟨body, hbody, htask⟩ := h
  obtain ⟨-, rfl⟩ := unwrapBody_eq_ok_iff.mp hbody
  exact ⟨hname, call_of_assembleTask hregistry htask⟩

end Tasks

/-! ## Executables -/

theorem Workflow.mem_dependencies_iff {workflow : Workflow} {id : String} {kind : DependencyKind} :
    (id, kind) ∈ workflow.dependencies.entries
      ↔ kind = .executable ∧ id ∈ workflow.tasks.map Task.refId := by
  have hvalue : ∀ binding ∈
      workflow.tasks.map (fun task => (task.refId, DependencyKind.executable)),
      binding.2 = .executable := by simp
  rw [dependencies, SortedMap.mem_ofList_iff hvalue, List.map_map]
  rfl

/-- In an executable that is compiled every system property that an input names is resolved. If it
is a flow, its tasks are those of its sections, each with its call and its bindings resolved, and it
depends on just the executables that they call; an operation depends on nothing. -/
theorem references_resolved {options : Options} {unit : SourceUnit} {name : String}
    {document : Document} {executable : Executable}
    (h : (Compiler.mk .standard options).assemble unit name document = .ok executable) :
    IsItemList IsInputValue (document.value Keyword.inputs)
      ∧ List.Forall₂ (IsResolved unit.imports) (entries (document.value Keyword.inputs))
          executable.inputs
      ∧ (unit.kind = .flow →
        ∃ tasks workflow, document.get? Keyword.workflow = some (.map tasks)
          ∧ executable.body = .flow workflow
          ∧ List.Forall₂ (Calls unit.imports) ((sections tasks).flatMap ordinaryTasks)
              workflow.tasks
          ∧ ∀ id kind, (id, kind) ∈ executable.dependencies.entries
              ↔ kind = .executable ∧ id ∈ workflow.tasks.map Task.refId)
      ∧ (unit.kind = .operation → executable.dependencies = .empty) := by
  obtain ⟨hdeclarations, -⟩ := (Compiler.exists_assemble_iff rfl).mp ⟨executable, h⟩
  obtain ⟨-, -, before, hbefore, after, -, inputs, hinputs, body, dependencies, hbody, rfl⟩ :=
    Compiler.assemble_eq_ok_iff.mp h
  rw [declared_of_beforeExecutable hbefore] at hinputs
  refine ⟨hdeclarations.inputs, Scope.isResolved_of_resolveInputs hinputs, fun hflow => ?_,
    fun hoperation => ?_⟩
  · obtain ⟨workflow, hworkflow, hdependencies, hassembled⟩ :=
      Compiler.exists_workflow_of_assemble hflow h
    obtain ⟨tasks, htasks, -, hslots, -⟩ := assembleFlow_eq_ok_iff.mp hassembled
    refine ⟨tasks, workflow, htasks, hworkflow, ?_, fun id kind => ?_⟩
    · rw [← map_entry_layout, List.forall₂_map_left_iff]
      exact hslots.imp fun _ _ => Slot.Assembles.calls rfl
    · rw [hdependencies]
      exact Workflow.mem_dependencies_iff
  · simp only [assembleBody, hoperation, map_eq_ok_iff, Prod.mk.injEq] at hbody
    obtain ⟨_, -, -, rfl⟩ := hbody
    rfl

/-- A flow with references in inputs, in both forms of bindings, in a loop and two sections deep;
two tasks call the same executable, and one reference has no dot. -/
def copyFlow : Document :=
  [(Keyword.inputs, .list
    [.string "host",
     .map [("region", .map [(Keyword.systemProperty, .string "env.cloud.region")])]]),
   (Keyword.workflow, .map
    [("copy", .map [(Keyword.loop, .map
      [(Keyword.header, .string "file in files"),
       (Keyword.callee, .map [("ops.copy", .map
        [("mode", .string "env.mode"),
         ("place", .map [(Keyword.systemProperty, .string "env.place")])])])])]),
     (Keyword.onFailure, .map
      [("undo", .map [(Keyword.callee, .map [("ops", .null)])]),
       (Keyword.onFailure, .map
        [("retry", .map [(Keyword.callee, .map [("ops.copy", .list
          [.map [("place", .map [(Keyword.systemProperty, .string "env.spare")])]])])])])])])]

/-- The unit of `copyFlow`. -/
def copyUnit : SourceUnit where
  name := "demo.copy"
  kind := .flow
  space := "demo"
  imports := some (.ofList [("ops", "org.ops"), ("env", "org.env")])

/-- An operation of the same unit that names a system property. -/
def markOperation : Document :=
  [(Keyword.inputs, .list [.map [("place", .map
    [(Keyword.systemProperty, .string "env.place")])]]),
   (Keyword.action, .map [(Keyword.pythonScript, .string "mark(place)")])]

theorem copyFlow_resolved :
    (∃ executable, (Compiler.mk .standard {}).assemble copyUnit "copy" copyFlow = .ok executable
      ∧ executable.dependencies.keys = ["org.ops.", "org.ops.copy"]
      ∧ List.Forall₂ (IsResolved copyUnit.imports) (entries (copyFlow.value Keyword.inputs))
          executable.inputs
      ∧ ∃ tasks workflow, copyFlow.get? Keyword.workflow = some (.map tasks)
        ∧ executable.body = .flow workflow
        ∧ List.Forall₂ (Calls copyUnit.imports) ((sections tasks).flatMap ordinaryTasks)
            workflow.tasks
        ∧ ∀ id kind, (id, kind) ∈ executable.dependencies.entries
            ↔ kind = .executable ∧ id ∈ workflow.tasks.map Task.refId)
    ∧ ∃ executable, (Compiler.mk .standard {}).assemble { copyUnit with kind := .operation } "mark"
        markOperation = .ok executable
      ∧ executable.inputs.map Input.systemProperty = [some "org.env.place"]
      ∧ executable.dependencies = .empty := by
  obtain ⟨flow, hflow, hkeys⟩ := exists_ok_of_toOption_map
    (show (((Compiler.mk .standard {}).assemble copyUnit "copy" copyFlow).toOption.map
        fun executable => executable.dependencies.keys) = some ["org.ops.", "org.ops.copy"] by
      decide +kernel)
  obtain ⟨operation, hoperation, hproperties⟩ := exists_ok_of_toOption_map
    (show (((Compiler.mk .standard {}).assemble { copyUnit with kind := .operation } "mark"
        markOperation).toOption.map fun executable => executable.inputs.map Input.systemProperty)
          = some [some "org.env.place"] by
      decide +kernel)
  obtain ⟨-, hinputs, htasks, -⟩ := references_resolved hflow
  obtain ⟨-, -, -, hnone⟩ := references_resolved hoperation
  exact ⟨⟨flow, hflow, hkeys, hinputs, htasks rfl⟩, operation, hoperation, hproperties, hnone rfl⟩

end FlowCompiler
