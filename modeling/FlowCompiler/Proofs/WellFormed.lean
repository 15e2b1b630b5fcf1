import FlowCompiler.Proofs.Resolution
import FlowCompiler.Proofs.StandardFields

/-!
# Well-formed executables

The fields of a task and of an action are values of several kinds that are found by name. In what
the extractors of the flow language make, every name stands for one kind (`Task.IsWellFormed`,
`Action.IsWellFormed`), so that the bindings, the loop header and the published values of a task are
what its fields hold under their names. Every executable that is compiled is well-formed
(`compiled_is_well_formed`).
-/

namespace FlowCompiler

open Extractor

/-- Whether the fields of the task are of the kinds that their names ask for, and the task goes
where they say. -/
structure Task.IsWellFormed (task : Task) : Prop where
  before : ∀ key ∈ task.preTaskData.keys, key ∈ [Keyword.callee, Keyword.header]
  callee : task.preTaskData.get? Keyword.callee = some (.inputs task.inputs)
  header : task.preTaskData.get? Keyword.header = task.loopStatement.map .loop
  loop : ∀ statement, task.loopStatement = some statement → statement.IsWellFormed
  after : ∀ key ∈ task.postTaskData.keys, key ∈ [Keyword.publish, Keyword.navigate]
  publish : task.postTaskData.get? Keyword.publish = some (.outputs task.publish)
    ∨ task.postTaskData.get? Keyword.publish = none ∧ task.publish = []
  /-- Navigation that has entries is where the task goes, and its targets are given. -/
  navigate : ∀ value, task.postTaskData.get? Keyword.navigate = some value →
    ∃ held, value = .navigation held ∧ (∀ entry ∈ held.entries, Text.IsProper entry.2)
      ∧ (held.isEmpty = false → task.navigation = held)
  targets : task.navigation.isEmpty = false

/-- Whether the action has a field, and only such as an action may have. -/
structure Action.IsWellFormed (action : Action) : Prop where
  nonempty : action.data.isEmpty = false
  keys : ∀ key ∈ action.data.keys, key ∈ [Keyword.javaAction, Keyword.pythonScript]
  javaAction : ∀ value, action.data.get? Keyword.javaAction = some value →
    ∃ call, value = .javaAction call ∧ call.IsWellFormed
  pythonScript : ∀ value, action.data.get? Keyword.pythonScript = some value →
    ∃ script, value = .pythonScript script

/-- Whether a flow has tasks, all of which are well-formed, or the action of an operation is
well-formed. -/
def Body.IsWellFormed : Body → Prop
  | .flow workflow => workflow.tasks ≠ [] ∧ ∀ task ∈ workflow.tasks, task.IsWellFormed
  | .operation action => action.IsWellFormed

/-- Whether the executable has no fields but its declarations, and its body is well-formed. -/
structure Executable.IsWellFormed (executable : Executable) : Prop where
  before : executable.preExecutableData = .empty
  after : executable.postExecutableData = .empty
  body : executable.body.IsWellFormed

/-! ## Fields of executables -/

variable {unit name : String} {document body : Document} {fields : FieldMap}

theorem keys_of_runStage {stage : Stage}
    (h : runStage unit document (Registry.standard.stage stage) = .ok fields) :
    ∀ key ∈ fields.keys, key ∈ (Registry.standard.stage stage).map Extractor.name := by
  intro key hkey
  obtain ⟨value, hget⟩ := SortedMap.mem_keys_iff.mp hkey
  exact (suits_of_get? h hget).1

/-- The inputs are all that is extracted before an executable runs. -/
theorem erase_of_beforeExecutable
    (h : runStage unit document (Registry.standard.stage .beforeExecutable) = .ok fields) :
    fields.erase Keyword.inputs = .empty := by
  have hkeys : ∀ key ∈ fields.keys, key ∈ [Keyword.inputs] := keys_of_runStage h
  refine SortedMap.eq_empty_of_keys fun key hkey => ?_
  rw [SortedMap.mem_keys_erase_iff] at hkey
  exact hkey.1 (List.mem_singleton.mp (hkeys key hkey.2))

/-- The outputs and results are all that is extracted after an executable has run. -/
theorem erase_of_afterExecutable
    (h : runStage unit document (Registry.standard.stage .afterExecutable) = .ok fields) :
    (fields.erase Keyword.outputs).erase Keyword.results = .empty := by
  have hkeys : ∀ key ∈ fields.keys, key ∈ [Keyword.outputs, Keyword.results] := keys_of_runStage h
  refine SortedMap.eq_empty_of_keys fun key hkey => ?_
  rw [SortedMap.mem_keys_erase_iff, SortedMap.mem_keys_erase_iff] at hkey
  rcases List.mem_pair.mp (hkeys key hkey.2.2) with houtputs | hresults
  · exact hkey.2.1 houtputs
  · exact hkey.1 hresults

/-! ## Tasks -/

/-- The navigation that counts as authored is what is held as such, if it has entries. -/
theorem authoredNavigation?_eq_some_iff {held : Navigation} :
    authoredNavigation? fields = some held
      ↔ fields.get? Keyword.navigate = some (.navigation held) ∧ held.isEmpty = false := by
  simp only [authoredNavigation?, Option.filter_eq_some_iff, Option.bind_eq_some_iff,
    FieldValue.navigation?_eq_some_iff, exists_eq_right, Bool.not_eq_true']

theorem isEmpty_getD_authoredNavigation? (success failure : String) :
    ((authoredNavigation? fields).getD (defaultNavigation success failure)).isEmpty = false := by
  cases hauthored : authoredNavigation? fields with
  | none => exact SortedMap.isEmpty_ofList _
  | some held => exact (authoredNavigation?_eq_some_iff.mp hauthored).2

section Tasks

variable {scope : Scope} {success failure : String} {task : Task}

/-- Bindings that are resolved are still bindings, and nothing else changes. -/
theorem suits_of_resolveBindings {before : FieldMap} {key : String} {value : FieldValue}
    (hbefore : runStage name body (Registry.standard.stage .beforeTask) = .ok before)
    (h : resolveBindings scope name before = .ok fields) (hget : fields.get? key = some value) :
    key ∈ [Keyword.callee, Keyword.header] ∧ value.Suits key := by
  unfold resolveBindings at h
  split at h
  · obtain rfl := Except.ok.inj h
    exact suits_of_get? hbefore hget
  · obtain ⟨inputs, -, rfl⟩ := map_eq_ok_iff.mp h
    rw [SortedMap.get?_insert] at hget
    split at hget
    · next hkey =>
      obtain rfl := Option.some.inj hget
      rw [hkey]
      exact ⟨List.mem_cons_self, List.mem_cons_of_mem _ List.mem_cons_self⟩
    · exact suits_of_get? hbefore hget

theorem isWellFormed_of_assembleTask (hregistry : scope.registry = .standard)
    (h : assembleTask scope name body success failure = .ok task) : task.IsWellFormed := by
  obtain ⟨-, -, before, hbefore, after, hafter, resolved, hresolved, reference, hreference, _, -,
    rfl⟩ := assembleTask_eq_ok_iff.mp h
  rw [hregistry] at hbefore hafter
  obtain ⟨bindings, hcall⟩ := calleeReference_eq_ok_iff.mp hreference
  obtain ⟨inputs, -, hinputs⟩ :=
    inputs_of_resolveBindings (get?_callee_of_beforeTask hcall hbefore) hresolved
  exact {
    before := fun key hkey => by
      obtain ⟨value, hget⟩ := SortedMap.mem_keys_iff.mp hkey
      exact (suits_of_resolveBindings hbefore hresolved hget).1
    callee := by
      simp only [Task.inputs, hinputs, Option.bind_some, FieldValue.inputs?, Option.getD_some]
    header := by
      dsimp only [Task.loopStatement]
      cases hget : resolved.get? Keyword.header with
      | none => rfl
      | some value =>
        obtain ⟨statement, rfl, -⟩ :=
          FieldValue.suits_header_iff.mp (suits_of_resolveBindings hbefore hresolved hget).2
        rfl
    loop := fun statement hstatement => by
      obtain ⟨value, hget, hvalue⟩ := Option.bind_eq_some_iff.mp hstatement
      rw [FieldValue.loop?_eq_some_iff.mp hvalue] at hget
      exact (suits_of_resolveBindings hbefore hresolved hget).2.2
    after := keys_of_runStage hafter
    publish := by
      dsimp only [Task.publish]
      cases hget : after.get? Keyword.publish with
      | none => exact .inr ⟨rfl, rfl⟩
      | some value =>
        obtain ⟨held, rfl⟩ := FieldValue.suits_publish_iff.mp (suits_of_get? hafter hget).2
        exact .inl rfl
    navigate := fun value hget => by
      obtain ⟨held, rfl, htargets⟩ :=
        FieldValue.suits_navigate_iff.mp (suits_of_get? hafter hget).2
      refine ⟨held, rfl, htargets, fun hheld => ?_⟩
      rw [authoredNavigation?_eq_some_iff.mpr ⟨hget, hheld⟩, Option.getD_some]
    targets := isEmpty_getD_authoredNavigation? success failure }

/-- Whether the fields of the task hold navigation that has entries. -/
def Task.HoldsNavigation (task : Task) : Prop :=
  ∃ held, task.postTaskData.get? Keyword.navigate = some (.navigation held) ∧ held.isEmpty = false

/-- Navigation that has entries in the source has some in the fields of the task. -/
theorem holdsNavigation_of_assembleTask (hregistry : scope.registry = .standard)
    (h : assembleTask scope name body success failure = .ok task)
    (hauthored : navigationEntries body ≠ []) : task.HoldsNavigation := by
  obtain ⟨-, -, _, -, after, hafter, _, -, _, -, _, -, rfl⟩ := assembleTask_eq_ok_iff.mp h
  rw [hregistry] at hafter
  obtain ⟨texts, htexts, hnavigation⟩ := authoredNavigation?_of_afterTask hafter
  have hne : texts ≠ [] := fun hnil => hauthored (by rw [htexts, hnil]; rfl)
  rw [if_neg hne] at hnavigation
  exact ⟨_, authoredNavigation?_eq_some_iff.mp hnavigation⟩

end Tasks

/-! ## Actions -/

theorem runStage_action_eq_ok_iff :
    runStage unit document (Registry.standard.stage .action) = .ok fields
      ↔ ∃ called script, extractJavaAction document = .ok called
          ∧ extractPythonScript document = .ok script ∧ fields = .ofList (called ++ script) := by
  rw [stage_action, runStage_pair_eq_ok_iff, contribution_javaAction, contribution_pythonScript]

/-- Every key of an action makes a field. -/
theorem isEmpty_of_action
    (hkeys : validateKeys unit document (Registry.standard.stage .action) [] = .ok ())
    (h : runStage unit document (Registry.standard.stage .action) = .ok fields)
    (hne : document ≠ []) : fields.isEmpty = false := by
  obtain ⟨entry, rest, rfl⟩ := List.exists_cons_of_ne_nil hne
  have hget : Document.get? (entry :: rest) entry.1 = some entry.2 := by
    rw [Document.get?, SortedMap.lookup_cons_ite, if_pos rfl]
  have hclaimed : entry.1 = Keyword.javaAction ∨ entry.1 = Keyword.pythonScript := by
    rw [stage_action, validateKeys_eq_ok_iff] at hkeys
    have hclaimed := hkeys entry.1 List.mem_cons_self
    simpa [isClaimed, javaAction, pythonScript] using hclaimed
  obtain ⟨called, script, hcalled, hscript, rfl⟩ := runStage_action_eq_ok_iff.mp h
  rw [SortedMap.isEmpty_ofList, List.isEmpty_eq_false_iff]
  intro hnil
  obtain ⟨rfl, rfl⟩ := List.append_eq_nil_iff.mp hnil
  -- An extractor that makes nothing has not found its key.
  rcases hclaimed with hkey | hkey
  · rcases extractJavaAction_eq_ok_iff.mp hcalled with ⟨hnone, -⟩ | ⟨_, _, -, -, hsome⟩
    · rw [hkey, hnone] at hget
      cases hget
    · cases hsome
  · rcases extractPythonScript_eq_ok_iff.mp hscript with ⟨hnone, -⟩ | ⟨_, -, hsome⟩
    · rw [hkey, hnone] at hget
      cases hget
    · cases hsome

theorem isWellFormed_of_assembleAction {scope : Scope} {action : Action}
    (hregistry : scope.registry = .standard) (hne : document ≠ [])
    (h : assembleAction scope document = .ok action) : action.IsWellFormed := by
  unfold assembleAction at h
  rw [hregistry] at h
  obtain ⟨_, hkeys, h⟩ := bind_eq_ok_iff.mp h
  obtain ⟨data, hdata, h⟩ := bind_eq_ok_iff.mp h
  cases h
  exact {
    nonempty := isEmpty_of_action hkeys hdata hne
    keys := keys_of_runStage hdata
    javaAction := fun value hget =>
      FieldValue.suits_javaAction_iff.mp (suits_of_get? hdata hget).2
    pythonScript := fun value hget =>
      FieldValue.suits_pythonScript_iff.mp (suits_of_get? hdata hget).2 }

/-! ## Executables -/

section Executables

variable {options : Options} {unit : SourceUnit} {executable : Executable}

/-- Only a flow has a workflow. -/
theorem Compiler.kind_of_assemble {workflow : Workflow}
    (h : (Compiler.mk .standard options).assemble unit name document = .ok executable)
    (hbody : executable.body = .flow workflow) : unit.kind = .flow :=
  (isFlow_iff_of_assemble h).mp (by simp [Executable.isFlow, Executable.workflow?, hbody])

theorem Compiler.isWellFormed_body_of_assemble
    (h : (Compiler.mk .standard options).assemble unit name document = .ok executable) :
    executable.body.IsWellFormed := by
  cases hkind : unit.kind with
  | flow =>
    obtain ⟨tasks, workflow, -, hbody, -, hslots⟩ := exists_layout_of_assemble hkind h
    obtain ⟨first, hfirst⟩ := exists_first_of_assemble hkind h hbody
    rw [hbody]
    refine ⟨List.ne_nil_of_mem (List.mem_of_head? hfirst), fun task htask => ?_⟩
    obtain ⟨slot, _, -, hassembled⟩ := exists_forall₂_iff.mp ⟨_, hslots.flip⟩ task htask
    exact isWellFormed_of_assembleTask rfl hassembled
  | operation =>
    obtain ⟨-, -, _, -, _, -, _, -, body, _, hbody, rfl⟩ := assemble_eq_ok_iff.mp h
    simp only [assembleBody, hkind, map_eq_ok_iff, Prod.mk.injEq] at hbody
    obtain ⟨action, haction, rfl, -⟩ := hbody
    obtain ⟨entries, hentries, haction⟩ := bind_eq_ok_iff.mp haction
    exact isWellFormed_of_assembleAction rfl (actionDocument_eq_ok_iff.mp hentries).2 haction
  | systemProperties =>
    obtain ⟨-, -, _, -, _, -, _, -, body, _, hbody, -⟩ := assemble_eq_ok_iff.mp h
    simp only [assembleBody, hkind] at hbody
    cases hbody

theorem Compiler.isWellFormed_of_assemble
    (h : (Compiler.mk .standard options).assemble unit name document = .ok executable) :
    executable.IsWellFormed := by
  have hbody := isWellFormed_body_of_assemble h
  obtain ⟨-, -, before, hbefore, after, hafter, _, -, _, _, -, rfl⟩ := assemble_eq_ok_iff.mp h
  exact ⟨erase_of_beforeExecutable hbefore, erase_of_afterExecutable hafter, hbody⟩

/-- Every executable that is compiled is well-formed, and a task of a flow holds navigation with
entries where its source has some. -/
theorem compiled_is_well_formed
    (h : (Compiler.mk .standard options).assemble unit name document = .ok executable) :
    executable.IsWellFormed
      ∧ ∀ workflow, executable.body = .flow workflow →
          List.Forall₂ (fun entry task => navigationEntries (taskBody entry.2) ≠ [] →
            task.HoldsNavigation) (taskEntries document) workflow.tasks := by
  refine ⟨Compiler.isWellFormed_of_assemble h, fun workflow hbody => ?_⟩
  have hflow := Compiler.kind_of_assemble h hbody
  obtain ⟨tasks, assembled, htasks, hassembled, -, hslots⟩ :=
    Compiler.exists_layout_of_assemble hflow h
  obtain rfl := Body.flow.inj (hbody.symm.trans hassembled)
  rw [taskEntries_eq htasks, ← map_entry_layout, List.forall₂_map_left_iff]
  refine hslots.imp fun slot task hslot hauthored => ?_
  obtain ⟨body, hunwrapped, htask⟩ := hslot
  obtain ⟨-, rfl⟩ := unwrapBody_eq_ok_iff.mp hunwrapped
  exact holdsNavigation_of_assembleTask rfl htask hauthored

end Executables

/-- A flow with a loop that publishes and navigates, a task with an empty navigation map, and an
error section. -/
def fetchFlow : Document :=
  [(Keyword.inputs, .list [.string "host"]),
   (Keyword.workflow, .map
    [("fetch", .map [(Keyword.loop, .map
      [(Keyword.header, .string "key, value in  entries "),
       (Keyword.callee, .map [("ops.fetch", .map [("from", .string "host")])]),
       (Keyword.publish, .list [.string "size"]),
       (Keyword.navigate, .map [("SUCCESS", .string " keep "), ("EMPTY", .string "FAILURE")])])]),
     ("keep", .map [(Keyword.callee, .map [("ops.keep", .null)]), (Keyword.navigate, .map [])]),
     (Keyword.onFailure, .map [("undo", .map [(Keyword.callee, .map [("ops.undo", .null)])])])]),
   (Keyword.results, .list [.string "SUCCESS"])]

/-- An operation that both calls a method and runs a script. -/
def hashOperation : Document :=
  [(Keyword.action, .map
    [(Keyword.javaAction, .map
      [(Keyword.className, .string " org.Hash "), (Keyword.methodName, .string "run")]),
     (Keyword.pythonScript, .string "")])]

/-- The unit of `fetchFlow`. -/
def fetchUnit : SourceUnit where
  name := "demo.fetch"
  kind := .flow
  space := "demo"
  imports := some (.ofList [("ops", "org.ops")])

/-- Both are compiled to what is well-formed. Only the first task of the flow holds navigation, and
goes where that says. -/
theorem fetchFlow_is_well_formed :
    (∃ executable workflow,
      (Compiler.mk .standard {}).assemble fetchUnit "fetch" fetchFlow = .ok executable
        ∧ executable.body = .flow workflow
        ∧ executable.IsWellFormed
        ∧ List.Forall₂ (fun entry task => navigationEntries (taskBody entry.2) ≠ [] →
            task.HoldsNavigation) (taskEntries fetchFlow) workflow.tasks
        ∧ workflow.tasks.map (fun task => (task.loopStatement, task.navigation.entries))
          = [(some ⟨["key", "value"], "entries"⟩, [("EMPTY", "FAILURE"), ("SUCCESS", "keep")]),
             (none, [("FAILURE", "undo"), ("SUCCESS", "SUCCESS")]),
             (none, [("FAILURE", "FAILURE"), ("SUCCESS", "FAILURE")])])
    ∧ ∃ executable action,
      (Compiler.mk .standard {}).assemble { fetchUnit with kind := .operation } "hash" hashOperation
          = .ok executable
        ∧ executable.body = .operation action
        ∧ executable.IsWellFormed
        ∧ action.data = .ofList [(Keyword.javaAction, .javaAction ⟨"org.Hash", "run"⟩),
            (Keyword.pythonScript, .pythonScript "")] := by
  obtain ⟨flow, hflow, hview⟩ := exists_ok_of_toOption_map
    (show (((Compiler.mk .standard {}).assemble fetchUnit "fetch" fetchFlow).toOption.map
        fun executable => executable.workflow?.map fun workflow =>
          workflow.tasks.map fun task => (task.loopStatement, task.navigation.entries))
        = some (some
          [(some ⟨["key", "value"], "entries"⟩, [("EMPTY", "FAILURE"), ("SUCCESS", "keep")]),
           (none, [("FAILURE", "undo"), ("SUCCESS", "SUCCESS")]),
           (none, [("FAILURE", "FAILURE"), ("SUCCESS", "FAILURE")])]) by
      decide +kernel)
  obtain ⟨operation, hoperation, hbody⟩ := exists_ok_of_toOption_map
    (show (((Compiler.mk .standard {}).assemble { fetchUnit with kind := .operation } "hash"
        hashOperation).toOption.map Executable.body)
        = some (.operation ⟨.ofList [(Keyword.javaAction, .javaAction ⟨"org.Hash", "run"⟩),
            (Keyword.pythonScript, .pythonScript "")]⟩) by
      decide +kernel)
  obtain ⟨workflow, hworkflow, -, -⟩ := Compiler.exists_workflow_of_assemble rfl hflow
  rw [Executable.workflow?, hworkflow] at hview
  obtain ⟨hformed, hauthored⟩ := compiled_is_well_formed hflow
  exact ⟨⟨flow, workflow, hflow, hworkflow, hformed, hauthored workflow hworkflow,
      Option.some.inj hview⟩,
    operation, _, hoperation, hbody, (compiled_is_well_formed hoperation).1, rfl⟩

end FlowCompiler
