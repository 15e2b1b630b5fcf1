import FlowCompiler.Proofs.Checks
import FlowCompiler.Proofs.ReorderedSections

/-!
# Executables from reordered documents

What executable is made of two documents that are the same but for the order of keys
(`Compiler.alike_assemble`). A flow is made from its map of tasks. An operation is made from its
action, whose own keys are in order, but those of a method call need not be.
-/

namespace FlowCompiler

open Extractor

variable {scope : Scope} {left right : Document}

/-! ## Flows -/

/-- Two flows that are the same have tasks that are, or neither has tasks. -/
theorem alike_flowTasks (h : Reordered .document left right) (unit name : String) :
    Alike (Reordered .tasks) (flowTasks unit name left) (flowTasks unit name right) := by
  unfold flowTasks
  rcases h.maps_or_eq Keyword.workflow .tasks (by decide) (by decide) with
    ⟨tasks, others, hleft, hright, htasks⟩ | ⟨heq, hmap⟩
  · rw [hleft, hright]
    rcases htasks.nil_or_cons with ⟨rfl, rfl⟩ | ⟨entry, rest, first, others, rfl, rfl⟩
    · exact .failed _ _
    · exact .made htasks
  · rw [← heq]
    cases hvalue : left.get? Keyword.workflow with
    | none => exact .failed _ _
    | some value =>
      cases value with
      | map entries => exact absurd hvalue (hmap entries)
      | null | bool held | number held | string held | list items => exact .failed _ _

theorem alike_assembleFlow (hregistry : scope.registry = .standard) (options : Options)
    (unit : String) (h : Reordered .document left right) :
    Alike Eq (assembleFlow scope options unit left) (assembleFlow scope options unit right) := by
  have hworkflow : Alike Eq (flowTasks unit scope.unit left >>= assembleWorkflow scope .main none)
      (flowTasks unit scope.unit right >>= assembleWorkflow scope .main none) :=
    (alike_flowTasks h unit scope.unit).bind fun _ _ htasks =>
      alike_assembleWorkflow hregistry htasks
  rw [assembleFlow_eq_bind_tasks scope options unit left,
    assembleFlow_eq_bind_tasks scope options unit right]
  exact hworkflow.bind_same fun workflow => .refl _

/-! ## Operations -/

/-- Method calls with the same properties are read alike, in whatever order these stand. -/
theorem alike_readJavaAction (h : left.Perm right) (hdistinct : left.Distinct) :
    Alike Eq (readJavaAction left) (readJavaAction right) := by
  have hget (key : String) : left.get? key = right.get? key :=
    SortedMap.lookup_eq_of_perm h hdistinct key
  have hkeys : left.keys.Perm right.keys := h.map Prod.fst
  have hfind (p : String → Bool) : (left.keys.find? p).isSome = (right.keys.find? p).isSome := by
    rw [Bool.eq_iff_iff, List.find?_isSome, List.find?_isSome]
    simp only [hkeys.mem_iff]
  unfold readJavaAction
  have hunknown := hfind fun key => key != Keyword.className && key != Keyword.methodName
  generalize left.keys.find? _ = unknown, right.keys.find? _ = otherUnknown at hunknown
  simp only [requiredText, hget]
  cases unknown with
  | none =>
    cases otherUnknown with
    | none => exact .refl _
    | some key => cases hunknown
  | some key =>
    cases otherUnknown with
    | none => cases hunknown
    | some other => exact .failed _ _

theorem alike_extractJavaAction (h : Reordered .action left right) :
    Alike Eq (extractJavaAction left) (extractJavaAction right) := by
  unfold extractJavaAction
  rcases h.maps_or_eq Keyword.javaAction .javaAction (by decide) (by decide) with
    ⟨properties, others, hleft, hright, hproperties⟩ | ⟨heq, -⟩
  · rw [hleft, hright]
    have hperm : properties.Perm others := hproperties.perm_of_fixed fun _ => rfl
    exact (alike_readJavaAction hperm hproperties.distinct).map_same
  · rw [heq]
    exact .refl _

theorem alike_assembleAction (hregistry : scope.registry = .standard)
    (h : Reordered .action left right) :
    Alike Eq (assembleAction scope left) (assembleAction scope right) := by
  have hscript : left.get? Keyword.pythonScript = right.get? Keyword.pythonScript :=
    h.get?_eq_of_fixed (by decide)
  unfold assembleAction
  rw [hregistry, stage_action]
  refine (alike_validateKeys h.keys_perm).bind_same fun _ => ?_
  refine (alike_runStage ?_).bind_same fun fields => .refl _
  simp only [List.forall_mem_cons, contribution_javaAction, contribution_pythonScript]
  refine ⟨alike_extractJavaAction h, ?_, by simp⟩
  rw [extractPythonScript, extractPythonScript, hscript]
  exact .refl _

/-- Two operations that are the same have actions that are, or neither has an action. -/
theorem alike_actionDocument (h : Reordered .document left right) (unit name : String) :
    Alike (Reordered .action) (actionDocument unit name left) (actionDocument unit name right) := by
  unfold actionDocument
  rcases h.maps_or_eq Keyword.action .action (by decide) (by decide) with
    ⟨action, others, hleft, hright, haction⟩ | ⟨heq, hmap⟩
  · rw [hleft, hright]
    rcases haction.nil_or_cons with ⟨rfl, rfl⟩ | ⟨entry, rest, first, others, rfl, rfl⟩
    · exact .failed _ _
    · exact .made haction
  · rw [← heq]
    cases hvalue : left.get? Keyword.action with
    | none => exact .failed _ _
    | some value =>
      cases value with
      | map entries => exact absurd hvalue (hmap entries)
      | null | bool held | number held | string held | list items => exact .failed _ _

theorem alike_assembleOperation (hregistry : scope.registry = .standard) (unit : String)
    (h : Reordered .document left right) :
    Alike Eq (assembleOperation scope unit left) (assembleOperation scope unit right) :=
  (alike_actionDocument h unit scope.unit).bind fun _ _ haction =>
    alike_assembleAction hregistry haction

/-! ## Executables -/

theorem alike_assembleBody (hregistry : scope.registry = .standard) (options : Options)
    (unit : SourceUnit) (h : Reordered .document left right) :
    Alike Eq (assembleBody scope options unit left) (assembleBody scope options unit right) := by
  unfold assembleBody
  split
  · exact (alike_assembleFlow hregistry options unit.name h).map_same
  · exact (alike_assembleOperation hregistry unit.name h).map_same
  · exact .refl _

theorem alike_runStage_beforeExecutable (h : Reordered .document left right) (name : String) :
    Alike Eq (runStage name left (Registry.standard.stage .beforeExecutable))
      (runStage name right (Registry.standard.stage .beforeExecutable)) := by
  have hinputs := h.get Keyword.inputs
  rw [show Role.document.child Keyword.inputs = .bindings by decide] at hinputs
  refine alike_runStage ?_
  rw [stage_beforeExecutable, List.forall_mem_singleton]
  refine alike_contribution_listUnder inputFormat_declares ?_
  generalize left.get? Keyword.inputs = value, right.get? Keyword.inputs = other at hinputs
  cases hinputs with
  | none => exact .none
  | some hvalue => exact .some ⟨hvalue.isItemList_iff, hvalue.declarations_eq⟩

theorem alike_runStage_afterExecutable (h : Reordered .document left right) (name : String) :
    Alike Eq (runStage name left (Registry.standard.stage .afterExecutable))
      (runStage name right (Registry.standard.stage .afterExecutable)) := by
  have houtputs : left.get? Keyword.outputs = right.get? Keyword.outputs :=
    h.get?_eq_of_fixed (by decide)
  have hresults : left.get? Keyword.results = right.get? Keyword.results :=
    h.get?_eq_of_fixed (by decide)
  refine alike_runStage ?_
  rw [stage_afterExecutable]
  simp only [List.forall_mem_cons]
  exact ⟨alike_contribution_listUnder_of_eq namedFormat_declares houtputs,
    alike_contribution_listUnder_of_eq namedFormat_declares hresults, by simp⟩

/-- The same executable is assembled from two documents that are the same, or none. -/
theorem Compiler.alike_assemble {compiler : Compiler} (hregistry : compiler.registry = .standard)
    (unit : SourceUnit) (name : String) (h : Reordered .document left right) :
    Alike Eq (compiler.assemble unit name left) (compiler.assemble unit name right) := by
  obtain ⟨registry, options⟩ := compiler
  obtain rfl : registry = .standard := hregistry
  have hempty : left.isEmpty = right.isEmpty := by
    rw [Bool.eq_iff_iff, List.isEmpty_iff, List.isEmpty_iff]
    exact h.eq_nil_iff
  unfold Compiler.assemble
  rw [hempty]
  split
  · exact .refl _
  · refine (alike_validateKeys h.keys_perm).bind_same fun _ => ?_
    refine (alike_runStage_beforeExecutable h name).bind_same fun before => ?_
    refine (alike_runStage_afterExecutable h name).bind_same fun after => ?_
    refine (Alike.refl _).bind_same fun inputs => ?_
    exact (alike_assembleBody rfl options unit h).bind_same fun body => .refl _

end FlowCompiler
