import FlowCompiler.Proofs.LoopHeaders
import FlowCompiler.Proofs.References
import FlowCompiler.Proofs.Targets

/-!
# The grammar of tasks

Which values stand for a task in the source (`IsTask`), said of the source alone, and that a task is
assembled from just these (`exists_assembleTask_iff_isTaskBody`).
-/

namespace FlowCompiler

open Extractor Reference

/-- Whether the value is a text that declares a loop. -/
def IsHeader (value : Json) : Prop :=
  ∃ header parts collection, value = .string header ∧ IsLoopHeader header parts collection

/-- Whether the document is the body of a task, taken out of a loop. -/
structure IsTaskBody (imports : Option Imports) (body : Document) : Prop where
  keys : ∀ key ∈ body.keys,
    key ∈ [Keyword.callee, Keyword.header, Keyword.publish, Keyword.navigate, Keyword.loop]
  /-- One executable is called, whose alias is known, and so are those of the bindings. -/
  call : ∃ reference bindings, body.get? Keyword.callee = some (.map [(reference, bindings)])
    ∧ Knows imports reference ∧ IsBindings bindings ∧ KnowsProperties imports (entries bindings)
  header : ∀ value ∈ body.get? Keyword.header, IsHeader value
  publish : IsItemList Json.IsScalar (body.value Keyword.publish)
  navigation : IsNavigation (body.value Keyword.navigate)

/-- Whether the value stands for a task: it is the body of one, or a map that has it under the key
of a loop. -/
def IsTask (imports : Option Imports) : Json → Prop
  | .map body =>
    match Document.get? body Keyword.loop with
    | none => IsTaskBody imports body
    | some (.map inner) => IsTaskBody imports inner
    | some _ => False
  | _ => False

theorem IsTaskBody.ne_nil {imports : Option Imports} {body : Document}
    (h : IsTaskBody imports body) : body ≠ [] := by
  intro hnil
  obtain ⟨_, _, hcall, -⟩ := h.call
  rw [hnil] at hcall
  cases hcall

theorem isTask_iff {imports : Option Imports} {value : Json} :
    IsTask imports value ↔ HasBody value ∧ IsTaskBody imports (taskBody value) := by
  have hempty : ¬ IsTaskBody imports [] := fun h => h.ne_nil rfl
  unfold IsTask HasBody taskBody
  cases value with
  | map body =>
    cases hget : Document.get? body Keyword.loop with
    | none => simp [hget]
    | some inner => cases inner <;> simp [hget, hempty]
  | null | bool held | number held | string held | list items => simp [hempty]

/-! ## The steps of the assembly -/

variable {scope : Scope} {name : String} {body : Document}

theorem validateKeys_ofTask_eq_ok_iff :
    validateKeys name body (Registry.standard.stages Stage.ofTask) Keyword.ofTask = .ok ()
      ↔ ∀ key ∈ body.keys, key ∈
          [Keyword.callee, Keyword.header, Keyword.publish, Keyword.navigate, Keyword.loop] := by
  rw [validateKeys_eq_ok_iff, stages_ofTask]
  refine forall₂_congr fun key _ => ?_
  simp [isClaimed, callee, loopHeader, publish, navigate, listUnder, Keyword.ofTask]
  tauto

theorem extractCallee_eq_ok_iff {reference : String} {bindings : Json}
    (hcall : body.get? Keyword.callee = some (.map [(reference, bindings)]))
    {produced : List (String × FieldValue)} :
    extractCallee body = .ok produced
      ↔ IsBindings bindings
        ∧ produced = [(Keyword.callee, .inputs (declarations inputOf (entries bindings)))] := by
  simp only [extractCallee, hcall]
  exact map_eq_ok_iff_of readBindings_eq_ok_iff

/-- A loop header makes at most one field, under its own key. -/
theorem extractLoopHeader_eq_ok_iff {produced : List (String × FieldValue)} :
    extractLoopHeader body = .ok produced
      ↔ (body.get? Keyword.header = none ∧ produced = [])
        ∨ ∃ header statement, body.get? Keyword.header = some (.string header)
            ∧ readLoopHeader header = .ok statement
            ∧ produced = [(Keyword.header, .loop statement)] := by
  unfold extractLoopHeader
  cases body.get? Keyword.header with
  | none => simp [eq_comm]
  | some value =>
    cases value with
    | string header => simp [map_eq_ok_iff, eq_comm (b := produced)]
    | null | bool held | number held | list items | map entries => simp

theorem exists_extractLoopHeader_iff :
    (∃ produced, extractLoopHeader body = .ok produced)
      ↔ ∀ value ∈ body.get? Keyword.header, IsHeader value := by
  simp only [extractLoopHeader_eq_ok_iff, readLoopHeader_eq_ok_iff]
  cases hget : body.get? Keyword.header with
  | none => simp
  | some value =>
    simp only [Option.mem_def, Option.some.injEq, forall_eq', IsHeader]
    apply Iff.intro
    · intro h
      obtain ⟨produced, h⟩ := h
      rcases h with ⟨hnone, -⟩ | ⟨header, _, hvalue, ⟨parts, collection, hheader, -⟩, -⟩
      · cases hnone
      · exact ⟨header, parts, collection, hvalue, hheader⟩
    · intro h
      obtain ⟨header, parts, collection, hvalue, hheader⟩ := h
      exact ⟨_, .inr ⟨header, _, hvalue, ⟨parts, collection, hheader, rfl⟩, rfl⟩⟩

/-- The bindings that a task holds before they are resolved. -/
theorem get?_callee_of_beforeTask {reference : String} {bindings : Json}
    (hcall : body.get? Keyword.callee = some (.map [(reference, bindings)])) {before : FieldMap}
    (hbefore : runStage name body (Registry.standard.stage .beforeTask) = .ok before) :
    before.get? Keyword.callee = some (.inputs (declarations inputOf (entries bindings))) := by
  obtain ⟨called, looped, hcalled, hlooped, rfl⟩ := runStage_beforeTask_eq_ok_iff.mp hbefore
  obtain ⟨-, rfl⟩ := (extractCallee_eq_ok_iff hcall).mp hcalled
  have hother : (SortedMap.ofList looped).get? Keyword.callee = none := by
    refine SortedMap.get?_ofList_eq_none ?_
    rcases extractLoopHeader_eq_ok_iff.mp hlooped with ⟨-, rfl⟩ | ⟨_, _, -, -, rfl⟩
    · simp
    · simp [Keyword.callee, Keyword.header]
  rw [SortedMap.get?_ofList_append, hother, Option.none_or, SortedMap.get?_ofList_singleton,
    if_pos rfl]

theorem exists_resolveBindings_iff {fields : FieldMap} {inputs : Document}
    (hget : fields.get? Keyword.callee = some (.inputs (declarations inputOf inputs))) :
    (∃ resolved, resolveBindings scope name fields = .ok resolved)
      ↔ KnowsProperties scope.imports inputs := by
  simp only [resolveBindings, hget, Option.bind_some, FieldValue.inputs?, exists_map_eq_ok_iff]
  exact Scope.exists_resolveInputs_declarations_iff

theorem exists_runStage_beforeTask_iff {reference : String} {bindings : Json}
    (hcall : body.get? Keyword.callee = some (.map [(reference, bindings)])) :
    (∃ before, runStage name body (Registry.standard.stage .beforeTask) = .ok before)
      ↔ IsBindings bindings ∧ ∀ value ∈ body.get? Keyword.header, IsHeader value := by
  rw [stage_beforeTask, exists_runStage_pair_iff, contribution_callee, contribution_loopHeader,
    exists_extractLoopHeader_iff]
  simp only [extractCallee_eq_ok_iff hcall, exists_and_left, exists_eq, and_true]

theorem exists_runStage_afterTask_iff :
    (∃ after, runStage name body (Registry.standard.stage .afterTask) = .ok after)
      ↔ IsItemList Json.IsScalar (body.value Keyword.publish)
        ∧ IsNavigation (body.value Keyword.navigate) := by
  rw [stage_afterTask, exists_runStage_pair_iff, contribution_navigate,
    exists_extractNavigation_iff]
  exact and_congr_left fun _ => exists_contribution_listUnder_iff namedFormat_declares

/-! ## Acceptance -/

/-- A task is assembled exactly from the body of a task. -/
theorem exists_assembleTask_iff_isTaskBody (hregistry : scope.registry = .standard)
    {success failure : String} :
    (∃ task, assembleTask scope name body success failure = .ok task)
      ↔ IsTaskBody scope.imports body := by
  simp only [assembleTask_eq_ok_iff, hregistry]
  apply Iff.intro
  · intro h
    obtain ⟨task, hne, hkeys, before, hbefore, after, hafter, resolved, hresolved, reference,
      hreference, refId, hrefId, htask⟩ := h
    obtain ⟨bindings, hcall⟩ := calleeReference_eq_ok_iff.mp hreference
    obtain ⟨hbindings, hheader⟩ := (exists_runStage_beforeTask_iff hcall).mp ⟨before, hbefore⟩
    obtain ⟨hpublish, hnavigation⟩ := exists_runStage_afterTask_iff.mp ⟨after, hafter⟩
    have hget := get?_callee_of_beforeTask hcall hbefore
    exact {
      keys := validateKeys_ofTask_eq_ok_iff.mp hkeys
      call := ⟨reference, bindings, hcall, Scope.exists_resolve_iff.mp ⟨refId, hrefId⟩, hbindings,
        (exists_resolveBindings_iff hget).mp ⟨resolved, hresolved⟩⟩
      header := hheader
      publish := hpublish
      navigation := hnavigation }
  · intro hbody
    obtain ⟨reference, bindings, hcall, hknown, hbindings, hproperties⟩ := hbody.call
    obtain ⟨before, hbefore⟩ : ∃ before,
        runStage name body (Registry.standard.stage .beforeTask) = .ok before :=
      (exists_runStage_beforeTask_iff hcall).mpr ⟨hbindings, hbody.header⟩
    obtain ⟨after, hafter⟩ : ∃ after,
        runStage name body (Registry.standard.stage .afterTask) = .ok after :=
      exists_runStage_afterTask_iff.mpr ⟨hbody.publish, hbody.navigation⟩
    have hget := get?_callee_of_beforeTask hcall hbefore
    obtain ⟨resolved, hresolved⟩ : ∃ resolved, resolveBindings scope name before = .ok resolved :=
      (exists_resolveBindings_iff hget).mpr hproperties
    obtain ⟨refId, hrefId⟩ : ∃ refId, scope.resolve name reference = .ok refId :=
      Scope.exists_resolve_iff.mpr hknown
    exact ⟨_, hbody.ne_nil, validateKeys_ofTask_eq_ok_iff.mpr hbody.keys, before, hbefore, after,
      hafter, resolved, hresolved, reference, calleeReference_eq_ok_iff.mpr ⟨bindings, hcall⟩,
      refId, hrefId, rfl⟩

end FlowCompiler
