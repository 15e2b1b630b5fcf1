import FlowCompiler.Proofs.Items
import FlowCompiler.Proofs.Stages

/-!
# The stages of the standard registry

Which extractors run at each stage of the flow language, and what their fields are together. All
but the lists of declarations decide by the value under their key alone, so that a document without
the key need not be considered apart.
-/

namespace FlowCompiler

/-- The value of the key; nothing if the key is absent. -/
def Document.value (document : Document) (key : String) : Json :=
  (document.get? key).getD .null

namespace Extractor

theorem applies_singleton {extractor : Extractor} {key : String} (h : extractor.keys = [key])
    (document : Document) : extractor.applies document = (document.get? key).isSome := by
  rw [Document.get?_isSome, applies, h, List.any_cons, List.any_nil, Bool.or_false]

/-- An extractor that makes nothing of a document without its key need not be passed over. -/
theorem contribution_eq_extract {extractor : Extractor} {key : String} {document : Document}
    (hkeys : extractor.keys = [key])
    (habsent : document.get? key = none → extractor.extract document = .ok []) :
    extractor.contribution document = extractor.extract document := by
  rw [contribution, applies_singleton hkeys]
  cases hget : document.get? key with
  | none => exact (habsent hget).symm
  | some value => rfl

theorem contribution_callee (document : Document) :
    callee.contribution document = extractCallee document :=
  contribution_eq_extract rfl fun h => by
    show extractCallee document = .ok []
    rw [extractCallee, h]

theorem contribution_loopHeader (document : Document) :
    loopHeader.contribution document = extractLoopHeader document :=
  contribution_eq_extract rfl fun h => by
    show extractLoopHeader document = .ok []
    rw [extractLoopHeader, h]

theorem contribution_navigate (document : Document) :
    navigate.contribution document = extractNavigation document :=
  contribution_eq_extract rfl fun h => by
    show extractNavigation document = .ok []
    rw [extractNavigation, h]

theorem contribution_javaAction (document : Document) :
    javaAction.contribution document = extractJavaAction document :=
  contribution_eq_extract rfl fun h => by
    show extractJavaAction document = .ok []
    rw [extractJavaAction, h]

theorem contribution_pythonScript (document : Document) :
    pythonScript.contribution document = extractPythonScript document :=
  contribution_eq_extract rfl fun h => by
    show extractPythonScript document = .ok []
    rw [extractPythonScript, h]

section Lists

variable {α : Type} {format : ItemFormat α} {accepts : Json → Prop} {declare : String → Json → α}
  {key : String} {stage : Stage} {field : List α → FieldValue} {document : Document}

/-- A list of declarations is read where its key is there; elsewhere it makes no field. -/
theorem contribution_listUnder_eq_ok_iff (hformat : format.Declares accepts declare)
    {produced : List (String × FieldValue)} :
    (listUnder format key stage field).contribution document = .ok produced
      ↔ IsItemList accepts (document.value key)
        ∧ produced = (document.get? key).toList.map fun value =>
            (key, field (declarations declare (entries value))) := by
  rw [contribution, applies_singleton rfl, Document.value]
  cases hget : document.get? key with
  | none => simp [IsItemList, eq_comm]
  | some value =>
    simp only [listUnder, hget, Option.isSome_some, if_true, Option.getD_some, Option.toList_some,
      List.map_singleton]
    exact map_eq_ok_iff_of (readList_eq_ok_iff hformat)

theorem exists_contribution_listUnder_iff (hformat : format.Declares accepts declare) :
    (∃ produced, (listUnder format key stage field).contribution document = .ok produced)
      ↔ IsItemList accepts (document.value key) := by
  simp only [contribution_listUnder_eq_ok_iff hformat]
  apply Iff.intro
  · intro h
    obtain ⟨_, haccepted, -⟩ := h
    exact haccepted
  · intro haccepted
    exact ⟨_, haccepted, rfl⟩

end Lists

end Extractor

open Extractor

/-! ## The extractors by stage -/

theorem stages_ofExecutable :
    Registry.standard.stages Stage.ofExecutable = [inputs, outputs, results] := rfl

theorem stages_ofTask :
    Registry.standard.stages Stage.ofTask = [callee, loopHeader, publish, navigate] := rfl

theorem stage_beforeExecutable : Registry.standard.stage .beforeExecutable = [inputs] := rfl

theorem stage_afterExecutable : Registry.standard.stage .afterExecutable = [outputs, results] := rfl

theorem stage_action : Registry.standard.stage .action = [javaAction, pythonScript] := rfl

theorem stage_beforeTask : Registry.standard.stage .beforeTask = [callee, loopHeader] := rfl

theorem stage_afterTask : Registry.standard.stage .afterTask = [publish, navigate] := rfl

/-! ## The fields by stage -/

variable {unit : String} {document : Document} {fields : FieldMap}

theorem runStage_singleton_eq_ok_iff {extractor : Extractor} :
    runStage unit document [extractor] = .ok fields
      ↔ ∃ produced, extractor.contribution document = .ok produced ∧ fields = .ofList produced := by
  simp only [runStage_eq_ok_iff, List.forall₂_cons_left_iff, List.forall₂_nil_left_iff]
  apply Iff.intro
  · intro h
    obtain ⟨_, ⟨produced, _, hproduced, rfl, rfl⟩, rfl⟩ := h
    exact ⟨produced, hproduced, by simp⟩
  · intro h
    obtain ⟨produced, hproduced, rfl⟩ := h
    exact ⟨_, ⟨produced, _, hproduced, rfl, rfl⟩, by simp⟩

theorem exists_runStage_singleton_iff {extractor : Extractor} :
    (∃ fields, runStage unit document [extractor] = .ok fields)
      ↔ ∃ produced, extractor.contribution document = .ok produced := by
  simp only [runStage_singleton_eq_ok_iff]
  apply Iff.intro
  · intro h
    obtain ⟨_, produced, hproduced, -⟩ := h
    exact ⟨produced, hproduced⟩
  · intro h
    obtain ⟨produced, hproduced⟩ := h
    exact ⟨_, produced, hproduced, rfl⟩

theorem runStage_pair_eq_ok_iff {first second : Extractor} :
    runStage unit document [first, second] = .ok fields
      ↔ ∃ left right, first.contribution document = .ok left
          ∧ second.contribution document = .ok right ∧ fields = .ofList (left ++ right) := by
  simp only [runStage_eq_ok_iff, List.forall₂_cons_left_iff, List.forall₂_nil_left_iff]
  apply Iff.intro
  · intro h
    obtain ⟨_, ⟨left, _, hleft, ⟨right, _, hright, rfl, rfl⟩, rfl⟩, rfl⟩ := h
    exact ⟨left, right, hleft, hright, by simp⟩
  · intro h
    obtain ⟨left, right, hleft, hright, rfl⟩ := h
    exact ⟨_, ⟨left, _, hleft, ⟨right, _, hright, rfl, rfl⟩, rfl⟩, by simp⟩

theorem exists_runStage_pair_iff {first second : Extractor} :
    (∃ fields, runStage unit document [first, second] = .ok fields)
      ↔ (∃ left, first.contribution document = .ok left)
        ∧ ∃ right, second.contribution document = .ok right := by
  simp only [runStage_pair_eq_ok_iff]
  apply Iff.intro
  · intro h
    obtain ⟨_, left, right, hleft, hright, -⟩ := h
    exact ⟨⟨left, hleft⟩, right, hright⟩
  · intro h
    obtain ⟨⟨left, hleft⟩, right, hright⟩ := h
    exact ⟨_, left, right, hleft, hright, rfl⟩

/-- Before the call of a task: its bindings and its loop header. -/
theorem runStage_beforeTask_eq_ok_iff :
    runStage unit document (Registry.standard.stage .beforeTask) = .ok fields
      ↔ ∃ bindings header, extractCallee document = .ok bindings
          ∧ extractLoopHeader document = .ok header ∧ fields = .ofList (bindings ++ header) := by
  rw [stage_beforeTask, runStage_pair_eq_ok_iff, contribution_callee, contribution_loopHeader]

/-- After the call of a task: what it publishes and its navigation. -/
theorem runStage_afterTask_eq_ok_iff :
    runStage unit document (Registry.standard.stage .afterTask) = .ok fields
      ↔ ∃ published targets, publish.contribution document = .ok published
          ∧ extractNavigation document = .ok targets
          ∧ fields = .ofList (published ++ targets) := by
  rw [stage_afterTask, runStage_pair_eq_ok_iff, contribution_navigate]

end FlowCompiler
