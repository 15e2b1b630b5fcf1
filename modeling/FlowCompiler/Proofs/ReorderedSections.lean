import FlowCompiler.Proofs.Executables
import FlowCompiler.Proofs.ReorderedTasks

/-!
# Workflows from reordered sections

What workflow is made of two maps of tasks that are the same but for the order of keys
(`alike_assembleWorkflow`). The tasks are compiled in their order, which is the same in both; of the
error section only what stands there matters, not its place among the tasks, since it is taken out
first. The induction is over the error sections.
-/

namespace FlowCompiler

open Extractor

variable {scope : Scope} {left right : Document}

/-- Tasks in the same order are assembled to the same workflow. The keys are those of tasks, so that
nothing here is an error section. -/
theorem alike_assembleTasks (hregistry : scope.registry = .standard) {ending failure : String}
    (h : List.Forall₂ (LikeEntry .tasks) left right)
    (hkeys : ∀ entry ∈ left, entry.1 ≠ Keyword.onFailure) :
    Alike Eq (assembleTasks scope ending failure left)
      (assembleTasks scope ending failure right) := by
  induction h with
  | nil => exact .refl _
  | @cons entry other left right hentry hrest ih =>
    obtain ⟨name, value⟩ := entry
    obtain ⟨otherName, otherValue⟩ := other
    obtain ⟨hname, hothers⟩ := List.forall_mem_cons.mp hkeys
    obtain rfl : name = otherName := hentry.key_eq
    have hrole : Role.tasks.child name = .body := if_neg hname
    have hvalue : Like .body value otherValue := hrole ▸ hentry.value
    have htarget : successTarget ending left = successTarget ending right := by
      cases hrest with
      | nil => rfl
      | cons hnext _ => exact hnext.key_eq
    rw [assembleTasks, assembleTasks, htarget]
    refine (alike_unwrapBody hvalue name).bind fun body otherBody hbody => ?_
    refine (alike_assembleTask hregistry hbody name _ failure).bind_same fun task => ?_
    exact (ih hothers).bind_same fun others => .refl _

theorem alike_assembleSection (hregistry : scope.registry = .standard) (role : SectionRole)
    (chain : Option Workflow) (h : Reordered .tasks left right) :
    Alike Eq (assembleSection scope role chain (ordinaryTasks left))
      (assembleSection scope role chain (ordinaryTasks right)) := by
  have hkeyed : List.Forall₂ (LikeEntry .tasks) (ordinaryTasks left) (ordinaryTasks right) :=
    h.keyed_erase rfl
  have hempty : (ordinaryTasks left).isEmpty = (ordinaryTasks right).isEmpty := by
    rw [Bool.eq_iff_iff, List.isEmpty_iff_length_eq_zero, List.isEmpty_iff_length_eq_zero,
      hkeyed.length_eq]
  have hkeys : ∀ entry ∈ ordinaryTasks left, entry.1 ≠ Keyword.onFailure := fun entry hentry => by
    simpa using (List.mem_filter.mp hentry).2
  unfold assembleSection
  rw [hempty]
  split
  · exact .refl _
  · exact (alike_assembleTasks hregistry hkeyed hkeys).map_same

/-- Error sections that are the same are found in both or in neither. -/
theorem alike_errorSection (h : Reordered .tasks left right) (unit : String) :
    Alike (Option.Rel fun inner other => recovery? left = some inner
        ∧ Reordered .tasks inner other) (errorSection unit left) (errorSection unit right) := by
  unfold errorSection recovery?
  rcases h.maps_or_eq Keyword.onFailure .tasks (by decide) (by decide) with
    ⟨inner, other, hleft, hright, hinner⟩ | ⟨heq, hmap⟩
  · rw [hleft, hright]
    rcases hinner.nil_or_cons with ⟨rfl, rfl⟩ | ⟨entry, rest, first, others, rfl, rfl⟩
    · exact .made .none
    · exact .made (.some ⟨rfl, hinner⟩)
  · rw [← heq]
    cases hvalue : left.get? Keyword.onFailure with
    | none => exact .made .none
    | some value =>
      cases value with
      | null => exact .made .none
      | map entries => exact absurd hvalue (hmap entries)
      | bool held | number held | string held | list items => exact .failed _ _

theorem assembleChain_eq_bind {tasks : Document} :
    assembleChain scope tasks = (errorSection scope.unit tasks >>= fun found =>
      match found with
      | none => .ok none
      | some inner => (assembleWorkflow scope .recovery none inner).map some) := by
  unfold assembleChain
  cases errorSection scope.unit tasks with
  | error cause => rfl
  | ok found => cases found <;> rfl

/-- The chains are the same if what is assembled from the error sections is. -/
theorem alike_assembleChain (h : Reordered .tasks left right)
    (hinner : ∀ inner other, recovery? left = some inner → Reordered .tasks inner other →
      Alike Eq (assembleWorkflow scope .recovery none inner)
        (assembleWorkflow scope .recovery none other)) :
    Alike Eq (assembleChain scope left) (assembleChain scope right) := by
  rw [assembleChain_eq_bind, assembleChain_eq_bind]
  refine (alike_errorSection h scope.unit).bind fun found others hfound => ?_
  cases hfound with
  | none => exact .refl _
  | @some inner other hsome => exact (hinner inner other hsome.1 hsome.2).map_same

/-- The same workflow is assembled from maps of tasks that are the same, or none. -/
theorem alike_assembleWorkflow (hregistry : scope.registry = .standard) {role : SectionRole}
    (h : Reordered .tasks left right) :
    Alike Eq (assembleWorkflow scope role none left) (assembleWorkflow scope role none right) := by
  induction left using errorSections.induct generalizing role right with
  | case1 left hnone =>
    rw [assembleWorkflow_eq_bind, assembleWorkflow_eq_bind]
    refine (alike_assembleChain h fun inner other hsome _ => ?_).bind_same fun chain =>
      alike_assembleSection hregistry role chain h
    rw [hnone] at hsome
    cases hsome
  | case2 left inner hsome ih =>
    rw [assembleWorkflow_eq_bind, assembleWorkflow_eq_bind]
    refine (alike_assembleChain h fun found other hfound hmaps => ?_).bind_same fun chain =>
      alike_assembleSection hregistry role chain h
    obtain rfl : inner = found := Option.some.inj (hsome.symm.trans hfound)
    exact ih hmaps

end FlowCompiler
