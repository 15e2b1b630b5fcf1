import FlowCompiler.Assembly.Workflow
import FlowCompiler.Proofs.StandardStages

/-!
# Tasks

When a task is assembled, and what it is then (`assembleTask_eq_ok_iff`), step by step as the
assembly proceeds. The body of a task is what stands in the source, taken out of a loop: `taskBody`
says what that is without saying when it is accepted, `HasBody` says when.
-/

namespace FlowCompiler

/-! ## Loops -/

/-- The body of a task as it stands in the source: the map itself, or the one under the key of a
loop. What is not a map counts as an empty one. -/
def taskBody : Json → Document
  | .map body =>
    match Document.get? body Keyword.loop with
    | none => body
    | some (.map inner) => inner
    | some _ => []
  | _ => []

/-- Whether the value may be read as a body: it is a map or nothing, and so is what stands under the
key of a loop. -/
def HasBody : Json → Prop
  | .null => True
  | .map body =>
    match Document.get? body Keyword.loop with
    | none | some .null | some (.map _) => True
    | some _ => False
  | _ => False

theorem unwrapBody_eq_ok_iff {name : String} {value : Json} {body : Document} :
    unwrapBody name value = .ok body ↔ HasBody value ∧ body = taskBody value := by
  unfold unwrapBody HasBody taskBody
  split
  · simp [eq_comm]
  · rename_i entries
    cases hget : Document.get? entries Keyword.loop with
    | none => simp [hget, eq_comm]
    | some inner => cases inner <;> simp [hget, eq_comm]
  · rename_i hnull hmap
    cases value with
    | null => exact absurd rfl hnull
    | map entries => exact absurd rfl (hmap entries)
    | bool value | number value | string value | list items => simp

/-! ## The call -/

theorem calleeReference_eq_ok_iff {name reference : String} {body : Document} :
    calleeReference name body = .ok reference
      ↔ ∃ bindings, body.get? Keyword.callee = some (.map [(reference, bindings)]) := by
  unfold calleeReference
  cases hget : body.get? Keyword.callee with
  | none => simp
  | some value =>
    cases value with
    | map entries =>
      rcases entries with _ | ⟨⟨other, bindings⟩, _ | ⟨second, rest⟩⟩ <;> simp
    | null | bool value | number value | string value | list items => simp

theorem assembleTask_eq_ok_iff {scope : Scope} {name : String} {body : Document}
    {success failure : String} {task : Task} :
    assembleTask scope name body success failure = .ok task
      ↔ body ≠ []
        ∧ validateKeys name body (scope.registry.stages Stage.ofTask) Keyword.ofTask = .ok ()
        ∧ ∃ before, runStage name body (scope.registry.stage .beforeTask) = .ok before
        ∧ ∃ after, runStage name body (scope.registry.stage .afterTask) = .ok after
        ∧ ∃ resolved, resolveBindings scope name before = .ok resolved
        ∧ ∃ reference, calleeReference name body = .ok reference
        ∧ ∃ refId, scope.resolve name reference = .ok refId
        ∧ task = ⟨name, refId,
            (authoredNavigation? after).getD (defaultNavigation success failure), resolved,
            after⟩ := by
  unfold assembleTask
  split
  · next hempty => simp [List.isEmpty_iff.mp hempty]
  · next hempty =>
    have hbody : body ≠ [] := fun h => hempty (List.isEmpty_iff.mpr h)
    simp only [bind_eq_ok_iff, pure, Except.pure, Except.ok.injEq, hbody, ne_eq, not_false_eq_true,
      true_and, eq_comm (b := task)]
    apply Iff.intro
    · intro h
      obtain ⟨_, hkeys, hrest⟩ := h
      exact ⟨hkeys, hrest⟩
    · intro h
      obtain ⟨hkeys, hrest⟩ := h
      exact ⟨(), hkeys, hrest⟩

theorem name_of_assembleTask {scope : Scope} {name : String} {body : Document}
    {success failure : String} {task : Task}
    (h : assembleTask scope name body success failure = .ok task) : task.name = name := by
  obtain ⟨-, -, _, -, _, -, _, -, _, -, _, -, rfl⟩ := assembleTask_eq_ok_iff.mp h
  rfl

end FlowCompiler
