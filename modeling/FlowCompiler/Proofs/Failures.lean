import FlowCompiler.Proofs.Executables

/-!
# Failures

What the steps of a compilation may fail with. One step after another fails with what the first of
them fails with (`bind_eq_error_iff`). `FailsOnly` says what a computation may fail with, whether it
fails or not, and follows the way in which computations are put together; `IsAbout` says of an error
what unit it belongs to and which codes it may have. Every step has its own lemma, up to the
assembly of a task (`failsOnly_assembleTask`).
-/

namespace FlowCompiler

/-! ## Failing steps -/

section Steps

variable {α β ε : Type} {x : Except ε α} {cause : ε}

theorem bind_eq_error_iff {f : α → Except ε β} :
    (x >>= f) = .error cause ↔ x = .error cause ∨ ∃ a, x = .ok a ∧ f a = .error cause := by
  cases x <;> simp [bind, Except.bind]

theorem map_eq_error_iff {f : α → β} : x.map f = .error cause ↔ x = .error cause := by
  cases x <;> simp [Except.map]

theorem exists_ok_iff_not_error : (∃ a, x = .ok a) ↔ ∀ cause, x ≠ .error cause := by
  cases x <;> simp

end Steps

/-! ## Computations that fail only in some ways -/

/-- Whatever the computation fails with satisfies the predicate. -/
def FailsOnly {ε α : Type} (P : ε → Prop) (x : Except ε α) : Prop :=
  ∀ cause, x = .error cause → P cause

namespace FailsOnly

variable {ε ε' α β : Type} {P Q : ε → Prop} {x : Except ε α}

theorem ok (a : α) : FailsOnly P (.ok a : Except ε α) :=
  fun _ h => nomatch h

theorem error {cause : ε} (h : P cause) : FailsOnly P (.error cause : Except ε α) :=
  fun _ heq => Except.error.inj heq ▸ h

theorem mono (hx : FailsOnly P x) (h : ∀ cause, P cause → Q cause) : FailsOnly Q x :=
  fun cause hcause => h cause (hx cause hcause)

/-- The second step is taken with what the first one has come to. -/
theorem bind {f : α → Except ε β} (hx : FailsOnly P x)
    (hf : ∀ a, x = .ok a → FailsOnly P (f a)) : FailsOnly P (x >>= f) := by
  cases x with
  | error cause => exact .error (hx cause rfl)
  | ok a => exact hf a rfl

theorem map {f : α → β} (hx : FailsOnly P x) : FailsOnly P (x.map f) := by
  cases x with
  | error cause => exact .error (hx cause rfl)
  | ok a => exact .ok (f a)

theorem mapError {R : ε' → Prop} {f : ε → ε'} (hx : FailsOnly (fun cause => R (f cause)) x) :
    FailsOnly R (x.mapError f) := by
  cases x with
  | error cause => exact .error (hx cause rfl)
  | ok a => exact .ok a

end FailsOnly

/-! ## What an error is about -/

/-- The error belongs to the unit and has one of the codes. -/
def CompileError.IsAbout (tag : String) (codes : List String) (cause : CompileError) : Prop :=
  cause.unit? = some tag ∧ cause.code ∈ codes

open CompileError (IsAbout)

theorem FailsOnly.widen {α : Type} {tag : String} {codes others : List String}
    {x : Except CompileError α} (hx : FailsOnly (IsAbout tag codes) x)
    (h : ∀ code ∈ codes, code ∈ others) : FailsOnly (IsAbout tag others) x :=
  hx.mono fun _ hcause => ⟨hcause.1, h _ hcause.2⟩

/-! ## Keys, stages and references -/

section Steps

variable {scope : Scope} {unit name : String} {document body tasks : Document}

theorem failsOnly_validateKeys {extractors : List Extractor} {additional : List String} :
    FailsOnly (IsAbout unit ["K001"]) (validateKeys unit document extractors additional) := by
  unfold validateKeys
  split
  · exact .error ⟨rfl, List.mem_cons_self⟩
  · exact .ok ()

theorem failsOnly_runStageFrom {fields : FieldMap} {extractors : List Extractor} :
    FailsOnly (IsAbout unit ["X001"]) (runStageFrom fields unit document extractors) := by
  induction extractors generalizing fields with
  | nil => exact .ok fields
  | cons extractor rest ih =>
    rw [runStageFrom_cons_eq]
    refine .bind (.mapError ?_) fun _ _ => ih
    exact fun cause _ => ⟨rfl, List.mem_cons_self⟩

theorem failsOnly_runStage {extractors : List Extractor} :
    FailsOnly (IsAbout unit ["X001"]) (runStage unit document extractors) :=
  failsOnly_runStageFrom

/-- The codes of references without a meaning. -/
def referenceCodes : List String := ["R001", "R002"]

theorem ReferenceError.code_mem (cause : ReferenceError) : cause.code ∈ referenceCodes := by
  cases cause <;> simp [code, referenceCodes]

/-- A reference that belongs to nothing yet is given to the unit. -/
theorem isAbout_inUnit (cause : ReferenceError) :
    IsAbout unit referenceCodes ((CompileError.reference none cause).inUnit unit) :=
  ⟨rfl, cause.code_mem⟩

theorem failsOnly_resolve {reference : String} :
    FailsOnly (IsAbout unit referenceCodes) (scope.resolve unit reference) :=
  .mapError fun cause _ => isAbout_inUnit cause

theorem failsOnly_resolveInputs {inputs : List Input} :
    FailsOnly (IsAbout unit referenceCodes) (scope.resolveInputs unit inputs) :=
  .mapError fun cause _ => isAbout_inUnit cause

/-! ## Tasks -/

/-- The codes of what may be wrong with a task. -/
def taskCodes : List String :=
  ["T001", "T002", "T003", "T004", "T005", "K001", "X001", "R001", "R002"]

theorem failsOnly_unwrapBody {value : Json} :
    FailsOnly (IsAbout name ["T002", "T003"]) (unwrapBody name value) := by
  unfold unwrapBody
  split
  · exact .ok []
  · split
    · exact .ok _
    · exact .ok []
    · exact .ok _
    · exact .error ⟨rfl, by simp [CompileError.code, TaskError.code]⟩
  · exact .error ⟨rfl, by simp [CompileError.code, TaskError.code]⟩

theorem failsOnly_calleeReference :
    FailsOnly (IsAbout name ["T004", "T005"]) (calleeReference name body) := by
  unfold calleeReference
  split
  case h_4 => exact .ok _
  all_goals exact .error ⟨rfl, by simp [CompileError.code, TaskError.code]⟩

theorem failsOnly_resolveBindings {fields : FieldMap} :
    FailsOnly (IsAbout name referenceCodes) (resolveBindings scope name fields) := by
  unfold resolveBindings
  split
  · exact .ok fields
  · exact .map failsOnly_resolveInputs

/-- Whatever is wrong with a task belongs to it. -/
theorem failsOnly_assembleTask {success failure : String} :
    FailsOnly (IsAbout name taskCodes) (assembleTask scope name body success failure) := by
  unfold assembleTask
  split
  · exact .error ⟨rfl, List.mem_cons_self⟩
  · refine .bind (failsOnly_validateKeys.widen (by decide)) fun _ _ => ?_
    refine .bind (failsOnly_runStage.widen (by decide)) fun before _ => ?_
    refine .bind (failsOnly_runStage.widen (by decide)) fun after _ => ?_
    refine .bind (failsOnly_resolveBindings.widen (by decide)) fun resolved _ => ?_
    refine .bind (failsOnly_calleeReference.widen (by decide)) fun reference _ => ?_
    exact .bind (failsOnly_resolve.widen (by decide)) fun refId _ => .ok _

/-! ## Sections, actions and checks -/

theorem failsOnly_errorSection :
    FailsOnly (IsAbout unit ["W003"]) (errorSection unit tasks) := by
  unfold errorSection
  split
  case h_5 => exact .error ⟨rfl, List.mem_cons_self⟩
  all_goals exact .ok _

theorem failsOnly_flowTasks :
    FailsOnly (IsAbout unit ["A003", "A004", "A005"]) (flowTasks unit name document) := by
  unfold flowTasks
  split
  case h_4 => exact .ok _
  all_goals exact .error ⟨rfl, by simp [CompileError.code, ExecutableError.code]⟩

theorem failsOnly_actionDocument :
    FailsOnly (IsAbout unit ["A007", "A008"]) (actionDocument unit name document) := by
  unfold actionDocument
  split
  case h_4 => exact .ok _
  all_goals exact .error ⟨rfl, by simp [CompileError.code, ExecutableError.code]⟩

theorem failsOnly_assembleAction :
    FailsOnly (IsAbout (actionUnit scope.unit) ["K001", "X001"])
      (assembleAction scope document) := by
  refine .bind (failsOnly_validateKeys.widen (by decide)) fun _ _ => ?_
  exact .bind (failsOnly_runStage.widen (by decide)) fun data _ => .ok _

theorem failsOnly_check {options : Options} {workflow : Workflow} :
    FailsOnly (IsAbout unit ["W002", "V001", "V002", "V003"]) (options.check unit workflow) := by
  unfold Options.check
  split
  · exact .error ⟨rfl, by simp [CompileError.code, WorkflowError.code]⟩
  · split
    · next diagnostic _ _ _ =>
      exact .error ⟨rfl, by cases diagnostic <;> simp [CompileError.code, Diagnostic.code]⟩
    · exact .ok ()

end Steps

end FlowCompiler
