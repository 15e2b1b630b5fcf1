import FlowCompiler.Proofs.SameTasks
import FlowCompiler.Proofs.WellFormed

/-!
# Documents that differ at a key

Two documents may differ at one key alone: in whether they have it, in its place among the others
and in what stands under it (`DifferAt`). If the key is one that is accepted, the keys of both are
accepted alike, and what is read under other keys is the same.

A list of declarations, a callee and a navigation are read from the value of their key, a missing
key counting as one with nothing under it. So a task is the same if the values of both documents
are (`DifferAt.assembleTask_eq`), and so is an executable, whose own fields are all taken over into
it, if its body is (`Compiler.assemble_eq_of_values`).
-/

namespace FlowCompiler

/-- The documents are the same apart from the key, and neither is empty. -/
structure DifferAt (key : String) (document other : Document) : Prop where
  ne_nil : document ≠ []
  other_ne_nil : other ≠ []
  erase_eq : other.erase key = document.erase key

/-- Whether a key that is accepted occurs makes no difference to the others. -/
theorem validateKeys_erase {extractors : List Extractor} {additional : List String} {key : String}
    (hclaimed : isClaimed extractors additional key = true) (unit : String) (document : Document) :
    validateKeys unit (document.erase key) extractors additional
      = validateKeys unit document extractors additional := by
  have hkeys : (document.erase key).keys = document.keys.filter fun other => other != key := by
    rw [Document.keys, Document.keys, Document.erase, List.filter_map]
    rfl
  have hunclaimed (other : String) :
      decide ((other != key) = true ∧ (!isClaimed extractors additional other) = true)
        = !isClaimed extractors additional other := by
    by_cases hother : other = key
    · simp [hother, hclaimed]
    · simp [hother]
  simp only [validateKeys, hkeys, List.find?_filter, hunclaimed]

namespace DifferAt

variable {key : String} {document other : Document}

/-- A key may be deleted as long as another is left. -/
theorem of_erase (h : document.erase key ≠ []) : DifferAt key document (document.erase key) where
  ne_nil := fun hnil => h (by rw [hnil]; rfl)
  other_ne_nil := h
  erase_eq := by simp [Document.erase, List.filter_filter]

theorem get?_eq (h : DifferAt key document other) {place : String} (hplace : place ≠ key) :
    other.get? place = document.get? place := by
  have herased := congrArg (fun rest => Document.get? rest place) h.erase_eq
  simpa only [Document.get?_erase, if_neg hplace] using herased

theorem value_eq (h : DifferAt key document other) (hkey : other.value key = document.value key)
    (place : String) : other.value place = document.value place := by
  by_cases hplace : place = key
  · rw [hplace, hkey]
  · rw [Document.value, Document.value, h.get?_eq hplace]

theorem validateKeys_eq (h : DifferAt key document other) {extractors : List Extractor}
    {additional : List String} (hclaimed : isClaimed extractors additional key = true)
    (unit : String) :
    validateKeys unit other extractors additional
      = validateKeys unit document extractors additional := by
  rw [← validateKeys_erase hclaimed, h.erase_eq, validateKeys_erase hclaimed]

end DifferAt

/-! ## Tasks -/

namespace Extractor

variable {document other : Document}

theorem readsValue_extractCallee : ReadsValue Keyword.callee extractCallee := by
  refine readsValue_of_singleton fun document => ?_
  unfold extractCallee Document.value
  cases document.get? Keyword.callee <;> rfl

theorem readsValue_extractNavigation : ReadsValue Keyword.navigate extractNavigation := by
  refine readsValue_of_singleton fun document => ?_
  unfold extractNavigation Document.value
  cases document.get? Keyword.navigate <;> rfl

theorem contribution_listUnder_eq_of_get? {α : Type} {format : ItemFormat α} {key : String}
    {stage : Stage} {field : List α → FieldValue} (h : other.get? key = document.get? key) :
    (listUnder format key stage field).contribution other
      = (listUnder format key stage field).contribution document := by
  rw [contribution, contribution, applies_singleton rfl, applies_singleton rfl, h]
  simp only [listUnder, h]

end Extractor

theorem readsValue_calleeReference (name : String) :
    ReadsValue Keyword.callee (calleeReference name) := by
  refine readsValue_of_singleton fun body => ?_
  unfold calleeReference Document.value
  cases body.get? Keyword.callee <;> rfl

open Extractor

section Tasks

variable {key : String} {body other : Document}

/-- The extractors that are shown the body of a task make the same of both bodies. -/
theorem DifferAt.contribution_eq (h : DifferAt key body other)
    (hkey : key ∈ [Keyword.callee, Keyword.navigate]) (hvalue : other.value key = body.value key) :
    ∀ extractor ∈ [callee, loopHeader, publish, navigate],
      extractor.contribution other = extractor.contribution body := by
  have hget : ∀ place ∈ [Keyword.header, Keyword.publish], other.get? place = body.get? place := by
    intro place hplace
    have hne : ∀ place ∈ [Keyword.header, Keyword.publish],
        ∀ key ∈ [Keyword.callee, Keyword.navigate], place ≠ key := by decide
    exact h.get?_eq (hne place hplace key hkey)
  simp only [List.forall_mem_cons, List.not_mem_nil, false_implies, implies_true, and_true]
  refine ⟨?_, ?_, ?_, ?_⟩
  · rw [contribution_callee, contribution_callee]
    exact readsValue_extractCallee (h.value_eq hvalue _)
  · rw [contribution_loopHeader, contribution_loopHeader, extractLoopHeader, extractLoopHeader,
      hget Keyword.header (by decide)]
  · exact contribution_listUnder_eq_of_get? (hget Keyword.publish (by decide))
  · rw [contribution_navigate, contribution_navigate]
    exact readsValue_extractNavigation (h.value_eq hvalue _)

/-- Whether a task says that it calls nothing, or goes nowhere in particular, or does not say it,
makes no difference. -/
theorem DifferAt.assembleTask_eq {scope : Scope} (hregistry : scope.registry = .standard)
    (h : DifferAt key body other) (hkey : key ∈ [Keyword.callee, Keyword.navigate])
    (hvalue : other.value key = body.value key) (name success failure : String) :
    assembleTask scope name other success failure
      = assembleTask scope name body success failure := by
  have hempty : other.isEmpty = body.isEmpty := by
    rw [List.isEmpty_eq_false_iff.mpr h.ne_nil, List.isEmpty_eq_false_iff.mpr h.other_ne_nil]
  have hclaimed : isClaimed (Registry.standard.stages Stage.ofTask) Keyword.ofTask key = true := by
    have hall : ∀ key ∈ [Keyword.callee, Keyword.navigate], key ∈ Keyword.ofTask := by decide
    rw [isClaimed, List.contains_iff_mem.mpr (hall key hkey), Bool.or_true]
  have hstage (stage : Stage)
      (hstage : ∀ extractor ∈ Registry.standard.stage stage,
        extractor ∈ [callee, loopHeader, publish, navigate]) :
      runStage name other (Registry.standard.stage stage)
        = runStage name body (Registry.standard.stage stage) :=
    runStageFrom_eq_of_contributions fun extractor hextractor =>
      h.contribution_eq hkey hvalue extractor (hstage extractor hextractor)
  have hbefore := hstage .beforeTask (by rw [stage_beforeTask]; simp)
  have hafter := hstage .afterTask (by rw [stage_afterTask]; simp)
  have hreference := readsValue_calleeReference name (h.value_eq hvalue Keyword.callee)
  simp only [assembleTask, hregistry, hempty, h.validateKeys_eq hclaimed, hbefore, hafter,
    hreference]

end Tasks

/-! ## Executables -/

section Failures

variable {ε α β : Type}

/-- What the computation fails with, if it does. -/
def failureOf : Except ε α → Option ε
  | .error cause => some cause
  | .ok _ => none

@[simp]
theorem failureOf_map {x : Except ε α} {f : α → β} : failureOf (x.map f) = failureOf x := by
  cases x <;> rfl

theorem failureOf_cases {x y : Except ε α} (h : failureOf x = failureOf y) :
    (∃ cause, x = .error cause ∧ y = .error cause) ∨ ∃ a b, x = .ok a ∧ y = .ok b := by
  cases x with
  | error cause =>
    cases y with
    | error other => exact .inl ⟨cause, rfl, congrArg Except.error (Option.some.inj h).symm⟩
    | ok b => cases h
  | ok a =>
    cases y with
    | error other => cases h
    | ok b => exact .inr ⟨a, b, rfl, rfl⟩

/-- Computations fail alike, and where they succeed, the same is made of their values. -/
theorem bind_eq_of_failureOf {x y : Except ε α} {f g : α → Except ε β}
    (h : failureOf x = failureOf y) (hfg : ∀ a b, x = .ok a → y = .ok b → f a = g b) :
    (x >>= f) = (y >>= g) := by
  rcases failureOf_cases h with ⟨cause, rfl, rfl⟩ | ⟨a, b, rfl, rfl⟩
  · rfl
  · exact hfg a b rfl rfl

end Failures

section Executables

variable {document other : Document} {name : String}

/-- A list of declarations fails as its value does. -/
theorem failureOf_contribution_listUnder {α : Type} {format : ItemFormat α} {key : String}
    {stage : Stage} {field : List α → FieldValue} :
    failureOf ((listUnder format key stage field).contribution document)
      = failureOf (readList format key (document.value key)) := by
  rw [contribution, applies_singleton rfl, Document.value]
  cases hget : document.get? key with
  | none => rfl
  | some value => simp only [listUnder, hget, Option.isSome_some, if_true, failureOf_map]

theorem failureOf_contribution_listUnder_eq {α : Type} {format : ItemFormat α} {key : String}
    {stage : Stage} {field : List α → FieldValue} (h : other.value key = document.value key) :
    failureOf ((listUnder format key stage field).contribution other)
      = failureOf ((listUnder format key stage field).contribution document) := by
  rw [failureOf_contribution_listUnder, failureOf_contribution_listUnder, h]

/-- Extractors that fail alike do so at a stage, whatever the fields are that they add to. -/
theorem failureOf_runStageFrom_eq {fields others : FieldMap} {extractors : List Extractor}
    (h : ∀ extractor ∈ extractors,
      failureOf (extractor.contribution other) = failureOf (extractor.contribution document)) :
    failureOf (runStageFrom others name other extractors)
      = failureOf (runStageFrom fields name document extractors) := by
  induction extractors generalizing fields others with
  | nil => rfl
  | cons extractor rest ih =>
    obtain ⟨hextractor, hrest⟩ := List.forall_mem_cons.mp h
    rw [runStageFrom_cons_eq, runStageFrom_cons_eq]
    rcases failureOf_cases hextractor with ⟨cause, hother, hdocument⟩ | ⟨_, _, hother, hdocument⟩
    · rw [hother, hdocument]
      rfl
    · rw [hother, hdocument]
      exact ih hrest

/-- The outputs and results of an executable are those that stand under their keys. -/
theorem declared_of_afterExecutable {after : FieldMap}
    (h : runStage name document (Registry.standard.stage .afterExecutable) = .ok after) :
    declared after Keyword.outputs FieldValue.outputs?
        = (declarations namedOf (entries (document.value Keyword.outputs))).map
          NamedExpression.toOutput
      ∧ declared after Keyword.results FieldValue.results?
        = (declarations namedOf (entries (document.value Keyword.results))).map
          NamedExpression.toResult := by
  obtain ⟨left, right, hleft, hright, hgetOutputs, hgetResults⟩ := get?_of_afterExecutable h
  exact ⟨declared_of_listUnder namedFormat_declares (fun _ => rfl) hleft hgetOutputs,
    declared_of_listUnder namedFormat_declares (fun _ => rfl) hright hgetResults⟩

/-- The outcome for a document depends on the values of its declarations and on its body. -/
theorem Compiler.assemble_eq_of_values {options : Options} {unit : SourceUnit}
    (hdocument : document ≠ []) (hother : other ≠ [])
    (hkeys : validateKeys name other (Registry.standard.stages Stage.ofExecutable)
        Keyword.ofExecutable
      = validateKeys name document (Registry.standard.stages Stage.ofExecutable)
        Keyword.ofExecutable)
    (hvalues : ∀ key ∈ [Keyword.inputs, Keyword.outputs, Keyword.results],
      other.value key = document.value key)
    (hbody : assembleBody ⟨.standard, unit.imports, name⟩ options unit other
      = assembleBody ⟨.standard, unit.imports, name⟩ options unit document) :
    (Compiler.mk .standard options).assemble unit name other
      = (Compiler.mk .standard options).assemble unit name document := by
  have hinputs := hvalues Keyword.inputs (by simp)
  have houtputs := hvalues Keyword.outputs (by simp)
  have hresults := hvalues Keyword.results (by simp)
  have hbefore : failureOf (runStage name other (Registry.standard.stage .beforeExecutable))
      = failureOf (runStage name document (Registry.standard.stage .beforeExecutable)) := by
    rw [stage_beforeExecutable]
    exact failureOf_runStageFrom_eq
      (List.forall_mem_singleton.mpr (failureOf_contribution_listUnder_eq hinputs))
  have hafter : failureOf (runStage name other (Registry.standard.stage .afterExecutable))
      = failureOf (runStage name document (Registry.standard.stage .afterExecutable)) := by
    rw [stage_afterExecutable]
    exact failureOf_runStageFrom_eq (List.forall_mem_cons.mpr
      ⟨failureOf_contribution_listUnder_eq houtputs,
        List.forall_mem_singleton.mpr (failureOf_contribution_listUnder_eq hresults)⟩)
  have hnonempty : ∀ {document : Document}, document ≠ [] → document.isEmpty = false :=
    List.isEmpty_eq_false_iff.mpr
  simp only [assemble, hnonempty hdocument, hnonempty hother, hkeys, hbody]
  -- A field may be there in one and missing in the other, but what is taken from it is the same.
  refine bind_congr fun _ => bind_eq_of_failureOf hbefore fun before before' hbefore hbefore' =>
    bind_eq_of_failureOf hafter fun after after' hafter hafter' => ?_
  rw [declared_of_beforeExecutable hbefore, declared_of_beforeExecutable hbefore',
    erase_of_beforeExecutable hbefore, erase_of_beforeExecutable hbefore',
    (declared_of_afterExecutable hafter).1, (declared_of_afterExecutable hafter').1,
    (declared_of_afterExecutable hafter).2, (declared_of_afterExecutable hafter').2,
    erase_of_afterExecutable hafter, erase_of_afterExecutable hafter', hinputs, houtputs, hresults]

end Executables

end FlowCompiler
