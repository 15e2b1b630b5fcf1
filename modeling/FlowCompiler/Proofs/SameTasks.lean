import FlowCompiler.Proofs.Checks

/-!
# Maps of which the same is made

Two entries come to the same if the same task is made of both, whatever targets it goes to
(`SameOutcome`). Sections whose entries do so one by one are assembled to the same, and with chains
that are the same so are workflows (`assembleWorkflow_eq_of_same`). A flow is compiled to the same
if its workflow is, and an operation if the value of the action is (`assembleBody_eq_of_parts`):
like others it is read from the value under its key alone (`ReadsValue`).
-/

namespace FlowCompiler

/-! ## Maps with another value under a key -/

namespace Document

variable {document : Document} {key other : String} {value : Json}

theorem get?_insert :
    (document.insert key value).get? other
      = if other = key then some value else document.get? other := by
  induction document with
  | nil =>
    rw [insert, get?, SortedMap.lookup_cons_ite]
    rfl
  | cons entry rest ih =>
    unfold get? at ih ⊢
    rw [insert]
    split
    · next hentry =>
      rw [SortedMap.lookup_cons_ite, SortedMap.lookup_cons_ite, hentry]
      split <;> rfl
    · next hentry =>
      rw [SortedMap.lookup_cons_ite, SortedMap.lookup_cons_ite, ih]
      split
      · next hother =>
        rw [if_neg (hother ▸ hentry)]
      · rfl

theorem keys_insert_of_get? (h : document.get? key = some value) (other : Json) :
    (document.insert key other).keys = document.keys := by
  have hkey : key ∈ document.keys := mem_keys_iff.mpr (by rw [h, Option.isSome_some])
  rw [keys_insert, if_pos hkey]

theorem erase_insert : (document.insert key value).erase key = document.erase key := by
  unfold erase
  induction document with
  | nil => simp [insert]
  | cons entry rest ih =>
    rw [insert]
    split
    · next hentry => simp [hentry]
    · rw [List.filter_cons, List.filter_cons, ih]

theorem insert_ne_nil : document.insert key value ≠ [] := by
  unfold insert
  split
  · exact List.cons_ne_nil _ _
  · split <;> exact List.cons_ne_nil _ _

end Document

/-! ## Values -/

/-- What the function makes of a document is decided by the value of the key, so that a missing key
counts as one with nothing under it. -/
def ReadsValue {α : Type} (key : String) (f : Document → α) : Prop :=
  ∀ {document other : Document}, other.value key = document.value key → f other = f document

theorem readsValue_of_singleton {α : Type} {key : String} {f : Document → α}
    (h : ∀ document, f document = f [(key, document.value key)]) : ReadsValue key f :=
  fun hvalue => by rw [h, hvalue, ← h]

/-! ## Workflows -/

section Workflows

variable {scope : Scope} {tasks others : Document}

/-- Whatever targets it goes to, the same task is made of both entries. -/
structure SameOutcome (scope : Scope) (entry other : String × Json) : Prop where
  name_eq : other.1 = entry.1
  task_eq (success failure : String) :
    (unwrapBody entry.1 other.2 >>= fun body => assembleTask scope entry.1 body success failure)
      = unwrapBody entry.1 entry.2 >>= fun body => assembleTask scope entry.1 body success failure

theorem SameOutcome.refl (entry : String × Json) : SameOutcome scope entry entry :=
  ⟨rfl, fun _ _ => rfl⟩

theorem assembleTasks_eq_of_same {ending failure : String}
    (h : List.Forall₂ (SameOutcome scope) tasks others) :
    assembleTasks scope ending failure others = assembleTasks scope ending failure tasks := by
  induction h with
  | nil => rfl
  | @cons entry other rest others hentry hrest ih =>
    obtain ⟨name, body⟩ := entry
    obtain ⟨_, otherBody⟩ := other
    obtain ⟨rfl, htask⟩ := hentry
    have htarget : successTarget ending others = successTarget ending rest := by
      cases hrest with
      | nil => rfl
      | cons hnext _ => exact hnext.name_eq
    simp only [assembleTasks, htarget, ih, ← bind_assoc, htask]

theorem assembleSection_eq_of_same {role : SectionRole} {chain : Option Workflow}
    (h : List.Forall₂ (SameOutcome scope) tasks others) :
    assembleSection scope role chain others = assembleSection scope role chain tasks := by
  have hempty : others.isEmpty = tasks.isEmpty := by cases h <;> rfl
  rw [assembleSection, assembleSection, hempty, assembleTasks_eq_of_same h]

theorem assembleWorkflow_eq_of_same {role : SectionRole}
    (h : List.Forall₂ (SameOutcome scope) (ordinaryTasks tasks) (ordinaryTasks others))
    (hchain : assembleChain scope others = assembleChain scope tasks) :
    assembleWorkflow scope role none others = assembleWorkflow scope role none tasks := by
  rw [assembleWorkflow_eq_bind, assembleWorkflow_eq_bind, hchain]
  exact bind_congr fun chain => assembleSection_eq_of_same h

end Workflows

/-! ## Executables -/

section Executables

variable {scope : Scope} {document other tasks others : Document} {options : Options}

theorem assembleFlow_eq_of_get? {unit : String}
    (h : other.get? Keyword.workflow = document.get? Keyword.workflow) :
    assembleFlow scope options unit other = assembleFlow scope options unit document := by
  rw [assembleFlow, assembleFlow, flowTasks, flowTasks, h]

theorem assembleFlow_eq_of_workflow {unit : String}
    (hdocument : document.get? Keyword.workflow = some (.map tasks))
    (hother : other.get? Keyword.workflow = some (.map others)) (hnil : others = [] ↔ tasks = [])
    (h : assembleWorkflow scope .main none others = assembleWorkflow scope .main none tasks) :
    assembleFlow scope options unit other = assembleFlow scope options unit document := by
  have htasks : (flowTasks unit scope.unit other >>= assembleWorkflow scope .main none)
      = (flowTasks unit scope.unit document >>= assembleWorkflow scope .main none) := by
    rw [flowTasks, flowTasks, hdocument, hother]
    cases tasks with
    | nil =>
      obtain rfl := hnil.mpr rfl
      rfl
    | cons entry rest =>
      cases others with
      | nil => exact absurd (hnil.mp rfl) (List.cons_ne_nil _ _)
      | cons first following => exact h
  rw [assembleFlow_eq_bind_tasks, assembleFlow_eq_bind_tasks, htasks]

theorem readsValue_actionDocument (unit name : String) :
    ReadsValue Keyword.action (actionDocument unit name) := by
  refine readsValue_of_singleton fun document => ?_
  unfold actionDocument Document.value
  cases document.get? Keyword.action <;> rfl

/-- The body of an executable is what is made of the workflow, or of the action. -/
theorem assembleBody_eq_of_parts {unit : SourceUnit}
    (hflow : unit.kind = .flow → assembleFlow scope options unit.name other
      = assembleFlow scope options unit.name document)
    (haction : unit.kind = .operation →
      other.value Keyword.action = document.value Keyword.action) :
    assembleBody scope options unit other = assembleBody scope options unit document := by
  unfold assembleBody
  cases hkind : unit.kind with
  | flow => rw [hflow hkind]
  | operation =>
    simp only [assembleOperation, readsValue_actionDocument _ _ (haction hkind)]
  | systemProperties => rfl

end Executables

end FlowCompiler
