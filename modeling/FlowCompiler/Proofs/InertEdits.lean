import FlowCompiler.Proofs.DifferingKeys
import Mathlib.Logic.Relation

/-!
# Edits that make no difference

A document may be edited without any effect on its compilation. Some keys do not count, whatever
stands under them (`UnitKind.ignoredKeys`), others may be left out when there is nothing under them
(`UnitKind.nullableKeys`); so may the callee and the navigation of a task (`BodyEdit`), whether it
stands in a loop or not (`TaskEdit`), and a missing error section of any section (`SectionEdit`).
`DocumentEdit` is one such edit; no map that is edited is empty before or after it.

What one edit does to a section and to a document is shown by a case for each rule
(`SectionEdit.assembleWorkflow_eq`, `DocumentEdit.assemble_eq`). Hence any number of edits, made or
undone, leaves the executable or the error as it is (`inert_edits_ignored`).
-/

namespace FlowCompiler

/-! ## Edits -/

/-- The documents are the same apart from the key, under which there is nothing in either. -/
structure NothingAt (key : String) (document other : Document) : Prop
    extends DifferAt key document other where
  value_eq_null : document.value key = .null
  other_value_eq_null : other.value key = .null

/-- A task may say that it calls nothing, or that it goes nowhere in particular, or not say it. -/
inductive BodyEdit : Document → Document → Prop
  | nothing {key : String} {body other : Document} :
      key ∈ [Keyword.callee, Keyword.navigate] → NothingAt key body other → BodyEdit body other

/-- The body of a task is edited, be it the map itself or the one under the key of a loop. -/
inductive TaskEdit : Json → Json → Prop
  | body {body other : Document} :
      body.get? Keyword.loop = none → BodyEdit body other → TaskEdit (.map body) (.map other)
  | loop {body inner other : Document} :
      body.get? Keyword.loop = some (.map inner) → BodyEdit inner other →
      TaskEdit (.map body) (.map (body.insert Keyword.loop (.map other)))

/-- Whether the value of the key of an error section stands for none. -/
def IsNoSection (value : Json) : Prop :=
  value = .null ∨ value = .map []

/-- A section is edited: in that it has no error section, in one of its tasks, or in its error
section. -/
inductive SectionEdit : Document → Document → Prop
  | noSection {tasks other : Document} :
      DifferAt Keyword.onFailure tasks other → IsNoSection (tasks.value Keyword.onFailure) →
      IsNoSection (other.value Keyword.onFailure) → SectionEdit tasks other
  | task {name : String} {body other : Json} {before after : Document} :
      name ≠ Keyword.onFailure → TaskEdit body other →
      SectionEdit (before ++ (name, body) :: after) (before ++ (name, other) :: after)
  | inner {tasks inner other : Document} :
      tasks.get? Keyword.onFailure = some (.map inner) → SectionEdit inner other →
      SectionEdit tasks (tasks.insert Keyword.onFailure (.map other))

/-- The keys of a document that do not count: its name, and the body of another kind. -/
def UnitKind.ignoredKeys : UnitKind → List String
  | .flow => [Keyword.name, Keyword.action]
  | .operation => [Keyword.name, Keyword.workflow]
  | .systemProperties => [Keyword.name]

/-- The keys of a document that may be left out when there is nothing under them. -/
def UnitKind.nullableKeys : UnitKind → List String
  | .operation => [Keyword.inputs, Keyword.outputs, Keyword.results, Keyword.action]
  | .flow | .systemProperties => [Keyword.inputs, Keyword.outputs, Keyword.results]

/-- A document of the kind is edited: at a key that does not count, at one with nothing under it, or
in its tasks. -/
inductive DocumentEdit (kind : UnitKind) : Document → Document → Prop
  | ignored {key : String} {document other : Document} :
      key ∈ kind.ignoredKeys → DifferAt key document other → DocumentEdit kind document other
  | nothing {key : String} {document other : Document} :
      key ∈ kind.nullableKeys → NothingAt key document other → DocumentEdit kind document other
  | workflow {document tasks other : Document} :
      document.get? Keyword.workflow = some (.map tasks) → SectionEdit tasks other →
      DocumentEdit kind document (document.insert Keyword.workflow (.map other))

/-- A key under which there is nothing may be deleted as long as another is left. -/
theorem NothingAt.of_erase {key : String} {document : Document}
    (hvalue : document.value key = .null) (h : document.erase key ≠ []) :
    NothingAt key document (document.erase key) where
  toDifferAt := .of_erase h
  value_eq_null := hvalue
  other_value_eq_null := by rw [Document.value, Document.get?_erase, if_pos rfl, Option.getD_none]

theorem NothingAt.value_eq {key : String} {document other : Document}
    (h : NothingAt key document other) (place : String) :
    other.value place = document.value place :=
  h.toDifferAt.value_eq (h.other_value_eq_null.trans h.value_eq_null.symm) place

/-! ## Sections -/

section Sections

variable {scope : Scope} (hregistry : scope.registry = .standard)
include hregistry

theorem BodyEdit.assembleTask_eq {body other : Document} (h : BodyEdit body other)
    (name success failure : String) :
    assembleTask scope name other success failure
      = assembleTask scope name body success failure := by
  obtain ⟨hkey, h⟩ := h
  exact h.assembleTask_eq hregistry hkey (h.value_eq _) name success failure

theorem TaskEdit.sameOutcome {body other : Json} (h : TaskEdit body other) (name : String) :
    SameOutcome scope (name, body) (name, other) := by
  refine ⟨rfl, fun success failure => ?_⟩
  cases h with
  | @body body other hbody hedit =>
    have hother : other.get? Keyword.loop = none := by
      obtain ⟨hkey, h⟩ := hedit
      have hne : ∀ key ∈ [Keyword.callee, Keyword.navigate], Keyword.loop ≠ key := by decide
      rw [h.get?_eq (hne _ hkey), hbody]
    simp only [unwrapBody, hbody, hother, ok_bind]
    exact hedit.assembleTask_eq hregistry name success failure
  | loop hbody hedit =>
    simp only [unwrapBody, hbody, Document.get?_insert, if_true, ok_bind]
    exact hedit.assembleTask_eq hregistry name success failure

end Sections

namespace SectionEdit

variable {scope : Scope} {tasks other : Document}

theorem ne_nil (h : SectionEdit tasks other) : tasks ≠ [] ∧ other ≠ [] := by
  cases h with
  | noSection h => exact ⟨h.ne_nil, h.other_ne_nil⟩
  | task => exact ⟨by simp, by simp⟩
  | inner hget =>
    refine ⟨fun hnil => ?_, Document.insert_ne_nil⟩
    rw [hnil] at hget
    cases hget

/-- The tasks of the section itself come to the same one by one. -/
theorem sameOutcome (hregistry : scope.registry = .standard) (h : SectionEdit tasks other) :
    List.Forall₂ (SameOutcome scope) (ordinaryTasks tasks) (ordinaryTasks other) := by
  have hsame (entries : Document) : List.Forall₂ (SameOutcome scope) entries entries :=
    List.forall₂_same.mpr fun entry _ => .refl entry
  cases h with
  | noSection h =>
    have htasks : ordinaryTasks other = ordinaryTasks tasks := h.erase_eq
    rw [htasks]
    exact hsame _
  | @task name body other before after hname hedit =>
    have hsplit (value : Json) : ordinaryTasks (before ++ (name, value) :: after)
        = ordinaryTasks before ++ (name, value) :: ordinaryTasks after := by
      simp [ordinaryTasks, Document.erase, hname]
    rw [hsplit, hsplit]
    exact List.rel_append (hsame _) (.cons (hedit.sameOutcome hregistry name) (hsame _))
  | inner =>
    have htasks (value : Json) :
        ordinaryTasks (tasks.insert Keyword.onFailure value) = ordinaryTasks tasks :=
      Document.erase_insert
    rw [htasks]
    exact hsame _

end SectionEdit

theorem assembleChain_of_noSection {scope : Scope} {tasks : Document}
    (h : IsNoSection (tasks.value Keyword.onFailure)) : assembleChain scope tasks = .ok none := by
  have hsection : errorSection scope.unit tasks = .ok none := by
    unfold errorSection
    rw [Document.value] at h
    cases hget : tasks.get? Keyword.onFailure with
    | none => rfl
    | some value =>
      rw [hget] at h
      obtain rfl | rfl := h
      · rfl
      · rfl
  rw [assembleChain, hsection]

theorem assembleChain_of_get? {scope : Scope} {tasks inner : Document}
    (hget : tasks.get? Keyword.onFailure = some (.map inner)) (hne : inner ≠ []) :
    assembleChain scope tasks = (assembleWorkflow scope .recovery none inner).map some := by
  obtain ⟨entry, rest, rfl⟩ := List.exists_cons_of_ne_nil hne
  rw [assembleChain, errorSection, hget]

/-- An edit leaves the outcome for a section as it is. The induction is over the error sections in
which the edit is made. -/
theorem SectionEdit.assembleWorkflow_eq {scope : Scope} (hregistry : scope.registry = .standard)
    {tasks other : Document} (h : SectionEdit tasks other) (role : SectionRole) :
    assembleWorkflow scope role none other = assembleWorkflow scope role none tasks := by
  -- The tasks of the section itself are settled; what is left is its chain.
  have hsame := h.sameOutcome hregistry
  induction h generalizing role with
  | noSection _ htasks hother =>
    refine assembleWorkflow_eq_of_same hsame ?_
    rw [assembleChain_of_noSection htasks, assembleChain_of_noSection hother]
  | @task name body other before after hname _ =>
    refine assembleWorkflow_eq_of_same hsame ?_
    have hsection : (before ++ (name, other) :: after).get? Keyword.onFailure
        = (before ++ (name, body) :: after).get? Keyword.onFailure := by
      simp only [Document.get?, List.lookup_append, SortedMap.lookup_cons_ite, if_neg hname.symm]
    rw [assembleChain, assembleChain, errorSection, errorSection, hsection]
  | @inner tasks inner other hget hedit ih =>
    refine assembleWorkflow_eq_of_same hsame ?_
    obtain ⟨hinner, hother⟩ := hedit.ne_nil
    have hgetOther : (tasks.insert Keyword.onFailure (.map other)).get? Keyword.onFailure
        = some (.map other) := Document.get?_insert.trans (if_pos rfl)
    rw [assembleChain_of_get? hget hinner, assembleChain_of_get? hgetOther hother,
      ih .recovery (hedit.sameOutcome hregistry)]

/-! ## Documents -/

namespace DocumentEdit

variable {kind : UnitKind} {document other : Document}

theorem ne_nil (h : DocumentEdit kind document other) : document ≠ [] ∧ other ≠ [] := by
  cases h with
  | ignored _ h => exact ⟨h.ne_nil, h.other_ne_nil⟩
  | nothing _ h => exact ⟨h.ne_nil, h.other_ne_nil⟩
  | workflow hget =>
    refine ⟨fun hnil => ?_, Document.insert_ne_nil⟩
    rw [hnil] at hget
    cases hget

theorem validateKeys_eq (h : DocumentEdit kind document other) (name : String) :
    validateKeys name other (Registry.standard.stages Stage.ofExecutable) Keyword.ofExecutable
      = validateKeys name document (Registry.standard.stages Stage.ofExecutable)
        Keyword.ofExecutable := by
  have hclaimed : ∀ key ∈ kind.ignoredKeys ++ kind.nullableKeys,
      isClaimed (Registry.standard.stages Stage.ofExecutable) Keyword.ofExecutable key = true := by
    rw [stages_ofExecutable]
    cases kind <;> decide
  cases h with
  | ignored hkey h => exact h.validateKeys_eq (hclaimed _ (List.mem_append_left _ hkey)) name
  | nothing hkey h => exact h.validateKeys_eq (hclaimed _ (List.mem_append_right _ hkey)) name
  | workflow hget =>
    rw [validateKeys, validateKeys, Document.keys_insert_of_get? hget]

theorem value_eq (h : DocumentEdit kind document other) :
    ∀ key ∈ [Keyword.inputs, Keyword.outputs, Keyword.results],
      other.value key = document.value key := by
  intro place hplace
  cases h with
  | @ignored key _ _ hkey h =>
    have hne : ∀ place ∈ [Keyword.inputs, Keyword.outputs, Keyword.results],
        ∀ key ∈ kind.ignoredKeys, place ≠ key := by
      cases kind <;> decide
    rw [Document.value, Document.value, h.get?_eq (hne place hplace key hkey)]
  | nothing _ h => exact h.value_eq place
  | workflow =>
    have hne : ∀ place ∈ [Keyword.inputs, Keyword.outputs, Keyword.results],
        place ≠ Keyword.workflow := by decide
    rw [Document.value, Document.value, Document.get?_insert, if_neg (hne place hplace)]

theorem assembleFlow_eq {scope : Scope} (hregistry : scope.registry = .standard)
    (h : DocumentEdit .flow document other) (options : Options) (unit : String) :
    assembleFlow scope options unit other = assembleFlow scope options unit document := by
  have hne : ∀ key ∈ UnitKind.flow.ignoredKeys ++ UnitKind.flow.nullableKeys,
      Keyword.workflow ≠ key := by decide
  cases h with
  | ignored hkey h =>
    exact assembleFlow_eq_of_get? (h.get?_eq (hne _ (List.mem_append_left _ hkey)))
  | nothing hkey h =>
    exact assembleFlow_eq_of_get? (h.get?_eq (hne _ (List.mem_append_right _ hkey)))
  | workflow hget hedit =>
    obtain ⟨htasks, hother⟩ := hedit.ne_nil
    exact assembleFlow_eq_of_workflow hget (Document.get?_insert.trans (if_pos rfl))
      (iff_of_false hother htasks) (hedit.assembleWorkflow_eq hregistry .main)

theorem action_eq (h : DocumentEdit .operation document other) :
    other.value Keyword.action = document.value Keyword.action := by
  cases h with
  | ignored hkey h =>
    have hne : ∀ key ∈ UnitKind.operation.ignoredKeys, Keyword.action ≠ key := by decide
    rw [Document.value, Document.value, h.get?_eq (hne _ hkey)]
  | nothing _ h => exact h.value_eq _
  | workflow =>
    rw [Document.value, Document.value, Document.get?_insert, if_neg (by decide)]

/-- One edit leaves the outcome as it is. -/
theorem assemble_eq {unit : SourceUnit} (h : DocumentEdit unit.kind document other)
    (options : Options) (name : String) :
    (Compiler.mk .standard options).assemble unit name other
      = (Compiler.mk .standard options).assemble unit name document := by
  obtain ⟨hdocument, hother⟩ := h.ne_nil
  refine Compiler.assemble_eq_of_values hdocument hother (h.validateKeys_eq name) h.value_eq
    (assembleBody_eq_of_parts (fun hflow => ?_) fun hoperation => ?_)
  · rw [hflow] at h
    exact h.assembleFlow_eq rfl options unit.name
  · rw [hoperation] at h
    exact h.action_eq

end DocumentEdit

/-- Any number of edits, each made or undone, leaves the outcome as it is: the same executable, or
the same error. -/
theorem inert_edits_ignored (options : Options) (unit : SourceUnit) (name : String)
    {document other : Document} (h : Relation.EqvGen (DocumentEdit unit.kind) document other) :
    (Compiler.mk .standard options).assemble unit name other
      = (Compiler.mk .standard options).assemble unit name document := by
  induction h with
  | rel _ _ hedit => exact hedit.assemble_eq options name
  | refl _ => rfl
  | symm _ _ _ ih => exact ih.symm
  | trans _ _ _ _ _ ihleft ihright => exact ihright.trans ihleft

/-- A flow with an error section whose task stands in a loop. -/
def patrolFlow (others walk recovery alarm : Document) : Document :=
  others ++ [(Keyword.workflow, .map
    [("walk", .map walk),
     (Keyword.onFailure, .map (recovery ++
      [("alarm", .map [(Keyword.loop, .map alarm), ("until", .null)])]))])]

/-- A body that calls an executable, after some other keys. -/
def patrolBody (others : Document) : Document :=
  others ++ [(Keyword.callee, .map [("ops.walk", .null)])]

/-- A flow with a key that does not count, and with others under which there is nothing. -/
def wordyFlow (alarm : Document) : Document :=
  patrolFlow [(Keyword.action, .list []), (Keyword.inputs, .null)]
    (patrolBody [(Keyword.navigate, .null)]) [(Keyword.onFailure, .map [])] alarm

/-- The flow without these keys. -/
def terseFlow (alarm : Document) : Document :=
  patrolFlow [] (patrolBody []) [] alarm

/-- The unit of both flows. -/
def patrolUnit : SourceUnit where
  name := "demo.patrol"
  kind := .flow
  space := "demo"
  imports := some (.ofList [("ops", "org.ops")])

theorem eqvGen_wordyFlow {alarm other : Document} (h : BodyEdit alarm other) :
    Relation.EqvGen (DocumentEdit .flow) (wordyFlow alarm) (terseFlow other) := by
  have haction (walk recovery : Document) : DocumentEdit .flow
      (patrolFlow [(Keyword.action, .list []), (Keyword.inputs, .null)] walk recovery alarm)
      (patrolFlow [(Keyword.inputs, .null)] walk recovery alarm) :=
    .ignored (by decide : Keyword.action ∈ _) (.of_erase nofun)
  have hinputs (walk recovery : Document) : DocumentEdit .flow
      (patrolFlow [(Keyword.inputs, .null)] walk recovery alarm)
      (patrolFlow [] walk recovery alarm) :=
    .nothing (by decide : Keyword.inputs ∈ _) (.of_erase rfl nofun)
  have hnavigate : BodyEdit (patrolBody [(Keyword.navigate, .null)]) (patrolBody []) :=
    .nothing (by decide : Keyword.navigate ∈ _) (.of_erase rfl nofun)
  have hwalk (recovery : Document) : DocumentEdit .flow
      (patrolFlow [] (patrolBody [(Keyword.navigate, .null)]) recovery alarm)
      (patrolFlow [] (patrolBody []) recovery alarm) :=
    .workflow rfl (@SectionEdit.task _ _ _ [] _ (by decide) (.body rfl hnavigate))
  have hsection (walk : Document) : DocumentEdit .flow
      (patrolFlow [] walk [(Keyword.onFailure, .map [])] alarm) (patrolFlow [] walk [] alarm) :=
    .workflow rfl (.inner rfl (.noSection (.of_erase nofun) (.inr rfl) (.inl rfl)))
  have halarm (walk : Document) : DocumentEdit .flow
      (patrolFlow [] walk [] alarm) (patrolFlow [] walk [] other) :=
    .workflow rfl (.inner rfl (@SectionEdit.task _ _ _ [] _ (by decide) (.loop rfl h)))
  exact .trans _ _ _ (.rel _ _ (haction _ _)) (.trans _ _ _ (.rel _ _ (hinputs _ _))
    (.trans _ _ _ (.rel _ _ (hwalk _)) (.trans _ _ _ (.rel _ _ (hsection _))
      (.rel _ _ (halarm _)))))

/-- Both flows are compiled to the same. If the task in the loop says that it calls nothing, or does
not say what it calls, both fail for the same reason. -/
theorem patrolFlow_edited :
    Relation.EqvGen (DocumentEdit patrolUnit.kind)
        (wordyFlow (patrolBody [(Keyword.navigate, .null)])) (terseFlow (patrolBody []))
      ∧ (Compiler.mk .standard {}).assemble patrolUnit "patrol" (terseFlow (patrolBody []))
        = (Compiler.mk .standard {}).assemble patrolUnit "patrol"
          (wordyFlow (patrolBody [(Keyword.navigate, .null)]))
      ∧ ((Compiler.mk .standard {}).assemble patrolUnit "patrol"
          (terseFlow (patrolBody []))).isOk = true
      ∧ (Compiler.mk .standard {}).assemble patrolUnit "patrol"
          (terseFlow [(Keyword.publish, .null)])
        = .error (.task "alarm" .noCallee)
      ∧ (Compiler.mk .standard {}).assemble patrolUnit "patrol"
          (wordyFlow [(Keyword.callee, .null), (Keyword.publish, .null)])
        = .error (.task "alarm" .noCallee) := by
  have hnavigate : BodyEdit (patrolBody [(Keyword.navigate, .null)]) (patrolBody []) :=
    .nothing (by decide : Keyword.navigate ∈ _) (.of_erase rfl nofun)
  have hcallee : BodyEdit [(Keyword.callee, .null), (Keyword.publish, .null)]
      [(Keyword.publish, .null)] :=
    .nothing (by decide : Keyword.callee ∈ _) (.of_erase rfl nofun)
  have hfails : (Compiler.mk .standard {}).assemble patrolUnit "patrol"
      (terseFlow [(Keyword.publish, .null)]) = .error (.task "alarm" .noCallee) := by
    decide +kernel
  have hcompiled : ((Compiler.mk .standard {}).assemble patrolUnit "patrol"
      (terseFlow (patrolBody []))).isOk = true := by
    decide +kernel
  refine ⟨eqvGen_wordyFlow hnavigate, ?_, hcompiled, hfails, ?_⟩
  · exact inert_edits_ignored {} patrolUnit "patrol" (eqvGen_wordyFlow hnavigate)
  · exact (inert_edits_ignored {} patrolUnit "patrol" (eqvGen_wordyFlow hcallee)).symm.trans hfails

end FlowCompiler
