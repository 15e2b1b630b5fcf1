import FlowCompiler.Proofs.SameTasks
import FlowCompiler.Proofs.StandardFields

/-!
# Loops around tasks

The body of a task may stand under the key of a loop, and whatever stands beside that does not
count. `TasksWrapped` relates maps of tasks that differ only in which of the tasks, in whatever
section, are put into a loop in this way. A task is taken out of its loop before any extractor is
shown its body, so that the same is made of both maps (`assembleWorkflow_eq_of_wrapped`).

The loops can still be seen at the stages of an executable, where extractors are shown the whole
document. An extractor that turns into fields only what stands under its own keys, of which the
workflow is none, does not look at them (`Extractor.LeavesTasks`), and those of the flow language do
not. So a flow compiles to the same, or fails for the same reason, with and without the loops, if
any further extractors at these stages make the same of both documents; and whatever they make of
them, it has the same workflow (`loops_transparent`). One that has the key of the workflow may
tell the two apart (`sweepFlow_outlined`).
-/

namespace FlowCompiler

/-! ## Wrapped tasks -/

/-- Whether the value may be put into a loop: it is nothing, or a map that holds no loop itself. -/
def IsLoopless : Json → Prop
  | .null => True
  | .map body => Document.get? body Keyword.loop = none
  | _ => False

/-- The second map has the tasks of the first, of which some stand in a loop, among any siblings;
and so have their error sections. -/
inductive TasksWrapped : Document → Document → Prop
  | nil : TasksWrapped [] []
  | keep (entry : String × Json) {tasks wrapped : Document} :
      TasksWrapped tasks wrapped → TasksWrapped (entry :: tasks) (entry :: wrapped)
  | wrap {name : String} {body : Json} {siblings tasks wrapped : Document} :
      name ≠ Keyword.onFailure → IsLoopless body →
      Document.get? siblings Keyword.loop = some body → TasksWrapped tasks wrapped →
      TasksWrapped ((name, body) :: tasks) ((name, .map siblings) :: wrapped)
  | recover {inner others tasks wrapped : Document} :
      TasksWrapped inner others → TasksWrapped tasks wrapped →
      TasksWrapped ((Keyword.onFailure, .map inner) :: tasks)
        ((Keyword.onFailure, .map others) :: wrapped)

/-- A body that is put into a loop is taken out of it again, whatever stands beside it. -/
theorem unwrapBody_eq_of_loop {name : String} {body : Json} {siblings : Document}
    (hbody : IsLoopless body) (hloop : Document.get? siblings Keyword.loop = some body) :
    unwrapBody name (.map siblings) = unwrapBody name body := by
  cases body with
  | null => simp only [unwrapBody, hloop]
  | map inner =>
    have hinner : Document.get? inner Keyword.loop = none := hbody
    simp only [unwrapBody, hloop, hinner]
  | bool held | number held | string held | list items => exact hbody.elim

/-- The entries are of one task: they have its name, and its body once it is taken out of a loop. -/
structure SameTask (entry other : String × Json) : Prop where
  name_eq : other.1 = entry.1
  body_eq : unwrapBody entry.1 other.2 = unwrapBody entry.1 entry.2

theorem SameTask.refl (entry : String × Json) : SameTask entry entry :=
  ⟨rfl, rfl⟩

theorem SameTask.sameOutcome {scope : Scope} {entry other : String × Json}
    (h : SameTask entry other) : SameOutcome scope entry other :=
  ⟨h.name_eq, fun success failure => by rw [h.body_eq]⟩

namespace TasksWrapped

variable {tasks wrapped : Document}

/-- There are tasks in both maps or in neither. -/
theorem nil_or_cons (h : TasksWrapped tasks wrapped) :
    (tasks = [] ∧ wrapped = [])
      ∨ ∃ entry rest other others, tasks = entry :: rest ∧ wrapped = other :: others := by
  cases h with
  | nil => exact .inl ⟨rfl, rfl⟩
  | keep | wrap | recover => exact .inr ⟨_, _, _, _, rfl, rfl⟩

theorem ordinaryTasks (h : TasksWrapped tasks wrapped) :
    List.Forall₂ SameTask (ordinaryTasks tasks) (ordinaryTasks wrapped) := by
  unfold FlowCompiler.ordinaryTasks Document.erase
  induction h with
  | nil => exact .nil
  | keep entry _ ih =>
    rw [List.filter_cons, List.filter_cons]
    split
    · exact .cons (.refl entry) ih
    · exact ih
  | wrap hname hbody hloop _ ih =>
    rw [List.filter_cons_of_pos (by simpa using hname),
      List.filter_cons_of_pos (by simpa using hname)]
    exact .cons ⟨rfl, unwrapBody_eq_of_loop hbody hloop⟩ ih
  | recover _ _ _ ih =>
    rw [List.filter_cons_of_neg (by simp), List.filter_cons_of_neg (by simp)]
    exact ih

/-- Under the key of the error section stands the same in both, or a map of tasks whose tasks are
wrapped again. -/
theorem recovery_cases (h : TasksWrapped tasks wrapped) :
    wrapped.get? Keyword.onFailure = tasks.get? Keyword.onFailure
      ∨ ∃ inner others, tasks.get? Keyword.onFailure = some (.map inner)
        ∧ wrapped.get? Keyword.onFailure = some (.map others) ∧ TasksWrapped inner others := by
  unfold Document.get?
  induction h with
  | nil => exact .inl rfl
  | keep entry _ ih =>
    rw [SortedMap.lookup_cons_ite, SortedMap.lookup_cons_ite]
    split
    · exact .inl rfl
    · exact ih
  | wrap hname _ _ _ ih =>
    rw [SortedMap.lookup_cons_ite, SortedMap.lookup_cons_ite, if_neg hname.symm, if_neg hname.symm]
    exact ih
  | @recover inner others _ _ hinner _ _ _ =>
    exact .inr ⟨inner, others, List.lookup_cons_self, List.lookup_cons_self, hinner⟩

end TasksWrapped

/-! ## The workflow -/

section Workflows

variable {scope : Scope} {tasks wrapped : Document}

/-- The chains are the same if what is made of the error sections is. -/
theorem assembleChain_eq_of_wrapped (h : TasksWrapped tasks wrapped)
    (hinner : ∀ inner others, recovery? tasks = some inner → TasksWrapped inner others →
      assembleWorkflow scope .recovery none others = assembleWorkflow scope .recovery none inner) :
    assembleChain scope wrapped = assembleChain scope tasks := by
  unfold assembleChain errorSection
  rcases h.recovery_cases with heq | ⟨inner, others, htasks, hwrapped, hsection⟩
  · rw [heq]
  · rw [htasks, hwrapped]
    rcases hsection.nil_or_cons with ⟨rfl, rfl⟩ | ⟨entry, rest, other, others, rfl, rfl⟩
    · rfl
    · have hrecovery : recovery? tasks = some (entry :: rest) := by rw [recovery?, htasks]
      exact congrArg (Except.map some) (hinner _ _ hrecovery hsection)

theorem assembleWorkflow_eq_of_chain {role : SectionRole} (h : TasksWrapped tasks wrapped)
    (hchain : assembleChain scope wrapped = assembleChain scope tasks) :
    assembleWorkflow scope role none wrapped = assembleWorkflow scope role none tasks :=
  assembleWorkflow_eq_of_same (h.ordinaryTasks.imp fun _ _ => SameTask.sameOutcome) hchain

/-- The same workflow is made of tasks with and without loops. The induction is over the error
sections. -/
theorem assembleWorkflow_eq_of_wrapped {role : SectionRole} (h : TasksWrapped tasks wrapped) :
    assembleWorkflow scope role none wrapped = assembleWorkflow scope role none tasks := by
  induction tasks using errorSections.induct generalizing role wrapped with
  | case1 tasks hnone =>
    refine assembleWorkflow_eq_of_chain h (assembleChain_eq_of_wrapped h fun _ _ hsome _ => ?_)
    rw [hnone] at hsome
    cases hsome
  | case2 tasks inner hsome ih =>
    refine assembleWorkflow_eq_of_chain h
      (assembleChain_eq_of_wrapped h fun found _ hfound hsection => ?_)
    obtain rfl : inner = found := Option.some.inj (hsome.symm.trans hfound)
    exact ih hsection

theorem assembleFlow_eq_of_wrapped {document other : Document} {options : Options} {unit : String}
    (hdocument : document.get? Keyword.workflow = some (.map tasks))
    (hother : other.get? Keyword.workflow = some (.map wrapped)) (h : TasksWrapped tasks wrapped) :
    assembleFlow scope options unit other = assembleFlow scope options unit document := by
  have hnil : wrapped = [] ↔ tasks = [] := by
    rcases h.nil_or_cons with ⟨rfl, rfl⟩ | ⟨entry, rest, other, others, rfl, rfl⟩
    · exact iff_of_true rfl rfl
    · exact iff_of_false (List.cons_ne_nil _ _) (List.cons_ne_nil _ _)
  exact assembleFlow_eq_of_workflow hdocument hother hnil (assembleWorkflow_eq_of_wrapped h)

end Workflows

/-! ## The document -/

/-- The second document is the first with some of the tasks put into loops. -/
inductive FlowWrapped (document : Document) : Document → Prop
  | of_tasks {tasks wrapped : Document} :
      document.get? Keyword.workflow = some (.map tasks) → TasksWrapped tasks wrapped →
      FlowWrapped document (document.insert Keyword.workflow (.map wrapped))

namespace FlowWrapped

variable {document wrapped : Document}

theorem keys_eq (h : FlowWrapped document wrapped) : wrapped.keys = document.keys := by
  obtain ⟨htasks, -⟩ := h
  exact Document.keys_insert_of_get? htasks _

theorem isEmpty_eq (h : FlowWrapped document wrapped) : wrapped.isEmpty = document.isEmpty := by
  have hkeys := congrArg List.isEmpty h.keys_eq
  rwa [Document.keys, Document.keys, List.isEmpty_map, List.isEmpty_map] at hkeys

theorem get?_eq_of_ne (h : FlowWrapped document wrapped) {key : String}
    (hkey : key ≠ Keyword.workflow) : wrapped.get? key = document.get? key := by
  obtain ⟨-, -⟩ := h
  rw [Document.get?_insert, if_neg hkey]

theorem validateKeys_eq (h : FlowWrapped document wrapped) (unit : String)
    (extractors : List Extractor) (additional : List String) :
    validateKeys unit wrapped extractors additional
      = validateKeys unit document extractors additional := by
  rw [validateKeys, validateKeys, h.keys_eq]

theorem assembleFlow_eq (h : FlowWrapped document wrapped) (scope : Scope) (options : Options)
    (unit : String) :
    assembleFlow scope options unit wrapped = assembleFlow scope options unit document := by
  obtain ⟨hdocument, htasks⟩ := h
  exact assembleFlow_eq_of_wrapped hdocument (Document.get?_insert.trans (if_pos rfl)) htasks

/-- The workflow of a flow, or the action of an operation, is the same with and without loops. -/
theorem assembleBody_eq (h : FlowWrapped document wrapped) (scope : Scope) (options : Options)
    (unit : SourceUnit) :
    assembleBody scope options unit wrapped = assembleBody scope options unit document := by
  refine assembleBody_eq_of_parts (fun _ => h.assembleFlow_eq scope options unit.name) fun _ => ?_
  rw [Document.value, Document.value, h.get?_eq_of_ne (by decide)]

end FlowWrapped

/-! ## What extractors see of the tasks -/

namespace Extractor

/-- The extractor turns into fields what stands under its keys and nothing else, and the tasks are
none of its keys. -/
structure LeavesTasks (extractor : Extractor) : Prop where
  extract_eq {document other : Document} :
    (∀ key ∈ extractor.keys, other.get? key = document.get? key) →
      extractor.extract other = extractor.extract document
  workflow_notMem : Keyword.workflow ∉ extractor.keys

theorem leavesTasks_of_key {extractor : Extractor} {key : String} (hkeys : extractor.keys = [key])
    (hkey : key ≠ Keyword.workflow)
    (hread : ∀ {document other : Document}, other.get? key = document.get? key →
      extractor.extract other = extractor.extract document) : extractor.LeavesTasks where
  extract_eq := fun h => hread (h key (hkeys ▸ List.mem_singleton_self key))
  workflow_notMem := by
    rw [hkeys, List.mem_singleton]
    exact hkey.symm

theorem leavesTasks_listUnder {α : Type} {format : ItemFormat α} {key : String} {stage : Stage}
    {field : List α → FieldValue} (hkey : key ≠ Keyword.workflow) :
    (listUnder format key stage field).LeavesTasks :=
  leavesTasks_of_key rfl hkey fun h => by simp only [listUnder, h]

theorem leavesTasks_of_mem_standard {extractor : Extractor} (h : extractor ∈ standard) :
    extractor.LeavesTasks := by
  simp only [standard, List.mem_cons, List.not_mem_nil, or_false] at h
  obtain rfl | rfl | rfl | rfl | rfl | rfl | rfl | rfl | rfl := h
  · exact leavesTasks_listUnder (by decide)
  · exact leavesTasks_listUnder (by decide)
  · exact leavesTasks_listUnder (by decide)
  · exact leavesTasks_of_key rfl (by decide) fun h => by simp only [callee, extractCallee, h]
  · exact leavesTasks_of_key rfl (by decide) fun h => by
      simp only [loopHeader, extractLoopHeader, h]
  · exact leavesTasks_listUnder (by decide)
  · exact leavesTasks_of_key rfl (by decide) fun h => by simp only [navigate, extractNavigation, h]
  · exact leavesTasks_of_key rfl (by decide) fun h => by
      simp only [javaAction, extractJavaAction, h]
  · exact leavesTasks_of_key rfl (by decide) fun h => by
      simp only [pythonScript, extractPythonScript, h]

theorem LeavesTasks.contribution_eq {extractor : Extractor} {document wrapped : Document}
    (h : extractor.LeavesTasks) (hwrapped : FlowWrapped document wrapped) :
    extractor.contribution wrapped = extractor.contribution document := by
  have happlies : extractor.applies wrapped = extractor.applies document := by
    rw [Bool.eq_iff_iff, applies_iff, applies_iff, hwrapped.keys_eq]
  have hextract : extractor.extract wrapped = extractor.extract document :=
    h.extract_eq fun key hkey =>
      hwrapped.get?_eq_of_ne (ne_of_mem_of_not_mem hkey h.workflow_notMem)
  rw [contribution, contribution, happlies, hextract]

end Extractor

/-- At the stages of an executable, the extractors that are not part of the flow language make the
same of both documents. -/
def Registry.IsIndifferent (registry : Registry) (document other : Document) : Prop :=
  ∀ stage ∈ Stage.ofExecutable, ∀ extractor ∈ registry.stage stage,
    extractor ∉ Extractor.standard →
      extractor.contribution other = extractor.contribution document

/-- It is enough that they turn into fields only what stands under keys of their own, as extractors
do, and that the workflow is left to the compiler. -/
theorem Registry.isIndifferent_of_leavesTasks {registry : Registry} {document wrapped : Document}
    (hwrapped : FlowWrapped document wrapped)
    (h : ∀ stage ∈ Stage.ofExecutable, ∀ extractor ∈ registry.stage stage,
      extractor ∉ Extractor.standard → extractor.LeavesTasks) :
    registry.IsIndifferent document wrapped :=
  fun stage hstage extractor hextractor hcustom =>
    (h stage hstage extractor hextractor hcustom).contribution_eq hwrapped

theorem Registry.IsIndifferent.runStage_eq {registry : Registry} {document wrapped : Document}
    (h : registry.IsIndifferent document wrapped) (hwrapped : FlowWrapped document wrapped)
    (stage : Stage) (hstage : stage ∈ Stage.ofExecutable) (unit : String) :
    runStage unit wrapped (registry.stage stage)
      = runStage unit document (registry.stage stage) := by
  refine runStageFrom_eq_of_contributions fun extractor hextractor => ?_
  by_cases hstandard : extractor ∈ Extractor.standard
  · exact (Extractor.leavesTasks_of_mem_standard hstandard).contribution_eq hwrapped
  · exact h stage hstage extractor hextractor hstandard

/-! ## Executables -/

section Executables

variable {compiler : Compiler} {unit : SourceUnit} {name : String} {document wrapped : Document}

/-- The loops count only at the stages of the executable. -/
theorem FlowWrapped.assemble_eq (h : FlowWrapped document wrapped)
    (hindifferent : compiler.registry.IsIndifferent document wrapped) :
    compiler.assemble unit name wrapped = compiler.assemble unit name document := by
  have hbefore := hindifferent.runStage_eq h .beforeExecutable (by decide) name
  have hafter := hindifferent.runStage_eq h .afterExecutable (by decide) name
  have hbody := h.assembleBody_eq (compiler.scope unit name) compiler.options unit
  unfold Compiler.scope at hbody
  unfold Compiler.assemble
  simp only [h.isEmpty_eq, h.validateKeys_eq, hbefore, hafter, hbody]

theorem FlowWrapped.body_eq_of_assemble (h : FlowWrapped document wrapped)
    {executable other : Executable} (hplain : compiler.assemble unit name document = .ok executable)
    (hother : compiler.assemble unit name wrapped = .ok other) :
    other.body = executable.body ∧ other.dependencies = executable.dependencies := by
  obtain ⟨-, -, _, -, _, -, _, -, body, dependencies, hbody, rfl⟩ :=
    Compiler.assemble_eq_ok_iff.mp hplain
  obtain ⟨-, -, _, -, _, -, _, -, otherBody, otherDependencies, hotherBody, rfl⟩ :=
    Compiler.assemble_eq_ok_iff.mp hother
  rw [h.assembleBody_eq, hbody] at hotherBody
  obtain ⟨rfl, rfl⟩ := Prod.mk.inj (Except.ok.inj hotherBody)
  exact ⟨rfl, rfl⟩

end Executables

/-- Tasks of a flow may be put into loops, with anything beside their bodies there. The executable
is the same, or the error is, with any options and any extractors, as long as those beyond the flow
language that are shown the document itself make the same of both documents. With any extractors
whatever the body is the same, or fails for the same reason, and if both compile they have the same
body and depend on the same. -/
theorem loops_transparent {document wrapped : Document} (h : FlowWrapped document wrapped)
    (compiler : Compiler) (unit : SourceUnit) (name : String) :
    (compiler.registry.IsIndifferent document wrapped →
        compiler.assemble unit name wrapped = compiler.assemble unit name document)
      ∧ assembleBody (compiler.scope unit name) compiler.options unit wrapped
        = assembleBody (compiler.scope unit name) compiler.options unit document
      ∧ ∀ executable other, compiler.assemble unit name document = .ok executable →
          compiler.assemble unit name wrapped = .ok other →
          other.body = executable.body ∧ other.dependencies = executable.dependencies :=
  ⟨h.assemble_eq, h.assembleBody_eq _ _ _, fun _ _ => h.body_eq_of_assemble⟩

/-- An extractor that notes a version, whatever it is. -/
def Extractor.version : Extractor where
  name := "version"
  keys := ["version"]
  stages := [.beforeExecutable]
  extract := fun _ => .ok [("version", .outputs [⟨"version", none⟩])]

/-- A flow with two error sections, of which the inner one has the task `retry`. -/
def sweepFlow (sweep retry : Json) : Document :=
  [("version", .string "2"),
   (Keyword.workflow, .map
    [("sweep", sweep),
     (Keyword.onFailure, .map
      [("mend", .map [(Keyword.callee, .map [("ops.mend", .null)])]),
       (Keyword.onFailure, .map [("retry", retry)])]),
     ("stop", .map [(Keyword.callee, .map [("ops.stop", .null)])])])]

/-- A loop around the body, among siblings that are malformed or unknown. -/
def loopAround (body : Json) : Json :=
  .map [(Keyword.navigate, .bool true), (Keyword.loop, body), ("until", .list [])]

/-- A body with a header and a call. -/
def sweepBody : Json :=
  .map [(Keyword.header, .string "room in rooms"), (Keyword.callee, .map [("ops.sweep", .null)])]

/-- The unit of `sweepFlow`. -/
def sweepUnit : SourceUnit where
  name := "demo.sweep"
  kind := .flow
  space := "demo"
  imports := some (.ofList [("ops", "org.ops")])

/-- The flow language with an extractor that notes versions. -/
def versionRegistry : Registry :=
  .ofList (Extractor.version :: Extractor.standard)

theorem flowWrapped_sweepFlow {sweep retry : Json} (hsweep : IsLoopless sweep)
    (hretry : IsLoopless retry) :
    FlowWrapped (sweepFlow sweep retry) (sweepFlow (loopAround sweep) (loopAround retry)) :=
  .of_tasks rfl (.wrap (by decide) hsweep rfl
    (.recover (.keep _ (.recover (.wrap (by decide) hretry rfl .nil) .nil)) (.keep _ .nil)))

theorem isIndifferent_versionRegistry {document wrapped : Document}
    (h : FlowWrapped document wrapped) : versionRegistry.IsIndifferent document wrapped := by
  refine Registry.isIndifferent_of_leavesTasks h fun stage hstage extractor hextractor hcustom => ?_
  rw [versionRegistry, Registry.stage_ofList] at hextractor
  obtain rfl | hstandard := List.mem_cons.mp (List.mem_of_mem_filter hextractor)
  · exact Extractor.leavesTasks_of_key rfl (by decide) fun _ => rfl
  · exact absurd hstandard hcustom

/-- Loops around the first task and around the task of the inner error section. With a body in both
the flow compiles as it does without them, and with none in the latter it fails as it does without
them. -/
theorem sweepFlow_with_loops :
    FlowWrapped (sweepFlow sweepBody sweepBody)
        (sweepFlow (loopAround sweepBody) (loopAround sweepBody))
      ∧ (Compiler.mk versionRegistry {}).assemble sweepUnit "sweep"
          (sweepFlow (loopAround sweepBody) (loopAround sweepBody))
        = (Compiler.mk versionRegistry {}).assemble sweepUnit "sweep"
          (sweepFlow sweepBody sweepBody)
      ∧ ((Compiler.mk versionRegistry {}).assemble sweepUnit "sweep"
          (sweepFlow sweepBody sweepBody)).isOk = true
      ∧ (Compiler.mk versionRegistry {}).assemble sweepUnit "sweep"
          (sweepFlow (loopAround sweepBody) (loopAround .null))
        = .error (.task "retry" .empty) := by
  have hbody : IsLoopless sweepBody := rfl
  have hboth := flowWrapped_sweepFlow hbody hbody
  have hnone : IsLoopless .null := trivial
  have hfirst := flowWrapped_sweepFlow hbody hnone
  refine ⟨hboth, ?_, by decide +kernel, ?_⟩
  · exact (loops_transparent hboth (.mk versionRegistry {}) sweepUnit "sweep").1
      (isIndifferent_versionRegistry hboth)
  · rw [(loops_transparent hfirst (.mk versionRegistry {}) sweepUnit "sweep").1
      (isIndifferent_versionRegistry hfirst)]
    decide +kernel

/-- An extractor that has the key of the workflow, and notes what the body of the first task has. -/
def Extractor.outline : Extractor where
  name := "outline"
  keys := [Keyword.workflow]
  stages := [.beforeExecutable]
  extract := fun document =>
    match document.get? Keyword.workflow with
    | some (.map ((_, .map body) :: _)) =>
      .ok [("outline", .outputs ((Document.keys body).map fun key => ⟨key, none⟩))]
    | _ => .ok []

/-- The extractors of `versionRegistry` with one that outlines the workflow. -/
def outlineRegistry : Registry :=
  .ofList (Extractor.outline :: Extractor.version :: Extractor.standard)

/-- The outline of the flow, if it compiles with `outlineRegistry`. -/
def outlineOf (document : Document) : Option FieldValue :=
  ((Compiler.mk outlineRegistry {}).assemble sweepUnit "sweep" document).toOption.bind
    fun executable => executable.preExecutableData.get? "outline"

/-- An extractor that looks at the tasks tells the two flows apart, though both compile: what it
notes of the first task are the keys of its body in the one, and the loop with what stands beside it
in the other. -/
theorem sweepFlow_outlined :
    FlowWrapped (sweepFlow sweepBody sweepBody)
        (sweepFlow (loopAround sweepBody) (loopAround sweepBody))
      ∧ outlineOf (sweepFlow sweepBody sweepBody)
        = some (.outputs [⟨"for", none⟩, ⟨"do", none⟩])
      ∧ outlineOf (sweepFlow (loopAround sweepBody) (loopAround sweepBody))
        = some (.outputs [⟨"navigate", none⟩, ⟨"loop", none⟩, ⟨"until", none⟩])
      ∧ (Compiler.mk outlineRegistry {}).assemble sweepUnit "sweep"
          (sweepFlow (loopAround sweepBody) (loopAround sweepBody))
        ≠ (Compiler.mk outlineRegistry {}).assemble sweepUnit "sweep"
          (sweepFlow sweepBody sweepBody) := by
  have hbody : IsLoopless sweepBody := rfl
  have hplain : outlineOf (sweepFlow sweepBody sweepBody)
      = some (.outputs [⟨"for", none⟩, ⟨"do", none⟩]) := by
    decide +kernel
  have hwrapped : outlineOf (sweepFlow (loopAround sweepBody) (loopAround sweepBody))
      = some (.outputs [⟨"navigate", none⟩, ⟨"loop", none⟩, ⟨"until", none⟩]) := by
    decide +kernel
  refine ⟨flowWrapped_sweepFlow hbody hbody, hplain, hwrapped, fun heq => ?_⟩
  -- Equal outcomes would have the same outline.
  rw [outlineOf, heq, ← outlineOf, hplain] at hwrapped
  exact absurd hwrapped (by decide)

end FlowCompiler
