import FlowCompiler.Proofs.Checks
import FlowCompiler.Proofs.Failures

/-!
# Where a compilation fails

A compilation fails at one of six kinds of place (`Site`), whatever the extractors are. `Raises`
says which step fails there and with what error; every failure of the compiler is raised at some
site (`Compiler.failsOnly_assemble`), and an error that is raised at a site belongs to the unit that
the site is in and has one of the codes of the site (`Raises.isAbout`). So every failure is
attributed (`failures_attributed`), and in particular the error about an error section that is given
twice never occurs: a compilation takes every such section out of its tasks before it supplies one.
-/

namespace FlowCompiler

open CompileError (IsAbout)

/-! ## Sites -/

/-- A place at which the compilation of a document may fail. -/
inductive Site
  /-- The document as a whole: what it lacks for its kind, or a check that its workflow fails. -/
  | document
  /-- The declarations of the executable: its keys and their extractors. -/
  | declarations
  /-- The system properties of the executable's inputs. -/
  | inputs
  /-- The sections of the workflow. -/
  | sections
  /-- The action of an operation. -/
  | action
  /-- The task of the name. -/
  | task (name : String)

namespace Site

/-- What errors at the site belong to, in the unit and the executable of the names. -/
def tag (unit name : String) : Site → String
  | document | inputs => unit
  | declarations | sections => name
  | action => actionUnit name
  | task key => key

/-- The codes of errors at the site. -/
def codes : Site → List String
  | document => ["A001", "A002", "A003", "A004", "A005", "A007", "A008", "W002", "V001", "V002",
      "V003"]
  | declarations | action => ["K001", "X001"]
  | inputs => referenceCodes
  | sections => ["W001", "W003"]
  | task _ => taskCodes

end Site

/-- A section is not rightly formed. -/
def SectionFails (unit : String) (part : Document) (cause : CompileError) : Prop :=
  errorSection unit part = .error cause
    ∨ ordinaryTasks part = [] ∧ cause = .workflow unit .noTasks

/-- The task of an entry is not assembled, be it for its body or for what that holds. -/
def EntryFails (scope : Scope) (entry : String × Json) (cause : CompileError) : Prop :=
  unwrapBody entry.1 entry.2 = .error cause
    ∨ ∃ body success failure, unwrapBody entry.1 entry.2 = .ok body
      ∧ assembleTask scope entry.1 body success failure = .error cause

/-- The step at the site fails with the error, when the document is compiled. -/
inductive Raises (compiler : Compiler) (unit : SourceUnit) (name : String) (document : Document) :
    Site → CompileError → Prop
  /-- The document is empty. -/
  | empty : document = [] →
      Raises compiler unit name document .document (.executable unit.name (.empty name))
  /-- A key of the document is not claimed. -/
  | keys {cause : CompileError} :
      validateKeys name document (compiler.registry.stages Stage.ofExecutable) Keyword.ofExecutable
          = .error cause →
      Raises compiler unit name document .declarations cause
  /-- An extractor rejects the document. -/
  | stage {cause : CompileError} {stage : Stage} : stage ∈ Stage.ofExecutable →
      runStage name document (compiler.registry.stage stage) = .error cause →
      Raises compiler unit name document .declarations cause
  /-- An input names a system property that has no meaning. -/
  | inputs {cause : CompileError} {before : FieldMap} :
      runStage name document (compiler.registry.stage .beforeExecutable) = .ok before →
      (compiler.scope unit name).resolveInputs unit.name
          (declared before Keyword.inputs FieldValue.inputs?) = .error cause →
      Raises compiler unit name document .inputs cause
  /-- The document is neither a flow nor an operation. -/
  | kind : unit.kind = .systemProperties →
      Raises compiler unit name document .document (.executable unit.name .unsupportedKind)
  /-- A flow has no map of tasks. -/
  | tasks {cause : CompileError} : unit.kind = .flow →
      flowTasks unit.name name document = .error cause →
      Raises compiler unit name document .document cause
  /-- A section is not rightly formed. -/
  | part {cause : CompileError} {tasks part : Document} : unit.kind = .flow →
      document.get? Keyword.workflow = some (.map tasks) → part ∈ sections tasks →
      SectionFails name part cause →
      Raises compiler unit name document .sections cause
  /-- A task of a section is not assembled. -/
  | task {cause : CompileError} {tasks part : Document} {entry : String × Json} :
      unit.kind = .flow → document.get? Keyword.workflow = some (.map tasks) →
      part ∈ sections tasks → entry ∈ ordinaryTasks part →
      EntryFails (compiler.scope unit name) entry cause →
      Raises compiler unit name document (.task entry.1) cause
  /-- The workflow fails a check. -/
  | check {cause : CompileError} {workflow : Workflow} : unit.kind = .flow →
      assembleFlow (compiler.scope unit name) .none unit.name document = .ok workflow →
      compiler.options.check unit.name workflow = .error cause →
      Raises compiler unit name document .document cause
  /-- An operation has no map for its action. -/
  | operation {cause : CompileError} : unit.kind = .operation →
      actionDocument unit.name name document = .error cause →
      Raises compiler unit name document .document cause
  /-- The action is rejected. -/
  | action {cause : CompileError} {action : Document} : unit.kind = .operation →
      actionDocument unit.name name document = .ok action →
      assembleAction (compiler.scope unit name) action = .error cause →
      Raises compiler unit name document .action cause

/-! ## What is raised at a site -/

section Raised

variable {scope : Scope} {unit name : String} {cause : CompileError}

theorem SectionFails.isAbout {part : Document} (h : SectionFails unit part cause) :
    IsAbout unit ["W001", "W003"] cause := by
  cases h with
  | inl hsection => exact failsOnly_errorSection.widen (by decide) cause hsection
  | inr hempty =>
    rw [hempty.2]
    exact ⟨rfl, List.mem_cons_self⟩

theorem EntryFails.isAbout {entry : String × Json} (h : EntryFails scope entry cause) :
    IsAbout entry.1 taskCodes cause := by
  cases h with
  | inl hbody => exact failsOnly_unwrapBody.widen (by decide) cause hbody
  | inr htask =>
    obtain ⟨body, success, failure, -, hfails⟩ := htask
    exact failsOnly_assembleTask cause hfails

end Raised

variable {compiler : Compiler} {unit : SourceUnit} {name : String} {document : Document}
  {cause : CompileError}

/-- What is raised at a site belongs to what the site is in, and has one of its codes. -/
theorem Raises.isAbout {site : Site} (h : Raises compiler unit name document site cause) :
    IsAbout (site.tag unit.name name) site.codes cause := by
  cases h with
  | empty => exact ⟨rfl, by simp [CompileError.code, ExecutableError.code, Site.codes]⟩
  | keys h => exact failsOnly_validateKeys.widen (by decide) cause h
  | stage _ h => exact failsOnly_runStage.widen (by decide) cause h
  | inputs _ h => exact failsOnly_resolveInputs cause h
  | kind => exact ⟨rfl, by simp [CompileError.code, ExecutableError.code, Site.codes]⟩
  | tasks _ h => exact failsOnly_flowTasks.widen (by decide) cause h
  | part _ _ _ h => exact h.isAbout
  | task _ _ _ _ h => exact h.isAbout
  | check _ _ h => exact failsOnly_check.widen (by decide) cause h
  | operation _ h => exact failsOnly_actionDocument.widen (by decide) cause h
  | action _ _ h => exact failsOnly_assembleAction cause h

/-! ## Every failure is raised at a site -/

section Coverage

variable {scope : Scope} {tasks : Document}

theorem failsOnly_assembleTasks {ending failure : String} :
    FailsOnly (fun cause => ∃ entry ∈ tasks, EntryFails scope entry cause)
      (assembleTasks scope ending failure tasks) := by
  induction tasks with
  | nil => exact .ok []
  | cons entry rest ih =>
    obtain ⟨key, value⟩ := entry
    have hbody : FailsOnly (fun cause => ∃ entry ∈ (key, value) :: rest,
        EntryFails scope entry cause) (unwrapBody key value) :=
      fun cause h => ⟨(key, value), List.mem_cons_self, .inl h⟩
    have hothers : FailsOnly (fun cause => ∃ entry ∈ (key, value) :: rest,
        EntryFails scope entry cause) (assembleTasks scope ending failure rest) :=
      ih.mono fun cause h => by
        obtain ⟨entry, hentry, hfails⟩ := h
        exact ⟨entry, List.mem_cons_of_mem _ hentry, hfails⟩
    rw [assembleTasks]
    refine .bind hbody fun body hunwrapped => .bind (fun cause h => ?_) fun task _ =>
      .bind hothers fun others _ => .ok _
    exact ⟨(key, value), List.mem_cons_self, .inr ⟨body, _, _, hunwrapped, h⟩⟩

/-- What a map of tasks fails with: a section below it that is not rightly formed, or an entry of
such a section. -/
def TasksFail (scope : Scope) (tasks : Document) (cause : CompileError) : Prop :=
  ∃ part ∈ sections tasks, SectionFails scope.unit part cause
    ∨ ∃ entry ∈ ordinaryTasks part, EntryFails scope entry cause

theorem failsOnly_assembleSection {role : SectionRole} {chain : Option Workflow} :
    FailsOnly (TasksFail scope tasks) (assembleSection scope role chain (ordinaryTasks tasks)) := by
  unfold assembleSection
  split
  · next hempty =>
    exact .error ⟨tasks, List.mem_cons_self, .inl (.inr ⟨List.isEmpty_iff.mp hempty, rfl⟩)⟩
  · refine .map (failsOnly_assembleTasks.mono fun cause h => ?_)
    exact ⟨tasks, List.mem_cons_self, .inr h⟩

theorem assembleChain_error_cases {cause : CompileError}
    (h : assembleChain scope tasks = .error cause) :
    errorSection scope.unit tasks = .error cause
      ∨ ∃ inner, recovery? tasks = some inner
        ∧ assembleWorkflow scope .recovery none inner = .error cause := by
  unfold assembleChain at h
  split at h
  · next hsection =>
    cases h
    exact .inl hsection
  · cases h
  · next inner hsection =>
    have hinner : some inner = recovery? tasks := (errorSection_eq_ok_iff.mp hsection).2
    cases hchain : assembleWorkflow scope .recovery none inner with
    | ok chain =>
      rw [hchain] at h
      cases h
    | error other =>
      rw [hchain] at h
      cases h
      exact .inr ⟨inner, hinner.symm, hchain⟩

/-- The induction is over the error sections: the sections below that of a map of tasks are sections
of the map. -/
theorem failsOnly_assembleWorkflow {role : SectionRole} :
    FailsOnly (TasksFail scope tasks) (assembleWorkflow scope role none tasks) := by
  induction tasks using errorSections.induct generalizing role with
  | case1 tasks hnone =>
    rw [assembleWorkflow_eq_bind]
    refine .bind (fun cause h => ?_) fun chain _ => failsOnly_assembleSection
    rcases assembleChain_error_cases h with hsection | ⟨inner, hinner, -⟩
    · exact ⟨tasks, List.mem_cons_self, .inl (.inl hsection)⟩
    · rw [hnone] at hinner
      cases hinner
  | case2 tasks inner hsome ih =>
    rw [assembleWorkflow_eq_bind]
    refine .bind (fun cause h => ?_) fun chain _ => failsOnly_assembleSection
    rcases assembleChain_error_cases h with hsection | ⟨found, hfound, hfails⟩
    · exact ⟨tasks, List.mem_cons_self, .inl (.inl hsection)⟩
    · obtain rfl : inner = found := Option.some.inj (hsome.symm.trans hfound)
      obtain ⟨part, hpart, hcause⟩ := ih cause hfails
      refine ⟨part, ?_, hcause⟩
      rw [sections_of_some hsome]
      exact List.mem_cons_of_mem _ hpart

end Coverage

theorem failsOnly_assembleFlow (hflow : unit.kind = .flow) :
    FailsOnly (fun cause => ∃ site, Raises compiler unit name document site cause)
      (assembleFlow (compiler.scope unit name) compiler.options unit.name document) := by
  rw [assembleFlow_eq_bind_check]
  refine .bind ?_ fun workflow hworkflow =>
    .bind (fun cause h => ⟨.document, .check hflow hworkflow h⟩) fun _ _ => .ok workflow
  rw [assembleFlow_none_eq]
  refine .bind (fun cause h => ⟨.document, .tasks hflow h⟩) fun tasks htasks => ?_
  have hget := (flowTasks_eq_ok_iff.mp htasks).1
  refine failsOnly_assembleWorkflow.mono fun cause h => ?_
  obtain ⟨part, hpart, hsection | ⟨entry, hentry, hfails⟩⟩ := h
  · exact ⟨.sections, .part hflow hget hpart hsection⟩
  · exact ⟨.task entry.1, .task hflow hget hpart hentry hfails⟩

theorem failsOnly_assembleBody :
    FailsOnly (fun cause => ∃ site, Raises compiler unit name document site cause)
      (assembleBody (compiler.scope unit name) compiler.options unit document) := by
  unfold assembleBody
  split
  · next hflow => exact .map (failsOnly_assembleFlow hflow)
  · next hoperation =>
    refine .map (.bind (fun cause h => ⟨.document, .operation hoperation h⟩) ?_)
    intro action haction
    exact fun cause h => ⟨.action, .action hoperation haction h⟩
  · next hkind => exact .error ⟨.document, .kind hkind⟩

/-- Whatever a compilation fails with is raised at some site. -/
theorem Compiler.failsOnly_assemble :
    FailsOnly (fun cause => ∃ site, Raises compiler unit name document site cause)
      (compiler.assemble unit name document) := by
  unfold assemble
  split
  · next hempty => exact .error ⟨.document, .empty (List.isEmpty_iff.mp hempty)⟩
  · refine .bind (fun cause h => ⟨.declarations, .keys h⟩) fun _ _ => ?_
    refine .bind (fun cause h => ⟨.declarations, .stage (by decide) h⟩) fun before hbefore => ?_
    refine .bind (fun cause h => ⟨.declarations, .stage (by decide) h⟩) fun after _ => ?_
    refine .bind (fun cause h => ⟨.inputs, .inputs hbefore h⟩) fun inputs _ => ?_
    exact .bind failsOnly_assembleBody fun compiled _ => .ok _

/-! ## Attribution -/

/-- The name is the key of a task in the workflow's map or in an error section below it. -/
def HasTask (document : Document) (key : String) : Prop :=
  ∃ tasks part, document.get? Keyword.workflow = some (.map tasks) ∧ part ∈ sections tasks
    ∧ key ∈ (ordinaryTasks part).keys

theorem Raises.hasTask {key : String}
    (h : Raises compiler unit name document (.task key) cause) : HasTask document key := by
  cases h with
  | @task _ tasks part entry _ hget hpart hentry _ =>
    exact ⟨tasks, part, hget, hpart, List.mem_map.mpr ⟨entry, hentry, rfl⟩⟩

theorem CompileError.kind_ne_source {tag : String} (h : cause.unit? = some tag) :
    cause.kind ≠ .source := by
  cases cause with
  | source cause | options fault => cases h
  | executable _ cause => cases cause <;> simp [kind, ExecutableError.kind]
  | workflow _ cause => cases cause <;> simp [kind, WorkflowError.kind]
  | task _ cause => cases cause <;> simp [kind, TaskError.kind]
  | unknownKeyword | reference | extraction | navigation => simp [kind]

theorem Site.failureTwice_notMem (site : Site) : "W004" ∉ site.codes := by
  cases site <;> simp [codes, taskCodes, referenceCodes]

/-- Every failure is attributed. It belongs to the unit if the document as a whole is at fault, to
the executable if a section is not rightly formed, and to a task that occurs if that is at fault. A
key that is not claimed and a rejection by an extractor belong to the executable, its action or a
task that occurs, as they are raised there; a reference without a meaning belongs to the unit if an
input names it, and to the task if it is in one. -/
theorem failures_attributed (h : compiler.assemble unit name document = .error cause) :
    ∃ tag, cause.unit? = some tag ∧ cause.kind ≠ .source ∧ cause.code ≠ "W004"
      ∧ (cause.code ∈ Site.document.codes → tag = unit.name)
      ∧ (cause.code ∈ ["W001", "W003"] → tag = name)
      ∧ (cause.code ∈ ["T001", "T002", "T003", "T004", "T005"] →
          Raises compiler unit name document (.task tag) cause ∧ HasTask document tag)
      ∧ (cause.code ∈ ["K001", "X001"] →
          Raises compiler unit name document .declarations cause ∧ tag = name
          ∨ Raises compiler unit name document .action cause ∧ tag = actionUnit name
          ∨ Raises compiler unit name document (.task tag) cause ∧ HasTask document tag)
      ∧ (cause.code ∈ ["R001", "R002"] →
          Raises compiler unit name document .inputs cause ∧ tag = unit.name
          ∨ Raises compiler unit name document (.task tag) cause ∧ HasTask document tag)
      ∧ (∃ site, Raises compiler unit name document site cause)
      ∧ ∀ site, Raises compiler unit name document site cause →
          tag = site.tag unit.name name ∧ cause.code ∈ site.codes := by
  obtain ⟨site, hsite⟩ := Compiler.failsOnly_assemble cause h
  obtain ⟨htag, hcode⟩ := hsite.isAbout
  -- A code rules out the sites that do not have it.
  have apart {codes others : List String} (hcodes : ∀ code ∈ codes, code ∉ others)
      (hmem : cause.code ∈ codes) : cause.code ∉ others := hcodes _ hmem
  refine ⟨site.tag unit.name name, htag, CompileError.kind_ne_source htag, ?_, ?_, ?_, ?_, ?_, ?_,
    ⟨site, hsite⟩, fun other hother => ?_⟩
  · intro heq
    exact site.failureTwice_notMem (heq ▸ hcode)
  · intro hmem
    cases site with
    | document | inputs => rfl
    | declarations | action | sections => exact absurd hmem (apart (by decide) hcode)
    | task key => exact absurd hmem (apart (by decide : ∀ code ∈ taskCodes, code ∉ _) hcode)
  · intro hmem
    cases site with
    | declarations | sections => rfl
    | document | inputs | action => exact absurd hmem (apart (by decide) hcode)
    | task key => exact absurd hmem (apart (by decide : ∀ code ∈ taskCodes, code ∉ _) hcode)
  · intro hmem
    cases site with
    | task key => exact ⟨hsite, hsite.hasTask⟩
    | document | declarations | inputs | sections | action =>
      exact absurd hmem (apart (by decide) hcode)
  · intro hmem
    cases site with
    | declarations => exact .inl ⟨hsite, rfl⟩
    | action => exact .inr (.inl ⟨hsite, rfl⟩)
    | task key => exact .inr (.inr ⟨hsite, hsite.hasTask⟩)
    | document | inputs | sections => exact absurd hmem (apart (by decide) hcode)
  · intro hmem
    cases site with
    | inputs => exact .inl ⟨hsite, rfl⟩
    | task key => exact .inr ⟨hsite, hsite.hasTask⟩
    | document | declarations | sections | action => exact absurd hmem (apart (by decide) hcode)
  · obtain ⟨hother, hcode⟩ := hother.isAbout
    exact ⟨Option.some.inj (htag.symm.trans hother), hcode⟩

/-- A flow that refers, two error sections deep, to an alias that is not in the table. -/
def noticeFlow : Document :=
  [(Keyword.workflow, .map
    [("fetch", .map [(Keyword.callee, .map [("ops.get", .null)])]),
     (Keyword.onFailure, .map
      [(Keyword.onFailure, .map
        [("alert", .map [(Keyword.callee, .map [("mail.send", .null)])])]),
       ("repair", .map [(Keyword.callee, .map [("ops.fix", .null)])])])])]

/-- An operation whose action has a key that only the standard extractors claim. -/
def noticeOperation : Document :=
  [(Keyword.action, .map [(Keyword.pythonScript, .string "send()")])]

/-- The unit of `noticeFlow`. -/
def noticeUnit : SourceUnit where
  name := "demo.notice"
  kind := .flow
  space := "demo"
  imports := some (.ofList [("ops", "org.ops")])

theorem noticeFlow_attributed :
    (∃ cause, (Compiler.mk .standard {}).assemble noticeUnit "notice" noticeFlow = .error cause
      ∧ cause.code = "R001" ∧ cause.unit? = some "alert" ∧ HasTask noticeFlow "alert")
    ∧ ∃ cause, (Compiler.mk (.ofList []) {}).assemble { noticeUnit with kind := .operation }
        "notice" noticeOperation = .error cause
      ∧ cause.code = "K001" ∧ cause.unit? = some "notice action" := by
  have hflow : (Compiler.mk .standard {}).assemble noticeUnit "notice" noticeFlow
      = .error (.reference (some "alert") (.unresolvedAlias "mail" "mail.send")) := by
    decide +kernel
  have hoperation : (Compiler.mk (.ofList []) {}).assemble { noticeUnit with kind := .operation }
      "notice" noticeOperation = .error (.unknownKeyword "notice action" "python_script") := by
    decide +kernel
  obtain ⟨tag, htag, -, -, -, -, -, -, hreference, -, -⟩ := failures_attributed hflow
  obtain rfl : "alert" = tag := Option.some.inj htag
  obtain ⟨tag, htag, -, -, -, -, -, hkey, -, -, -⟩ := failures_attributed hoperation
  refine ⟨⟨_, hflow, rfl, rfl, ?_⟩, _, hoperation, rfl, ?_⟩
  · rcases hreference (by decide) with ⟨-, hunit⟩ | ⟨-, htask⟩
    · exact absurd hunit (by decide)
    · exact htask
  · rw [htag]
    rcases hkey (by decide) with ⟨-, hname⟩ | ⟨-, haction⟩ | ⟨hraised, -⟩
    · exact absurd (Option.some.inj htag) (by rw [hname]; decide)
    · rw [haction]; decide
    · cases hraised with
      | task hflow => cases hflow

end FlowCompiler
