import FlowCompiler.Proofs.Attribution

/-!
# Which failure is reported

A workflow may be at fault in several tasks, of which one is reported. An error section is compiled
before the tasks that it follows in the workflow, so the tasks are tried from the innermost section
outwards, and in order within each (`attempts`). If all sections are rightly formed, the assembly
fails exactly if some task does, with what the first of them in this order fails with
(`first_failure_reported`). Whether a task fails, and with what, is a matter of its entry alone: its
default targets make no difference (`assembleTask_eq_error_iff_of_targets`).
-/

namespace FlowCompiler

/-! ## The first failure in a list -/

section FailsFirst

variable {α ε : Type} {Fails : α → ε → Prop}

/-- Some item fails with the error, and none before it fails. -/
def FailsFirst (Fails : α → ε → Prop) (items : List α) (cause : ε) : Prop :=
  ∃ before item after, items = before ++ item :: after
    ∧ (∀ earlier ∈ before, ∀ other, ¬ Fails earlier other) ∧ Fails item cause

theorem not_failsFirst_nil (cause : ε) : ¬ FailsFirst Fails [] cause := by
  intro h
  obtain ⟨before, item, after, hitems, -⟩ := h
  simp at hitems

theorem failsFirst_cons_iff {item : α} {rest : List α} {cause : ε} :
    FailsFirst Fails (item :: rest) cause
      ↔ Fails item cause ∨ (∀ other, ¬ Fails item other) ∧ FailsFirst Fails rest cause := by
  apply Iff.intro
  · intro h
    obtain ⟨before, found, after, hitems, hearlier, hfails⟩ := h
    cases before with
    | nil =>
      obtain ⟨rfl, -⟩ := List.cons.inj hitems
      exact .inl hfails
    | cons first before =>
      obtain ⟨rfl, rfl⟩ := List.cons.inj hitems
      obtain ⟨hfirst, hbefore⟩ := List.forall_mem_cons.mp hearlier
      exact .inr ⟨hfirst, before, found, after, rfl, hbefore, hfails⟩
  · intro h
    rcases h with hfails | ⟨hfirst, before, found, after, rfl, hbefore, hfails⟩
    · exact ⟨[], item, rest, rfl, by simp, hfails⟩
    · exact ⟨item :: before, found, after, rfl, List.forall_mem_cons.mpr ⟨hfirst, hbefore⟩, hfails⟩

theorem failsFirst_append_iff {left right : List α} {cause : ε} :
    FailsFirst Fails (left ++ right) cause
      ↔ FailsFirst Fails left cause
        ∨ (∀ item ∈ left, ∀ other, ¬ Fails item other) ∧ FailsFirst Fails right cause := by
  induction left with
  | nil => simp [not_failsFirst_nil]
  | cons item rest ih =>
    rw [List.cons_append, failsFirst_cons_iff, failsFirst_cons_iff, ih, List.forall_mem_cons]
    tauto

theorem failsFirst_congr {Other : α → ε → Prop} {items : List α} {cause : ε}
    (h : ∀ item ∈ items, ∀ other, Fails item other ↔ Other item other) :
    FailsFirst Fails items cause ↔ FailsFirst Other items cause := by
  induction items with
  | nil => simp only [not_failsFirst_nil]
  | cons item rest ih =>
    obtain ⟨hitem, hrest⟩ := List.forall_mem_cons.mp h
    simp only [failsFirst_cons_iff, hitem, ih hrest]

theorem exists_failsFirst_iff {items : List α} :
    (∃ cause, FailsFirst Fails items cause) ↔ ∃ item ∈ items, ∃ cause, Fails item cause := by
  induction items with
  | nil => simp [not_failsFirst_nil]
  | cons item rest ih =>
    simp only [failsFirst_cons_iff, exists_or, List.exists_mem_cons_iff, exists_and_left, ih]
    -- If the item does not fail, it is one of the others that does.
    by_cases hitem : ∃ cause, Fails item cause
    · simp only [hitem, true_or]
    · have hnone : ∀ other, ¬ Fails item other := not_exists.mp hitem
      simp only [hnone, exists_false, not_false_eq_true, implies_true, true_and]

end FailsFirst

/-! ## Tasks -/

variable {scope : Scope} {tasks : Document} {cause : CompileError}

theorem assembleTask_eq_error_iff_of_targets {name : String} {body : Document}
    {success failure other another : String} :
    assembleTask scope name body success failure = .error cause
      ↔ assembleTask scope name body other another = .error cause := by
  unfold assembleTask
  split
  · rfl
  · -- The targets are used only once nothing can fail any more.
    simp only [bind_eq_error_iff, pure, Except.pure, reduceCtorEq]

/-- An entry fails with what it fails with for any two default targets. -/
theorem entryFails_iff {entry : String × Json} (success failure : String) :
    EntryFails scope entry cause
      ↔ (unwrapBody entry.1 entry.2 >>= fun body =>
          assembleTask scope entry.1 body success failure) = .error cause := by
  rw [bind_eq_error_iff, EntryFails]
  refine or_congr_right ⟨?_, ?_⟩
  · intro h
    obtain ⟨body, other, another, hbody, htask⟩ := h
    exact ⟨body, hbody, assembleTask_eq_error_iff_of_targets.mp htask⟩
  · intro h
    obtain ⟨body, hbody, htask⟩ := h
    exact ⟨body, success, failure, hbody, htask⟩

/-- The tasks of a section fail with what the first of them fails with. -/
theorem assembleTasks_eq_error_iff {ending failure : String} :
    assembleTasks scope ending failure tasks = .error cause
      ↔ FailsFirst (EntryFails scope) tasks cause := by
  induction tasks with
  | nil => simp [assembleTasks, not_failsFirst_nil]
  | cons entry rest ih =>
    obtain ⟨name, value⟩ := entry
    let attempt := unwrapBody name value >>= fun body =>
      assembleTask scope name body (successTarget ending rest) failure
    have hattempt : ∀ other, EntryFails scope (name, value) other ↔ attempt = .error other :=
      fun other => entryFails_iff _ _
    have hstep : assembleTasks scope ending failure ((name, value) :: rest)
        = (attempt >>= fun task =>
          (assembleTasks scope ending failure rest).map (task :: ·)) := by
      rw [assembleTasks]
      dsimp only [attempt]
      cases unwrapBody name value <;> rfl
    rw [hstep, bind_eq_error_iff, failsFirst_cons_iff]
    simp only [map_eq_error_iff, exists_and_right, exists_ok_iff_not_error, hattempt, ih, ne_eq]

/-! ## Sections -/

/-- The entries of the sections in the order in which they are tried: those of the innermost error
section first, and those of the map itself last. -/
def attempts (tasks : Document) : Document :=
  (sections tasks).reverse.flatMap ordinaryTasks

theorem attempts_of_none (h : recovery? tasks = none) : attempts tasks = ordinaryTasks tasks := by
  rw [attempts, sections_of_none h]
  simp

theorem attempts_of_some {inner : Document} (h : recovery? tasks = some inner) :
    attempts tasks = attempts inner ++ ordinaryTasks tasks := by
  rw [attempts, sections_of_some h, List.reverse_cons, List.flatMap_append, List.flatMap_singleton]
  rfl

theorem assembleSection_eq_error_iff {role : SectionRole} {chain : Option Workflow}
    (h : tasks ≠ []) :
    assembleSection scope role chain tasks = .error cause
      ↔ FailsFirst (EntryFails scope) tasks cause := by
  have hnonempty : ¬ tasks.isEmpty = true := fun hempty => h (List.isEmpty_iff.mp hempty)
  rw [assembleSection, if_neg hnonempty, map_eq_error_iff, assembleTasks_eq_error_iff]

/-- A rightly formed map of tasks fails with what its chain fails with, and if that is compiled,
with what the first of its own tasks fails with. -/
theorem assembleWorkflow_eq_error_iff_of_chain {role : SectionRole} (h : IsSection tasks) :
    assembleWorkflow scope role none tasks = .error cause
      ↔ assembleChain scope tasks = .error cause
        ∨ (∀ other, assembleChain scope tasks ≠ .error other)
          ∧ FailsFirst (EntryFails scope) (ordinaryTasks tasks) cause := by
  rw [assembleWorkflow_eq_bind, bind_eq_error_iff]
  simp only [assembleSection_eq_error_iff h.inhabited, exists_and_right, exists_ok_iff_not_error]

theorem assembleChain_of_none (h : IsSection tasks) (hnone : recovery? tasks = none) :
    assembleChain scope tasks = .ok none :=
  assembleChain_eq_ok_iff.mpr ⟨h.recovers, .inl ⟨hnone, rfl⟩⟩

theorem assembleChain_of_some {inner : Document} (h : IsSection tasks)
    (hsome : recovery? tasks = some inner) :
    assembleChain scope tasks = (assembleWorkflow scope .recovery none inner).map some := by
  have hsection : errorSection scope.unit tasks = .ok (some inner) :=
    errorSection_eq_ok_iff.mpr ⟨h.recovers, hsome.symm⟩
  rw [assembleChain, hsection]

/-- The induction is over the error sections: the chain of a map of tasks is compiled with all that
is below it, before the first of its own tasks is tried. -/
theorem assembleWorkflow_eq_error_iff {role : SectionRole}
    (h : ∀ part ∈ sections tasks, IsSection part) :
    assembleWorkflow scope role none tasks = .error cause
      ↔ FailsFirst (EntryFails scope) (attempts tasks) cause := by
  induction tasks using errorSections.induct generalizing role cause with
  | case1 tasks hnone =>
    have htasks : IsSection tasks := h tasks List.mem_cons_self
    rw [assembleWorkflow_eq_error_iff_of_chain htasks, assembleChain_of_none htasks hnone,
      attempts_of_none hnone]
    simp
  | case2 tasks inner hsome ih =>
    have htasks : IsSection tasks := h tasks List.mem_cons_self
    rw [sections_of_some hsome] at h
    have hinner := (List.forall_mem_cons.mp h).2
    have hchain : ∀ other, assembleChain scope tasks = .error other
        ↔ FailsFirst (EntryFails scope) (attempts inner) other := fun other => by
      rw [assembleChain_of_some htasks hsome, map_eq_error_iff, ih hinner]
    have hcompiled : (∀ other, assembleChain scope tasks ≠ .error other)
        ↔ ∀ entry ∈ attempts inner, ∀ other, ¬ EntryFails scope entry other := by
      simp only [ne_eq, hchain, ← not_exists, exists_failsFirst_iff]
      simp only [not_exists, not_and]
    rw [assembleWorkflow_eq_error_iff_of_chain htasks, hchain, hcompiled, attempts_of_some hsome,
      failsFirst_append_iff]

/-! ## The failure of a workflow -/

/-- If all sections of a map of tasks are rightly formed, its assembly fails exactly if some entry
of some section does, with what the first one fails with in the order in which they are tried. The
default targets with which an entry is tried make no difference. -/
theorem first_failure_reported {scope : Scope} {role : SectionRole} {tasks : Document}
    (h : ∀ part ∈ sections tasks, IsSection part) :
    ((∃ cause, assembleWorkflow scope role none tasks = .error cause)
        ↔ ∃ part ∈ sections tasks, ∃ entry ∈ ordinaryTasks part, ∃ cause,
            EntryFails scope entry cause)
      ∧ (∀ cause, assembleWorkflow scope role none tasks = .error cause
          ↔ FailsFirst (EntryFails scope) (attempts tasks) cause)
      ∧ ∀ entry cause success failure, EntryFails scope entry cause
          ↔ (unwrapBody entry.1 entry.2 >>= fun body =>
              assembleTask scope entry.1 body success failure) = .error cause := by
  refine ⟨?_, fun cause => assembleWorkflow_eq_error_iff h,
    fun entry cause success failure => entryFails_iff success failure⟩
  simp only [assembleWorkflow_eq_error_iff h, exists_failsFirst_iff, attempts, List.mem_flatMap,
    List.mem_reverse]
  apply Iff.intro
  · intro h
    obtain ⟨entry, ⟨part, hpart, hentry⟩, hfails⟩ := h
    exact ⟨part, hpart, entry, hentry, hfails⟩
  · intro h
    obtain ⟨part, hpart, entry, hentry, hfails⟩ := h
    exact ⟨entry, ⟨part, hpart, hentry⟩, hfails⟩

/-- An error section without an error section, in which the last two of three tasks fail. -/
def alertTasks : Document :=
  [("alert", .map [(Keyword.callee, .map [("ops.alert", .null)])]),
   ("log", .map [(Keyword.callee, .map [("mail.send", .null)])]),
   ("stop", .bool true)]

/-- An error section whose only task fails. -/
def repairTasks : Document :=
  [("repair", .map [(Keyword.loop, .string "twice")]), (Keyword.onFailure, .map alertTasks)]

/-- A map of tasks that begins with its error section and whose first task fails. -/
def parseTasks : Document :=
  [(Keyword.onFailure, .map repairTasks),
   ("parse", .null),
   ("keep", .map [(Keyword.callee, .map [("ops.keep", .null)])])]

/-- The scope of `parseTasks`. -/
def parseScope : Scope where
  registry := .standard
  imports := some (.ofList [("ops", "org.ops")])
  unit := "parse"

theorem sections_parseTasks : sections parseTasks = [parseTasks, repairTasks, alertTasks] := by
  have houter : recovery? parseTasks = some repairTasks := rfl
  have hinner : recovery? repairTasks = some alertTasks := rfl
  rw [sections_of_some houter, sections_of_some hinner, sections_of_none rfl]

/-- Four of the six tasks fail, and the second task of the innermost section is reported. -/
theorem parseTasks_first_failure :
    (∀ part ∈ sections parseTasks, IsSection part)
      ∧ (attempts parseTasks).keys = ["alert", "log", "stop", "repair", "parse", "keep"]
      ∧ FailsFirst (EntryFails parseScope) (attempts parseTasks)
          (.reference (some "log") (.unresolvedAlias "mail" "mail.send"))
      ∧ ∃ part ∈ sections parseTasks, ∃ entry ∈ ordinaryTasks part, ∃ cause,
          EntryFails parseScope entry cause := by
  have hsections : ∀ part ∈ sections parseTasks, IsSection part := by
    rw [sections_parseTasks]
    simp only [List.forall_mem_cons, List.not_mem_nil, false_imp_iff, implies_true, and_true]
    exact ⟨⟨trivial, by decide⟩, ⟨trivial, by decide⟩, trivial, by decide⟩
  have hfails : assembleWorkflow parseScope .main none parseTasks
      = .error (.reference (some "log") (.unresolvedAlias "mail" "mail.send")) := by
    decide +kernel
  obtain ⟨hsome, hreported, -⟩ := @first_failure_reported parseScope .main parseTasks hsections
  refine ⟨hsections, ?_, (hreported _).mp hfails, hsome.mp ⟨_, hfails⟩⟩
  rw [attempts, sections_parseTasks]
  decide

end FlowCompiler
