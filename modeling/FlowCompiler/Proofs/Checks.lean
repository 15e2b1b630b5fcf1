import FlowCompiler.Proofs.Executables
import Mathlib.Data.List.Nodup

/-!
# The options as filters

A compiler with any options compiles what the compiler without checks compiles, and then makes its
checks (`outcome_eq_bind_check`). So the options never change an executable, only reject it:
`options_only_filter` says which executables they reject, and with what error.
-/

namespace FlowCompiler

/-! ## The first repeated name -/

/-- The name stands in the list behind an equal one, and no name before it does. -/
def IsFirstRepeated (names : List String) (name : String) : Prop :=
  ∃ before after, names = before ++ name :: after ∧ name ∈ before ∧ before.Nodup

namespace Workflow

/-- The scan of a list, whose state is the names it has met, all of them different. -/
theorem firstRepeated?_eq_some_iff {earlier names : List String} {name : String}
    (hearlier : earlier.Nodup) :
    firstRepeated? earlier names = some name
      ↔ ∃ before after, names = before ++ name :: after ∧ name ∈ earlier.reverse ++ before
          ∧ (earlier.reverse ++ before).Nodup := by
  induction names generalizing earlier with
  | nil => simp [firstRepeated?]
  | cons first rest ih =>
    rw [firstRepeated?]
    split
    · next hmem =>
      constructor
      · rintro ⟨⟩
        exact ⟨[], rest, rfl, by simpa using hmem, by simpa [List.nodup_reverse] using hearlier⟩
      · intro h
        obtain ⟨before, after, hnames, -, hnodup⟩ := h
        cases before with
        | nil => exact congrArg some (List.cons.inj hnames).1
        | cons other before =>
          obtain ⟨rfl, -⟩ := List.cons.inj hnames
          exact absurd rfl ((List.nodup_append.mp hnodup).2.2 first (List.mem_reverse.mpr hmem)
            first List.mem_cons_self)
    · next hmem =>
      rw [ih (List.nodup_cons.mpr ⟨hmem, hearlier⟩)]
      simp only [List.reverse_cons, List.append_assoc, List.singleton_append]
      apply Iff.intro
      · intro h
        obtain ⟨before, after, rfl, hname, hnodup⟩ := h
        exact ⟨first :: before, after, rfl, hname, hnodup⟩
      · intro h
        obtain ⟨before, after, hnames, hname, hnodup⟩ := h
        cases before with
        | nil =>
          obtain ⟨rfl, -⟩ := List.cons.inj hnames
          rw [List.append_nil, List.mem_reverse] at hname
          exact absurd hname hmem
        | cons other before =>
          obtain ⟨rfl, rfl⟩ := List.cons.inj hnames
          exact ⟨before, after, rfl, hname, hnodup⟩

theorem repeatedName?_eq_some_iff {workflow : Workflow} {name : String} :
    workflow.repeatedName? = some name ↔ IsFirstRepeated workflow.names name :=
  firstRepeated?_eq_some_iff List.nodup_nil

theorem firstRepeated?_eq_none_iff {earlier names : List String} :
    firstRepeated? earlier names = none ↔ names.Nodup ∧ ∀ name ∈ names, name ∉ earlier := by
  induction names generalizing earlier with
  | nil => simp [firstRepeated?]
  | cons first rest ih =>
    rw [firstRepeated?, List.nodup_cons, List.forall_mem_cons]
    split
    · next hmem => simp [hmem]
    · next hmem =>
      simp only [ih, List.mem_cons, not_or]
      apply Iff.intro
      · intro h
        obtain ⟨hrest, hearlier⟩ := h
        exact ⟨⟨fun h => (hearlier first h).1 rfl, hrest⟩, hmem, fun name h => (hearlier name h).2⟩
      · intro h
        obtain ⟨⟨hfirst, hrest⟩, -, hearlier⟩ := h
        exact ⟨hrest, fun name h => ⟨fun heq => hfirst (heq ▸ h), hearlier name h⟩⟩

theorem repeatedName?_eq_none_iff {workflow : Workflow} :
    workflow.repeatedName? = none ↔ workflow.names.Nodup := by
  simp [repeatedName?, firstRepeated?_eq_none_iff]

theorem exists_isFirstRepeated_iff {workflow : Workflow} :
    (∃ name, IsFirstRepeated workflow.names name) ↔ ¬ workflow.names.Nodup := by
  rw [← repeatedName?_eq_none_iff, ← ne_eq, Option.ne_none_iff_exists']
  simp only [repeatedName?_eq_some_iff]

end Workflow

/-! ## The checks of a workflow -/

namespace Options

/-- The options that ask for no check. -/
def none : Options where
  uniqueTaskNames := false
  validateNavigation := false

/-- Makes the checks of the options where there is a workflow. -/
def checkBody (options : Options) (unit : String) : Body → Except CompileError Unit
  | .flow workflow => options.check unit workflow
  | .operation _ => .ok ()

/-- Whether options ask for every check that the others ask for. -/
def AtMost (options others : Options) : Prop :=
  (options.uniqueTaskNames = true → others.uniqueTaskNames = true)
    ∧ (options.validateNavigation = true → others.validateNavigation = true)

variable {options : Options} {unit : String} {workflow : Workflow}

theorem check_none : Options.none.check unit workflow = .ok () := rfl

theorem check_of_nodup (h : options.uniqueTaskNames = true → workflow.names.Nodup) :
    options.check unit workflow
      = match options.validateNavigation, workflow.diagnostics with
        | true, diagnostic :: _ => .error (.navigation unit diagnostic)
        | _, _ => .ok () := by
  unfold check
  split
  · next hunique hrepeated =>
    rw [Workflow.repeatedName?_eq_none_iff.mpr (h hunique)] at hrepeated
    cases hrepeated
  · rfl

theorem check_eq_repeated_iff {task : String} :
    options.check unit workflow = .error (.workflow unit (.repeatedTask task))
      ↔ options.uniqueTaskNames = true ∧ IsFirstRepeated workflow.names task := by
  rw [← Workflow.repeatedName?_eq_some_iff]
  unfold check
  split
  · next name hunique hrepeated => simp [hunique, hrepeated]
  · next hnot =>
    apply Iff.intro
    · intro h
      split at h <;> cases h
    · intro h
      obtain ⟨hunique, hrepeated⟩ := h
      exact absurd hrepeated (hnot task hunique)

theorem check_eq_ok_iff :
    options.check unit workflow = .ok ()
      ↔ (options.uniqueTaskNames = true → workflow.names.Nodup)
        ∧ (options.validateNavigation = true → workflow.diagnostics = []) := by
  by_cases hnodup : options.uniqueTaskNames = true → workflow.names.Nodup
  · rw [check_of_nodup hnodup]
    cases options.validateNavigation with
    | false => simpa using hnodup
    | true =>
      cases workflow.diagnostics with
      | nil => simpa using hnodup
      | cons diagnostic rest => simp
  · obtain ⟨hunique, hrepeats⟩ := Classical.not_imp.mp hnodup
    obtain ⟨task, htask⟩ := Workflow.exists_isFirstRepeated_iff.mpr hrepeats
    rw [check_eq_repeated_iff.mpr ⟨hunique, htask⟩]
    simp [hnodup]

end Options

/-! ## Compiling with and without checks -/

theorem assembleFlow_eq_bind_check {scope : Scope} {options : Options} {unit : String}
    {document : Document} :
    assembleFlow scope options unit document
      = (assembleFlow scope .none unit document >>= fun workflow =>
        options.check unit workflow >>= fun _ => pure workflow) := by
  simp only [assembleFlow, bind_assoc, Options.check_none, ok_bind, pure_bind]

/-- Without checks a flow is compiled from its tasks as they stand. -/
theorem assembleFlow_none_eq {scope : Scope} {unit : String} {document : Document} :
    assembleFlow scope .none unit document
      = (flowTasks unit scope.unit document >>= assembleWorkflow scope .main none) := by
  rw [assembleFlow]
  refine bind_congr fun tasks => ?_
  rw [← assembleChain_bind_eq]
  refine bind_congr fun chain => ?_
  simp only [Options.check_none, ok_bind, bind_pure]

/-- A flow is compiled from its tasks as they stand, and then checked. -/
theorem assembleFlow_eq_bind_tasks (scope : Scope) (options : Options) (unit : String)
    (document : Document) :
    assembleFlow scope options unit document
      = ((flowTasks unit scope.unit document >>= assembleWorkflow scope .main none) >>=
        fun workflow => options.check unit workflow >>= fun _ => pure workflow) := by
  rw [assembleFlow_eq_bind_check, assembleFlow_none_eq]

theorem assembleBody_eq_bind_check {scope : Scope} {options : Options} {unit : SourceUnit}
    {document : Document} :
    assembleBody scope options unit document
      = (assembleBody scope .none unit document >>= fun result =>
        options.checkBody unit.name result.1 >>= fun _ => pure result) := by
  unfold assembleBody
  split
  · rw [assembleFlow_eq_bind_check]
    cases assembleFlow scope .none unit.name document with
    | error cause => rfl
    | ok workflow =>
      simp only [ok_bind, Except.map, Options.checkBody]
      cases options.check unit.name workflow <;> rfl
  · cases assembleOperation scope unit.name document <;> rfl
  · rfl

namespace Compiler

/-- The outcome of a compilation that is fixed but for the options. -/
def outcome (registry : Registry) (unit : SourceUnit) (name : String) (document : Document)
    (options : Options) : Except CompileError Executable :=
  (Compiler.mk registry options).assemble unit name document

variable {registry : Registry} {unit : SourceUnit} {name : String} {document : Document}

/-- The options matter to the last step only. -/
theorem outcome_eq_bind_check (options : Options) :
    outcome registry unit name document options
      = (outcome registry unit name document .none >>= fun executable =>
        options.checkBody unit.name executable.body >>= fun _ => pure executable) := by
  simp only [outcome, assemble]
  split
  · rfl
  · simp only [bind_assoc]
    refine bind_congr fun _ => bind_congr fun before => bind_congr fun after =>
      bind_congr fun inputs => ?_
    rw [assembleBody_eq_bind_check, bind_assoc]
    refine bind_congr fun result => ?_
    rw [pure_bind, bind_assoc]
    rfl

/-- What the options make of the outcome of a compilation without checks. -/
structure FilteredBy (options : Options) (unit : String)
    (plain checked : Except CompileError Executable) : Prop where
  /-- A failure stays what it is. -/
  failed : ∀ cause, plain = .error cause → checked = .error cause
  /-- An operation passes. -/
  operation : ∀ executable action, plain = .ok executable → executable.body = .operation action →
    checked = .ok executable
  /-- A flow is rejected for a repeated name if such names are asked for and there is one. -/
  repeats : ∀ executable workflow, plain = .ok executable → executable.body = .flow workflow →
    ((∃ task, checked = .error (.workflow unit (.repeatedTask task)))
      ↔ options.uniqueTaskNames = true ∧ ¬ workflow.names.Nodup)
  /-- The error names the first task in order that has the name of an earlier one. -/
  repeated : ∀ executable workflow, plain = .ok executable → executable.body = .flow workflow →
    ∀ task, checked = .error (.workflow unit (.repeatedTask task))
      ↔ options.uniqueTaskNames = true ∧ IsFirstRepeated workflow.names task
  /-- A flow that is not rejected for a name is rejected for the first flaw of its navigation. -/
  flawed : ∀ executable workflow, plain = .ok executable → executable.body = .flow workflow →
    (options.uniqueTaskNames = true → workflow.names.Nodup) → options.validateNavigation = true →
    ∀ diagnostic rest, workflow.diagnostics = diagnostic :: rest →
      checked = .error (.navigation unit diagnostic)
  /-- A flow with neither flaw passes. -/
  passed : ∀ executable workflow, plain = .ok executable → executable.body = .flow workflow →
    (options.uniqueTaskNames = true → workflow.names.Nodup) →
    (options.validateNavigation = true → workflow.diagnostics = []) → checked = .ok executable

theorem outcome_of_flow {options : Options} {executable : Executable} {workflow : Workflow}
    (hplain : outcome registry unit name document .none = .ok executable)
    (hbody : executable.body = .flow workflow) :
    outcome registry unit name document options
      = (options.check unit.name workflow >>= fun _ => pure executable) := by
  rw [outcome_eq_bind_check, hplain, ok_bind, hbody]
  rfl

theorem outcome_eq_repeated_iff {options : Options} {executable : Executable} {workflow : Workflow}
    {task : String} (hplain : outcome registry unit name document .none = .ok executable)
    (hbody : executable.body = .flow workflow) :
    outcome registry unit name document options
        = .error (.workflow unit.name (.repeatedTask task))
      ↔ options.uniqueTaskNames = true ∧ IsFirstRepeated workflow.names task := by
  rw [outcome_of_flow hplain hbody, ← Options.check_eq_repeated_iff]
  cases options.check unit.name workflow <;> simp [pure, Except.pure]

theorem outcome_filteredBy (options : Options) :
    FilteredBy options unit.name (outcome registry unit name document .none)
      (outcome registry unit name document options) where
  failed cause hplain := by rw [outcome_eq_bind_check, hplain, error_bind]
  operation executable action hplain hbody := by
    rw [outcome_eq_bind_check, hplain, ok_bind, hbody]
    rfl
  repeats executable workflow hplain hbody := by
    simp only [outcome_eq_repeated_iff hplain hbody, exists_and_left,
      Workflow.exists_isFirstRepeated_iff]
  repeated executable workflow hplain hbody task := outcome_eq_repeated_iff hplain hbody
  flawed executable workflow hplain hbody hunique hvalidate diagnostic rest hreport := by
    rw [outcome_of_flow hplain hbody, Options.check_of_nodup hunique, hvalidate, hreport]
    rfl
  passed executable workflow hplain hbody hunique hvalidate := by
    rw [outcome_of_flow hplain hbody, Options.check_eq_ok_iff.mpr ⟨hunique, hvalidate⟩]
    rfl

/-- What succeeds under some options succeeds without them, with the same executable. -/
theorem outcome_none_of_ok {options : Options} {executable : Executable}
    (h : outcome registry unit name document options = .ok executable) :
    outcome registry unit name document .none = .ok executable := by
  rw [outcome_eq_bind_check, bind_eq_ok_iff] at h
  obtain ⟨compiled, hcompiled, hchecked⟩ := h
  obtain ⟨-, -, heq⟩ := bind_eq_ok_iff.mp hchecked
  rw [hcompiled, Except.ok.inj heq]

/-- Options that ask for less let pass what the others do. -/
theorem outcome_ok_of_atMost {options others : Options} {executable : Executable}
    (hle : options.AtMost others)
    (h : outcome registry unit name document others = .ok executable) :
    outcome registry unit name document options = .ok executable := by
  have hplain := outcome_none_of_ok h
  cases hbody : executable.body with
  | operation action => exact (outcome_filteredBy options).operation executable action hplain hbody
  | flow workflow =>
    rw [outcome_of_flow hplain hbody, bind_eq_ok_iff] at h
    obtain ⟨_, hcheck, -⟩ := h
    obtain ⟨hunique, hvalidate⟩ := Options.check_eq_ok_iff.mp hcheck
    exact (outcome_filteredBy options).passed executable workflow hplain hbody
      (fun hasked => hunique (hle.1 hasked)) fun hasked => hvalidate (hle.2 hasked)

/-- The options only filter: under any options a compilation fails as it does without checks, or
makes the same executable, or rejects it for the first repeated name or else the first flaw of the
navigation. So where two options let something pass they agree on it, and asking for more never
makes a failing compilation succeed. -/
theorem options_only_filter (registry : Registry) (unit : SourceUnit) (name : String)
    (document : Document) :
    (∀ options, FilteredBy options unit.name (outcome registry unit name document .none)
        (outcome registry unit name document options))
      ∧ (∀ options others executable other,
          outcome registry unit name document options = .ok executable →
          outcome registry unit name document others = .ok other → executable = other)
      ∧ ∀ (options others : Options) cause, options.AtMost others →
          outcome registry unit name document options = .error cause →
          ∃ cause, outcome registry unit name document others = .error cause := by
  refine ⟨outcome_filteredBy, fun options others executable other hleft hright => ?_,
    fun options others cause hle hfailed => ?_⟩
  · exact Except.ok.inj ((outcome_none_of_ok hleft).symm.trans (outcome_none_of_ok hright))
  · cases hothers : outcome registry unit name document others with
    | error cause => exact ⟨cause, rfl⟩
    | ok executable =>
      rw [outcome_ok_of_atMost hle hothers] at hfailed
      cases hfailed

end Compiler

end FlowCompiler
