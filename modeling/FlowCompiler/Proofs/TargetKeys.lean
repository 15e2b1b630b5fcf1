import FlowCompiler.Proofs.Agreement
import FlowCompiler.Proofs.Diagnosis
import FlowCompiler.Proofs.Targets

/-!
# Targets and keys

The key of a task in the source is its name as it stands, but a target in a navigation map loses
the blanks around it (`next_of_sends`). A target that is the key of a task thus leads to that task
only if the key has no blanks around it; otherwise the flow goes where the rest of the target says,
and the report complains if that is nowhere (`authored_targets`, `paddedFlow_misses`).
-/

namespace FlowCompiler

/-- The navigation map of the entry sends the label to the text. -/
def Sends (entry : String × Json) (label target : String) : Prop :=
  (navigationEntries (taskBody entry.2)).last? label = some (.string target)

/-! ## The navigation map -/

theorem last?_textEntries (texts : List (String × String)) (label : String) :
    (textEntries texts).last? label = (texts.reverse.lookup label).map .string := by
  rw [Document.last?, textEntries, ← List.map_reverse, SortedMap.lookup_map_snd]

theorem get?_trimmedEntries (texts : List (String × String)) (label : String) :
    (SortedMap.ofList (trimmedEntries texts)).get? label
      = (texts.reverse.lookup label).map Text.trim := by
  rw [SortedMap.get?_ofList, trimmedEntries, ← List.map_reverse, SortedMap.lookup_map_snd]

/-- A task goes to a target without the blanks around it. -/
theorem next_of_sends {scope : Scope} {entry : String × Json} {success failure : String}
    {task : Task} (hregistry : scope.registry = .standard)
    (h : assembleTask scope entry.1 (taskBody entry.2) success failure = .ok task)
    {label target : String} (hsends : Sends entry label target) :
    task.next label = some (Text.trim target) := by
  obtain ⟨texts, htexts, hnavigation⟩ := navigation_of_assembleTask hregistry h
  rw [Sends, htexts, last?_textEntries] at hsends
  have htarget : texts.reverse.lookup label = some target := by
    obtain ⟨text, htext, hjson⟩ := Option.map_eq_some_iff.mp hsends
    rw [htext, Json.string.inj hjson]
  have hne : texts ≠ [] := fun hnil => by simp [hnil] at htarget
  rw [Task.next, hnavigation, if_neg hne, get?_trimmedEntries, htarget, Option.map_some]

/-! ## The report -/

namespace Workflow

variable {workflow : Workflow} {task : Task} {label target : String}

theorem danglingTarget_mem_iff {name : String} :
    .danglingTarget name label target ∈ workflow.diagnostics
      ↔ (∃ task ∈ workflow.tasks, task.name = name ∧ task.next label = some target)
        ∧ workflow.Dangles target := by
  have hpassage : (∃ task ∈ workflow.tasks, task.name = name ∧ task.next label = some target)
      ↔ (⟨name, label, target⟩ : Passage) ∈ workflow.passages := by
    simp only [mem_passages_iff, Task.next, SortedMap.get?_eq_some_iff]
  rw [hpassage, diagnostics, NavigationGraph.danglingTargets_eq,
    NavigationGraph.unreachableTasks_eq]
  simp only [List.mem_append, List.mem_map, List.mem_filter, List.mem_flatMap,
    Task.unhandledOutcomes, decide_eq_true_eq, Diagnostic.danglingTarget.injEq, reduceCtorEq,
    and_false, exists_false, or_false]
  apply Iff.intro
  · intro h
    obtain ⟨⟨_, _, _⟩, hmem, rfl, rfl, rfl⟩ := h
    exact hmem
  · intro h
    exact ⟨_, h, rfl, rfl, rfl⟩

/-- What becomes of a target in the source. -/
structure Takes (workflow : Workflow) (task : Task) (label target : String) : Prop where
  next : task.next label = some (Text.trim target)
  /-- The target is kept if there are no blanks around it. -/
  kept : task.next label = some target ↔ Text.trim target = target
  reported : .danglingTarget task.name label (Text.trim target) ∈ workflow.diagnostics
    ↔ Text.trim target ∉ workflow.names ∧ Text.trim target ∉ Outcome.all
  /-- A task is reached by its name if there are no blanks around that. -/
  reached : target ∈ workflow.names → Text.trim target = target →
    (∃ other ∈ workflow.tasks, other.name = target ∧ task.next label = some other.name)
      ∧ .danglingTarget task.name label target ∉ workflow.diagnostics

theorem takes_of_next (htask : task ∈ workflow.tasks)
    (hnext : task.next label = some (Text.trim target)) : workflow.Takes task label target where
  next := hnext
  kept := by rw [hnext, Option.some.injEq]
  reported := by
    have hsome : ∃ other ∈ workflow.tasks,
        other.name = task.name ∧ other.next label = some (Text.trim target) :=
      ⟨task, htask, rfl, hnext⟩
    rw [danglingTarget_mem_iff, and_iff_right hsome, Dangles]
    simp [Outcome.all]
  reached hname htrim := by
    refine ⟨?_, fun hreported => (danglingTarget_mem_iff.mp hreported).2.1 hname⟩
    obtain ⟨other, hother, rfl⟩ := List.mem_map.mp hname
    exact ⟨other, hother, rfl, by rw [hnext, htrim]⟩

end Workflow

/-! ## The targets of a flow -/

/-- In a flow that is compiled the tasks have their keys as names, and each goes where its
navigation map says, but for the blanks around the targets. A target that is the key of a task, and
has no blanks around it, is the name of that task and is not complained about. -/
theorem authored_targets {options : Options} {unit : SourceUnit} {name : String}
    {document : Document} {executable : Executable} {workflow : Workflow}
    (h : (Compiler.mk .standard options).assemble unit name document = .ok executable)
    (hbody : executable.body = .flow workflow) (hflow : unit.kind = .flow) :
    workflow.names = (taskEntries document).keys
      ∧ List.Forall₂ (fun entry task => ∀ label target, Sends entry label target →
          workflow.Takes task label target) (taskEntries document) workflow.tasks := by
  have htasks := Compiler.isTaskOf_of_assemble hflow h hbody
  refine ⟨names_of_isTaskOf htasks,
    List.forall₂_iff_zip.mpr ⟨htasks.length_eq, fun {entry task} hmem label target hsends => ?_⟩⟩
  obtain ⟨_, _, htask⟩ := (List.forall₂_iff_zip.mp htasks).2 hmem
  exact Workflow.takes_of_next (List.of_mem_zip hmem).2 (next_of_sends rfl htask hsends)

/-- The first entry of `paddedFlow`. -/
def paddedEntry : String × Json :=
  ("fetch", .map
    [(Keyword.callee, .map [("ops.get", .null)]),
     (Keyword.navigate, .map
      [("SUCCESS", .string " store"), ("FAILURE", .string "FAILURE"),
       ("EMPTY", .string "fetch")])])

/-- The last entry of `paddedFlow`. -/
def storeEntry : String × Json :=
  (" store", .map [(Keyword.callee, .map [("ops.put", .null)])])

/-- A flow with a key that begins with a blank, which is also a target. -/
def paddedFlow : Document :=
  [(Keyword.workflow, .map [paddedEntry, storeEntry])]

/-- The unit of `paddedFlow`. -/
def paddedUnit : SourceUnit where
  name := "demo.padded"
  kind := .flow
  space := "demo"
  imports := some (.ofList [("ops", "org.ops")])

/-- The first task of `paddedFlow`. -/
def paddedFirst : Task where
  name := "fetch"
  refId := "org.ops.get"
  navigation := .ofList [("SUCCESS", "store"), ("FAILURE", "FAILURE"), ("EMPTY", "fetch")]
  preTaskData := .ofList [(Keyword.callee, .inputs [])]
  postTaskData := .ofList [(Keyword.navigate, .navigation
    (.ofList [("SUCCESS", "store"), ("FAILURE", "FAILURE"), ("EMPTY", "fetch")]))]

/-- The last task of `paddedFlow`. -/
def paddedLast : Task where
  name := " store"
  refId := "org.ops.put"
  navigation := defaultNavigation "SUCCESS" "FAILURE"
  preTaskData := .ofList [(Keyword.callee, .inputs [])]
  postTaskData := .empty

theorem taskEntries_paddedFlow : taskEntries paddedFlow = [paddedEntry, storeEntry] := by
  have htasks : paddedFlow.get? Keyword.workflow = some (.map [paddedEntry, storeEntry]) := rfl
  rw [taskEntries_eq htasks, sections_of_none rfl]
  rfl

theorem exists_assemble_paddedFlow :
    ∃ executable, (Compiler.mk .standard .none).assemble paddedUnit "padded" paddedFlow
        = .ok executable
      ∧ executable.body = .flow ⟨[paddedFirst, paddedLast]⟩ :=
  exists_ok_of_toOption_map
    (show (((Compiler.mk .standard .none).assemble paddedUnit "padded" paddedFlow).toOption.map
        Executable.body) = some (.flow ⟨[paddedFirst, paddedLast]⟩) by
      decide +kernel)

/-- A target of `paddedFlow` without blanks around it is reached. -/
theorem paddedFlow_targets :
    ∃ executable workflow,
      (Compiler.mk .standard .none).assemble paddedUnit "padded" paddedFlow = .ok executable
        ∧ executable.body = .flow workflow
        ∧ workflow.names = (taskEntries paddedFlow).keys
        ∧ List.Forall₂ (fun entry task => ∀ label target, Sends entry label target →
            workflow.Takes task label target) (taskEntries paddedFlow) workflow.tasks
        ∧ Sends paddedEntry "EMPTY" "fetch"
        ∧ workflow.Takes paddedFirst "EMPTY" "fetch" := by
  obtain ⟨executable, hexecutable, hbody⟩ := exists_assemble_paddedFlow
  obtain ⟨hnames, htargets⟩ := authored_targets hexecutable hbody rfl
  have hsends : Sends paddedEntry "EMPTY" "fetch" := rfl
  refine ⟨executable, _, hexecutable, hbody, hnames, htargets, hsends, ?_⟩
  rw [taskEntries_paddedFlow] at htargets
  exact (List.forall₂_cons.mp htargets).1 "EMPTY" "fetch" hsends

/-- The first task of `paddedFlow` is meant to go on to the last one, whose key its target is to the
letter, but does not: what it goes to is no task and no end, and the report says so. -/
theorem paddedFlow_misses :
    ∃ executable workflow,
      (Compiler.mk .standard .none).assemble paddedUnit "padded" paddedFlow = .ok executable
        ∧ executable.body = .flow workflow
        ∧ Sends paddedEntry "SUCCESS" " store"
        ∧ " store" ∈ (taskEntries paddedFlow).keys
        ∧ paddedFirst ∈ workflow.tasks
        ∧ paddedFirst.next "SUCCESS" = some "store"
        ∧ "store" ∉ workflow.names
        ∧ .danglingTarget "fetch" "SUCCESS" "store" ∈ workflow.diagnostics := by
  obtain ⟨executable, hexecutable, hbody⟩ := exists_assemble_paddedFlow
  have hkey : " store" ∈ (taskEntries paddedFlow).keys := by
    rw [taskEntries_paddedFlow]
    decide
  have hnext : paddedFirst.next "SUCCESS" = some "store" := by decide
  refine ⟨executable, _, hexecutable, hbody, rfl, hkey, List.mem_cons_self, hnext, by decide, ?_⟩
  exact Workflow.danglingTarget_mem_iff.mpr
    ⟨⟨paddedFirst, List.mem_cons_self, rfl, hnext⟩, by decide⟩

end FlowCompiler
