import FlowCompiler.Proofs.Executables
import FlowCompiler.Proofs.Targets

/-!
# The layout of a compiled flow

The tasks of a compiled flow are the entries of its sections, section by section, and each goes
where its slot says unless its body has a navigation map with entries (`tasks_fit_layout`).
-/

namespace FlowCompiler

namespace Slot

/-- The task is the one of the slot: it has its name and goes where its body says, or else to the
targets of the slot. -/
structure Fits (slot : Slot) (task : Task) : Prop where
  name_eq : task.name = slot.name
  /-- A navigation map with entries is taken over as it is, but for the blanks around targets. -/
  authored : navigationEntries (taskBody slot.body) ≠ [] →
    ∃ texts, navigationEntries (taskBody slot.body) = textEntries texts
      ∧ task.navigation = .ofList (trimmedEntries texts)
      ∧ ((textEntries texts).keys.Nodup → task.navigation.entries.Perm (trimmedEntries texts))
  /-- Without one there are the two targets of the slot. -/
  default : navigationEntries (taskBody slot.body) = [] →
    task.navigation.entries = [(Outcome.failure, slot.failure), (Outcome.success, slot.success)]

theorem Assembles.fits {scope : Scope} {slot : Slot} {task : Task}
    (hregistry : scope.registry = .standard) (h : slot.Assembles scope task) : slot.Fits task := by
  have hname := h.name_eq
  obtain ⟨body, hbody, htask⟩ := h
  obtain ⟨-, rfl⟩ := unwrapBody_eq_ok_iff.mp hbody
  obtain ⟨texts, htexts, hnavigation⟩ := navigation_of_assembleTask hregistry htask
  refine ⟨hname, fun hauthored => ?_, fun hdefault => ?_⟩
  · have hne : texts ≠ [] := fun hnil => hauthored (by rw [htexts, hnil]; rfl)
    rw [if_neg hne] at hnavigation
    refine ⟨texts, htexts, hnavigation, fun hnodup => ?_⟩
    rw [hnavigation]
    exact entries_trimmedEntries_perm hnodup
  · have hnil : texts = [] := List.map_eq_nil_iff.mp (htexts.symm.trans hdefault)
    rw [hnavigation, if_pos hnil, entries_defaultNavigation]

end Slot

theorem onFailure_notMem_keys (tasks : Document) :
    Keyword.onFailure ∉ (ordinaryTasks tasks).keys := by
  simp [ordinaryTasks, Document.erase, Document.keys]

/-- The tasks of a compiled flow are those of its sections, none lost, repeated or moved, and each
of them goes where its body or its slot says. -/
theorem tasks_fit_layout {options : Options} {unit : SourceUnit} {name : String}
    {document : Document} {executable : Executable} (hflow : unit.kind = .flow)
    (h : (Compiler.mk .standard options).assemble unit name document = .ok executable) :
    ∃ tasks workflow, document.get? Keyword.workflow = some (.map tasks)
      ∧ executable.body = .flow workflow
      ∧ List.Forall₂ Slot.Fits (layout tasks) workflow.tasks
      ∧ workflow.names = (sections tasks).flatMap (fun part => (ordinaryTasks part).keys)
      ∧ Keyword.onFailure ∉ workflow.names := by
  obtain ⟨tasks, workflow, htasks, hbody, -, hassembled⟩ :=
    Compiler.exists_layout_of_assemble hflow h
  have hnames : workflow.names
      = (sections tasks).flatMap fun part => (ordinaryTasks part).keys := by
    rw [← map_name_layout, ← names_eq_of_assembles hassembled, Workflow.names]
  refine ⟨tasks, workflow, htasks, hbody, ?_, hnames, ?_⟩
  · exact hassembled.imp fun slot task => Slot.Assembles.fits rfl
  · rw [hnames, List.mem_flatMap]
    intro h
    obtain ⟨part, -, hpart⟩ := h
    exact onFailure_notMem_keys part hpart

/-- A flow with two nested error sections, a loop, and navigation in a section's first task. -/
def nestedFlow : Document :=
  [(Keyword.workflow, .map
    [("fetch", .map [(Keyword.callee, .map [("ops.get", .null)])]),
     (Keyword.onFailure, .map
      [("repair", .map
        [(Keyword.callee, .map [("ops.fix", .null)]),
         (Keyword.navigate, .map [("AGAIN", .string " fetch "), ("SUCCESS", .string "alert")])]),
       (Keyword.onFailure, .map
        [("alert", .map [(Keyword.callee, .map [("ops.mail", .null)])])])]),
     ("store", .map [(Keyword.loop, .map
      [(Keyword.header, .string "item in items"),
       (Keyword.callee, .map [("ops.put", .null)])])])])]

/-- The unit of `nestedFlow`. -/
def nestedUnit : SourceUnit where
  name := "demo.sync"
  kind := .flow
  space := "demo"
  imports := some (.ofList [("ops", "org.ops")])

theorem nestedFlow_fits_layout :
    ∃ executable, nestedUnit.kind = .flow
      ∧ (Compiler.mk .standard {}).assemble nestedUnit "sync" nestedFlow = .ok executable
      ∧ ∃ tasks workflow, nestedFlow.get? Keyword.workflow = some (.map tasks)
        ∧ executable.body = .flow workflow
        ∧ List.Forall₂ Slot.Fits (layout tasks) workflow.tasks
        ∧ workflow.names = (sections tasks).flatMap (fun part => (ordinaryTasks part).keys)
        ∧ Keyword.onFailure ∉ workflow.names := by
  obtain ⟨executable, hexecutable⟩ := exists_ok_of_isOk
    (show ((Compiler.mk .standard {}).assemble nestedUnit "sync" nestedFlow).isOk = true by
      decide +kernel)
  exact ⟨executable, rfl, hexecutable, tasks_fit_layout rfl hexecutable⟩

end FlowCompiler
