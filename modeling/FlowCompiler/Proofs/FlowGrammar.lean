import FlowCompiler.Proofs.Checks
import FlowCompiler.Proofs.TaskGrammar

/-!
# The grammar of flows

Which documents are flows (`IsFlow`), said of the document and the table of aliases alone: the
declarations that every executable may have (`HasDeclarations`), and a workflow all of whose
sections consist of tasks (`IsTaskSection`). If no checks are asked for, just these are compiled
(`exists_assemble_iff_isFlow`).
-/

namespace FlowCompiler

open Extractor Reference

/-! ## Declarations -/

/-- Whether the document has no keys but those of an executable, and its declarations may be
read. -/
structure HasDeclarations (imports : Option Imports) (document : Document) : Prop where
  nonempty : document ≠ []
  keys : ∀ key ∈ document.keys,
    key ∈ [Keyword.inputs, Keyword.outputs, Keyword.results, Keyword.action, Keyword.workflow,
      Keyword.name]
  inputs : IsItemList IsInputValue (document.value Keyword.inputs)
  properties : KnowsProperties imports (entries (document.value Keyword.inputs))
  outputs : IsItemList Json.IsScalar (document.value Keyword.outputs)
  results : IsItemList Json.IsScalar (document.value Keyword.results)

section Declarations

variable {name : String} {document : Document}

theorem validateKeys_ofExecutable_eq_ok_iff :
    validateKeys name document (Registry.standard.stages Stage.ofExecutable) Keyword.ofExecutable
        = .ok ()
      ↔ ∀ key ∈ document.keys, key ∈ [Keyword.inputs, Keyword.outputs, Keyword.results,
          Keyword.action, Keyword.workflow, Keyword.name] := by
  rw [validateKeys_eq_ok_iff, stages_ofExecutable]
  refine forall₂_congr fun key _ => ?_
  simp [isClaimed, inputs, outputs, results, listUnder, Keyword.ofExecutable]
  tauto

theorem exists_runStage_beforeExecutable_iff :
    (∃ before, runStage name document (Registry.standard.stage .beforeExecutable) = .ok before)
      ↔ IsItemList IsInputValue (document.value Keyword.inputs) := by
  rw [stage_beforeExecutable, exists_runStage_singleton_iff]
  exact exists_contribution_listUnder_iff inputFormat_declares

theorem exists_runStage_afterExecutable_iff :
    (∃ after, runStage name document (Registry.standard.stage .afterExecutable) = .ok after)
      ↔ IsItemList Json.IsScalar (document.value Keyword.outputs)
        ∧ IsItemList Json.IsScalar (document.value Keyword.results) := by
  rw [stage_afterExecutable, exists_runStage_pair_iff]
  exact and_congr (exists_contribution_listUnder_iff namedFormat_declares)
    (exists_contribution_listUnder_iff namedFormat_declares)

/-- A field made from a list of declarations declares what stands under its key. -/
theorem declared_of_listUnder {α β : Type} {format : ItemFormat α} {accepts : Json → Prop}
    {declare : String → Json → α} {key : String} {stage : Stage} {field : List α → FieldValue}
    {values? : FieldValue → Option (List β)} {f : α → β} {fields : FieldMap}
    {produced : List (String × FieldValue)} (hformat : format.Declares accepts declare)
    (hvalues : ∀ values, values? (field values) = some (values.map f))
    (hproduced : (listUnder format key stage field).contribution document = .ok produced)
    (hget : fields.get? key = (SortedMap.ofList produced).get? key) :
    declared fields key values?
      = (declarations declare (entries (document.value key))).map f := by
  obtain ⟨-, rfl⟩ := (contribution_listUnder_eq_ok_iff hformat).mp hproduced
  rw [declared, hget, Document.value]
  cases document.get? key with
  | none => rfl
  | some value =>
    rw [Option.toList_some, List.map_singleton, SortedMap.get?_ofList_singleton, if_pos rfl,
      Option.bind_some, hvalues]
    rfl

theorem declared_of_beforeExecutable {before : FieldMap}
    (hbefore : runStage name document (Registry.standard.stage .beforeExecutable) = .ok before) :
    declared before Keyword.inputs FieldValue.inputs?
      = declarations inputOf (entries (document.value Keyword.inputs)) := by
  rw [stage_beforeExecutable, runStage_singleton_eq_ok_iff] at hbefore
  obtain ⟨produced, hproduced, rfl⟩ := hbefore
  have hvalues : ∀ values, FieldValue.inputs? (.inputs values) = some (values.map id) :=
    fun values => by rw [List.map_id]; rfl
  have hdeclared := declared_of_listUnder inputFormat_declares hvalues hproduced rfl
  rwa [List.map_id] at hdeclared

end Declarations

namespace Compiler

variable {compiler : Compiler} {unit : SourceUnit} {name : String} {document : Document}

/-- An executable is compiled if its declarations may be read and its body is compiled. -/
theorem exists_assemble_iff (hregistry : compiler.registry = .standard) :
    (∃ executable, compiler.assemble unit name document = .ok executable)
      ↔ HasDeclarations unit.imports document
        ∧ ∃ compiled, assembleBody (compiler.scope unit name) compiler.options unit document
            = .ok compiled := by
  simp only [assemble_eq_ok_iff, hregistry]
  apply Iff.intro
  · intro h
    obtain ⟨executable, hne, hkeys, before, hbefore, after, hafter, resolved, hresolved, body,
      dependencies, hbody, _⟩ := h
    obtain ⟨houtputs, hresults⟩ := exists_runStage_afterExecutable_iff.mp ⟨after, hafter⟩
    rw [declared_of_beforeExecutable hbefore] at hresolved
    refine ⟨?_, _, hbody⟩
    exact {
      nonempty := hne
      keys := validateKeys_ofExecutable_eq_ok_iff.mp hkeys
      inputs := exists_runStage_beforeExecutable_iff.mp ⟨before, hbefore⟩
      properties := Scope.exists_resolveInputs_declarations_iff.mp ⟨resolved, hresolved⟩
      outputs := houtputs
      results := hresults }
  · intro h
    obtain ⟨hdeclarations, ⟨body, dependencies⟩, hbody⟩ := h
    obtain ⟨before, hbefore⟩ : ∃ before,
        runStage name document (Registry.standard.stage .beforeExecutable) = .ok before :=
      exists_runStage_beforeExecutable_iff.mpr hdeclarations.inputs
    obtain ⟨after, hafter⟩ : ∃ after,
        runStage name document (Registry.standard.stage .afterExecutable) = .ok after :=
      exists_runStage_afterExecutable_iff.mpr ⟨hdeclarations.outputs, hdeclarations.results⟩
    obtain ⟨resolved, hresolved⟩ : ∃ resolved, (compiler.scope unit name).resolveInputs unit.name
        (declarations inputOf (entries (document.value Keyword.inputs))) = .ok resolved :=
      Scope.exists_resolveInputs_declarations_iff.mpr hdeclarations.properties
    rw [← declared_of_beforeExecutable hbefore] at hresolved
    exact ⟨_, hdeclarations.nonempty, validateKeys_ofExecutable_eq_ok_iff.mpr hdeclarations.keys,
      before, hbefore, after, hafter, resolved, hresolved, body, dependencies, hbody, rfl⟩

end Compiler

/-! ## Sections -/

/-- Whether the map is a section: a map of tasks, of which there is at least one, that may have an
error section. -/
structure IsTaskSection (imports : Option Imports) (tasks : Document) : Prop
    extends IsSection tasks where
  tasks : ∀ entry ∈ ordinaryTasks tasks, IsTask imports entry.2

/-- Whether the document is a flow. -/
structure IsFlow (imports : Option Imports) (document : Document) : Prop
    extends HasDeclarations imports document where
  workflow : ∃ tasks, document.get? Keyword.workflow = some (.map tasks)
    ∧ ∀ part ∈ sections tasks, IsTaskSection imports part

section Sections

variable {scope : Scope}

theorem Slot.exists_assembles_iff {slot : Slot} (hregistry : scope.registry = .standard) :
    (∃ task, slot.Assembles scope task) ↔ IsTask scope.imports slot.body := by
  rw [isTask_iff]
  simp only [Slot.Assembles, unwrapBody_eq_ok_iff]
  apply Iff.intro
  · intro h
    obtain ⟨task, _, ⟨hbody, hunwrapped⟩, htask⟩ := h
    rw [hunwrapped] at htask
    exact ⟨hbody, (exists_assembleTask_iff_isTaskBody hregistry).mp ⟨task, htask⟩⟩
  · intro h
    obtain ⟨hbody, htaskBody⟩ := h
    obtain ⟨task, htask⟩ := (exists_assembleTask_iff_isTaskBody hregistry).mpr htaskBody
    exact ⟨task, _, ⟨hbody, rfl⟩, htask⟩

theorem exists_assembleFlow_iff (hregistry : scope.registry = .standard) (unit : String)
    (document : Document) :
    (∃ workflow, assembleFlow scope .none unit document = .ok workflow)
      ↔ ∃ tasks, document.get? Keyword.workflow = some (.map tasks)
          ∧ ∀ part ∈ sections tasks, IsTaskSection scope.imports part := by
  simp only [assembleFlow_eq_ok_iff, Options.check_none, and_true]
  have hlayout (tasks : Document) :
      (∃ assembled, List.Forall₂ (Slot.Assembles scope) (layout tasks) assembled)
        ↔ ∀ part ∈ sections tasks, ∀ entry ∈ ordinaryTasks part, IsTask scope.imports entry.2 := by
    rw [exists_forall₂_iff, ← forall_mem_layout_iff]
    exact forall₂_congr fun slot _ => Slot.exists_assembles_iff hregistry
  apply Iff.intro
  · intro h
    obtain ⟨workflow, tasks, htasks, hsections, hassembled⟩ := h
    have hall := (hlayout tasks).mp ⟨workflow.tasks, hassembled⟩
    exact ⟨tasks, htasks, fun part hpart => ⟨hsections part hpart, hall part hpart⟩⟩
  · intro h
    obtain ⟨tasks, htasks, hsections⟩ := h
    obtain ⟨assembled, hassembled⟩ := (hlayout tasks).mpr fun part hpart =>
      (hsections part hpart).tasks
    exact ⟨⟨assembled⟩, tasks, htasks, fun part hpart => (hsections part hpart).toIsSection,
      hassembled⟩

end Sections

/-- Without further checks, the flows that are compiled are those of the grammar. -/
theorem exists_assemble_iff_isFlow {unit : SourceUnit} (hflow : unit.kind = .flow) (name : String)
    (document : Document) :
    (∃ executable, (Compiler.mk .standard .none).assemble unit name document = .ok executable)
      ↔ IsFlow unit.imports document := by
  rw [Compiler.exists_assemble_iff rfl]
  have hscope : ((Compiler.mk .standard .none).scope unit name).registry = .standard := rfl
  have hbody : (∃ compiled, assembleBody ((Compiler.mk .standard .none).scope unit name) .none unit
        document = .ok compiled)
      ↔ ∃ tasks, document.get? Keyword.workflow = some (.map tasks)
          ∧ ∀ part ∈ sections tasks, IsTaskSection unit.imports part := by
    simp only [assembleBody, hflow, exists_map_eq_ok_iff]
    exact exists_assembleFlow_iff hscope unit.name document
  rw [hbody]
  apply Iff.intro
  · intro h
    obtain ⟨hdeclarations, hworkflow⟩ := h
    exact ⟨hdeclarations, hworkflow⟩
  · intro h
    exact ⟨h.toHasDeclarations, h.workflow⟩

/-- A flow with every kind of declaration, a loop and an error section. -/
def orderFlow : Document :=
  [(Keyword.name, .string "order"),
   (Keyword.inputs, .list
    [.string " customer ",
     .map [("limit", .map
      [(Keyword.systemProperty, .string "env.limit"), (Keyword.required, .bool false)])]]),
   (Keyword.workflow, .map
    [("reserve", .map [(Keyword.loop, .map
      [(Keyword.header, .string "key, item in stock in store"),
       (Keyword.callee, .map [("ops.reserve", .list [.map [("count", .bool true)]])]),
       (Keyword.publish, .list [.map [("left", .string "rest")]])])]),
     (Keyword.onFailure, .map
      [("cancel", .map
        [(Keyword.callee, .map [("ops.cancel", .map [("reason", .null)])]),
         (Keyword.navigate, .map [("SUCCESS", .string "FAILURE")])])])]),
   (Keyword.outputs, .null),
   (Keyword.results, .list [.string "SUCCESS", .map [("FAILURE", .null)]])]

/-- The unit of `orderFlow`. -/
def orderUnit : SourceUnit where
  name := "shop.order"
  kind := .flow
  space := "shop"
  imports := some (.ofList [("env", "shop.env"), ("ops", "shop.ops")])

/-- The flow is one in the sense of the grammar with the table of its unit, but not without one. -/
theorem orderFlow_isFlow :
    orderUnit.kind = .flow ∧ IsFlow orderUnit.imports orderFlow ∧ ¬ IsFlow none orderFlow := by
  have haccepted : ((Compiler.mk .standard .none).assemble orderUnit "order" orderFlow).isOk
      = true := by decide +kernel
  let unit : SourceUnit := { orderUnit with imports := none }
  have hrejected : ((Compiler.mk .standard .none).assemble unit "order" orderFlow).isOk
      = false := by decide +kernel
  have hkind : unit.kind = .flow := rfl
  -- Without the table no alias is known, so the compiler rejects the same document.
  refine ⟨rfl, (exists_assemble_iff_isFlow rfl "order" orderFlow).mp
    (exists_ok_of_isOk haccepted), fun hflow => ?_⟩
  obtain ⟨executable, hexecutable⟩ :=
    (exists_assemble_iff_isFlow hkind "order" orderFlow).mpr hflow
  rw [hexecutable] at hrejected
  cases hrejected

end FlowCompiler
