import FlowCompiler.Proofs.WellFormed

/-!
# Distinct names

No two declarations in a list have the same name once the blanks around them are taken off
(`IsItemList.nodup_names`). So it is with the inputs, outputs and results of an executable and with
what a task publishes. It is the same with the bindings of a call that are given as a list, but the
names in a map are not compared with one another: they are distinct exactly if no two keys of the
map differ only in the blanks around them (`declared_names_distinct`).
-/

namespace FlowCompiler

open Extractor Reference

/-! ## Names of entries -/

/-- No two of the entries have the same name, whether the blanks around the names count or not. -/
structure KeepsApart (entries : Document) : Prop where
  nodup : entries.keys.Nodup
  apart : ∀ left ∈ entries.keys, ∀ right ∈ entries.keys, Text.trim left = Text.trim right →
    left = right

theorem nodup_properNames_iff {entries : Document} :
    (properNames entries).Nodup ↔ KeepsApart entries := by
  have hnames : properNames entries = entries.keys.map Text.trim := by
    rw [properNames, Document.keys, List.map_map]
    rfl
  rw [hnames]
  apply Iff.intro
  · intro h
    have hkeys : entries.keys.Nodup := .of_map _ h
    exact ⟨hkeys, fun left hleft right hright =>
      (List.nodup_map_iff_inj_on hkeys).mp h left hleft right hright⟩
  · intro h
    exact (List.nodup_map_iff_inj_on h.nodup).mpr h.apart

theorem Extractor.IsItemList.nodup_names {accepts : Json → Prop} {value : Json}
    (h : IsItemList accepts value) : (properNames (entries value)).Nodup := by
  cases value with
  | list items => exact h.2
  | null => exact List.nodup_nil
  | map entries | bool held | number held | string held => cases h

/-- A list of bindings, unlike a map, gives distinct names. -/
theorem Extractor.IsBindings.nodup_names_iff {bindings : Json} (h : IsBindings bindings) :
    (properNames (entries bindings)).Nodup ↔ ∀ held, bindings = .map held → KeepsApart held := by
  cases bindings with
  | map held => simp [entries, nodup_properNames_iff]
  | list items =>
    have hlist : IsItemList IsInputValue (.list items) := h
    simpa using hlist.nodup_names
  | null | bool held | number held | string held => simp [entries, properNames]

/-! ## Names of declarations -/

theorem map_nameOf_declarations {α : Type} {format : ItemFormat α} {accepts : Json → Prop}
    {declare : String → Json → α} (hformat : format.Declares accepts declare) (entries : Document) :
    (declarations declare entries).map format.nameOf = properNames entries := by
  rw [declarations, List.map_map, properNames]
  exact List.map_congr_left fun entry _ => hformat.name _ _

/-- Resolving an input does not change its name. -/
theorem Reference.IsResolved.name_eq {imports : Option Imports} {entry : String × Json}
    {input : Input} (h : IsResolved imports entry input) : input.name = Text.trim entry.1 := by
  have hname := congrArg Input.name h.declared
  exact hname.trans (name_inputOf _ _)

theorem map_name_of_isResolved {imports : Option Imports} {entries : Document}
    {inputs : List Input} (h : List.Forall₂ (IsResolved imports) entries inputs) :
    inputs.map Input.name = properNames entries := by
  induction h with
  | nil => rfl
  | cons hinput _ ih => rw [List.map_cons, hinput.name_eq, ih]; rfl

/-- A list of declarations that has been read declares distinct names. -/
theorem nodup_names_of_listUnder {α β : Type} {format : ItemFormat α} {accepts : Json → Prop}
    {declare : String → Json → α} {key : String} {stage : Stage} {field : List α → FieldValue}
    {values? : FieldValue → Option (List β)} {f : α → β} {label : β → String}
    {document : Document} {fields : FieldMap} {produced : List (String × FieldValue)}
    (hformat : format.Declares accepts declare)
    (hvalues : ∀ values, values? (field values) = some (values.map f))
    (hlabel : ∀ value, label (f value) = format.nameOf value)
    (hproduced : (listUnder format key stage field).contribution document = .ok produced)
    (hget : fields.get? key = (SortedMap.ofList produced).get? key) :
    ((declared fields key values?).map label).Nodup := by
  have haccepted := ((contribution_listUnder_eq_ok_iff hformat).mp hproduced).1
  have hnames : (declared fields key values?).map label
      = properNames (entries (document.value key)) := by
    rw [declared_of_listUnder hformat hvalues hproduced hget, List.map_map,
      ← map_nameOf_declarations hformat]
    exact List.map_congr_left fun value _ => hlabel value
  rw [hnames]
  exact haccepted.nodup_names

/-! ## Names of what is compiled -/

section Compiled

variable {scope : Scope} {name : String} {body document : Document} {success failure : String}
  {task : Task} {options : Options} {unit : SourceUnit} {executable : Executable}

theorem nodup_publish_of_assembleTask (hregistry : scope.registry = .standard)
    (h : assembleTask scope name body success failure = .ok task) :
    (task.publish.map Output.name).Nodup := by
  obtain ⟨-, -, _, -, after, hafter, _, -, _, -, _, -, rfl⟩ := assembleTask_eq_ok_iff.mp h
  rw [hregistry, stage_afterTask] at hafter
  have hpublish : publish.MakesOwn := makesOwn_of_mem_standard (by simp [standard])
  obtain ⟨published, _, hpublished, -, hget, -⟩ :=
    get?_of_runStage_pair hpublish makesOwn_navigate (by decide) hafter
  exact nodup_names_of_listUnder namedFormat_declares (fun _ => rfl) (fun _ => rfl) hpublished hget

theorem nodup_declarations_of_assemble
    (h : (Compiler.mk .standard options).assemble unit name document = .ok executable) :
    (executable.inputs.map Input.name).Nodup ∧ (executable.outputs.map Output.name).Nodup
      ∧ (executable.results.map ResultDef.name).Nodup := by
  obtain ⟨hdeclarations, -⟩ := (Compiler.exists_assemble_iff rfl).mp ⟨executable, h⟩
  obtain ⟨-, -, before, hbefore, after, hafter, inputs, hinputs, _, _, -, rfl⟩ :=
    Compiler.assemble_eq_ok_iff.mp h
  rw [declared_of_beforeExecutable hbefore] at hinputs
  obtain ⟨left, right, hleft, hright, hgetOutputs, hgetResults⟩ := get?_of_afterExecutable hafter
  refine ⟨?_, nodup_names_of_listUnder namedFormat_declares (fun _ => rfl) (fun _ => rfl) hleft
    hgetOutputs, nodup_names_of_listUnder namedFormat_declares (fun _ => rfl) (fun _ => rfl) hright
    hgetResults⟩
  rw [map_name_of_isResolved (Scope.isResolved_of_resolveInputs hinputs)]
  exact hdeclarations.inputs.nodup_names

/-- The names of the bindings of a task are those that stand in the source, blanks aside. -/
theorem names_of_assembleTask (hregistry : scope.registry = .standard)
    (h : assembleTask scope name body success failure = .ok task) :
    ∃ reference bindings, body.get? Keyword.callee = some (.map [(reference, bindings)])
      ∧ IsBindings bindings ∧ task.inputs.map Input.name = properNames (entries bindings) := by
  obtain ⟨reference, bindings, hcall, -, hbindings, hinputs⟩ := call_of_assembleTask hregistry h
  exact ⟨reference, bindings, hcall, hbindings, map_name_of_isResolved hinputs⟩

end Compiled

/-- The values that a task publishes have distinct names, and so have its bindings unless they are
given by a map two of whose keys differ only in the blanks around them. The inputs, outputs and
results of an executable always have distinct names. -/
theorem declared_names_distinct {scope : Scope} {name : String} {body : Document}
    {success failure : String} {task : Task} (hregistry : scope.registry = .standard)
    (h : assembleTask scope name body success failure = .ok task) :
    (∃ reference bindings, body.get? Keyword.callee = some (.map [(reference, bindings)])
        ∧ task.inputs.map Input.name = properNames (entries bindings)
        ∧ ((task.inputs.map Input.name).Nodup
            ↔ ∀ held, bindings = .map held → KeepsApart held))
      ∧ (task.publish.map Output.name).Nodup
      ∧ ∀ options unit name document executable,
        (Compiler.mk .standard options).assemble unit name document = .ok executable →
        (executable.inputs.map Input.name).Nodup ∧ (executable.outputs.map Output.name).Nodup
          ∧ (executable.results.map ResultDef.name).Nodup := by
  obtain ⟨reference, bindings, hcall, hbindings, hnames⟩ := names_of_assembleTask hregistry h
  refine ⟨⟨reference, bindings, hcall, hnames, ?_⟩, nodup_publish_of_assembleTask hregistry h,
    fun _ _ _ _ _ => nodup_declarations_of_assemble⟩
  rw [hnames]
  exact hbindings.nodup_names_iff

/-- The scope of tasks that call `ops.put`. -/
def putScope : Scope where
  registry := .standard
  imports := some (.ofList [("ops", "org.ops")])
  unit := "put"

/-- The body of a task that calls `ops.put` with the bindings. -/
def putBody (bindings : Json) : Document :=
  [(Keyword.callee, .map [("ops.put", bindings)]),
   (Keyword.publish, .list [.string "size", .string " place"])]

/-- Two bindings whose names differ in a blank. -/
def putEntries : Document :=
  [("a", .bool true), (" a", .bool false)]

/-- An executable with inputs, outputs and results. -/
def putOperation : Document :=
  [(Keyword.inputs, .list [.string "a", .string " b"]),
   (Keyword.action, .map [(Keyword.pythonScript, .string "put(a, b)")]),
   (Keyword.outputs, .list [.string "size"]),
   (Keyword.results, .list [.string "SUCCESS", .string "FAILURE "])]

/-- The unit of `putOperation`. -/
def putUnit : SourceUnit where
  name := "demo.put"
  kind := .operation
  space := "demo"
  imports := none

theorem put_names_distinct :
    (∃ task, assembleTask putScope "copy" (putBody (.map [("a", .bool true), (" b", .null)]))
        "SUCCESS" "FAILURE" = .ok task
      ∧ task.inputs.map Input.name = ["a", "b"]
      ∧ (∃ reference bindings, (putBody (.map [("a", .bool true), (" b", .null)])).get?
            Keyword.callee = some (.map [(reference, bindings)])
        ∧ task.inputs.map Input.name = properNames (entries bindings)
        ∧ ((task.inputs.map Input.name).Nodup ↔ ∀ held, bindings = .map held → KeepsApart held))
      ∧ (task.publish.map Output.name).Nodup)
    ∧ ∃ executable, (Compiler.mk .standard {}).assemble putUnit "put" putOperation = .ok executable
      ∧ executable.inputs.map Input.name = ["a", "b"]
      ∧ (executable.results.map ResultDef.name).Nodup := by
  obtain ⟨task, htask, hnames⟩ := exists_ok_of_toOption_map
    (show ((assembleTask putScope "copy" (putBody (.map [("a", .bool true), (" b", .null)]))
        "SUCCESS" "FAILURE").toOption.map fun task => task.inputs.map Input.name)
        = some ["a", "b"] by
      decide +kernel)
  obtain ⟨executable, hexecutable, hinputs⟩ := exists_ok_of_toOption_map
    (show (((Compiler.mk .standard {}).assemble putUnit "put" putOperation).toOption.map
        fun executable => executable.inputs.map Input.name) = some ["a", "b"] by
      decide +kernel)
  obtain ⟨hbindings, hpublish, hexecutables⟩ := declared_names_distinct rfl htask
  obtain ⟨-, -, hresults⟩ := hexecutables _ _ _ _ _ hexecutable
  exact ⟨⟨task, htask, hnames, hbindings, hpublish⟩, executable, hexecutable, hinputs, hresults⟩

/-- A map whose keys differ in a blank is accepted as bindings and gives two of one name; the same
bindings in a list are rejected for that. -/
theorem put_names_repeated :
    (∃ task, assembleTask putScope "copy" (putBody (.map putEntries)) "SUCCESS" "FAILURE" = .ok task
      ∧ task.inputs.map Input.name = ["a", "a"]
      ∧ ¬ (task.inputs.map Input.name).Nodup)
    ∧ assembleTask putScope "copy"
        (putBody (.list (putEntries.map fun entry => .map [entry]))) "SUCCESS" "FAILURE"
      = .error (.extraction "copy" (.invalid "ops.put" "duplicate input 'a'")) := by
  obtain ⟨task, htask, hnames⟩ := exists_ok_of_toOption_map
    (show ((assembleTask putScope "copy" (putBody (.map putEntries)) "SUCCESS"
        "FAILURE").toOption.map fun task => task.inputs.map Input.name) = some ["a", "a"] by
      decide +kernel)
  exact ⟨⟨task, htask, hnames, by rw [hnames]; decide⟩, by decide +kernel⟩

end FlowCompiler
