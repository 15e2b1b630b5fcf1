import FlowCompiler.Proofs.FlowGrammar
import FlowCompiler.Proofs.WellFormed

/-!
# The grammar of operations

Which documents are operations (`IsOperation`), said of the document and the table of aliases alone:
the declarations that every executable may have, and an action that is a method call, a script or
both (`IsAction`). Just these are compiled, under any options, and the action that is made has a
field for every key of the source and holds there what the source says (`Action.Holds`). What is
neither a flow nor an operation is never compiled (`operations_compiled_exactly`).
-/

namespace FlowCompiler

open Extractor

/-! ## Actions in the source -/

/-- Whether the properties are those of a call of the method: they give the names of its class and
its own, and nothing else. -/
structure NamesMethod (properties : Document) (className methodName : String) : Prop where
  keys : ∀ key ∈ properties.keys, key ∈ [Keyword.className, Keyword.methodName]
  filled : Text.isBlankText className = false ∧ Text.isBlankText methodName = false
  className : properties.get? Keyword.className = some (.string className)
  methodName : properties.get? Keyword.methodName = some (.string methodName)

/-- Whether the value is a method call. -/
def IsMethodCall (value : Json) : Prop :=
  ∃ properties className methodName,
    value = .map properties ∧ NamesMethod properties className methodName

/-- Whether the entries are those of an action: a method call, a script or both. -/
structure IsAction (entries : Document) : Prop where
  nonempty : entries ≠ []
  keys : ∀ key ∈ entries.keys, key ∈ [Keyword.javaAction, Keyword.pythonScript]
  javaAction : ∀ value ∈ entries.get? Keyword.javaAction, IsMethodCall value
  pythonScript : ∀ value ∈ entries.get? Keyword.pythonScript, ∃ script, value = .string script

/-- Whether the document is an operation. -/
structure IsOperation (imports : Option Imports) (document : Document) : Prop
    extends HasDeclarations imports document where
  action : ∃ entries, document.get? Keyword.action = some (.map entries) ∧ IsAction entries

/-- Whether the action has just the fields whose keys are in the source, with what stands there. -/
structure Action.Holds (action : Action) (entries : Document) : Prop where
  keys : ∀ key, key ∈ action.data.keys ↔ key ∈ entries.keys
  javaAction : ∀ properties className methodName,
    entries.get? Keyword.javaAction = some (.map properties) →
    NamesMethod properties className methodName →
      action.data.get? Keyword.javaAction
        = some (.javaAction ⟨Text.trim className, Text.trim methodName⟩)
  pythonScript : ∀ script, entries.get? Keyword.pythonScript = some (.string script) →
    action.data.get? Keyword.pythonScript = some (.pythonScript script)

/-! ## Method calls -/

section Calls

variable {properties : Document}

theorem requiredText_eq_ok_iff {key text : String} :
    requiredText properties key = .ok text
      ↔ ∃ held, properties.get? key = some (.string held) ∧ Text.isBlankText held = false
          ∧ text = Text.trim held := by
  unfold requiredText
  cases properties.get? key with
  | none => simp
  | some value =>
    simp only [map_eq_ok_iff, readFilledText_eq_ok_iff, Option.some.injEq, and_assoc,
      eq_comm (b := text)]

/-- The keys are looked through before the names are read. -/
theorem readJavaAction_eq_ok_iff {action : JavaAction} :
    readJavaAction properties = .ok action
      ↔ ∃ className methodName, NamesMethod properties className methodName
          ∧ action = ⟨Text.trim className, Text.trim methodName⟩ := by
  unfold readJavaAction
  cases hfind : properties.keys.find? fun key =>
      key != Keyword.className && key != Keyword.methodName with
  | some key =>
    have hkey := List.find?_some hfind
    have hmem := List.mem_of_find?_eq_some hfind
    refine ⟨fun h => (nomatch h), fun h => ?_⟩
    obtain ⟨className, methodName, hnames, -⟩ := h
    rcases List.mem_pair.mp (hnames.keys key hmem) with rfl | rfl
    · simp at hkey
    · simp at hkey
  | none =>
    have hkeys : ∀ key ∈ properties.keys, key ∈ [Keyword.className, Keyword.methodName] :=
      fun key hmem => List.mem_pair.mpr (by
        simpa [← or_iff_not_imp_left] using List.find?_eq_none.mp hfind key hmem)
    simp only [bind_eq_ok_iff, requiredText_eq_ok_iff, pure, Except.pure, Except.ok.injEq]
    apply Iff.intro
    · intro h
      obtain ⟨_, ⟨className, hclass, hclassFilled, rfl⟩, _,
        ⟨methodName, hmethod, hmethodFilled, rfl⟩, rfl⟩ := h
      exact ⟨className, methodName, ⟨hkeys, ⟨hclassFilled, hmethodFilled⟩, hclass, hmethod⟩, rfl⟩
    · intro h
      obtain ⟨className, methodName, hnames, rfl⟩ := h
      exact ⟨_, ⟨className, hnames.className, hnames.filled.1, rfl⟩, _,
        ⟨methodName, hnames.methodName, hnames.filled.2, rfl⟩, rfl⟩

theorem NamesMethod.unique {className methodName otherClass otherMethod : String}
    (h : NamesMethod properties className methodName)
    (hother : NamesMethod properties otherClass otherMethod) :
    className = otherClass ∧ methodName = otherMethod := by
  have hclass := h.className.symm.trans hother.className
  have hmethod := h.methodName.symm.trans hother.methodName
  exact ⟨Json.string.inj (Option.some.inj hclass), Json.string.inj (Option.some.inj hmethod)⟩

end Calls

/-! ## Actions -/

section Actions

variable {entries : Document} {unit : String} {data : FieldMap}

theorem exists_extractJavaAction_iff :
    (∃ produced, extractJavaAction entries = .ok produced)
      ↔ ∀ value ∈ entries.get? Keyword.javaAction, IsMethodCall value := by
  simp only [extractJavaAction_eq_ok_iff, readJavaAction_eq_ok_iff]
  cases entries.get? Keyword.javaAction with
  | none => simp
  | some value =>
    simp only [reduceCtorEq, false_and, false_or, Option.some.injEq, Option.mem_def, forall_eq',
      IsMethodCall]
    apply Iff.intro
    · intro h
      obtain ⟨_, properties, _, hvalue, ⟨className, methodName, hnames, -⟩, -⟩ := h
      exact ⟨properties, className, methodName, hvalue, hnames⟩
    · intro h
      obtain ⟨properties, className, methodName, hvalue, hnames⟩ := h
      exact ⟨_, properties, _, hvalue, ⟨className, methodName, hnames, rfl⟩, rfl⟩

theorem exists_extractPythonScript_iff :
    (∃ produced, extractPythonScript entries = .ok produced)
      ↔ ∀ value ∈ entries.get? Keyword.pythonScript, ∃ script, value = .string script := by
  simp only [extractPythonScript_eq_ok_iff]
  cases entries.get? Keyword.pythonScript with
  | none => simp
  | some value => simp

theorem validateKeys_action_eq_ok_iff :
    validateKeys unit entries (Registry.standard.stage .action) [] = .ok ()
      ↔ ∀ key ∈ entries.keys, key ∈ [Keyword.javaAction, Keyword.pythonScript] := by
  rw [validateKeys_eq_ok_iff, stage_action]
  refine forall₂_congr fun key _ => ?_
  simp [isClaimed, javaAction, pythonScript]

theorem exists_runStage_action_iff :
    (∃ data, runStage unit entries (Registry.standard.stage .action) = .ok data)
      ↔ (∀ value ∈ entries.get? Keyword.javaAction, IsMethodCall value)
        ∧ ∀ value ∈ entries.get? Keyword.pythonScript, ∃ script, value = .string script := by
  rw [stage_action, exists_runStage_pair_iff, contribution_javaAction, contribution_pythonScript,
    exists_extractJavaAction_iff, exists_extractPythonScript_iff]

/-- The two fields of an action are made apart from each other. -/
theorem get?_of_action
    (h : runStage unit entries (Registry.standard.stage .action) = .ok data) :
    ∃ called script, extractJavaAction entries = .ok called
      ∧ extractPythonScript entries = .ok script
      ∧ data.get? Keyword.javaAction = (SortedMap.ofList called).get? Keyword.javaAction
      ∧ data.get? Keyword.pythonScript = (SortedMap.ofList script).get? Keyword.pythonScript := by
  rw [stage_action] at h
  obtain ⟨called, script, hcalled, hscript, hgetCalled, hgetScript⟩ :=
    get?_of_runStage_pair makesOwn_javaAction makesOwn_pythonScript (by decide) h
  rw [contribution_javaAction] at hcalled
  rw [contribution_pythonScript] at hscript
  exact ⟨called, script, hcalled, hscript, hgetCalled, hgetScript⟩

/-- What is found in an action is made of what stands under the same key in the source. -/
theorem get?_isSome_of_action
    (h : runStage unit entries (Registry.standard.stage .action) = .ok data) {key : String}
    (hkey : key ∈ [Keyword.javaAction, Keyword.pythonScript]) :
    (data.get? key).isSome = (entries.get? key).isSome := by
  obtain ⟨called, script, hcalled, hscript, hgetCalled, hgetScript⟩ := get?_of_action h
  rcases List.mem_pair.mp hkey with rfl | rfl
  · rw [hgetCalled]
    rcases extractJavaAction_eq_ok_iff.mp hcalled with ⟨hnone, rfl⟩ | ⟨_, _, hsome, -, rfl⟩
    · rw [hnone]
      rfl
    · rw [hsome, SortedMap.get?_ofList_singleton, if_pos rfl]
      rfl
  · rw [hgetScript]
    rcases extractPythonScript_eq_ok_iff.mp hscript with ⟨hnone, rfl⟩ | ⟨_, hsome, rfl⟩
    · rw [hnone]
      rfl
    · rw [hsome, SortedMap.get?_ofList_singleton, if_pos rfl]
      rfl

theorem holds_of_runStage
    (hkeys : ∀ key ∈ entries.keys, key ∈ [Keyword.javaAction, Keyword.pythonScript])
    (h : runStage unit entries (Registry.standard.stage .action) = .ok data) :
    (Action.mk data).Holds entries := by
  obtain ⟨called, script, hcalled, hscript, hgetCalled, hgetScript⟩ := get?_of_action h
  have hfields : ∀ key ∈ data.keys, key ∈ [Keyword.javaAction, Keyword.pythonScript] :=
    keys_of_runStage h
  have hiff (key : String) (hkey : key ∈ [Keyword.javaAction, Keyword.pythonScript]) :
      key ∈ data.keys ↔ key ∈ entries.keys := by
    rw [SortedMap.mem_keys_iff, ← Option.isSome_iff_exists, Document.mem_keys_iff,
      get?_isSome_of_action h hkey]
  exact {
    keys := fun key => ⟨fun hkey => (hiff key (hfields key hkey)).mp hkey,
      fun hkey => (hiff key (hkeys key hkey)).mpr hkey⟩
    javaAction := fun properties className methodName hproperties hnames => by
      rcases extractJavaAction_eq_ok_iff.mp hcalled with ⟨hnone, -⟩ | ⟨_, _, hsome, hread, rfl⟩
      · rw [hnone] at hproperties
        cases hproperties
      · obtain rfl := Json.map.inj (Option.some.inj (hsome.symm.trans hproperties))
        obtain ⟨otherClass, otherMethod, hother, rfl⟩ := readJavaAction_eq_ok_iff.mp hread
        obtain ⟨rfl, rfl⟩ := hnames.unique hother
        exact hgetCalled.trans ((SortedMap.get?_ofList_singleton _ _ _).trans (if_pos rfl))
    pythonScript := fun text htext => by
      rcases extractPythonScript_eq_ok_iff.mp hscript with ⟨hnone, -⟩ | ⟨_, hsome, rfl⟩
      · rw [hnone] at htext
        cases htext
      · obtain rfl := Json.string.inj (Option.some.inj (hsome.symm.trans htext))
        exact hgetScript.trans ((SortedMap.get?_ofList_singleton _ _ _).trans (if_pos rfl)) }

end Actions

/-! ## Operations -/

section Operations

variable {scope : Scope} {unit : String} {document : Document}

theorem assembleOperation_eq_ok_iff (hregistry : scope.registry = .standard) {action : Action} :
    assembleOperation scope unit document = .ok action
      ↔ ∃ entries : Document, document.get? Keyword.action = some (.map entries) ∧ entries ≠ []
          ∧ (∀ key ∈ entries.keys, key ∈ [Keyword.javaAction, Keyword.pythonScript])
          ∧ runStage (actionUnit scope.unit) entries (Registry.standard.stage .action)
            = .ok action.data := by
  simp only [assembleOperation, assembleAction, hregistry, bind_eq_ok_iff, actionDocument_eq_ok_iff]
  apply Iff.intro
  · intro h
    obtain ⟨entries, ⟨hentries, hne⟩, _, hkeys, data, hdata, h⟩ := h
    cases h
    exact ⟨entries, hentries, hne, validateKeys_action_eq_ok_iff.mp hkeys, hdata⟩
  · intro h
    obtain ⟨entries, hentries, hne, hkeys, hdata⟩ := h
    exact ⟨entries, ⟨hentries, hne⟩, (), validateKeys_action_eq_ok_iff.mpr hkeys, _, hdata, rfl⟩

theorem exists_assembleOperation_iff (hregistry : scope.registry = .standard) :
    (∃ action, assembleOperation scope unit document = .ok action)
      ↔ ∃ entries, document.get? Keyword.action = some (.map entries) ∧ IsAction entries := by
  simp only [assembleOperation_eq_ok_iff hregistry]
  apply Iff.intro
  · intro h
    obtain ⟨action, entries, hentries, hne, hkeys, hdata⟩ := h
    obtain ⟨hcall, hscript⟩ := exists_runStage_action_iff.mp ⟨_, hdata⟩
    exact ⟨entries, hentries, hne, hkeys, hcall, hscript⟩
  · intro h
    obtain ⟨entries, hentries, haction⟩ := h
    obtain ⟨data, hdata⟩ : ∃ data, runStage (actionUnit scope.unit) entries
        (Registry.standard.stage .action) = .ok data :=
      exists_runStage_action_iff.mpr ⟨haction.javaAction, haction.pythonScript⟩
    exact ⟨⟨data⟩, entries, hentries, haction.nonempty, haction.keys, hdata⟩

end Operations

namespace Compiler

variable {options : Options} {unit : SourceUnit} {name : String} {document : Document}

/-- Under any options, the operations that are compiled are those of the grammar. -/
theorem exists_assemble_iff_isOperation (hkind : unit.kind = .operation) :
    (∃ executable, (Compiler.mk .standard options).assemble unit name document = .ok executable)
      ↔ IsOperation unit.imports document := by
  rw [exists_assemble_iff rfl]
  simp only [assembleBody, hkind, exists_map_eq_ok_iff]
  rw [exists_assembleOperation_iff rfl]
  apply Iff.intro
  · intro h
    obtain ⟨hdeclarations, haction⟩ := h
    exact ⟨hdeclarations, haction⟩
  · intro h
    exact ⟨h.toHasDeclarations, h.action⟩

/-- An operation keeps its action, and depends on nothing. -/
theorem holds_of_assemble {executable : Executable} (hkind : unit.kind = .operation)
    (h : (Compiler.mk .standard options).assemble unit name document = .ok executable) :
    ∃ entries action, document.get? Keyword.action = some (.map entries)
      ∧ executable.body = .operation action ∧ action.Holds entries
      ∧ executable.dependencies = .empty := by
  obtain ⟨-, -, _, -, _, -, _, -, body, dependencies, hbody, rfl⟩ := assemble_eq_ok_iff.mp h
  simp only [assembleBody, hkind, map_eq_ok_iff, Prod.mk.injEq] at hbody
  obtain ⟨action, haction, rfl, rfl⟩ := hbody
  obtain ⟨entries, hentries, -, hkeys, hdata⟩ := (assembleOperation_eq_ok_iff rfl).mp haction
  exact ⟨entries, action, hentries, rfl, holds_of_runStage hkeys hdata, rfl⟩

theorem assemble_ne_ok_of_systemProperties (hkind : unit.kind = .systemProperties)
    (executable : Executable) :
    (Compiler.mk .standard options).assemble unit name document ≠ .ok executable := by
  intro h
  obtain ⟨-, -, _, -, _, -, _, -, body, dependencies, hbody, -⟩ := assemble_eq_ok_iff.mp h
  simp only [assembleBody, hkind] at hbody
  cases hbody

end Compiler

/-- A unit of the kind of an operation is compiled exactly if its document is one, whatever the
options, and then its action holds what stands in the source and nothing is depended on. A unit that
is neither a flow nor an operation is never compiled. -/
theorem operations_compiled_exactly (options : Options) (unit : SourceUnit) (name : String)
    (document : Document) :
    (unit.kind = .operation →
      ((∃ executable,
          (Compiler.mk .standard options).assemble unit name document = .ok executable)
        ↔ IsOperation unit.imports document)
      ∧ ∀ executable,
          (Compiler.mk .standard options).assemble unit name document = .ok executable →
          ∃ entries action, document.get? Keyword.action = some (.map entries)
            ∧ executable.body = .operation action ∧ action.Holds entries
            ∧ executable.dependencies = .empty)
    ∧ (unit.kind = .systemProperties → ∀ executable,
        (Compiler.mk .standard options).assemble unit name document ≠ .ok executable) := by
  refine ⟨fun hkind => ⟨?_, fun executable h => ?_⟩, fun hkind executable => ?_⟩
  · exact Compiler.exists_assemble_iff_isOperation hkind
  · exact Compiler.holds_of_assemble hkind h
  · exact Compiler.assemble_ne_ok_of_systemProperties hkind executable

/-- An operation with the action among declarations and keys that do not count. -/
def signOperation (action : Json) : Document :=
  [(Keyword.name, .null),
   (Keyword.inputs, .list [.map [("key", .map [(Keyword.systemProperty, .string "env.key")])]]),
   (Keyword.action, action),
   (Keyword.workflow, .bool true),
   (Keyword.results, .list [.string "SUCCESS"])]

/-- A script and a method call, with blanks around both. -/
def signAction : Document :=
  [(Keyword.pythonScript, .string " sign(key) "),
   (Keyword.javaAction, .map
    [(Keyword.methodName, .string "run "), (Keyword.className, .string "\torg.Sign")])]

/-- The unit of `signOperation`. -/
def signUnit : SourceUnit where
  name := "demo.sign"
  kind := .operation
  space := "demo"
  imports := some (.ofList [("env", "org.env")])

/-- The outcome for `signOperation` with the action. -/
def assembleSignOperation (action : Json) : Except CompileError Executable :=
  (Compiler.mk .standard {}).assemble signUnit "sign" (signOperation action)

/-- The operation is compiled and keeps its action. With a further key in the action, or with
nothing under one of its keys, it is none, and in a unit of properties it is not compiled. -/
theorem signOperation_compiled_exactly :
    signUnit.kind = .operation
      ∧ IsOperation signUnit.imports (signOperation (.map signAction))
      ∧ (∃ executable action, assembleSignOperation (.map signAction) = .ok executable
        ∧ executable.body = .operation action ∧ action.Holds signAction
        ∧ executable.dependencies = .empty
        ∧ action.data.entries = [(Keyword.javaAction, .javaAction ⟨"org.Sign", "run"⟩),
            (Keyword.pythonScript, .pythonScript " sign(key) ")])
      ∧ ¬ IsOperation signUnit.imports (signOperation (.map (("shell", .null) :: signAction)))
      ∧ ¬ IsOperation signUnit.imports (signOperation (.map [(Keyword.javaAction, .null)]))
      ∧ ∀ executable, (Compiler.mk .standard {}).assemble
          { signUnit with kind := .systemProperties } "sign" (signOperation (.map signAction))
            ≠ .ok executable := by
  have hexact (action : Json) := (operations_compiled_exactly {} signUnit "sign"
    (signOperation action)).1 rfl
  have hrejected (action : Json) (h : (assembleSignOperation action).isOk = false) :
      ¬ IsOperation signUnit.imports (signOperation action) := fun hoperation => by
    obtain ⟨executable, hexecutable⟩ := (hexact action).1.mpr hoperation
    rw [assembleSignOperation, hexecutable] at h
    cases h
  obtain ⟨executable, hexecutable, hview⟩ := exists_ok_of_toOption_map
    (show ((assembleSignOperation (.map signAction)).toOption.map fun executable =>
        executable.action?.map fun action => action.data.entries)
        = some (some [(Keyword.javaAction, .javaAction ⟨"org.Sign", "run"⟩),
            (Keyword.pythonScript, .pythonScript " sign(key) ")]) by
      decide +kernel)
  obtain ⟨entries, action, hentries, hbody, hholds, hdependencies⟩ :=
    (hexact (.map signAction)).2 executable hexecutable
  obtain rfl : signAction = entries := Json.map.inj (Option.some.inj hentries)
  rw [Executable.action?, hbody] at hview
  refine ⟨rfl, (hexact _).1.mp ⟨executable, hexecutable⟩, ⟨executable, action, hexecutable, hbody,
    hholds, hdependencies, Option.some.inj hview⟩, hrejected _ ?_, hrejected _ ?_, ?_⟩
  · decide +kernel
  · decide +kernel
  · exact (operations_compiled_exactly {} { signUnit with kind := .systemProperties } "sign"
      (signOperation (.map signAction))).2 rfl

end FlowCompiler
