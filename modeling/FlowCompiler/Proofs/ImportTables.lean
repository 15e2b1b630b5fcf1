import FlowCompiler.Proofs.Agreement
import FlowCompiler.Proofs.FlowGrammar
import FlowCompiler.Proofs.StandardFields

/-!
# What a compilation uses of a table of aliases

A reference is looked up in three places: where a task calls an executable, where a binding of the
call names a system property, and where an input of the executable names one. `references` lists
the references of a document, and two tables that say the same about their aliases make the same of
it, be it an executable or an error. If a document is accepted, every alias that it uses is in the
table (`knows_of_assemble`); so a table with further aliases makes the same executable
(`used_aliases_determine_outcome`).
-/

namespace FlowCompiler

open Extractor Reference

/-! ## The references of a document -/

/-- The system properties that the entries of inputs or bindings name. -/
def namedProperties (entries : Document) : List String :=
  entries.filterMap fun entry => systemProperty? entry.2

/-- The references in the body of a task: the executables that it calls, and the system properties
among their bindings. -/
def bodyReferences (body : Document) : List String :=
  match body.get? Keyword.callee with
  | some (.map calls) => calls.flatMap fun call => call.1 :: namedProperties (entries call.2)
  | _ => []

/-- The references in a document of the kind: those of its inputs and, if it is a flow, those of all
its tasks. -/
def references (kind : UnitKind) (document : Document) : List String :=
  namedProperties (entries (document.value Keyword.inputs)) ++
    if kind = .flow then
      (taskEntries document).flatMap fun entry => bodyReferences (taskBody entry.2)
    else []

theorem mem_bodyReferences_iff {body calls : Document} {reference : String}
    (h : body.get? Keyword.callee = some (.map calls)) :
    reference ∈ bodyReferences body
      ↔ ∃ call ∈ calls, reference ∈ call.1 :: namedProperties (entries call.2) := by
  rw [bodyReferences, h]
  exact List.mem_flatMap

theorem knowsProperties_iff {imports : Option Imports} {entries : Document} :
    KnowsProperties imports entries
      ↔ ∀ reference ∈ namedProperties entries, Knows imports reference := by
  simp only [KnowsProperties, namedProperties, List.mem_filterMap]
  exact ⟨fun h reference ⟨entry, hentry, hnamed⟩ => h entry hentry reference hnamed,
    fun h entry hentry reference hnamed => h reference ⟨entry, hentry, hnamed⟩⟩

/-! ## Tables that agree -/

/-- The tables have the same namespace for the alias of every reference of the list, or neither has
one. -/
def Imports.AgreeOn (left right : Imports) (references : List String) : Prop :=
  ∀ reference ∈ references, left.get? (aliasOf reference) = right.get? (aliasOf reference)

instance (left right : Imports) (references : List String) :
    Decidable (left.AgreeOn right references) :=
  inferInstanceAs (Decidable (∀ reference ∈ references,
    left.get? (aliasOf reference) = right.get? (aliasOf reference)))

variable {left right : Imports}

theorem Imports.AgreeOn.mono {part all : List String} (h : left.AgreeOn right all)
    (hsubset : ∀ reference ∈ part, reference ∈ all) : left.AgreeOn right part :=
  fun reference hreference => h reference (hsubset reference hreference)

namespace Reference

theorem resolve_eq_of_agree {reference : String}
    (h : left.get? (aliasOf reference) = right.get? (aliasOf reference)) :
    resolve (some left) reference = resolve (some right) reference := by
  simp only [resolve, parts_eq, h]

theorem resolveInput_eq_of_agree {input : Input}
    (h : ∀ property, input.systemProperty = some property →
      left.get? (aliasOf property) = right.get? (aliasOf property)) :
    resolveInput (some left) input = resolveInput (some right) input := by
  unfold resolveInput
  cases hproperty : input.systemProperty with
  | none => rfl
  | some property => simp only [resolve_eq_of_agree (h property hproperty)]

theorem resolveInputs_eq_of_agree {inputs : List Input}
    (h : ∀ input ∈ inputs, ∀ property, input.systemProperty = some property →
      left.get? (aliasOf property) = right.get? (aliasOf property)) :
    resolveInputs (some left) inputs = resolveInputs (some right) inputs := by
  induction inputs with
  | nil => rfl
  | cons input rest ih =>
    obtain ⟨hinput, hrest⟩ := List.forall_mem_cons.mp h
    simp only [resolveInputs, resolveInput_eq_of_agree hinput, ih hrest]

end Reference

theorem Scope.resolveInputs_eq_of_agreeOn {registry : Registry} {unit name : String}
    {entries : Document} (h : left.AgreeOn right (namedProperties entries)) :
    (Scope.mk registry (some left) unit).resolveInputs name (declarations inputOf entries)
      = (Scope.mk registry (some right) unit).resolveInputs name
          (declarations inputOf entries) := by
  have hinputs : ∀ input ∈ declarations inputOf entries, ∀ property,
      input.systemProperty = some property →
        left.get? (aliasOf property) = right.get? (aliasOf property) := by
    refine List.forall_mem_map.mpr fun entry hentry property hproperty => h property ?_
    rw [systemProperty_inputOf] at hproperty
    exact List.mem_filterMap.mpr ⟨entry, hentry, hproperty⟩
  simp only [resolveInputs, resolveAll, resolveInputs_eq_of_agree hinputs]

/-! ## Tasks -/

section Tasks

variable {unit name : String} {body : Document}

/-- The bindings that a task holds before they are resolved are those of its first call. -/
theorem exists_call_of_beforeTask {before : FieldMap} {held : List Input}
    (hbefore : runStage name body (Registry.standard.stage .beforeTask) = .ok before)
    (hget : before.get? Keyword.callee = some (.inputs held)) :
    ∃ reference bindings rest,
      body.get? Keyword.callee = some (.map ((reference, bindings) :: rest))
        ∧ held = declarations inputOf (entries bindings) := by
  obtain ⟨called, looped, hcalled, hlooped, rfl⟩ := runStage_beforeTask_eq_ok_iff.mp hbefore
  rcases List.mem_append.mp (SortedMap.mem_of_get?_ofList hget) with hmem | hmem
  · rcases extractCallee_eq_ok_cases hcalled with rfl | ⟨reference, bindings, rest, hcalls, rfl⟩
    · cases hmem
    · obtain ⟨-, hheld⟩ := Prod.mk.inj (List.mem_singleton.mp hmem)
      exact ⟨reference, bindings, rest, hcalls, FieldValue.inputs.inj hheld⟩
  · rcases extractLoopHeader_eq_ok_iff.mp hlooped with ⟨-, rfl⟩ | ⟨header, statement, -, -, rfl⟩
    · cases hmem
    · exact nomatch (Prod.mk.inj (List.mem_singleton.mp hmem)).2

theorem resolveBindings_eq_of_agreeOn {before : FieldMap}
    (hbefore : runStage name body (Registry.standard.stage .beforeTask) = .ok before)
    (h : left.AgreeOn right (bodyReferences body)) :
    resolveBindings ⟨.standard, some left, unit⟩ name before
      = resolveBindings ⟨.standard, some right, unit⟩ name before := by
  unfold resolveBindings
  split
  · rfl
  · next held hheld =>
    obtain ⟨value, hget, hvalue⟩ := Option.bind_eq_some_iff.mp hheld
    rw [FieldValue.inputs?_eq_some_iff.mp hvalue] at hget
    obtain ⟨reference, bindings, rest, hcalls, rfl⟩ := exists_call_of_beforeTask hbefore hget
    have hbindings : left.AgreeOn right (namedProperties (entries bindings)) :=
      h.mono fun property hproperty => (mem_bodyReferences_iff hcalls).mpr
        ⟨(reference, bindings), List.mem_cons_self, List.mem_cons_of_mem _ hproperty⟩
    rw [Scope.resolveInputs_eq_of_agreeOn hbindings]

theorem agree_assembleTask_of_agreeOn (h : left.AgreeOn right (bodyReferences body))
    (success failure : String) :
    Agree Eq (assembleTask ⟨.standard, some left, unit⟩ name body success failure)
      (assembleTask ⟨.standard, some right, unit⟩ name body success failure) := by
  unfold assembleTask
  split
  · exact .refl _
  · refine .bind (.refl _) fun _ _ => ?_
    refine .bind (.refl _) fun before hbefore => ?_
    refine .bind (.refl _) fun after _ => ?_
    refine .bind (.of_eq (resolveBindings_eq_of_agreeOn hbefore h)) fun resolved _ => ?_
    refine .bind (.refl _) fun reference hreference => ?_
    obtain ⟨bindings, hcall⟩ := calleeReference_eq_ok_iff.mp hreference
    have hreferred : reference ∈ bodyReferences body := (mem_bodyReferences_iff hcall).mpr
      ⟨(reference, bindings), List.mem_cons_self, List.mem_cons_self⟩
    refine .bind (.of_eq ?_) fun refId _ => .refl _
    simp only [Scope.resolve, resolve_eq_of_agree (h reference hreferred)]

theorem IsTaskBody.knows {imports : Option Imports} (h : IsTaskBody imports body) :
    ∀ reference ∈ bodyReferences body, Knows imports reference := by
  intro reference hreference
  obtain ⟨called, bindings, hcall, hknown, -, hproperties⟩ := h.call
  obtain ⟨call, hmem, hreference⟩ := (mem_bodyReferences_iff hcall).mp hreference
  obtain rfl := List.mem_singleton.mp hmem
  rcases List.mem_cons.mp hreference with rfl | hnamed
  · exact hknown
  · exact knowsProperties_iff.mp hproperties reference hnamed

end Tasks

/-! ## Executables -/

section Executables

variable {options : Options} {unit : SourceUnit} {name : String} {document : Document}

/-- Tables that agree on the references of a document make the same of it. -/
theorem Compiler.assemble_eq_of_agreeOn (h : left.AgreeOn right (references unit.kind document)) :
    (Compiler.mk .standard options).assemble { unit with imports := some left } name document
      = (Compiler.mk .standard options).assemble { unit with imports := some right } name
          document := by
  have hinputs : left.AgreeOn right
      (namedProperties (entries (document.value Keyword.inputs))) :=
    h.mono fun _ => List.mem_append_left _
  have htasks (hflow : unit.kind = .flow) (entry : String × Json)
      (hentry : entry ∈ taskEntries document) :
      left.AgreeOn right (bodyReferences (taskBody entry.2)) := by
    refine h.mono fun reference hreference => ?_
    rw [references, if_pos hflow]
    exact List.mem_append_right _ (List.mem_flatMap.mpr ⟨entry, hentry, hreference⟩)
  have hbody : Agree Eq (assembleBody ⟨.standard, some left, name⟩ options unit document)
      (assembleBody ⟨.standard, some right, name⟩ options unit document) :=
    agree_assembleBody rfl (fun hflow entry hentry success failure =>
      agree_assembleTask_of_agreeOn (htasks hflow entry hentry) success failure)
      fun _ _ _ => .refl _
  refine (agree_assemble (.refl _) (fun stage _ => .refl _) (fun before hbefore => ?_) hbody).eq
  rw [declared_of_beforeExecutable hbefore, Scope.resolveInputs_eq_of_agreeOn hinputs]
  exact .refl _

/-- Every alias that an accepted document uses is in the table. -/
theorem Compiler.knows_of_assemble {executable : Executable}
    (h : (Compiler.mk .standard options).assemble unit name document = .ok executable) :
    ∀ reference ∈ references unit.kind document, Knows unit.imports reference := by
  intro reference hreference
  rcases List.mem_append.mp hreference with hreference | hreference
  · obtain ⟨hdeclarations, -⟩ := (exists_assemble_iff rfl).mp ⟨executable, h⟩
    exact knowsProperties_iff.mp hdeclarations.properties reference hreference
  · split at hreference
    · next hflow =>
      obtain ⟨entry, hentry, hreference⟩ := List.mem_flatMap.mp hreference
      obtain ⟨tasks, workflow, htasks, -, -, hslots⟩ := exists_layout_of_assemble hflow h
      have htask : ∀ slot ∈ layout tasks, IsTask unit.imports slot.body := fun slot hslot =>
        (Slot.exists_assembles_iff rfl).mp (exists_forall₂_iff.mp ⟨_, hslots⟩ slot hslot)
      rw [taskEntries_eq htasks] at hentry
      obtain ⟨part, hpart, hentry⟩ := List.mem_flatMap.mp hentry
      have hbody := forall_mem_layout_iff.mp htask part hpart entry hentry
      exact (isTask_iff.mp hbody).2.knows reference hreference
    · cases hreference

/-- What is made of a document depends on the table of aliases only through the references of the
document: two tables that say the same about their aliases lead to the same executable or the same
error. In particular a document that is accepted is so with every larger table, and the executable
is the same. -/
theorem used_aliases_determine_outcome (options : Options) (unit : SourceUnit) (name : String)
    (document : Document) (left right : Imports) :
    (left.AgreeOn right (references unit.kind document) →
      (Compiler.mk .standard options).assemble { unit with imports := some left } name document
        = (Compiler.mk .standard options).assemble { unit with imports := some right } name
            document)
    ∧ ∀ executable,
        (Compiler.mk .standard options).assemble { unit with imports := some left } name document
          = .ok executable →
        (∀ target space, left.get? target = some space → right.get? target = some space) →
        (Compiler.mk .standard options).assemble { unit with imports := some right } name document
          = .ok executable := by
  refine ⟨Compiler.assemble_eq_of_agreeOn, fun executable h hextends => ?_⟩
  have hagree : left.AgreeOn right (references unit.kind document) := by
    intro reference hreference
    obtain ⟨table, space, htable, hspace⟩ := Compiler.knows_of_assemble h reference hreference
    obtain rfl : left = table := Option.some.inj htable
    rw [hspace, hextends _ _ hspace]
  rw [← Compiler.assemble_eq_of_agreeOn hagree]
  exact h

end Executables

/-- A flow with references in an input, in a loop and in an error section, one of them without a
dot. -/
def sendFlow : Document :=
  [(Keyword.inputs, .list
    [.map [("region", .map [(Keyword.systemProperty, .string "env.cloud.region")])]]),
   (Keyword.workflow, .map
    [("send", .map [(Keyword.loop, .map
      [(Keyword.header, .string "reader in readers"),
       (Keyword.callee, .map [("ops.send", .list
        [.map [("place", .map [(Keyword.systemProperty, .string "env.place")])]])])])]),
     (Keyword.onFailure, .map
      [("undo", .map [(Keyword.callee, .map [("ops", .null)])])])])]

/-- The unit of `sendFlow`, without a table. -/
def sendUnit : SourceUnit where
  name := "demo.send"
  kind := .flow
  space := "demo"

/-- The outcome for `sendFlow` with a table. -/
def assembleSendFlow (table : Imports) : Except CompileError Executable :=
  (Compiler.mk .standard {}).assemble { sendUnit with imports := some table } "send" sendFlow

/-- A table with the two aliases that occur in `sendFlow`. -/
def sendTable : Imports :=
  .ofList [("ops", "org.ops"), ("env", "org.env")]

/-- Aliases that those of `sendFlow` or its references begin with, or that begin with those. -/
def nearbyAliases : List (String × String) :=
  [("op", "org.op"), ("ops.send", "org.send"), ("env.cloud", "org.cloud"), ("", "org")]

/-- Aliases that do not occur make no difference, neither to an executable nor to an error; the
namespace of one that occurs does. -/
theorem sendFlow_uses_two_aliases :
    references .flow sendFlow = ["env.cloud.region", "ops.send", "env.place", "ops"]
    ∧ (∃ executable, assembleSendFlow sendTable = .ok executable
        ∧ assembleSendFlow (sendTable.insertMany nearbyAliases) = .ok executable
        ∧ assembleSendFlow (sendTable.insert "env" "com.env") ≠ .ok executable)
    ∧ Imports.AgreeOn (sendTable.erase "ops") ((sendTable.erase "ops").insertMany nearbyAliases)
        (references .flow sendFlow)
    ∧ assembleSendFlow (sendTable.erase "ops")
        = assembleSendFlow ((sendTable.erase "ops").insertMany nearbyAliases)
    ∧ assembleSendFlow (sendTable.erase "ops")
        = .error (.reference (some "undo") (.unresolvedAlias "ops" "ops")) := by
  have hagree : Imports.AgreeOn (sendTable.erase "ops")
      ((sendTable.erase "ops").insertMany nearbyAliases) (references .flow sendFlow) := by
    decide +kernel
  have hextends : ∀ target space, sendTable.get? target = some space →
      (sendTable.insertMany nearbyAliases).get? target = some space := by
    intro target space hget
    have hentries : ∀ entry ∈ sendTable.entries,
        entry ∈ (sendTable.insertMany nearbyAliases).entries := by decide +kernel
    exact SortedMap.get?_eq_some_iff.mpr (hentries _ (SortedMap.get?_eq_some_iff.mp hget))
  obtain ⟨executable, hexecutable⟩ : ∃ executable, assembleSendFlow sendTable = .ok executable :=
    exists_ok_of_isOk (by decide +kernel)
  have hother : assembleSendFlow (sendTable.insert "env" "com.env")
      ≠ assembleSendFlow sendTable := by decide +kernel
  refine ⟨by decide +kernel, ⟨executable, hexecutable, ?_, hexecutable ▸ hother⟩, hagree, ?_,
    by decide +kernel⟩
  · exact (used_aliases_determine_outcome {} sendUnit "send" sendFlow sendTable _).2 executable
      hexecutable hextends
  · exact (used_aliases_determine_outcome {} sendUnit "send" sendFlow _ _).1 hagree

end FlowCompiler
