import FlowCompiler.Proofs.Registries
import FlowCompiler.Proofs.TaskGrammar

/-!
# The fields of the flow language

Every extractor of the flow language makes fields of its own name alone, and holds in them what its
name asks for (`makesOwn_of_mem_standard`): `FieldValue.Suits` says which kind of value that is and
what is known of it. So all that the extractors of a stage make suits the name under which it is
found (`exists_extractor_of_get?`).
-/

namespace FlowCompiler

open Extractor

/-- Whether the header has one or two names of variables and a collection. -/
structure LoopStatement.IsWellFormed (statement : LoopStatement) : Prop where
  few : statement.names.length = 1 ∨ statement.names.length = 2
  names : ∀ name ∈ statement.names, isIdentifier name.toList = true
  collection : Text.IsProper statement.collection

/-- Whether both names of the call are given. -/
structure JavaAction.IsWellFormed (action : JavaAction) : Prop where
  className : Text.IsProper action.className
  methodName : Text.IsProper action.methodName

namespace FieldValue

variable {value : FieldValue}

theorem inputs?_eq_some_iff {held : List Input} :
    value.inputs? = some held ↔ value = .inputs held := by
  cases value <;> simp [inputs?]

theorem navigation?_eq_some_iff {held : Navigation} :
    value.navigation? = some held ↔ value = .navigation held := by
  cases value <;> simp [navigation?]

theorem loop?_eq_some_iff {held : LoopStatement} : value.loop? = some held ↔ value = .loop held := by
  cases value <;> simp [loop?]

/-- Whether a field of the name may hold the value. -/
def Suits (key : String) : FieldValue → Prop
  | .inputs _ => key ∈ [Keyword.inputs, Keyword.callee]
  | .outputs _ => key ∈ [Keyword.outputs, Keyword.publish]
  | .results _ => key = Keyword.results
  | .navigation held => key = Keyword.navigate ∧ ∀ entry ∈ held.entries, Text.IsProper entry.2
  | .loop statement => key = Keyword.header ∧ statement.IsWellFormed
  | .javaAction action => key = Keyword.javaAction ∧ action.IsWellFormed
  | .pythonScript _ => key = Keyword.pythonScript

theorem suits_publish_iff : value.Suits Keyword.publish ↔ ∃ held, value = .outputs held := by
  cases value <;> simp +decide [Suits]

theorem suits_navigate_iff :
    value.Suits Keyword.navigate
      ↔ ∃ held, value = .navigation held ∧ ∀ entry ∈ held.entries, Text.IsProper entry.2 := by
  cases value <;> simp +decide [Suits]

theorem suits_header_iff :
    value.Suits Keyword.header ↔ ∃ statement, value = .loop statement ∧ statement.IsWellFormed := by
  cases value <;> simp +decide [Suits]

theorem suits_javaAction_iff :
    value.Suits Keyword.javaAction
      ↔ ∃ action, value = .javaAction action ∧ action.IsWellFormed := by
  cases value <;> simp +decide [Suits]

theorem suits_pythonScript_iff :
    value.Suits Keyword.pythonScript ↔ ∃ script, value = .pythonScript script := by
  cases value <;> simp +decide [Suits]

end FieldValue

/-! ## What the readers make -/

theorem loopOf_isWellFormed {header : String} {parts : List (List Char)} {collection : List Char}
    (h : IsLoopHeader header parts collection) : (loopOf parts collection).IsWellFormed where
  few := by simpa only [loopOf, List.length_map] using h.few
  names name hname := by
    obtain ⟨part, hpart, rfl⟩ := List.mem_map.mp hname
    rw [String.toList_ofList]
    exact h.names part hpart
  collection := Text.isProper_ofList_trimChars h.filled

theorem isProper_of_readTargets {entries : Document} {targets : List (String × String)}
    (h : readTargets entries = .ok targets) :
    ∀ entry ∈ (SortedMap.ofList targets).entries, Text.IsProper entry.2 := by
  obtain ⟨texts, -, hfilled, rfl⟩ := readTargets_eq_ok_iff.mp h
  intro entry hentry
  have hmem := SortedMap.mem_of_get?_ofList (SortedMap.get?_eq_some_iff.mpr hentry)
  obtain ⟨text, htext, hentry⟩ := List.mem_map.mp hmem
  rw [← (Prod.ext_iff.mp hentry).2]
  exact Text.isProper_trim (hfilled text htext)

theorem isProper_of_requiredText {properties : Document} {key text : String}
    (h : requiredText properties key = .ok text) : Text.IsProper text := by
  unfold requiredText at h
  split at h
  · cases h
  · obtain ⟨held, hheld, rfl⟩ := map_eq_ok_iff.mp h
    exact Text.isProper_trim (readFilledText_eq_ok_iff.mp hheld).2

theorem isWellFormed_of_readJavaAction {properties : Document} {action : JavaAction}
    (h : readJavaAction properties = .ok action) : action.IsWellFormed := by
  unfold readJavaAction at h
  split at h
  · cases h
  · obtain ⟨className, hclass, h⟩ := bind_eq_ok_iff.mp h
    obtain ⟨methodName, hmethod, h⟩ := bind_eq_ok_iff.mp h
    cases h
    exact ⟨isProper_of_requiredText hclass, isProper_of_requiredText hmethod⟩

/-! ## What the extractors make -/

namespace Extractor

/-- Whether all that the extractor makes is found under its own name and suits that. -/
def MakesOwn (extractor : Extractor) : Prop :=
  ∀ document produced, extractor.contribution document = .ok produced →
    ∀ field ∈ produced, field.1 = extractor.name ∧ field.2.Suits extractor.name

variable {extractor : Extractor}

theorem MakesOwn.of_extract
    (h : ∀ document produced, extractor.extract document = .ok produced →
      ∀ field ∈ produced, field.1 = extractor.name ∧ field.2.Suits extractor.name) :
    extractor.MakesOwn := by
  intro document produced hproduced
  unfold contribution at hproduced
  split at hproduced
  · exact h document produced hproduced
  · cases hproduced
    exact List.forall_mem_nil _

theorem makesOwn_listUnder {α : Type} {format : ItemFormat α} {key : String} {stage : Stage}
    {field : List α → FieldValue} (h : ∀ values, (field values).Suits key) :
    (listUnder format key stage field).MakesOwn := by
  refine .of_extract fun document produced hproduced => ?_
  obtain ⟨values, -, rfl⟩ := map_eq_ok_iff.mp hproduced
  exact List.forall_mem_singleton.mpr ⟨rfl, h values⟩

/-- A call makes at most one field: the bindings of the first executable. -/
theorem extractCallee_eq_ok_cases {document : Document} {produced : List (String × FieldValue)}
    (h : extractCallee document = .ok produced) :
    produced = []
      ∨ ∃ reference bindings rest,
          document.get? Keyword.callee = some (.map ((reference, bindings) :: rest))
            ∧ produced = [(Keyword.callee, .inputs (declarations inputOf (entries bindings)))] := by
  unfold extractCallee at h
  split at h
  · exact .inl (Except.ok.inj h).symm
  · exact .inl (Except.ok.inj h).symm
  · exact .inl (Except.ok.inj h).symm
  · next reference bindings rest hcalls =>
    obtain ⟨inputs, hinputs, rfl⟩ := map_eq_ok_iff.mp h
    obtain ⟨-, rfl⟩ := readBindings_eq_ok_iff.mp hinputs
    exact .inr ⟨reference, bindings, rest, hcalls, rfl⟩
  · cases h

theorem makesOwn_callee : callee.MakesOwn := by
  refine .of_extract fun document produced hproduced => ?_
  rcases extractCallee_eq_ok_cases hproduced with rfl | ⟨reference, bindings, rest, -, rfl⟩
  · exact List.forall_mem_nil _
  · exact List.forall_mem_singleton.mpr ⟨rfl, List.mem_cons_of_mem _ List.mem_cons_self⟩

theorem makesOwn_loopHeader : loopHeader.MakesOwn := by
  refine .of_extract fun document produced hproduced => ?_
  rcases extractLoopHeader_eq_ok_iff.mp hproduced with ⟨-, rfl⟩ | ⟨header, statement, -, hread, rfl⟩
  · exact List.forall_mem_nil _
  · obtain ⟨parts, collection, hheader, rfl⟩ := readLoopHeader_eq_ok_iff.mp hread
    exact List.forall_mem_singleton.mpr ⟨rfl, rfl, loopOf_isWellFormed hheader⟩

theorem makesOwn_navigate : navigate.MakesOwn := by
  refine .of_extract fun document produced hproduced => ?_
  rcases extractNavigation_eq_ok_iff.mp hproduced with ⟨-, rfl⟩ | ⟨entries, targets, -, hread, rfl⟩
  · exact List.forall_mem_nil _
  · exact List.forall_mem_singleton.mpr ⟨rfl, rfl, isProper_of_readTargets hread⟩

/-- A method call makes at most one field, under its own key. -/
theorem extractJavaAction_eq_ok_iff {document : Document} {produced : List (String × FieldValue)} :
    extractJavaAction document = .ok produced
      ↔ (document.get? Keyword.javaAction = none ∧ produced = [])
        ∨ ∃ properties action, document.get? Keyword.javaAction = some (.map properties)
            ∧ readJavaAction properties = .ok action
            ∧ produced = [(Keyword.javaAction, .javaAction action)] := by
  unfold extractJavaAction
  cases document.get? Keyword.javaAction with
  | none => simp [eq_comm]
  | some value =>
    cases value with
    | map properties => simp [map_eq_ok_iff, eq_comm (b := produced)]
    | null | bool held | number held | string held | list items => simp

/-- A script makes at most one field, under its own key. -/
theorem extractPythonScript_eq_ok_iff {document : Document}
    {produced : List (String × FieldValue)} :
    extractPythonScript document = .ok produced
      ↔ (document.get? Keyword.pythonScript = none ∧ produced = [])
        ∨ ∃ script, document.get? Keyword.pythonScript = some (.string script)
            ∧ produced = [(Keyword.pythonScript, .pythonScript script)] := by
  unfold extractPythonScript
  cases document.get? Keyword.pythonScript with
  | none => simp [eq_comm]
  | some value => cases value <;> simp [eq_comm]

theorem makesOwn_javaAction : javaAction.MakesOwn := by
  refine .of_extract fun document produced hproduced => ?_
  rcases extractJavaAction_eq_ok_iff.mp hproduced with
    ⟨-, rfl⟩ | ⟨properties, action, -, hread, rfl⟩
  · exact List.forall_mem_nil _
  · exact List.forall_mem_singleton.mpr ⟨rfl, rfl, isWellFormed_of_readJavaAction hread⟩

theorem makesOwn_pythonScript : pythonScript.MakesOwn := by
  refine .of_extract fun document produced hproduced => ?_
  rcases extractPythonScript_eq_ok_iff.mp hproduced with ⟨-, rfl⟩ | ⟨script, -, rfl⟩
  · exact List.forall_mem_nil _
  · exact List.forall_mem_singleton.mpr ⟨rfl, rfl⟩

/-- Every extractor of the flow language makes fields of its own name, which suit that. -/
theorem makesOwn_of_mem_standard (h : extractor ∈ standard) : extractor.MakesOwn := by
  simp only [standard, List.mem_cons, List.not_mem_nil, or_false] at h
  rcases h with rfl | rfl | rfl | rfl | rfl | rfl | rfl | rfl | rfl
  · exact makesOwn_listUnder fun values => List.mem_cons_self
  · exact makesOwn_listUnder fun values => List.mem_cons_self
  · exact makesOwn_listUnder fun values => rfl
  · exact makesOwn_callee
  · exact makesOwn_loopHeader
  · exact makesOwn_listUnder fun values => List.mem_cons_of_mem _ List.mem_cons_self
  · exact makesOwn_navigate
  · exact makesOwn_javaAction
  · exact makesOwn_pythonScript

end Extractor

/-! ## What a stage makes -/

variable {unit : String} {document : Document} {extractors : List Extractor} {fields : FieldMap}
  {key : String} {value : FieldValue}

/-- Whatever is found after a stage has been made by one of its extractors. -/
theorem exists_produced_of_get? (h : runStage unit document extractors = .ok fields)
    (hget : fields.get? key = some value) :
    ∃ extractor ∈ extractors, ∃ produced, extractor.contribution document = .ok produced
      ∧ (key, value) ∈ produced := by
  obtain ⟨all, hall, rfl⟩ := runStage_eq_ok_iff.mp h
  obtain ⟨produced, hproduced, hmem⟩ := List.mem_flatten.mp (SortedMap.mem_of_get?_ofList hget)
  obtain ⟨i, hi, rfl⟩ := List.mem_iff_getElem.mp hproduced
  have hlength : i < extractors.length := hall.length_eq ▸ hi
  exact ⟨extractors[i], List.getElem_mem hlength, all[i], hall.get hlength hi, hmem⟩

/-- An extractor that makes fields of its own name makes none of another. -/
theorem Extractor.MakesOwn.get?_eq_none {extractor : Extractor} (h : extractor.MakesOwn)
    {produced : List (String × FieldValue)}
    (hproduced : extractor.contribution document = .ok produced) (hkey : key ≠ extractor.name) :
    (SortedMap.ofList produced).get? key = none := by
  refine SortedMap.get?_ofList_eq_none fun field hfield heq => ?_
  exact hkey (heq.symm.trans (h document produced hproduced field hfield).1)

/-- Two extractors of different names do not get in each other's way. -/
theorem get?_of_runStage_pair {first second : Extractor} (hfirst : first.MakesOwn)
    (hsecond : second.MakesOwn) (hname : first.name ≠ second.name)
    (h : runStage unit document [first, second] = .ok fields) :
    ∃ left right, first.contribution document = .ok left ∧ second.contribution document = .ok right
      ∧ fields.get? first.name = (SortedMap.ofList left).get? first.name
      ∧ fields.get? second.name = (SortedMap.ofList right).get? second.name := by
  obtain ⟨left, right, hleft, hright, rfl⟩ := runStage_pair_eq_ok_iff.mp h
  refine ⟨left, right, hleft, hright, ?_, ?_⟩
  · rw [SortedMap.get?_ofList_append, hsecond.get?_eq_none hright hname, Option.none_or]
  · rw [SortedMap.get?_ofList_append, hfirst.get?_eq_none hleft hname.symm, Option.or_none]

/-- The outputs and results of an executable do not get in each other's way. -/
theorem get?_of_afterExecutable
    (h : runStage unit document (Registry.standard.stage .afterExecutable) = .ok fields) :
    ∃ left right, Extractor.outputs.contribution document = .ok left
      ∧ Extractor.results.contribution document = .ok right
      ∧ fields.get? Keyword.outputs = (SortedMap.ofList left).get? Keyword.outputs
      ∧ fields.get? Keyword.results = (SortedMap.ofList right).get? Keyword.results := by
  rw [stage_afterExecutable] at h
  exact get?_of_runStage_pair
    (Extractor.makesOwn_of_mem_standard (by simp [Extractor.standard]))
    (Extractor.makesOwn_of_mem_standard (by simp [Extractor.standard])) (by decide) h

theorem Registry.mem_standard_of_mem_stage {stage : Stage} {extractor : Extractor}
    (h : extractor ∈ Registry.standard.stage stage) : extractor ∈ Extractor.standard := by
  rw [standard, stage_ofList] at h
  exact List.mem_of_mem_filter h

/-- Whatever is found after a stage of the flow language has the name of one of its extractors, and
suits that. -/
theorem suits_of_get? {stage : Stage}
    (h : runStage unit document (Registry.standard.stage stage) = .ok fields)
    (hget : fields.get? key = some value) :
    key ∈ (Registry.standard.stage stage).map Extractor.name ∧ value.Suits key := by
  obtain ⟨extractor, hextractor, produced, hproduced, hmem⟩ := exists_produced_of_get? h hget
  obtain ⟨hkey, hvalue⟩ := makesOwn_of_mem_standard (Registry.mem_standard_of_mem_stage hextractor)
    document produced hproduced _ hmem
  dsimp only at hkey hvalue
  exact ⟨List.mem_map.mpr ⟨extractor, hextractor, hkey.symm⟩, hkey ▸ hvalue⟩

end FlowCompiler
