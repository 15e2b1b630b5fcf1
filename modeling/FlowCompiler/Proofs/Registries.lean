import FlowCompiler.Proofs.Agreement
import Mathlib.Data.List.Basic

/-!
# What a compilation uses of a registry

The extractors of a stage are those of the registry that run at it, in the order of registration
(`Registry.stage_ofList`, `Registry.stages_ofList`). Of these only the ones that have a key in a map
matter to what is made of the map (`runStage_filter_applies`) and to which of its keys are claimed
(`validateKeys_filter_applies`).

Two compilations with registries of their own agree if the registries do so on every map that
extractors are shown, of which `shownMaps` is the list (`Compiler.agree_assemble_of_registries`).
-/

namespace FlowCompiler

/-! ## The extractors of a stage -/

namespace Registry

theorem map_get_filter (extractors : List Extractor) (p : Extractor → Bool) :
    ((List.finRange extractors.length).filter fun i => p (extractors.get i)).map extractors.get
      = extractors.filter p := by
  calc
    _ = ((List.finRange extractors.length).map extractors.get).filter p := List.filter_map.symm
    _ = extractors.filter p := congrArg _ (List.map_get_finRange extractors)

theorem stage_ofList (extractors : List Extractor) (stage : Stage) :
    (ofList extractors).stage stage
      = extractors.filter fun extractor => extractor.stages.contains stage :=
  map_get_filter extractors fun extractor => extractor.stages.contains stage

theorem contains_groups_ofList (extractors : List Extractor) (stage : Stage)
    (i : Fin extractors.length) :
    ((ofList extractors).groups stage).contains i = (extractors.get i).stages.contains stage := by
  rw [Bool.eq_iff_iff]
  refine List.contains_iff_mem.trans ?_
  exact List.mem_filter.trans (and_iff_right (List.mem_finRange i))

theorem positions_ofList (extractors : List Extractor) (stages : List Stage) :
    (ofList extractors).positions stages
      = (List.finRange extractors.length).filter fun i =>
          stages.any (extractors.get i).stages.contains :=
  List.filter_congr fun i _ =>
    congrArg stages.any (funext fun stage => contains_groups_ofList extractors stage i)

theorem stages_ofList (extractors : List Extractor) (stages : List Stage) :
    (ofList extractors).stages stages
      = extractors.filter fun extractor => stages.any extractor.stages.contains := by
  rw [← map_get_filter, ← positions_ofList]
  rfl

end Registry

/-! ## The extractors that apply -/

variable {unit : String} {part : Document}

namespace Extractor

theorem applies_iff {extractor : Extractor} :
    extractor.applies part = true ↔ ∃ key ∈ extractor.keys, key ∈ part.keys := by
  simp [applies, Document.contains, Document.keys]

end Extractor

/-- An extractor that claims a key of the map applies to it. -/
theorem isClaimed_filter_applies {extractors : List Extractor} {additional : List String}
    {key : String} (hkey : key ∈ part.keys) :
    isClaimed (extractors.filter fun extractor => extractor.applies part) additional key
      = isClaimed extractors additional key := by
  rw [isClaimed, isClaimed, List.any_filter]
  refine congrArg (· || _) (congrArg extractors.any (funext fun extractor => ?_))
  cases hclaims : extractor.keys.contains key with
  | false => exact Bool.and_false _
  | true =>
    have happlies : extractor.applies part = true :=
      Extractor.applies_iff.mpr ⟨key, List.contains_iff_mem.mp hclaims, hkey⟩
    rw [happlies, Bool.and_true]

/-- The keys of two maps are checked alike if the same of them are claimed. -/
theorem validateKeys_congr {extractors others : List Extractor} {additional : List String}
    (h : ∀ key ∈ part.keys,
      isClaimed extractors additional key = isClaimed others additional key) :
    validateKeys unit part extractors additional = validateKeys unit part others additional := by
  have hkeys : part.keys.filter (fun key => !isClaimed extractors additional key)
      = part.keys.filter fun key => !isClaimed others additional key :=
    List.filter_congr fun key hkey => congrArg not (h key hkey)
  rw [validateKeys, validateKeys, ← List.head?_filter, ← List.head?_filter, hkeys]

theorem validateKeys_filter_applies {extractors : List Extractor} {additional : List String} :
    validateKeys unit part (extractors.filter fun extractor => extractor.applies part) additional
      = validateKeys unit part extractors additional :=
  validateKeys_congr fun _ => isClaimed_filter_applies

theorem runStageFrom_filter_applies {fields : FieldMap} {extractors : List Extractor} :
    runStageFrom fields unit part (extractors.filter fun extractor => extractor.applies part)
      = runStageFrom fields unit part extractors := by
  induction extractors generalizing fields with
  | nil => rfl
  | cons extractor rest ih =>
    rw [List.filter_cons]
    split
    · rw [runStageFrom_cons_eq, runStageFrom_cons_eq]
      simp only [ih]
    · next happlies => rw [ih, runStageFrom, if_neg happlies]

theorem runStage_filter_applies {extractors : List Extractor} :
    runStage unit part (extractors.filter fun extractor => extractor.applies part)
      = runStage unit part extractors :=
  runStageFrom_filter_applies

/-! ## Registries that agree -/

/-- The maps that extractors are shown when the document is compiled: the document itself, its
action, and the bodies of its tasks. -/
def shownMaps (document : Document) : List Document :=
  document :: (actions ++ (taskEntries document).map fun entry => taskBody entry.2)
where
  actions : List Document :=
    match document.get? Keyword.action with
    | some (.map action) => [action]
    | _ => []

theorem self_mem_shownMaps (document : Document) : document ∈ shownMaps document :=
  List.mem_cons_self

theorem action_mem_shownMaps {document action : Document}
    (h : document.get? Keyword.action = some (.map action)) : action ∈ shownMaps document := by
  simp [shownMaps, shownMaps.actions, h]

theorem body_mem_shownMaps {document : Document} {entry : String × Json}
    (h : entry ∈ taskEntries document) : taskBody entry.2 ∈ shownMaps document :=
  List.mem_cons_of_mem _ (List.mem_append_right _ (List.mem_map_of_mem h))

/-- The registries do the same with a map, whatever it is called in errors: they claim the same of
its keys, and their stages agree on what they make of it. -/
structure Registry.AgreeOn (P : CompileError → CompileError → Prop) (left right : Registry)
    (part : Document) : Prop where
  stageKeys (unit : String) (stage : Stage) (additional : List String) :
    validateKeys unit part (left.stage stage) additional
      = validateKeys unit part (right.stage stage) additional
  stagesKeys (unit : String) (stages : List Stage) (additional : List String) :
    validateKeys unit part (left.stages stages) additional
      = validateKeys unit part (right.stages stages) additional
  fields (unit : String) (stage : Stage) :
    Agree P (runStage unit part (left.stage stage)) (runStage unit part (right.stage stage))

section Registries

variable {P : CompileError → CompileError → Prop} [Std.Refl P] {left right : Registry}
  {imports : Option Imports} {name : String} {document : Document}

theorem agree_assembleTask_of_registries {body : Document} (h : left.AgreeOn P right body)
    (success failure : String) :
    Agree P (assembleTask ⟨left, imports, unit⟩ name body success failure)
      (assembleTask ⟨right, imports, unit⟩ name body success failure) := by
  unfold assembleTask
  split
  · exact .refl _
  · refine .bind (.of_eq (h.stagesKeys ..)) fun _ _ => ?_
    refine .bind (h.fields ..) fun before _ => ?_
    refine .bind (h.fields ..) fun after _ => ?_
    -- From here on only the table of the scope counts.
    exact .refl _

theorem agree_assembleAction_of_registries {action : Document} (h : left.AgreeOn P right action) :
    Agree P (assembleAction ⟨left, imports, unit⟩ action)
      (assembleAction ⟨right, imports, unit⟩ action) := by
  refine .bind (.of_eq (h.stageKeys ..)) fun _ _ => ?_
  exact .bind (h.fields ..) fun data _ => .refl _

/-- Registries that agree on every map that extractors are shown make the same of a document. -/
theorem Compiler.agree_assemble_of_registries (options : Options) (unit : SourceUnit)
    (name : String) (h : ∀ part ∈ shownMaps document, left.AgreeOn P right part) :
    Agree P ((Compiler.mk left options).assemble unit name document)
      ((Compiler.mk right options).assemble unit name document) := by
  have hdocument := h document (self_mem_shownMaps document)
  have hbody : Agree P (assembleBody ⟨left, unit.imports, name⟩ options unit document)
      (assembleBody ⟨right, unit.imports, name⟩ options unit document) := by
    refine agree_assembleBody rfl (fun _ entry hentry => ?_) fun _ action haction => ?_
    · exact agree_assembleTask_of_registries (h _ (body_mem_shownMaps hentry))
    · exact agree_assembleAction_of_registries (h _ (action_mem_shownMaps haction))
  exact agree_assemble (.of_eq (hdocument.stagesKeys ..)) (fun stage _ => hdocument.fields ..)
    (fun before _ => .refl _) hbody

end Registries

end FlowCompiler
