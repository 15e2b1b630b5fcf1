import FlowCompiler.Extractor.Registry
import FlowCompiler.Proofs.Registries
import Mathlib.Data.List.Destutter
import Mathlib.Data.List.Sort

/-!
# The index by stage

A table with the numbers of the extractors of each stage is all that an index by stage needs to
hold. A stage has its place in the table (`Stage.place`), and what is found there is looked up
among the extractors (`stage?`). For several stages the numbers found are put one behind the other,
sorted, and of equal neighbours one is kept (`merged`), since an extractor of two of the stages is
counted in both (`stages?`). A place that the table does not have, or a number that is too large,
leaves nothing to show.

Neither comes up: what is found in this way is what the registry shows (`stage?_eq_some`,
`stages?_eq_some`). It is the extractors of the stages as they are registered, each of them once,
in whatever order and however often the stages are listed (`isIndexOf_ofList`).
-/

namespace FlowCompiler

/-- The place of a stage in a table by stage. -/
def Stage.place : Stage → Nat
  | .beforeExecutable => 0
  | .afterExecutable => 1
  | .action => 2
  | .beforeTask => 3
  | .afterTask => 4

/-- A table that is made of all the stages in order has each at its place. -/
theorem Stage.all_getElem?_place (stage : Stage) : Stage.all[stage.place]? = some stage := by
  cases stage <;> rfl

namespace Registry

/-- The numbers of the extractors that run at the stage, from 0 in the order of registration. -/
def numbers (extractors : List Extractor) (stage : Stage) : List Nat :=
  (extractors.zipIdx.filter fun entry => entry.1.stages.contains stage).map Prod.snd

/-- The numbers by stage. -/
def table (extractors : List Extractor) : List (List Nat) :=
  Stage.all.map (numbers extractors)

/-- What the table has for the stage. -/
def group? (extractors : List Extractor) (stage : Stage) : Option (List Nat) :=
  (table extractors)[stage.place]?

/-- The numbers of several groups in order, without repetitions. -/
def merged (groups : List (List Nat)) : List Nat :=
  (groups.flatten.mergeSort (· ≤ ·)).destutter (· ≠ ·)

/-- The numbers of several stages together. -/
def gathered (extractors : List Extractor) (stages : List Stage) : List Nat :=
  merged (stages.map (numbers extractors))

/-- The extractors with the numbers; nothing if one of these is too large. -/
def lookup? (extractors : List Extractor) (numbers : List Nat) : Option (List Extractor) :=
  numbers.mapM fun number => extractors[number]?

/-- The extractors of a stage by the table. -/
def stage? (extractors : List Extractor) (stage : Stage) : Option (List Extractor) := do
  let group ← group? extractors stage
  lookup? extractors group

/-- The extractors of several stages by the table. -/
def stages? (extractors : List Extractor) (stages : List Stage) : Option (List Extractor) := do
  let groups ← stages.mapM (group? extractors)
  lookup? extractors (merged groups)

/-! ## Groups put together -/

/-- Equal numbers are neighbours once they are sorted, so that no repetition is left. -/
theorem merged_eq_dedup (groups : List (List Nat)) :
    merged groups = (groups.flatten.mergeSort (· ≤ ·)).dedup :=
  (List.pairwise_mergeSort' (· ≤ ·) groups.flatten).destutter_eq_dedup

theorem pairwise_merged (groups : List (List Nat)) : (merged groups).Pairwise (· < ·) := by
  have hsorted := List.pairwise_mergeSort' (· ≤ ·) groups.flatten
  rw [merged_eq_dedup]
  exact (hsorted.sublist (List.dedup_sublist _)).imp₂ (fun _ _ => Nat.lt_of_le_of_ne)
    (List.nodup_dedup _)

theorem mem_merged_iff {groups : List (List Nat)} {number : Nat} :
    number ∈ merged groups ↔ ∃ group ∈ groups, number ∈ group := by
  rw [merged_eq_dedup, List.mem_dedup, List.mem_mergeSort, List.mem_flatten]

variable {extractors : List Extractor} {stage : Stage} {stages others : List Stage} {number : Nat}

/-! ## The numbers of a stage and of several -/

theorem group?_eq_some (extractors : List Extractor) (stage : Stage) :
    group? extractors stage = some (numbers extractors stage) := by
  rw [group?, table, List.getElem?_map, Stage.all_getElem?_place, Option.map_some]

theorem mem_numbers_iff :
    number ∈ numbers extractors stage
      ↔ ∃ extractor, extractors[number]? = some extractor ∧ stage ∈ extractor.stages := by
  simp [numbers, List.mem_zipIdx_iff_getElem?]

theorem lt_length_of_mem_numbers (h : number ∈ numbers extractors stage) :
    number < extractors.length := by
  obtain ⟨extractor, hextractor, -⟩ := mem_numbers_iff.mp h
  exact (List.getElem?_eq_some_iff.mp hextractor).1

theorem pairwise_numbers : (numbers extractors stage).Pairwise (· < ·) := by
  have hall : (extractors.zipIdx.map Prod.snd).Pairwise (· < ·) := by
    rw [List.zipIdx_map_snd]
    exact List.pairwise_lt_range'
  exact hall.sublist (List.filter_sublist.map Prod.snd)

theorem mem_gathered_iff :
    number ∈ gathered extractors stages ↔ ∃ stage ∈ stages, number ∈ numbers extractors stage := by
  simp only [gathered, mem_merged_iff, List.mem_map, exists_exists_and_eq_and]

theorem mem_gathered_iff_runs :
    number ∈ gathered extractors stages
      ↔ ∃ extractor, extractors[number]? = some extractor
          ∧ ∃ stage ∈ stages, stage ∈ extractor.stages := by
  simp only [mem_gathered_iff, mem_numbers_iff]
  apply Iff.intro
  · intro h
    obtain ⟨stage, hstage, extractor, hextractor, hruns⟩ := h
    exact ⟨extractor, hextractor, stage, hstage, hruns⟩
  · intro h
    obtain ⟨extractor, hextractor, stage, hstage, hruns⟩ := h
    exact ⟨stage, hstage, extractor, hextractor, hruns⟩

theorem mem_gathered_append_iff :
    number ∈ gathered extractors (stages ++ others)
      ↔ number ∈ gathered extractors stages ∨ number ∈ gathered extractors others := by
  simp only [mem_gathered_iff, List.mem_append, or_and_right, exists_or]

/-! ## Numbers and positions -/

/-- There is only one way to list the numbers of the extractors with a property in ascending order.
-/
theorem map_val_filter_eq {p : Extractor → Bool} {ascending : List Nat}
    (hascending : ascending.Pairwise (· < ·))
    (hmem : ∀ number, number ∈ ascending
      ↔ ∃ extractor, extractors[number]? = some extractor ∧ p extractor = true) :
    ((List.finRange extractors.length).filter fun i => p (extractors.get i)).map Fin.val
      = ascending := by
  have hpositions : (((List.finRange extractors.length).filter fun i =>
      p (extractors.get i)).map Fin.val).Pairwise (· < ·) :=
    List.pairwise_map.mpr ((List.sortedLT_finRange _).pairwise.filter _)
  refine hpositions.eq_of_mem_iff hascending fun number => ?_
  simp only [hmem, List.mem_map, List.mem_filter, List.mem_finRange, true_and]
  apply Iff.intro
  · intro h
    obtain ⟨i, hi, rfl⟩ := h
    exact ⟨extractors.get i, List.getElem?_eq_getElem i.isLt, hi⟩
  · intro h
    obtain ⟨extractor, hextractor, hp⟩ := h
    obtain ⟨hlt, rfl⟩ := List.getElem?_eq_some_iff.mp hextractor
    exact ⟨⟨number, hlt⟩, hp, rfl⟩

theorem map_val_groups (extractors : List Extractor) (stage : Stage) :
    ((ofList extractors).groups stage).map Fin.val = numbers extractors stage := by
  have hmem (number : Nat) : number ∈ numbers extractors stage
      ↔ ∃ extractor, extractors[number]? = some extractor
        ∧ extractor.stages.contains stage = true := by
    simp only [mem_numbers_iff, List.contains_iff_mem]
  exact map_val_filter_eq pairwise_numbers hmem

theorem map_val_positions (extractors : List Extractor) (stages : List Stage) :
    ((ofList extractors).positions stages).map Fin.val = gathered extractors stages := by
  have hmem (number : Nat) : number ∈ gathered extractors stages
      ↔ ∃ extractor, extractors[number]? = some extractor
        ∧ stages.any extractor.stages.contains = true := by
    simp only [mem_gathered_iff_runs, List.any_eq_true, List.contains_iff_mem]
  rw [positions_ofList]
  exact map_val_filter_eq (pairwise_merged _) hmem

theorem lookup?_map_val (positions : List (Fin extractors.length)) :
    lookup? extractors (positions.map Fin.val) = some (positions.map extractors.get) := by
  -- A position carries its bound, so that looking up its number is reading the list there.
  have hfound : (fun number => extractors[number]?) ∘ Fin.val
      = fun i : Fin extractors.length => pure (extractors.get i) :=
    funext fun i => List.getElem?_eq_getElem i.isLt
  rw [lookup?, List.mapM_map, hfound, List.mapM_pure]
  rfl

theorem lookup?_gathered (extractors : List Extractor) (stages : List Stage) :
    lookup? extractors (gathered extractors stages) = some ((ofList extractors).stages stages) := by
  rw [← map_val_positions]
  exact lookup?_map_val _

theorem stage?_eq_some (extractors : List Extractor) (stage : Stage) :
    stage? extractors stage = some ((ofList extractors).stage stage) := by
  rw [stage?, group?_eq_some, ← map_val_groups]
  exact lookup?_map_val _

theorem stages?_eq_some (extractors : List Extractor) (stages : List Stage) :
    stages? extractors stages = some ((ofList extractors).stages stages) := by
  have hgroups : stages.mapM (group? extractors) = some (stages.map (numbers extractors)) := by
    rw [funext (group?_eq_some extractors)]
    exact List.mapM_pure
  rw [stages?, hgroups]
  exact lookup?_gathered extractors stages

/-! ## What is shown of several stages -/

theorem stages_eq_filter (extractors : List Extractor) (stages : List Stage) :
    (ofList extractors).stages stages
      = extractors.filter fun extractor => ∃ stage ∈ stages, stage ∈ extractor.stages := by
  rw [stages_ofList]
  refine List.filter_congr fun extractor _ => ?_
  rw [Bool.eq_iff_iff, decide_eq_true_eq, List.any_eq_true]
  simp only [List.contains_iff_mem]

theorem stages_congr (h : ∀ stage, stage ∈ stages ↔ stage ∈ others) :
    (ofList extractors).stages stages = (ofList extractors).stages others := by
  simp only [stages_eq_filter, h]

theorem stages_singleton (extractors : List Extractor) (stage : Stage) :
    (ofList extractors).stages [stage] = (ofList extractors).stage stage := by
  simp only [stages_ofList, stage_ofList, List.any_cons, List.any_nil, Bool.or_false]

theorem mem_stages_append_iff {extractor : Extractor} :
    extractor ∈ (ofList extractors).stages (stages ++ others)
      ↔ extractor ∈ (ofList extractors).stages stages
        ∨ extractor ∈ (ofList extractors).stages others := by
  simp only [stages_ofList, List.mem_filter, List.any_append, Bool.or_eq_true, and_or_left]

/-- The registry holds the extractors with their numbers by stage, and shows those of a stage or of
several as they are registered. -/
structure IsIndexOf (registry : Registry) (extractors : List Extractor) : Prop where
  /-- The group of a stage holds the numbers that the table has at the place of the stage. -/
  group : ∀ stage, group? extractors stage = some ((registry.groups stage).map Fin.val)
  /-- There is an extractor for every number in the table. -/
  inBounds : ∀ group ∈ table extractors, ∀ number ∈ group, number < extractors.length
  /-- By the table a stage is found, and so it is shown. -/
  stage : ∀ stage, stage? extractors stage = some (registry.stage stage)
  /-- By the table several stages are found, and so they are shown. -/
  stages : ∀ stages, stages? extractors stages = some (registry.stages stages)
  /-- What is shown of several stages are the extractors with the numbers gathered of them. -/
  found : ∀ stages, lookup? extractors (gathered extractors stages) = some (registry.stages stages)
  /-- An extractor is counted if it runs at one of the stages. -/
  counted : ∀ stages number, number ∈ gathered extractors stages
    ↔ ∃ extractor, extractors[number]? = some extractor
      ∧ ∃ stage ∈ stages, stage ∈ extractor.stages
  /-- None is counted twice, and none before one that was registered earlier. -/
  ascending : ∀ stages, (gathered extractors stages).Pairwise (· < ·)
  /-- So a part of the extractors is shown, in their order. -/
  shown : ∀ stages, registry.stages stages
    = extractors.filter fun extractor => ∃ stage ∈ stages, stage ∈ extractor.stages
  /-- It makes no difference in which order and how often the stages are listed. -/
  congr : ∀ stages others, (∀ stage, stage ∈ stages ↔ stage ∈ others) →
    registry.stages stages = registry.stages others
  /-- A stage listed by itself is shown as the stage. -/
  singleton : ∀ stage, registry.stages [stage] = registry.stage stage
  /-- Of two lists together those are counted that are counted of either. -/
  counted_append : ∀ stages others number, number ∈ gathered extractors (stages ++ others)
    ↔ number ∈ gathered extractors stages ∨ number ∈ gathered extractors others
  /-- Of two lists together those are shown that are shown of either. -/
  mem_append : ∀ stages others extractor, extractor ∈ registry.stages (stages ++ others)
    ↔ extractor ∈ registry.stages stages ∨ extractor ∈ registry.stages others

/-- A registry is an index of its extractors, though some may be alike, and may run at no stage, at
several, or at one that is declared twice. -/
theorem isIndexOf_ofList (extractors : List Extractor) :
    (ofList extractors).IsIndexOf extractors where
  group stage := by rw [group?_eq_some, map_val_groups]
  inBounds _ hgroup _ hnumber := by
    obtain ⟨stage, -, rfl⟩ := List.mem_map.mp hgroup
    exact lt_length_of_mem_numbers hnumber
  stage := stage?_eq_some extractors
  stages := stages?_eq_some extractors
  found := lookup?_gathered extractors
  counted _ _ := mem_gathered_iff_runs
  ascending _ := pairwise_merged _
  shown := stages_eq_filter extractors
  congr _ _ := stages_congr
  singleton := stages_singleton extractors
  counted_append _ _ _ := mem_gathered_append_iff
  mem_append _ _ _ := mem_stages_append_iff

/-- An extractor that runs at the stages. -/
def auditor (stages : List Stage) : Extractor where
  name := "audit"
  keys := ["audit"]
  stages := stages
  extract := fun _ => .ok []

/-- Extractors of one name, the first and the last of them alike. -/
def auditors : List Extractor :=
  [auditor [.afterTask, .beforeTask, .afterTask], auditor [], auditor [.action],
    auditor [.beforeTask], auditor [.afterTask, .beforeTask, .afterTask]]

/-- The two that are alike are in the groups of both stages and shown once each. -/
theorem auditors_indexed :
    table auditors = [[], [], [2], [0, 3, 4], [0, 4]]
      ∧ gathered auditors [.afterTask, .beforeTask, .afterTask] = [0, 3, 4]
      ∧ lookup? auditors [0, 3, 4] = some ((ofList auditors).stages [.beforeTask, .afterTask])
      ∧ lookup? auditors [0, 3, 5] = none
      ∧ stages? auditors [.afterTask, .beforeTask, .afterTask]
        = some ((ofList auditors).stages [.beforeTask, .afterTask]) := by
  have hindex : (ofList auditors).IsIndexOf auditors := isIndexOf_ofList auditors
  have hgathered : gathered auditors [.afterTask, .beforeTask, .afterTask] = [0, 3, 4] := by
    -- The sort does not evaluate, but the positions of the registry do.
    rw [← map_val_positions]
    decide +kernel
  have hsame : (ofList auditors).stages [.afterTask, .beforeTask, .afterTask]
      = (ofList auditors).stages [.beforeTask, .afterTask] :=
    hindex.congr _ _ fun stage => by cases stage <;> decide
  refine ⟨by decide +kernel, hgathered, ?_, rfl, ?_⟩
  · rw [← hsame, ← hgathered]
    exact hindex.found _
  · rw [← hsame]
    exact hindex.stages _

end Registry

end FlowCompiler
