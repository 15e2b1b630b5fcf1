import FlowCompiler.Proofs.FirstFailure
import FlowCompiler.Proofs.Registries

/-!
# What a stage makes of a document

A stage runs those of its extractors that have a key in the document (`participants`). It fails with
the first rejection among them, or holds every field that they produce, with the value that was
produced for it last (`IsMerge`). So the run of two lists of extractors, one behind the other, comes
to what the runs of the two come to, the second over the first (`stage_merges_fields`).
-/

namespace FlowCompiler

/-- The extractors of the list that have a key in the document. -/
def participants (extractors : List Extractor) (document : Document) : List Extractor :=
  extractors.filter fun extractor => ∃ key ∈ extractor.keys, key ∈ document.keys

/-- The fields have just the names of what is produced, each with the value that is produced for it
last. -/
structure IsMerge (produced : List (String × FieldValue)) (fields : FieldMap) : Prop where
  names (name : String) : name ∈ fields.keys ↔ name ∈ produced.map Prod.fst
  last (name : String) (value : FieldValue) :
    fields.get? name = some value
      ↔ ∃ before after, produced = before ++ (name, value) :: after
          ∧ name ∉ after.map Prod.fst

theorem isMerge_iff {produced : List (String × FieldValue)} {fields : FieldMap} :
    IsMerge produced fields ↔ fields = .ofList produced := by
  apply Iff.intro
  · intro h
    refine SortedMap.ext_get? fun name => Option.ext fun value => ?_
    rw [h.last, SortedMap.get?_ofList_eq_some_iff]
  · intro h
    rw [h]
    exact ⟨fun _ => SortedMap.mem_keys_ofList_iff, fun _ _ => SortedMap.get?_ofList_eq_some_iff⟩

section Runs

variable {unit : String} {document : Document} {extractors others : List Extractor}

theorem participants_eq :
    participants extractors document
      = extractors.filter fun extractor => extractor.applies document :=
  List.filter_congr fun _ _ => by rw [Bool.eq_iff_iff, decide_eq_true_eq, Extractor.applies_iff]

theorem contribution_of_mem_participants {extractor : Extractor}
    (h : extractor ∈ participants extractors document) :
    extractor.contribution document = extractor.extract document := by
  rw [participants_eq, List.mem_filter] at h
  rw [Extractor.contribution, if_pos h.2]

theorem runStage_participants :
    runStage unit document (participants extractors document)
      = runStage unit document extractors := by
  rw [participants_eq, runStage_filter_applies]

/-! ## Failing runs -/

/-- What has been produced before does not count. -/
theorem runStageFrom_eq_error_iff {fields : FieldMap} {failure : CompileError} :
    runStageFrom fields unit document extractors = .error failure
      ↔ ∃ cause, failure = .extraction unit cause
          ∧ FailsFirst (fun extractor cause => extractor.contribution document = .error cause)
              extractors cause := by
  induction extractors generalizing fields with
  | nil => simp [runStageFrom, not_failsFirst_nil]
  | cons extractor rest ih =>
    simp only [runStageFrom_cons_eq, failsFirst_cons_iff]
    cases hcontribution : extractor.contribution document with
    | error cause => simp [Except.mapError, eq_comm]
    | ok produced => simp [Except.mapError, ih]

theorem runStage_eq_error_iff {failure : CompileError} :
    runStage unit document extractors = .error failure
      ↔ ∃ cause, failure = .extraction unit cause
          ∧ FailsFirst (fun extractor cause => extractor.extract document = .error cause)
              (participants extractors document) cause := by
  rw [← runStage_participants, runStage, runStageFrom_eq_error_iff]
  refine exists_congr fun cause => and_congr_right fun _ => failsFirst_congr ?_
  intro extractor hextractor other
  rw [contribution_of_mem_participants hextractor]

/-! ## Successful runs -/

theorem runStage_eq_ok_iff_isMerge {fields : FieldMap} :
    runStage unit document extractors = .ok fields
      ↔ ∃ produced, List.Forall₂ (fun extractor made => extractor.extract document = .ok made)
          (participants extractors document) produced
          ∧ IsMerge produced.flatten fields := by
  rw [← runStage_participants, runStage_eq_ok_iff]
  refine exists_congr fun produced => and_congr (forall₂_congr_of_mem ?_) isMerge_iff.symm
  intro extractor hextractor made
  rw [contribution_of_mem_participants hextractor]

/-! ## Runs of two lists -/

theorem runStageFrom_append {fields : FieldMap} :
    runStageFrom fields unit document (extractors ++ others)
      = (runStageFrom fields unit document extractors >>= fun between =>
        runStageFrom between unit document others) := by
  induction extractors generalizing fields with
  | nil => rfl
  | cons extractor rest ih =>
    simp only [List.cons_append, runStageFrom_cons_eq, bind_assoc, ih]

theorem runStage_append_eq_error_iff {failure : CompileError} :
    runStage unit document (extractors ++ others) = .error failure
      ↔ runStage unit document extractors = .error failure
        ∨ (∃ first, runStage unit document extractors = .ok first)
          ∧ runStage unit document others = .error failure := by
  have hothers (fields : FieldMap) : runStageFrom fields unit document others = .error failure
      ↔ runStage unit document others = .error failure := by
    rw [runStage, runStageFrom_eq_error_iff, runStageFrom_eq_error_iff]
  rw [runStage, runStageFrom_append, bind_eq_error_iff]
  simp only [hothers, exists_and_right]
  rfl

theorem exists_runStage_append {first second : FieldMap}
    (hfirst : runStage unit document extractors = .ok first)
    (hsecond : runStage unit document others = .ok second) :
    ∃ merged, runStage unit document (extractors ++ others) = .ok merged
      ∧ ∀ name, merged.get? name = (second.get? name).or (first.get? name) := by
  obtain ⟨left, hleft, rfl⟩ := runStage_eq_ok_iff.mp hfirst
  obtain ⟨right, hright, rfl⟩ := runStage_eq_ok_iff.mp hsecond
  have hproduced := forall₂_append_left_iff.mpr ⟨left, right, hleft, hright, rfl⟩
  refine ⟨_, runStage_eq_ok_iff.mpr ⟨left ++ right, hproduced, rfl⟩, fun name => ?_⟩
  rw [List.flatten_append, SortedMap.get?_ofList_append]

end Runs

/-- Only the extractors that have a key in the document take part in a stage. It fails exactly if
one of these rejects the document, with the first rejection, which is given to the unit, and else
merges what they produce in order. If one list of extractors follows another, the fields of the one
come over those of the other, or the stage fails with what the first list that fails does. -/
theorem stage_merges_fields (unit : String) (document : Document)
    (extractors others : List Extractor) :
    (∀ failure, runStage unit document extractors = .error failure
        ↔ failure.code = "X001" ∧ failure.unit? = some unit
          ∧ ∃ cause, failure = .extraction unit cause
            ∧ FailsFirst (fun extractor cause => extractor.extract document = .error cause)
                (participants extractors document) cause)
      ∧ (∀ fields, runStage unit document extractors = .ok fields
        ↔ ∃ produced, List.Forall₂ (fun extractor made => extractor.extract document = .ok made)
            (participants extractors document) produced
            ∧ IsMerge produced.flatten fields)
      ∧ (∀ first second, runStage unit document extractors = .ok first →
          runStage unit document others = .ok second →
          ∃ merged, runStage unit document (extractors ++ others) = .ok merged
            ∧ ∀ name, merged.get? name = (second.get? name).or (first.get? name))
      ∧ ∀ failure, runStage unit document (extractors ++ others) = .error failure
        ↔ runStage unit document extractors = .error failure
          ∨ (∃ first, runStage unit document extractors = .ok first)
            ∧ runStage unit document others = .error failure := by
  refine ⟨fun failure => ?_, fun fields => runStage_eq_ok_iff_isMerge,
    fun first second => exists_runStage_append, fun failure => runStage_append_eq_error_iff⟩
  rw [runStage_eq_error_iff]
  apply Iff.intro
  · intro h
    obtain ⟨cause, rfl, hfirst⟩ := h
    exact ⟨rfl, rfl, cause, rfl, hfirst⟩
  · intro h
    exact h.2.2

/-- An extractor that makes the same of every document that has its key. -/
def constant (key : String) (extraction : Extraction) : Extractor where
  name := key
  keys := [key]
  stages := Stage.all
  extract := fun _ => extraction

/-- Two extractors, the first of which produces a field twice. The second rejects every document with
its key. -/
def noteExtractors : List Extractor :=
  [constant "note" (.ok
      [("text", .pythonScript "draft"), ("size", .pythonScript "5"),
       ("text", .pythonScript "final")]),
   constant "memo" (.error (.invalid "memo" "is not supported"))]

/-- A map with the key of the first of `noteExtractors`, and one more. -/
def noteDocument : Document := [("copy", .null), ("note", .null)]

/-- Of the value produced twice the second counts, and over the fields of the list come those of the
list behind it. Of two rejections in that list the first counts. -/
theorem noteExtractors_merge :
    runStage "print" noteDocument noteExtractors
        = .ok (.ofList [("size", .pythonScript "5"), ("text", .pythonScript "final")])
      ∧ (∃ merged,
        runStage "print" noteDocument (noteExtractors
            ++ [constant "copy" (.ok [("size", .pythonScript "7")])]) = .ok merged
          ∧ merged.get? "text" = some (.pythonScript "final")
          ∧ merged.get? "size" = some (.pythonScript "7"))
      ∧ runStage "print" noteDocument (noteExtractors
          ++ [constant "copy" (.error (.invalid "copy" "is blank")),
            constant "note" (.error (.invalid "note" "is blank"))])
        = .error (.extraction "print" (.invalid "copy" "is blank")) := by
  have hfirst : runStage "print" noteDocument noteExtractors
      = .ok (.ofList [("size", .pythonScript "5"), ("text", .pythonScript "final")]) := by
    decide +kernel
  refine ⟨hfirst, ?_, ?_⟩
  · obtain ⟨-, -, hmerge, -⟩ := stage_merges_fields "print" noteDocument noteExtractors
      [constant "copy" (.ok [("size", .pythonScript "7")])]
    obtain ⟨merged, hmerged, hget⟩ := hmerge _ (.ofList [("size", .pythonScript "7")]) hfirst
      (by decide +kernel)
    refine ⟨merged, hmerged, ?_, ?_⟩
    · rw [hget]
      decide +kernel
    · rw [hget]
      decide +kernel
  · obtain ⟨-, -, -, hfailure⟩ := stage_merges_fields "print" noteDocument noteExtractors
      [constant "copy" (.error (.invalid "copy" "is blank")),
        constant "note" (.error (.invalid "note" "is blank"))]
    exact (hfailure _).mpr (.inr ⟨⟨_, hfirst⟩, by decide +kernel⟩)

end FlowCompiler
