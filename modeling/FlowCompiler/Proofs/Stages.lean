import FlowCompiler.Extractor.Run
import FlowCompiler.Extractor.Standard
import FlowCompiler.Proofs.Fields
import FlowCompiler.Proofs.Success

/-!
# Keys and stages

When the keys of a document are accepted (`validateKeys_eq_ok_iff`), and when the extractors of a
stage all succeed and what they produce together (`runStage_eq_ok_iff`). What one extractor adds is
its `contribution`: its extraction if it has a key in the document, nothing otherwise. The run of a
stage depends on these alone (`runStageFrom_eq_of_contributions`).
-/

namespace FlowCompiler

theorem Document.get?_isSome {document : Document} {key : String} :
    (document.get? key).isSome = document.contains key := by
  induction document with
  | nil => rfl
  | cons entry rest ih =>
    simp only [get?, contains, List.any_cons] at ih ⊢
    rw [SortedMap.lookup_cons_ite]
    by_cases h : key = entry.1
    · simp [h]
    · rw [if_neg h, ih, beq_false_of_ne (Ne.symm h), Bool.false_or]

theorem Document.mem_keys_iff {document : Document} {key : String} :
    key ∈ document.keys ↔ (document.get? key).isSome = true := by
  rw [get?_isSome]
  simp [contains, keys]

theorem Document.get?_erase (document : Document) (key other : String) :
    (document.erase key).get? other = if other = key then none else document.get? other :=
  SortedMap.lookup_filter_ne key document other

theorem validateKeys_eq_ok_iff {unit : String} {document : Document}
    {extractors : List Extractor} {additional : List String} :
    validateKeys unit document extractors additional = .ok ()
      ↔ ∀ key ∈ document.keys, isClaimed extractors additional key = true := by
  unfold validateKeys
  cases hfind : document.keys.find? fun key => !isClaimed extractors additional key with
  | none => simpa using List.find?_eq_none.mp hfind
  | some key =>
    have hkey := List.find?_some hfind
    have hmem := List.mem_of_find?_eq_some hfind
    refine ⟨fun h => (nomatch h), fun h => ?_⟩
    rw [h key hmem] at hkey
    cases hkey

namespace Extractor

/-- What an extractor adds to the fields of a document: nothing if it has no key in it. -/
def contribution (extractor : Extractor) (document : Document) : Extraction :=
  if extractor.applies document then extractor.extract document else .ok []

end Extractor

theorem runStageFrom_cons_eq {fields : FieldMap} {unit : String} {document : Document}
    {extractor : Extractor} {rest : List Extractor} :
    runStageFrom fields unit document (extractor :: rest)
      = ((extractor.contribution document).mapError (.extraction unit) >>= fun produced =>
        runStageFrom (fields.insertMany produced) unit document rest) := by
  simp only [runStageFrom, Extractor.contribution]
  split
  · cases extractor.extract document <;> rfl
  · rfl

/-- The same fields are made of documents to which every extractor contributes the same. -/
theorem runStageFrom_eq_of_contributions {document other : Document} {unit : String}
    {fields : FieldMap} {extractors : List Extractor}
    (h : ∀ extractor ∈ extractors,
      extractor.contribution other = extractor.contribution document) :
    runStageFrom fields unit other extractors = runStageFrom fields unit document extractors := by
  induction extractors generalizing fields with
  | nil => rfl
  | cons extractor rest ih =>
    obtain ⟨hextractor, hrest⟩ := List.forall_mem_cons.mp h
    rw [runStageFrom_cons_eq, runStageFrom_cons_eq, hextractor]
    exact bind_congr fun produced => ih hrest

theorem runStageFrom_eq_ok_iff {fields result : FieldMap} {unit : String} {document : Document}
    {extractors : List Extractor} :
    runStageFrom fields unit document extractors = .ok result
      ↔ ∃ produced, List.Forall₂
          (fun extractor added => extractor.contribution document = .ok added) extractors produced
          ∧ result = fields.insertMany produced.flatten := by
  induction extractors generalizing fields with
  | nil =>
    simp only [runStageFrom, List.forall₂_nil_left_iff, exists_eq_left, Except.ok.injEq]
    exact eq_comm
  | cons extractor rest ih =>
    simp only [runStageFrom_cons_eq, bind_eq_ok_iff, mapError_eq_ok_iff, ih,
      List.forall₂_cons_left_iff]
    apply Iff.intro
    · intro h
      obtain ⟨added, hadded, produced, hproduced, rfl⟩ := h
      exact ⟨added :: produced, ⟨added, produced, hadded, hproduced, rfl⟩,
        by rw [List.flatten_cons, SortedMap.insertMany_append]⟩
    · intro h
      obtain ⟨_, ⟨added, produced, hadded, hproduced, rfl⟩, rfl⟩ := h
      exact ⟨added, hadded, produced, hproduced,
        by rw [List.flatten_cons, SortedMap.insertMany_append]⟩

/-- A stage succeeds if every extractor that has a key in the document does, and then holds
everything that they produce, the later over the earlier. -/
theorem runStage_eq_ok_iff {fields : FieldMap} {unit : String} {document : Document}
    {extractors : List Extractor} :
    runStage unit document extractors = .ok fields
      ↔ ∃ produced, List.Forall₂
          (fun extractor added => extractor.contribution document = .ok added) extractors produced
          ∧ fields = .ofList produced.flatten :=
  runStageFrom_eq_ok_iff

end FlowCompiler
