import FlowCompiler.Proofs.Sections
import FlowCompiler.Proofs.Values

/-!
# Authored targets

A navigation map in the source is accepted if all its targets are texts that are not blank
(`readTargets_eq_ok_iff`). If it has entries, the task gets exactly these, with the blanks around
the targets taken off; otherwise it gets the two default targets (`navigation_of_assembleTask`).
-/

namespace FlowCompiler

/-- The map of a document that has these texts under their keys. -/
def textEntries (texts : List (String × String)) : Document :=
  texts.map fun entry => (entry.1, .string entry.2)

/-- The texts without the blanks around them, under their keys. -/
def trimmedEntries (texts : List (String × String)) : List (String × String) :=
  texts.map fun entry => (entry.1, Text.trim entry.2)

/-- The entries of a navigation map that the body of a task holds; none if it holds no such map. -/
def navigationEntries (body : Document) : Document :=
  match body.get? Keyword.navigate with
  | some (.map entries) => entries
  | _ => []

theorem keys_textEntries (texts : List (String × String)) :
    (textEntries texts).keys = texts.map Prod.fst := by
  simp [textEntries, Document.keys]

theorem entries_trimmedEntries_perm {texts : List (String × String)}
    (h : (textEntries texts).keys.Nodup) :
    (SortedMap.ofList (trimmedEntries texts)).entries.Perm (trimmedEntries texts) := by
  refine SortedMap.entries_ofList_perm ?_
  rw [keys_textEntries] at h
  simpa [trimmedEntries, Function.comp_def] using h

/-- Whether navigation may be read: nothing, or a map of texts that are not blank. -/
def IsNavigation : Json → Prop
  | .null => True
  | .map targets => ∀ entry ∈ targets, entry.2.IsFilledText
  | _ => False

namespace Extractor

theorem readTargets_eq_ok_iff {entries : Document} {targets : List (String × String)} :
    readTargets entries = .ok targets
      ↔ ∃ texts, entries = textEntries texts ∧ (∀ entry ∈ texts, Text.isBlankText entry.2 = false)
          ∧ targets = trimmedEntries texts := by
  induction entries generalizing targets with
  | nil =>
    simp only [readTargets, Except.ok.injEq]
    constructor
    · rintro rfl
      exact ⟨[], rfl, by simp, rfl⟩
    · intro h
      obtain ⟨texts, htexts, -, rfl⟩ := h
      rw [List.map_eq_nil_iff.mp htexts.symm]
      rfl
  | cons entry rest ih =>
    obtain ⟨label, target⟩ := entry
    have hstep : readTargets ((label, target) :: rest)
        = (readFilledText (propertyPlace Keyword.navigate label) "a task name or result" target
          >>= fun text => (readTargets rest).map ((label, Text.trim text) :: ·)) := by
      rw [readTargets]
      split <;> next heq => rw [heq]; rfl
    simp only [hstep, bind_eq_ok_iff, readFilledText_eq_ok_iff, map_eq_ok_iff, ih]
    apply Iff.intro
    · intro h
      obtain ⟨text, ⟨rfl, hfilled⟩, _, ⟨texts, rfl, hall, rfl⟩, rfl⟩ := h
      exact ⟨(label, text) :: texts, rfl, List.forall_mem_cons.mpr ⟨hfilled, hall⟩, rfl⟩
    · intro h
      obtain ⟨texts, htexts, hall, rfl⟩ := h
      cases texts with
      | nil => cases htexts
      | cons first texts =>
        obtain ⟨hfirst, rfl⟩ := List.cons.inj htexts
        obtain ⟨rfl, rfl⟩ := Prod.mk.inj hfirst
        rw [List.forall_mem_cons] at hall
        exact ⟨first.2, ⟨rfl, hall.1⟩, _, ⟨texts, rfl, hall.2, rfl⟩, rfl⟩

theorem exists_readTargets_iff {targets : Document} :
    (∃ read, readTargets targets = .ok read) ↔ ∀ entry ∈ targets, entry.2.IsFilledText := by
  simp only [readTargets_eq_ok_iff]
  apply Iff.intro
  · intro ⟨_, texts, htargets, hfilled, _⟩ entry hentry
    rw [htargets] at hentry
    obtain ⟨text, htext, rfl⟩ := List.mem_map.mp hentry
    exact ⟨text.2, rfl, hfilled text htext⟩
  · intro hfilled
    induction targets with
    | nil => exact ⟨_, [], rfl, by simp, rfl⟩
    | cons entry rest ih =>
      obtain ⟨⟨text, htext, hblank⟩, hrest⟩ := List.forall_mem_cons.mp hfilled
      obtain ⟨_, texts, hall, htexts, -⟩ := ih hrest
      refine ⟨_, (entry.1, text) :: texts, ?_, List.forall_mem_cons.mpr ⟨hblank, htexts⟩, rfl⟩
      rw [textEntries, List.map_cons, ← htext, hall]
      rfl

/-- Navigation is absent, nothing or a map of texts that are not blank. -/
theorem extractNavigation_eq_ok_iff {body : Document} {produced : List (String × FieldValue)} :
    extractNavigation body = .ok produced
      ↔ ((body.get? Keyword.navigate = none ∨ body.get? Keyword.navigate = some .null)
          ∧ produced = [])
        ∨ ∃ entries targets, body.get? Keyword.navigate = some (.map entries)
            ∧ readTargets entries = .ok targets
            ∧ produced = [(Keyword.navigate, .navigation (.ofList targets))] := by
  unfold extractNavigation
  cases body.get? Keyword.navigate with
  | none => simp [eq_comm]
  | some value =>
    cases value with
    | map entries => simp [map_eq_ok_iff, eq_comm (b := produced)]
    | null => simp [eq_comm]
    | bool held | number held | string held | list items => simp

theorem exists_extractNavigation_iff {body : Document} :
    (∃ produced, extractNavigation body = .ok produced)
      ↔ IsNavigation (body.value Keyword.navigate) := by
  simp only [extractNavigation_eq_ok_iff, Document.value]
  cases hget : body.get? Keyword.navigate with
  | none => simp [IsNavigation]
  | some value =>
    cases value with
    | map targets =>
      have hread : (∃ read, readTargets targets = .ok read) ↔ _ := exists_readTargets_iff
      simpa [IsNavigation] using hread
    | null => simp [IsNavigation]
    | bool held | number held | string held | list items => simp [IsNavigation]

end Extractor

/-! ## The navigation of a task -/

/-- What the fields after the call hold for the navigation is what the navigation map makes. -/
theorem get?_navigate_of_afterTask {name : String} {body : Document} {after : FieldMap}
    (h : runStage name body (Registry.standard.stage .afterTask) = .ok after) :
    ∃ produced, Extractor.extractNavigation body = .ok produced
      ∧ after.get? Keyword.navigate = (SortedMap.ofList produced).get? Keyword.navigate := by
  obtain ⟨published, produced, hpublished, hproduced, rfl⟩ := runStage_afterTask_eq_ok_iff.mp h
  refine ⟨produced, hproduced, ?_⟩
  have hother : (SortedMap.ofList published).get? Keyword.navigate = none := by
    obtain ⟨-, rfl⟩ :=
      (Extractor.contribution_listUnder_eq_ok_iff Extractor.namedFormat_declares).mp hpublished
    refine SortedMap.get?_ofList_eq_none ?_
    simp [Keyword.publish, Keyword.navigate]
  rw [SortedMap.get?_ofList_append, hother, Option.or_none]

theorem authoredNavigation?_of_afterTask {name : String} {body : Document} {after : FieldMap}
    (h : runStage name body (Registry.standard.stage .afterTask) = .ok after) :
    ∃ texts, navigationEntries body = textEntries texts
      ∧ authoredNavigation? after
        = if texts = [] then none else some (.ofList (trimmedEntries texts)) := by
  obtain ⟨produced, hproduced, hget⟩ := get?_navigate_of_afterTask h
  rw [authoredNavigation?, hget, navigationEntries]
  rcases Extractor.extractNavigation_eq_ok_iff.mp hproduced with
    ⟨habsent, rfl⟩ | ⟨entries, targets, hentries, htargets, rfl⟩
  · refine ⟨[], ?_, rfl⟩
    rcases habsent with habsent | habsent <;> rw [habsent] <;> rfl
  · obtain ⟨texts, rfl, -, rfl⟩ := Extractor.readTargets_eq_ok_iff.mp htargets
    refine ⟨texts, by rw [hentries], ?_⟩
    rw [SortedMap.get?_ofList_singleton, if_pos rfl]
    cases texts with
    | nil => rfl
    | cons first rest => simp [FieldValue.navigation?, SortedMap.isEmpty_ofList, trimmedEntries]

/-- The two targets of a task without navigation. -/
theorem entries_defaultNavigation (success failure : String) :
    (defaultNavigation success failure).entries
      = [(Outcome.failure, failure), (Outcome.success, success)] := by
  have hlt : Outcome.failure < Outcome.success := by decide
  show SortedMap.insertEntry Outcome.failure failure [(Outcome.success, success)] = _
  rw [SortedMap.insertEntry, if_pos hlt]

variable {scope : Scope} {name : String} {body : Document} {success failure : String} {task : Task}

theorem navigation_of_assembleTask (hregistry : scope.registry = .standard)
    (h : assembleTask scope name body success failure = .ok task) :
    ∃ texts, navigationEntries body = textEntries texts
      ∧ task.navigation
        = if texts = [] then defaultNavigation success failure
          else .ofList (trimmedEntries texts) := by
  obtain ⟨-, -, _, -, after, hafter, _, -, _, -, _, -, rfl⟩ := assembleTask_eq_ok_iff.mp h
  rw [hregistry] at hafter
  obtain ⟨texts, htexts, hauthored⟩ := authoredNavigation?_of_afterTask hafter
  refine ⟨texts, htexts, ?_⟩
  rw [hauthored]
  split <;> rfl

end FlowCompiler
