import FlowCompiler.Proofs.Alike
import FlowCompiler.Proofs.Reordering
import FlowCompiler.Proofs.TaskGrammar

/-!
# Tasks from reordered bodies

What the extractors of a task make of two bodies that are the same but for the order of keys, and so
what task is made of them (`alike_assembleTask`). The properties of an input and the targets of a
task are read in the order of their keys, so for these it is shown that the order of the reading
does not matter; the bindings of a call keep their order.
-/

namespace FlowCompiler

open Extractor

/-! ## Inputs -/

theorem Document.last?_eq_of_perm {left right : Document} (h : left.Perm right)
    (hdistinct : left.Distinct) (key : String) : left.last? key = right.last? key := by
  have hreverse : left.reverse.Perm right.reverse :=
    left.reverse_perm.trans (h.trans right.reverse_perm.symm)
  exact SortedMap.lookup_eq_of_perm hreverse
    ((left.reverse_perm.map Prod.fst).nodup_iff.mpr hdistinct) key

namespace Like

variable {value other : Json}

theorem isInputValue_iff (h : Like .input value other) :
    IsInputValue value ↔ IsInputValue other := by
  rcases h.maps_or_eq (by decide) with ⟨left, right, rfl, rfl, hmaps⟩ | ⟨rfl, -⟩
  · have hperm : left.Perm right := hmaps.perm_of_fixed fun _ => rfl
    simp only [IsInputValue, hperm.mem_iff]
  · rfl

theorem inputOf_eq (h : Like .input value other) (name : String) :
    inputOf name value = inputOf name other := by
  rcases h.maps_or_eq (by decide) with ⟨left, right, rfl, rfl, hmaps⟩ | ⟨rfl, -⟩
  · have hperm : left.Perm right := hmaps.perm_of_fixed fun _ => rfl
    have hlast := Document.last?_eq_of_perm hperm hmaps.distinct
    simp only [inputOf, describedInput, hlast]
  · rfl

end Like

/-! ## Bindings -/

section Bindings

variable {role : Role} {left right : Document}

theorem LikeEntry.isEntry_iff {entry other : String × Json} (h : LikeEntry role entry other)
    (hchild : ∀ key, role.child key = .input) :
    IsEntry IsInputValue entry ↔ IsEntry IsInputValue other := by
  have hvalue : Like .input entry.2 other.2 := hchild entry.1 ▸ h.value
  rw [IsEntry, IsEntry, h.key_eq, hvalue.isInputValue_iff]

theorem forall_isEntry_iff (h : List.Forall₂ (LikeEntry role) left right)
    (hchild : ∀ key, role.child key = .input) :
    (∀ entry ∈ left, IsEntry IsInputValue entry)
      ↔ ∀ entry ∈ right, IsEntry IsInputValue entry := by
  induction h with
  | nil => rfl
  | cons hentry _ ih =>
    rw [List.forall_mem_cons, List.forall_mem_cons, hentry.isEntry_iff hchild, ih]

theorem declarations_eq (h : List.Forall₂ (LikeEntry role) left right)
    (hchild : ∀ key, role.child key = .input) :
    declarations inputOf left = declarations inputOf right := by
  induction h with
  | nil => rfl
  | @cons entry other _ _ hentry _ ih =>
    have hvalue : Like .input entry.2 other.2 := hchild entry.1 ▸ hentry.value
    have hinput : inputOf (Text.trim entry.1) entry.2 = inputOf (Text.trim other.1) other.2 := by
      rw [hentry.key_eq, hvalue.inputOf_eq]
    exact congrArg₂ List.cons hinput ih

theorem properNames_eq (h : List.Forall₂ (LikeEntry role) left right) :
    properNames left = properNames right := by
  have hnames (entries : Document) : properNames entries = entries.keys.map Text.trim := by
    rw [properNames, Document.keys, List.map_map]
    rfl
  rw [hnames, hnames, keys_eq_of_keyed h]

/-- Items that are the same stand for entries that are. -/
theorem entryOf?_rel {item other : Json} (h : Like .item item other) :
    Option.Rel (LikeEntry .item) (entryOf? item) (entryOf? other) := by
  rcases h.maps_or_eq (by decide) with ⟨left, right, rfl, rfl, hmaps⟩ | ⟨rfl, hmap⟩
  · cases hmaps.keyed rfl with
    | nil => exact .none
    | cons hentry hrest =>
      cases hrest with
      | nil => exact .some hentry
      | cons _ _ => exact .none
  · cases item with
    | string name => exact .some (.refl .item .null)
    | map entries => exact absurd rfl (hmap entries)
    | null | bool held | number held | list items => exact .none

theorem isItemList_iff {items others : List Json} (h : List.Forall₂ (Like .item) items others) :
    IsItemList IsInputValue (.list items) ↔ IsItemList IsInputValue (.list others) := by
  have hentries : List.Forall₂ (LikeEntry .item) (entriesOf items) (entriesOf others) :=
    List.rel_filterMap (fun _ _ hitem => entryOf?_rel hitem) h
  have hitems : (∀ item ∈ items, ∃ entry, entryOf? item = some entry ∧ IsEntry IsInputValue entry)
      ↔ ∀ item ∈ others, ∃ entry, entryOf? item = some entry ∧ IsEntry IsInputValue entry := by
    clear hentries
    induction h with
    | nil => rfl
    | @cons item other _ _ hitem _ ih =>
      rw [List.forall_mem_cons, List.forall_mem_cons, ih]
      refine and_congr_left fun _ => ?_
      have hrel := entryOf?_rel hitem
      generalize entryOf? item = entry, entryOf? other = entry' at hrel
      cases hrel with
      | none => rfl
      | some hentry =>
        have hiff := hentry.isEntry_iff fun _ => rfl
        simp only [Option.some.injEq, exists_eq_left', hiff]
  rw [IsItemList, IsItemList, hitems, properNames_eq hentries]

namespace Like

variable {value other : Json}

theorem isItemList_iff (h : Like .bindings value other) :
    IsItemList IsInputValue value ↔ IsItemList IsInputValue other := by
  rcases h.bindings_cases with
    ⟨left, right, rfl, rfl, -⟩ | ⟨left, right, rfl, rfl, hitems⟩ | rfl
  · rfl
  · exact FlowCompiler.isItemList_iff hitems
  · rfl

theorem isBindings_iff (h : Like .bindings value other) : IsBindings value ↔ IsBindings other := by
  rcases h.bindings_cases with
    ⟨left, right, rfl, rfl, hmaps⟩ | ⟨left, right, rfl, rfl, hitems⟩ | rfl
  · exact forall_isEntry_iff (hmaps.keyed rfl) fun _ => rfl
  · exact FlowCompiler.isItemList_iff hitems
  · rfl

theorem declarations_eq (h : Like .bindings value other) :
    declarations inputOf (entries value) = declarations inputOf (entries other) := by
  rcases h.bindings_cases with
    ⟨left, right, rfl, rfl, hmaps⟩ | ⟨left, right, rfl, rfl, hitems⟩ | rfl
  · exact FlowCompiler.declarations_eq (hmaps.keyed rfl) fun _ => rfl
  · have hentries : List.Forall₂ (LikeEntry .item) (entriesOf left) (entriesOf right) :=
      List.rel_filterMap (fun _ _ hitem => entryOf?_rel hitem) hitems
    exact FlowCompiler.declarations_eq hentries fun _ => rfl
  · rfl

theorem alike_readBindings (h : Like .bindings value other) (reference : String) :
    Alike Eq (readBindings reference value) (readBindings reference other) := by
  refine .of_iff fun bindings => ?_
  rw [readBindings_eq_ok_iff, readBindings_eq_ok_iff, h.isBindings_iff, h.declarations_eq]

end Like

end Bindings

/-! ## Extractors -/

section Extractors

variable {role : Role} {left right : Document} {key : String}

/-- Two documents are given the same list of declarations if what stands under its key is accepted
or not, and declares the same. -/
theorem alike_contribution_listUnder {α : Type} {format : ItemFormat α} {accepts : Json → Prop}
    {declare : String → Json → α} {stage : Stage} {field : List α → FieldValue}
    (hformat : format.Declares accepts declare)
    (h : Option.Rel (fun value other => (IsItemList accepts value ↔ IsItemList accepts other)
        ∧ declarations declare (entries value) = declarations declare (entries other))
      (left.get? key) (right.get? key)) :
    Alike Eq ((listUnder format key stage field).contribution left)
      ((listUnder format key stage field).contribution right) := by
  refine .of_iff fun produced => ?_
  rw [contribution_listUnder_eq_ok_iff hformat, contribution_listUnder_eq_ok_iff hformat,
    Document.value, Document.value]
  generalize left.get? key = value, right.get? key = other at h
  cases h with
  | none => rfl
  | some hvalue =>
    simp only [Option.getD_some, Option.toList_some, List.map_singleton, hvalue.1, hvalue.2]

theorem alike_contribution_listUnder_of_eq {α : Type} {format : ItemFormat α}
    {accepts : Json → Prop} {declare : String → Json → α} {stage : Stage}
    {field : List α → FieldValue} (hformat : format.Declares accepts declare)
    (h : left.get? key = right.get? key) :
    Alike Eq ((listUnder format key stage field).contribution left)
      ((listUnder format key stage field).contribution right) := by
  refine alike_contribution_listUnder hformat ?_
  rw [h]
  cases right.get? key with
  | none => exact .none
  | some value => exact .some ⟨Iff.rfl, rfl⟩

theorem alike_extractCallee (h : Reordered .body left right) :
    Alike Eq (extractCallee left) (extractCallee right) := by
  unfold extractCallee
  rcases h.maps_or_eq Keyword.callee .callee (by decide) (by decide) with
    ⟨calls, others, hleft, hright, hcalls⟩ | ⟨heq, -⟩
  · rw [hleft, hright]
    cases hcalls.keyed rfl with
    | nil => exact .refl _
    | @cons entry other _ _ hentry _ =>
      obtain ⟨reference, bindings⟩ := entry
      obtain ⟨otherReference, otherBindings⟩ := other
      obtain rfl : reference = otherReference := hentry.key_eq
      have hbindings : Like .bindings bindings otherBindings := hentry.value
      exact (hbindings.alike_readBindings reference).map_same
  · rw [heq]
    exact .refl _

theorem alike_calleeReference (h : Reordered .body left right) (name : String) :
    Alike Eq (calleeReference name left) (calleeReference name right) := by
  unfold calleeReference
  rcases h.maps_or_eq Keyword.callee .callee (by decide) (by decide) with
    ⟨calls, others, hleft, hright, hcalls⟩ | ⟨heq, -⟩
  · rw [hleft, hright]
    cases hcalls.keyed rfl with
    | nil => exact .refl _
    | cons hentry hrest =>
      cases hrest with
      | nil => exact .made hentry.key_eq
      | cons _ _ => exact .failed _ _
  · rw [heq]
    exact .refl _

theorem alike_extractLoopHeader (h : Reordered .body left right) :
    Alike Eq (extractLoopHeader left) (extractLoopHeader right) := by
  have hget : left.get? Keyword.header = right.get? Keyword.header :=
    h.get?_eq_of_fixed (by decide)
  rw [extractLoopHeader, extractLoopHeader, hget]
  exact .refl _

/-- The targets of a map that is accepted are those of its entries. -/
theorem readTargets_eq_ok_iff_map {targets : Document} {read : List (String × String)} :
    readTargets targets = .ok read
      ↔ (∀ entry ∈ targets, entry.2.IsFilledText)
        ∧ read = targets.map fun entry => (entry.1, Text.trim (entry.2.text?.getD "")) := by
  have hread {read : List (String × String)} (h : readTargets targets = .ok read) :
      read = targets.map fun entry => (entry.1, Text.trim (entry.2.text?.getD "")) := by
    obtain ⟨texts, rfl, -, rfl⟩ := readTargets_eq_ok_iff.mp h
    rw [textEntries, trimmedEntries, List.map_map]
    rfl
  rw [← exists_readTargets_iff]
  apply Iff.intro
  · intro h
    exact ⟨⟨read, h⟩, hread h⟩
  · intro h
    obtain ⟨⟨other, hother⟩, rfl⟩ := h
    exact hread hother ▸ hother

theorem alike_extractNavigation (h : Reordered .body left right) :
    Alike Eq (extractNavigation left) (extractNavigation right) := by
  unfold extractNavigation
  rcases h.maps_or_eq Keyword.navigate .navigation (by decide) (by decide) with
    ⟨targets, others, hleft, hright, htargets⟩ | ⟨heq, -⟩
  · rw [hleft, hright]
    have hperm : targets.Perm others := htargets.perm_of_fixed fun _ => rfl
    have htable := alike_table readTargets_eq_ok_iff_map (fun _ => rfl) hperm htargets.distinct
    exact htable.map fun _ _ heq => by rw [heq]
  · rw [heq]
    exact .refl _

theorem alike_runStage_beforeTask (h : Reordered .body left right) (name : String) :
    Alike Eq (runStage name left (Registry.standard.stage .beforeTask))
      (runStage name right (Registry.standard.stage .beforeTask)) := by
  refine alike_runStage ?_
  rw [stage_beforeTask]
  simp only [List.forall_mem_cons, contribution_callee, contribution_loopHeader]
  exact ⟨alike_extractCallee h, alike_extractLoopHeader h, by simp⟩

theorem alike_runStage_afterTask (h : Reordered .body left right) (name : String) :
    Alike Eq (runStage name left (Registry.standard.stage .afterTask))
      (runStage name right (Registry.standard.stage .afterTask)) := by
  have hpublish : left.get? Keyword.publish = right.get? Keyword.publish :=
    h.get?_eq_of_fixed (by decide)
  refine alike_runStage ?_
  rw [stage_afterTask]
  simp only [List.forall_mem_cons, contribution_navigate]
  exact ⟨alike_contribution_listUnder_of_eq namedFormat_declares hpublish,
    alike_extractNavigation h, by simp⟩

end Extractors

/-! ## Tasks -/

variable {scope : Scope} {left right : Document}

/-- The same task is assembled from two bodies that are the same, or none. -/
theorem alike_assembleTask (hregistry : scope.registry = .standard)
    (h : Reordered .body left right) (name success failure : String) :
    Alike Eq (assembleTask scope name left success failure)
      (assembleTask scope name right success failure) := by
  have hempty : left.isEmpty = right.isEmpty := by
    rw [Bool.eq_iff_iff, List.isEmpty_iff, List.isEmpty_iff]
    exact h.eq_nil_iff
  unfold assembleTask
  rw [hregistry, hempty]
  split
  · exact .refl _
  · refine (alike_validateKeys h.keys_perm).bind_same fun _ => ?_
    refine (alike_runStage_beforeTask h name).bind_same fun before => ?_
    refine (alike_runStage_afterTask h name).bind_same fun after => ?_
    refine (Alike.refl _).bind_same fun resolved => ?_
    exact (alike_calleeReference h name).bind_same fun reference => .refl _

/-- Two values of tasks that are the same have bodies that are, or neither has a body. -/
theorem alike_unwrapBody {value other : Json} (h : Like .body value other) (name : String) :
    Alike (Reordered .body) (unwrapBody name value) (unwrapBody name other) := by
  rcases h.maps_or_eq (by decide) with ⟨left, right, rfl, rfl, hmaps⟩ | ⟨rfl, hmap⟩
  · simp only [unwrapBody]
    rcases hmaps.maps_or_eq Keyword.loop .body (by decide) (by decide) with
      ⟨inner, others, hleft, hright, hinner⟩ | ⟨heq, hmap⟩
    · rw [hleft, hright]
      exact .made hinner
    · rw [← heq]
      cases hloop : Document.get? left Keyword.loop with
      | none => exact .made hmaps
      | some value =>
        cases value with
        | null => exact .made (.nil .body)
        | map entries => exact absurd hloop (hmap entries)
        | bool held | number held | string held | list items => exact .failed _ _
  · cases value with
    | null => exact .made (.nil .body)
    | map entries => exact absurd rfl (hmap entries)
    | bool held | number held | string held | list items => exact .failed _ _

end FlowCompiler
