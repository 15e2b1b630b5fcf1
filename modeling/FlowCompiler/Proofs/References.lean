import FlowCompiler.Assembly.Task
import FlowCompiler.Proofs.Items
import FlowCompiler.Proofs.Texts

/-!
# References

A reference is resolved exactly if its alias is in the table (`resolve_eq_ok_iff`), and a list of
inputs if that is so for every system property (`exists_resolveAll_iff`). For the inputs that
entries declare this can be said of the entries (`exists_resolveInputs_declarations_iff`).
-/

namespace FlowCompiler

namespace Reference

/-- What stands before the first dot. -/
def aliasOf (reference : String) : String :=
  String.ofList (reference.toList.takeWhile (· != '.'))

/-- What stands behind the first dot; nothing if there is none. -/
def remainderOf (reference : String) : String :=
  String.ofList (reference.toList.dropWhile (· != '.')).tail

/-- Whether there is a table and the alias of the reference is in it. -/
def Knows (imports : Option Imports) (reference : String) : Prop :=
  ∃ table space, imports = some table ∧ table.get? (aliasOf reference) = some space

theorem ne_dot_of_dotless {text : String} (h : '.' ∉ text.toList) :
    ∀ c ∈ text.toList, (c != '.') = true :=
  fun _ hc => bne_iff_ne.mpr fun heq => h (heq ▸ hc)

/-- A reference without a dot is an alias alone. -/
theorem parts_of_dotless {reference : String} (h : '.' ∉ reference.toList) :
    aliasOf reference = reference ∧ remainderOf reference = "" := by
  have hall := ne_dot_of_dotless h
  constructor
  · rw [aliasOf, List.takeWhile_eq_self_iff.mpr hall, String.ofList_toList]
  · rw [remainderOf, List.dropWhile_eq_nil_iff.mpr hall, List.tail_nil, String.ofList_nil]

theorem parts_eq (reference : String) :
    parts reference = (aliasOf reference, remainderOf reference) := by
  rw [parts, Text.splitFirst_singleton_eq]
  by_cases h : '.' ∈ reference.toList
  · rw [if_pos h]
    rfl
  · obtain ⟨halias, hremainder⟩ := parts_of_dotless h
    rw [if_neg h, halias, hremainder]

variable {imports : Option Imports} {reference : String}

theorem resolve_eq_ok_iff {resolved : String} :
    resolve imports reference = .ok resolved
      ↔ ∃ table space, imports = some table ∧ table.get? (aliasOf reference) = some space
          ∧ resolved = space ++ "." ++ remainderOf reference := by
  unfold resolve
  cases imports with
  | none => simp
  | some table =>
    simp only [parts_eq]
    cases hget : table.get? (aliasOf reference) with
    | none => simp [hget]
    | some space => simp [hget, eq_comm]

theorem exists_resolve_iff :
    (∃ resolved, resolve imports reference = .ok resolved) ↔ Knows imports reference := by
  simp only [resolve_eq_ok_iff, Knows]
  apply Iff.intro
  · intro h
    obtain ⟨_, table, space, himports, hspace, _⟩ := h
    exact ⟨table, space, himports, hspace⟩
  · intro h
    obtain ⟨table, space, himports, hspace⟩ := h
    exact ⟨_, table, space, himports, hspace, rfl⟩

/-! ## System properties -/

theorem exists_resolveInput_iff {input : Input} :
    (∃ resolved, resolveInput imports input = .ok resolved)
      ↔ ∀ property, input.systemProperty = some property → Knows imports property := by
  unfold resolveInput
  cases input.systemProperty with
  | none => simp
  | some property =>
    simp only [exists_map_eq_ok_iff, exists_resolve_iff, Option.some.injEq, forall_eq']

/-- The inputs of a list are resolved one by one. -/
theorem resolveAll_eq_ok_iff {inputs resolved : List Input} :
    resolveAll imports inputs = .ok resolved
      ↔ List.Forall₂ (fun input found => resolveInput imports input = .ok found) inputs
          resolved := by
  induction inputs generalizing resolved with
  | nil => simp [resolveAll, resolveInputs, eq_comm]
  | cons input rest ih =>
    have hstep : resolveAll imports (input :: rest)
        = (resolveInput imports input >>= fun found =>
          (resolveAll imports rest).map (found :: ·)) := by
      rw [resolveAll, resolveInputs, resolveAll]
      cases resolveInput imports input with
      | error cause => rfl
      | ok found =>
        rcases resolveInputs imports rest with ⟨others, _ | cause⟩ <;> rfl
    simp only [hstep, bind_eq_ok_iff, map_eq_ok_iff, ih, List.forall₂_cons_left_iff]
    apply Iff.intro
    · intro h
      obtain ⟨found, hfound, others, hothers, hresolved⟩ := h
      exact ⟨found, others, hfound, hothers, hresolved.symm⟩
    · intro h
      obtain ⟨found, others, hfound, hothers, hresolved⟩ := h
      exact ⟨found, hfound, others, hothers, hresolved.symm⟩

theorem exists_resolveAll_iff {inputs : List Input} :
    (∃ resolved, resolveAll imports inputs = .ok resolved)
      ↔ ∀ input ∈ inputs, ∀ property, input.systemProperty = some property →
          Knows imports property := by
  simp only [resolveAll_eq_ok_iff, exists_forall₂_iff, exists_resolveInput_iff]

/-- Whether the alias of every system property that the entries name is in the table. -/
def KnowsProperties (imports : Option Imports) (entries : Document) : Prop :=
  ∀ entry ∈ entries, ∀ property, Extractor.systemProperty? entry.2 = some property →
    Knows imports property

end Reference

/-! ## In the scope of an executable -/

namespace Scope

variable {scope : Scope} {unit : String}

theorem exists_resolve_iff {reference : String} :
    (∃ resolved, scope.resolve unit reference = .ok resolved)
      ↔ Reference.Knows scope.imports reference := by
  simp only [resolve, mapError_eq_ok_iff, Reference.exists_resolve_iff]

theorem exists_resolveInputs_iff {inputs : List Input} :
    (∃ resolved, scope.resolveInputs unit inputs = .ok resolved)
      ↔ ∀ input ∈ inputs, ∀ property, input.systemProperty = some property →
          Reference.Knows scope.imports property := by
  simp only [resolveInputs, mapError_eq_ok_iff, Reference.exists_resolveAll_iff]

theorem exists_resolveInputs_declarations_iff {entries : Document} :
    (∃ resolved, scope.resolveInputs unit (Extractor.declarations Extractor.inputOf entries)
        = .ok resolved)
      ↔ Reference.KnowsProperties scope.imports entries := by
  simp only [exists_resolveInputs_iff, Extractor.declarations, List.forall_mem_map,
    Extractor.systemProperty_inputOf]
  rfl

end Scope

end FlowCompiler
