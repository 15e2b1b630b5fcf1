import FlowCompiler.Proofs.Stages

/-!
# Computations with the same outcome

Two computations are alike in a relation if both fail, or both succeed with values that the relation
holds of; the errors need not be the same. This is kept by the ways in which computations are put
together, and so by the run of extractors over two documents from which each of them makes the same
fields (`alike_runStage`).
-/

namespace FlowCompiler

/-- Both computations fail, or both succeed with values that are related. -/
inductive Alike {ε ε' α β : Type} (R : α → β → Prop) : Except ε α → Except ε' β → Prop
  | failed (cause : ε) (other : ε') : Alike R (.error cause) (.error other)
  | made {a : α} {b : β} : R a b → Alike R (.ok a) (.ok b)

namespace Alike

variable {ε ε' ζ ζ' α β γ δ : Type} {R : α → β → Prop} {S : γ → δ → Prop}

theorem refl (x : Except ε α) : Alike Eq x x := by
  cases x with
  | error cause => exact .failed cause cause
  | ok a => exact .made rfl

theorem of_iff {x : Except ε α} {y : Except ε' α} (h : ∀ a, x = .ok a ↔ y = .ok a) :
    Alike Eq x y := by
  cases x with
  | ok a =>
    rw [(h a).mp rfl]
    exact .made rfl
  | error cause =>
    cases y with
    | ok b => exact nomatch (h b).mpr rfl
    | error other => exact .failed cause other

theorem bind {x : Except ε α} {y : Except ε' β} {f : α → Except ε γ} {g : β → Except ε' δ}
    (h : Alike R x y) (hfg : ∀ a b, R a b → Alike S (f a) (g b)) :
    Alike S (x >>= f) (y >>= g) := by
  cases h with
  | failed cause other => exact .failed cause other
  | made hab => exact hfg _ _ hab

/-- After computations with the same value the rest has to be alike for the same value. -/
theorem bind_same {x : Except ε α} {y : Except ε' α} {f : α → Except ε γ} {g : α → Except ε' δ}
    (h : Alike Eq x y) (hfg : ∀ a, Alike S (f a) (g a)) : Alike S (x >>= f) (y >>= g) :=
  h.bind fun a _ hab => hab ▸ hfg a

theorem map {x : Except ε α} {y : Except ε' β} {f : α → γ} {g : β → δ} (h : Alike R x y)
    (hfg : ∀ a b, R a b → S (f a) (g b)) : Alike S (x.map f) (y.map g) := by
  cases h with
  | failed cause other => exact .failed cause other
  | made hab => exact .made (hfg _ _ hab)

theorem map_same {x : Except ε α} {y : Except ε' α} {f : α → γ} (h : Alike Eq x y) :
    Alike Eq (x.map f) (y.map f) :=
  h.map fun _ _ hab => congrArg f hab

theorem mapError {x : Except ε α} {y : Except ε' β} {f : ε → ζ} {g : ε' → ζ'} (h : Alike R x y) :
    Alike R (x.mapError f) (y.mapError g) := by
  cases h with
  | failed cause other => exact .failed (f cause) (g other)
  | made hab => exact .made hab

end Alike

/-! ## Steps over documents -/

variable {unit : String} {left right : Document}

theorem alike_runStageFrom {fields : FieldMap} {extractors : List Extractor}
    (h : ∀ extractor ∈ extractors,
      Alike Eq (extractor.contribution left) (extractor.contribution right)) :
    Alike Eq (runStageFrom fields unit left extractors)
      (runStageFrom fields unit right extractors) := by
  induction extractors generalizing fields with
  | nil => exact .refl _
  | cons extractor rest ih =>
    obtain ⟨hextractor, hrest⟩ := List.forall_mem_cons.mp h
    rw [runStageFrom_cons_eq, runStageFrom_cons_eq]
    exact hextractor.mapError.bind_same fun _ => ih hrest

/-- A stage makes the same of two documents if each of its extractors does. -/
theorem alike_runStage {extractors : List Extractor}
    (h : ∀ extractor ∈ extractors,
      Alike Eq (extractor.contribution left) (extractor.contribution right)) :
    Alike Eq (runStage unit left extractors) (runStage unit right extractors) :=
  alike_runStageFrom h

/-- A table is made of the entries of a map if each of them is accepted; in which order they stand
does not matter. -/
theorem alike_table {ε α : Type} {read : Document → Except ε (List (String × α))}
    {accepts : String × Json → Prop} {binding : String × Json → String × α}
    (hread : ∀ {entries result}, read entries = .ok result
      ↔ (∀ entry ∈ entries, accepts entry) ∧ result = entries.map binding)
    (hkey : ∀ entry, (binding entry).1 = entry.1) (h : left.Perm right)
    (hdistinct : left.Distinct) :
    Alike (fun result other => SortedMap.ofList result = SortedMap.ofList other)
      (read left) (read right) := by
  by_cases hall : ∀ entry ∈ left, accepts entry
  · have hall' : ∀ entry ∈ right, accepts entry := fun entry hentry =>
      hall entry (h.mem_iff.mpr hentry)
    rw [hread.mpr ⟨hall, rfl⟩, hread.mpr ⟨hall', rfl⟩]
    refine .made (SortedMap.ofList_eq_of_perm (h.map binding) ?_)
    rw [List.map_map, show Prod.fst ∘ binding = Prod.fst from funext hkey]
    exact hdistinct
  · have hall' : ¬ ∀ entry ∈ right, accepts entry := fun haccepted =>
      hall fun entry hentry => haccepted entry (h.mem_iff.mp hentry)
    cases hleft : read left with
    | ok result => exact absurd (hread.mp hleft).1 hall
    | error cause =>
      cases hright : read right with
      | ok result => exact absurd (hread.mp hright).1 hall'
      | error other => exact .failed cause other

/-- The keys of two documents are checked with the same outcome if they are the same. -/
theorem alike_validateKeys {extractors : List Extractor} {additional : List String}
    (h : left.keys.Perm right.keys) :
    Alike Eq (validateKeys unit left extractors additional)
      (validateKeys unit right extractors additional) := by
  refine .of_iff fun accepted => ?_
  rw [show accepted = () from rfl, validateKeys_eq_ok_iff, validateKeys_eq_ok_iff]
  simp only [h.mem_iff]

end FlowCompiler
