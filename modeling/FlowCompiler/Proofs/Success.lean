import FlowCompiler.SortedMap
import Mathlib.Data.List.Forall2

/-!
# Success

The steps of a compilation are computations that either fail or succeed with a value. These
theorems say when one that is put together from others succeeds, and with what: `bind_eq_ok_iff`
for one step after another, `map_eq_ok_iff` and `mapError_eq_ok_iff` for a step whose value or
whose error is changed. Most readers succeed under a condition on what they read, and then with a
value that it determines; `bind_eq_ok_iff_of` says this of what comes after such a reader. A step
for every element of a list succeeds with values that are related to the elements one by one; there
are such values if there is one for every element (`exists_forall₂_iff`).
-/

namespace FlowCompiler

variable {ε ε' α β : Type}

@[simp]
theorem ok_bind {a : α} {f : α → Except ε β} : (Except.ok a >>= f) = f a := rfl

@[simp]
theorem error_bind {cause : ε} {f : α → Except ε β} :
    (Except.error cause >>= f) = .error cause := rfl

theorem bind_eq_ok_iff {x : Except ε α} {f : α → Except ε β} {b : β} :
    (x >>= f) = .ok b ↔ ∃ a, x = .ok a ∧ f a = .ok b := by
  cases x <;> simp [bind, Except.bind]

theorem map_eq_ok_iff {x : Except ε α} {f : α → β} {b : β} :
    x.map f = .ok b ↔ ∃ a, x = .ok a ∧ f a = b := by
  cases x <;> simp [Except.map]

/-- A step that succeeds under a condition, with one value, comes before another. -/
theorem bind_eq_ok_iff_of {x : Except ε α} {f : α → Except ε β} {P : Prop} {a : α} {b : β}
    (h : ∀ {c}, x = .ok c ↔ P ∧ c = a) : (x >>= f) = .ok b ↔ P ∧ f a = .ok b := by
  rw [bind_eq_ok_iff]
  simp only [h]
  apply Iff.intro
  · intro hbind
    obtain ⟨_, ⟨hcondition, rfl⟩, hrest⟩ := hbind
    exact ⟨hcondition, hrest⟩
  · intro hbind
    obtain ⟨hcondition, hrest⟩ := hbind
    exact ⟨_, ⟨hcondition, rfl⟩, hrest⟩

theorem map_eq_ok_iff_of {x : Except ε α} {f : α → β} {P : Prop} {a : α} {b : β}
    (h : ∀ {c}, x = .ok c ↔ P ∧ c = a) : x.map f = .ok b ↔ P ∧ b = f a := by
  have hbind : x.map f = (x >>= fun c => .ok (f c)) := by cases x <;> rfl
  rw [hbind, bind_eq_ok_iff_of h, Except.ok.injEq, eq_comm]

theorem exists_map_eq_ok_iff {x : Except ε α} {f : α → β} :
    (∃ b, x.map f = .ok b) ↔ ∃ a, x = .ok a := by
  cases x <;> simp [Except.map]

theorem mapError_eq_ok_iff {x : Except ε α} {f : ε → ε'} {a : α} :
    x.mapError f = .ok a ↔ x = .ok a := by
  cases x <;> simp [Except.mapError]

theorem exists_ok_of_isOk {x : Except ε α} (h : x.isOk = true) : ∃ a, x = .ok a := by
  cases x with
  | error cause => cases h
  | ok a => exact ⟨a, rfl⟩

theorem exists_ok_of_toOption_map {x : Except ε α} {f : α → β} {b : β}
    (h : x.toOption.map f = some b) : ∃ a, x = .ok a ∧ f a = b := by
  cases x with
  | error cause => cases h
  | ok a => exact ⟨a, rfl, Option.some.inj h⟩

section Forall

variable {R : α → β → Prop}

theorem forall₂_append_left_iff {left right : List α} {values : List β} :
    List.Forall₂ R (left ++ right) values
      ↔ ∃ first second, List.Forall₂ R left first ∧ List.Forall₂ R right second
          ∧ values = first ++ second := by
  induction left generalizing values with
  | nil => simp
  | cons head rest ih =>
    simp only [List.cons_append, List.forall₂_cons_left_iff, ih]
    apply Iff.intro
    · intro h
      obtain ⟨value, _, hvalue, ⟨first, second, hfirst, hsecond, rfl⟩, rfl⟩ := h
      exact ⟨value :: first, second, ⟨value, first, hvalue, hfirst, rfl⟩, hsecond, rfl⟩
    · intro h
      obtain ⟨_, second, ⟨value, first, hvalue, hfirst, rfl⟩, hsecond, rfl⟩ := h
      exact ⟨value, first ++ second, hvalue, ⟨first, second, hfirst, hsecond, rfl⟩, rfl⟩

theorem forall₂_congr_of_mem {S : α → β → Prop} {items : List α} {values : List β}
    (h : ∀ item ∈ items, ∀ value, R item value ↔ S item value) :
    List.Forall₂ R items values ↔ List.Forall₂ S items values := by
  induction items generalizing values with
  | nil => simp
  | cons item rest ih =>
    obtain ⟨hitem, hrest⟩ := List.forall_mem_cons.mp h
    simp only [List.forall₂_cons_left_iff, hitem, ih hrest]

theorem exists_forall₂_iff {items : List α} :
    (∃ values, List.Forall₂ R items values) ↔ ∀ item ∈ items, ∃ value, R item value := by
  induction items with
  | nil => simp
  | cons item rest ih =>
    simp only [List.forall₂_cons_left_iff, List.forall_mem_cons, ← ih]
    apply Iff.intro
    · intro h
      obtain ⟨_, value, values, hvalue, hvalues, rfl⟩ := h
      exact ⟨⟨value, hvalue⟩, values, hvalues⟩
    · intro h
      obtain ⟨⟨value, hvalue⟩, values, hvalues⟩ := h
      exact ⟨_, value, values, hvalue, hvalues, rfl⟩

end Forall

end FlowCompiler
