import FlowCompiler.SortedMap
import Mathlib.Data.List.Basic

/-!
# What a list of bindings makes of a map

A map that is built from bindings holds for every key the value of the key's last binding
(`get?_ofList`, `get?_ofList_eq_some_iff`), so that it has a value for just the keys that are bound
(`mem_keys_ofList_iff`, `mem_ofList_iff`). Where
no key is bound twice, the entries of the map are the bindings, in the order of the keys
(`entries_ofList_perm`).
-/

namespace FlowCompiler.SortedMap

variable {α : Type}

theorem get?_insertMany (map : SortedMap α) (bindings : List (String × α)) (key : String) :
    (map.insertMany bindings).get? key = (bindings.reverse.lookup key).or (map.get? key) := by
  induction bindings generalizing map with
  | nil => rfl
  | cons binding rest ih =>
    have hstep : map.insertMany (binding :: rest)
        = (map.insert binding.1 binding.2).insertMany rest := rfl
    rw [hstep, ih, get?_insert, List.reverse_cons, List.lookup_append]
    cases rest.reverse.lookup key with
    | some value => rfl
    | none =>
      rw [lookup_cons_ite]
      by_cases h : key = binding.1 <;> simp [h]

/-- Of several bindings for a key the last one counts. -/
theorem get?_ofList (bindings : List (String × α)) (key : String) :
    (ofList bindings).get? key = bindings.reverse.lookup key := by
  rw [ofList, get?_insertMany, get?_empty, Option.or_none]

theorem insertMany_append (map : SortedMap α) (left right : List (String × α)) :
    map.insertMany (left ++ right) = (map.insertMany left).insertMany right :=
  List.foldl_append

theorem lookup_reverse_eq_none {bindings : List (String × α)} {key : String}
    (h : ∀ binding ∈ bindings, binding.1 ≠ key) : bindings.reverse.lookup key = none := by
  rw [List.lookup_eq_none_iff]
  intro binding hbinding
  exact bne_iff_ne.mpr (Ne.symm (h binding (List.mem_reverse.mp hbinding)))

theorem lookup_map_snd {β : Type} (f : α → β) (bindings : List (String × α)) (key : String) :
    (bindings.map fun binding => (binding.1, f binding.2)).lookup key
      = (bindings.lookup key).map f := by
  induction bindings with
  | nil => rfl
  | cons binding rest ih =>
    rw [List.map_cons, lookup_cons_ite, lookup_cons_ite, ih]
    split <;> rfl

/-- Bindings for different keys may be added in either order. -/
theorem insertMany_comm (map : SortedMap α) {left right : List (String × α)}
    (h : ∀ binding ∈ left, ∀ other ∈ right, binding.1 ≠ other.1) :
    (map.insertMany left).insertMany right = (map.insertMany right).insertMany left := by
  refine ext_get? fun key => ?_
  simp only [get?_insertMany]
  by_cases hkey : ∃ binding ∈ left, binding.1 = key
  · obtain ⟨binding, hbinding, rfl⟩ := hkey
    rw [lookup_reverse_eq_none fun other hother => (h binding hbinding other hother).symm,
      Option.none_or, Option.none_or]
  · rw [lookup_reverse_eq_none fun binding hbinding heq => hkey ⟨binding, hbinding, heq⟩,
      Option.none_or, Option.none_or]

/-- What is found in the map of two lists of bindings: the second comes first. -/
theorem get?_ofList_append (left right : List (String × α)) (key : String) :
    (ofList (left ++ right)).get? key = ((ofList right).get? key).or ((ofList left).get? key) := by
  rw [get?_ofList, get?_ofList, get?_ofList, List.reverse_append, List.lookup_append]

theorem get?_ofList_eq_none {bindings : List (String × α)} {key : String}
    (h : ∀ binding ∈ bindings, binding.1 ≠ key) : (ofList bindings).get? key = none := by
  rw [get?_ofList, lookup_reverse_eq_none h]

@[simp]
theorem get?_ofList_singleton (key : String) (value : α) (other : String) :
    (ofList [(key, value)]).get? other = if other = key then some value else none := by
  rw [get?_ofList, List.reverse_singleton, lookup_cons_ite]
  rfl

theorem ofList_ne_empty {bindings : List (String × α)} (h : bindings ≠ []) :
    (ofList bindings).isEmpty = false := by
  obtain ⟨init, last, rfl⟩ := (List.eq_nil_or_concat' bindings).resolve_left h
  have hget : (ofList (init ++ [last])).get? last.1 = some last.2 := by
    rw [get?_ofList, List.reverse_append, List.reverse_singleton, List.singleton_append,
      lookup_cons_ite, if_pos rfl]
  rw [isEmpty, List.isEmpty_eq_false_iff]
  intro hnil
  rw [get?, hnil] at hget
  cases hget

theorem isEmpty_ofList (bindings : List (String × α)) :
    (ofList bindings).isEmpty = bindings.isEmpty := by
  cases bindings with
  | nil => rfl
  | cons binding rest => exact ofList_ne_empty (List.cons_ne_nil _ _)

/-! ## Entries -/

theorem lookup_eq_some_iff_of_nodup {bindings : List (String × α)} {key : String} {value : α}
    (h : (bindings.map Prod.fst).Nodup) :
    bindings.lookup key = some value ↔ (key, value) ∈ bindings := by
  induction bindings with
  | nil => simp
  | cons binding rest ih =>
    obtain ⟨hfresh, hrest⟩ := List.nodup_cons.mp h
    rw [lookup_cons_ite, List.mem_cons]
    by_cases hkey : key = binding.1
    · have hnone : (key, value) ∉ rest := fun hmem =>
        hfresh (List.mem_map.mpr ⟨(key, value), hmem, hkey⟩)
      rw [if_pos hkey, Option.some.injEq, or_iff_left hnone, Prod.ext_iff]
      exact ⟨fun hvalue => ⟨hkey, hvalue.symm⟩, fun heq => heq.2.symm⟩
    · have hne : (key, value) ≠ binding := fun heq => hkey (congrArg Prod.fst heq)
      rw [if_neg hkey, ih hrest, or_iff_right hne]

theorem nodup_keys (map : SortedMap α) : (map.entries.map Prod.fst).Nodup :=
  List.pairwise_map.mpr (map.ascending.imp String.ne_of_lt)

/-- The entries of a map are what is found in it. -/
theorem get?_eq_some_iff {map : SortedMap α} {key : String} {value : α} :
    map.get? key = some value ↔ (key, value) ∈ map.entries :=
  lookup_eq_some_iff_of_nodup map.nodup_keys

theorem mem_keys_iff {map : SortedMap α} {key : String} :
    key ∈ map.keys ↔ ∃ value, map.get? key = some value := by
  simp [get?_eq_some_iff, keys]

theorem mem_keys_erase_iff {map : SortedMap α} {key other : String} :
    other ∈ (map.erase key).keys ↔ other ≠ key ∧ other ∈ map.keys := by
  simp only [mem_keys_iff, get?_erase]
  by_cases h : other = key <;> simp [h]

theorem eq_empty_of_keys {map : SortedMap α} (h : ∀ key, key ∉ map.keys) : map = .empty := by
  refine ext_get? fun key => ?_
  rw [get?_empty, Option.eq_none_iff_forall_ne_some]
  exact fun value hget => h key (mem_keys_iff.mpr ⟨value, hget⟩)

/-- What is found under a key is bound to it, and later bindings are for other keys. -/
theorem get?_ofList_eq_some_iff {bindings : List (String × α)} {key : String} {value : α} :
    (ofList bindings).get? key = some value
      ↔ ∃ before after, bindings = before ++ (key, value) :: after
          ∧ key ∉ after.map Prod.fst := by
  rw [get?_ofList, List.lookup_eq_some_iff]
  apply Iff.intro
  · intro h
    obtain ⟨after, before, hbindings, hafter⟩ := h
    refine ⟨before.reverse, after.reverse, ?_, fun hmem => ?_⟩
    · rw [← List.reverse_reverse bindings, hbindings]
      simp
    · obtain ⟨later, hlater, rfl⟩ := List.mem_map.mp hmem
      exact absurd (hafter later (List.mem_reverse.mp hlater)) (by simp)
  · intro h
    obtain ⟨before, after, rfl, hafter⟩ := h
    refine ⟨after.reverse, before.reverse, by simp, fun later hlater => bne_iff_ne.mpr ?_⟩
    rintro rfl
    exact hafter (List.mem_map_of_mem (List.mem_reverse.mp hlater))

theorem mem_of_get?_ofList {bindings : List (String × α)} {key : String} {value : α}
    (h : (ofList bindings).get? key = some value) : (key, value) ∈ bindings := by
  obtain ⟨before, after, rfl, -⟩ := get?_ofList_eq_some_iff.mp h
  exact List.mem_append_right _ List.mem_cons_self

theorem mem_keys_ofList_iff {bindings : List (String × α)} {key : String} :
    key ∈ (ofList bindings).keys ↔ key ∈ bindings.map Prod.fst := by
  rw [mem_keys_iff]
  apply Iff.intro
  · intro h
    obtain ⟨value, hget⟩ := h
    exact List.mem_map_of_mem (mem_of_get?_ofList hget)
  · intro h
    -- Were nothing found, there would be no binding for the key.
    cases hget : (ofList bindings).get? key with
    | some value => exact ⟨value, rfl⟩
    | none =>
      rw [get?_ofList, List.lookup_eq_none_iff] at hget
      obtain ⟨binding, hbinding, rfl⟩ := List.mem_map.mp h
      exact absurd (hget binding (List.mem_reverse.mpr hbinding)) (by simp)

/-- Where all bindings have one value, the map has it for the keys that are bound. -/
theorem mem_ofList_iff {bindings : List (String × α)} {value : α}
    (h : ∀ binding ∈ bindings, binding.2 = value) {key : String} {held : α} :
    (key, held) ∈ (ofList bindings).entries ↔ held = value ∧ key ∈ bindings.map Prod.fst := by
  rw [← get?_eq_some_iff]
  apply Iff.intro
  · intro hget
    have hmem := mem_of_get?_ofList hget
    exact ⟨h _ hmem, List.mem_map.mpr ⟨_, hmem, rfl⟩⟩
  · intro hmem
    obtain ⟨rfl, hkey⟩ := hmem
    obtain ⟨other, hget⟩ := mem_keys_iff.mp (mem_keys_ofList_iff.mpr hkey)
    rw [hget]
    exact congrArg some (h _ (mem_of_get?_ofList hget))

/-! ## Bindings with distinct keys -/

theorem insertEntry_perm {key : String} {value : α} {entries : List (String × α)}
    (h : key ∉ entries.map Prod.fst) :
    (insertEntry key value entries).Perm ((key, value) :: entries) := by
  induction entries with
  | nil => exact .refl _
  | cons entry rest ih =>
    rw [List.map_cons, List.mem_cons, not_or] at h
    unfold insertEntry
    split
    · exact .refl _
    · split
      · exact ((ih h.2).cons entry).trans (.swap _ _ _)
      · next hnot hnot' =>
        exact absurd (String.le_antisymm (String.not_lt.mp hnot') (String.not_lt.mp hnot)) h.1

theorem entries_insertMany_perm {map : SortedMap α} {bindings : List (String × α)}
    (h : ((bindings ++ map.entries).map Prod.fst).Nodup) :
    (map.insertMany bindings).entries.Perm (bindings ++ map.entries) := by
  induction bindings generalizing map with
  | nil => exact .refl _
  | cons binding rest ih =>
    rw [List.cons_append, List.map_cons, List.nodup_cons, List.map_append, List.mem_append,
      not_or] at h
    have hentries : (map.insert binding.1 binding.2).entries.Perm (binding :: map.entries) :=
      insertEntry_perm h.1.2
    have hmiddle : (rest ++ (map.insert binding.1 binding.2).entries).Perm
        (binding :: (rest ++ map.entries)) :=
      (hentries.append_left rest).trans List.perm_middle
    refine (ih ?_).trans hmiddle
    rw [(hmiddle.map Prod.fst).nodup_iff, List.map_cons, List.map_append, List.nodup_cons,
      List.mem_append, not_or]
    exact h

/-- Bindings with distinct keys are the entries of the map, up to their order. -/
theorem entries_ofList_perm {bindings : List (String × α)}
    (h : (bindings.map Prod.fst).Nodup) : (ofList bindings).entries.Perm bindings := by
  have hdistinct : ((bindings ++ (empty : SortedMap α).entries).map Prod.fst).Nodup := by
    rw [empty, List.append_nil]
    exact h
  have hperm := entries_insertMany_perm hdistinct
  rw [empty, List.append_nil] at hperm
  exact hperm

/-- The entries of a map make the map again. -/
theorem ofList_entries (map : SortedMap α) : ofList map.entries = map := by
  refine ext_get? fun key => Option.ext fun value => ?_
  rw [get?_eq_some_iff, get?_eq_some_iff, (entries_ofList_perm map.nodup_keys).mem_iff]

/-- What is found under a key that is bound once does not depend on the order. -/
theorem lookup_eq_of_perm {left right : List (String × α)} (h : left.Perm right)
    (hnodup : (left.map Prod.fst).Nodup) (key : String) : left.lookup key = right.lookup key := by
  have hright : (right.map Prod.fst).Nodup := (h.map Prod.fst).nodup_iff.mp hnodup
  refine Option.ext fun value => ?_
  rw [lookup_eq_some_iff_of_nodup hnodup, lookup_eq_some_iff_of_nodup hright, h.mem_iff]

theorem ofList_eq_of_perm {left right : List (String × α)} (h : left.Perm right)
    (hnodup : (left.map Prod.fst).Nodup) : ofList left = ofList right := by
  refine ext_get? fun key => ?_
  rw [get?_ofList, get?_ofList]
  have hreverse : left.reverse.Perm right.reverse :=
    left.reverse_perm.trans (h.trans right.reverse_perm.symm)
  exact lookup_eq_of_perm hreverse ((left.reverse_perm.map Prod.fst).nodup_iff.mpr hnodup) key

end FlowCompiler.SortedMap
