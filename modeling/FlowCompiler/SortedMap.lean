/-!
# Sorted maps

`SortedMap α` is a finite map from texts to `α`, held as its entries in ascending order of the
keys. Texts are ordered by their code points. The order is part of the type, so two maps with the
same entries are equal, and whoever walks a map meets the keys in ascending order.

* `SortedMap.insert` binds a key, replacing an earlier binding.
* `SortedMap.get?` looks a key up.
* `SortedMap.erase` removes a key.
* `SortedMap.insertMany` binds several keys, the last binding of a key winning.

Main statements: what is found after each of these (`get?_insert`, `get?_erase`), and that a map is
determined by what is found in it (`ext_get?`).
-/

namespace FlowCompiler

universe u

/-- Entries in ascending order of their keys; in particular no key occurs twice. -/
abbrev Ascending {α : Type u} (entries : List (String × α)) : Prop :=
  entries.Pairwise fun a b => a.1 < b.1

/-- A finite map from texts to `α`. -/
@[ext]
structure SortedMap (α : Type u) where
  /-- The bindings, in ascending order of the keys. -/
  entries : List (String × α)
  /-- The keys ascend. -/
  ascending : Ascending entries
deriving DecidableEq

namespace SortedMap

variable {α : Type u}

/-- The map that binds no key. -/
def empty : SortedMap α := ⟨[], List.Pairwise.nil⟩

instance : EmptyCollection (SortedMap α) := ⟨empty⟩

instance : Inhabited (SortedMap α) := ⟨empty⟩

/-- Whether the map binds no key. -/
def isEmpty (map : SortedMap α) : Bool :=
  map.entries.isEmpty

/-- The value bound to the key. -/
def get? (map : SortedMap α) (key : String) : Option α :=
  map.entries.lookup key

/-- Whether the key is bound. -/
def contains (map : SortedMap α) (key : String) : Bool :=
  (map.get? key).isSome

/-- The bound keys, ascending. -/
def keys (map : SortedMap α) : List String :=
  map.entries.map Prod.fst

/-- Puts a binding into its place among ascending entries, over one of the same key. -/
def insertEntry (key : String) (value : α) : List (String × α) → List (String × α)
  | [] => [(key, value)]
  | entry :: rest =>
    if key < entry.1 then (key, value) :: entry :: rest
    else if entry.1 < key then entry :: insertEntry key value rest
    else (key, value) :: rest

theorem mem_insertEntry {key : String} {value : α} {entries : List (String × α)}
    {entry : String × α} (h : entry ∈ insertEntry key value entries) :
    entry = (key, value) ∨ entry ∈ entries := by
  induction entries with
  | nil => simpa [insertEntry] using h
  | cons head rest ih =>
    unfold insertEntry at h
    split at h
    · simpa using h
    · split at h
      · rcases List.mem_cons.mp h with h | h
        · exact .inr (List.mem_cons.mpr (.inl h))
        · exact (ih h).imp id (List.mem_cons_of_mem _)
      · rcases List.mem_cons.mp h with h | h
        · exact .inl h
        · exact .inr (List.mem_cons_of_mem _ h)

theorem ascending_insertEntry {key : String} {value : α} {entries : List (String × α)}
    (h : Ascending entries) : Ascending (insertEntry key value entries) := by
  induction entries with
  | nil => exact List.pairwise_singleton _ _
  | cons head rest ih =>
    obtain ⟨hhead, hrest⟩ := List.pairwise_cons.mp h
    unfold insertEntry
    split
    · next hlt =>
      refine List.pairwise_cons.mpr ⟨fun entry hentry => ?_, h⟩
      rcases List.mem_cons.mp hentry with rfl | hentry
      · exact hlt
      · exact String.lt_trans hlt (hhead entry hentry)
    · split
      · next hlt =>
        refine List.pairwise_cons.mpr ⟨fun entry hentry => ?_, ih hrest⟩
        rcases mem_insertEntry hentry with rfl | hentry
        · exact hlt
        · exact hhead entry hentry
      · next hnot hnot' =>
        -- Neither key is smaller, so they are the same.
        have hkey : key = head.1 :=
          String.le_antisymm (String.not_lt.mp hnot') (String.not_lt.mp hnot)
        exact List.pairwise_cons.mpr ⟨fun entry hentry => hkey ▸ hhead entry hentry, hrest⟩

/-- The map with the key bound to the value, whatever it was bound to before. -/
def insert (map : SortedMap α) (key : String) (value : α) : SortedMap α :=
  ⟨insertEntry key value map.entries, ascending_insertEntry map.ascending⟩

/-- The map without a binding for the key. -/
def erase (map : SortedMap α) (key : String) : SortedMap α :=
  ⟨map.entries.filter fun entry => entry.1 != key, map.ascending.filter _⟩

/-- The map with the bindings added one after the other. -/
def insertMany (map : SortedMap α) (bindings : List (String × α)) : SortedMap α :=
  bindings.foldl (fun map binding => map.insert binding.1 binding.2) map

/-- The map of the bindings; of several for one key the last counts. -/
def ofList (bindings : List (String × α)) : SortedMap α :=
  empty.insertMany bindings

/-! ## Looking up -/

theorem lookup_cons_ite (entry : String × α) (rest : List (String × α)) (key : String) :
    (entry :: rest).lookup key = if key = entry.1 then some entry.2 else rest.lookup key := by
  obtain ⟨name, value⟩ := entry
  rw [List.lookup_cons]
  by_cases h : key = name
  · simp [h]
  · simp [beq_false_of_ne h, h]

theorem lookup_insertEntry (key : String) (value : α) (entries : List (String × α))
    (other : String) :
    (insertEntry key value entries).lookup other =
      if other = key then some value else entries.lookup other := by
  induction entries with
  | nil => rw [insertEntry, lookup_cons_ite]
  | cons entry rest ih =>
    unfold insertEntry
    split
    · rw [lookup_cons_ite]
    · split
      · next hlt =>
        rw [lookup_cons_ite, lookup_cons_ite, ih]
        by_cases h : other = entry.1
        · have hne : other ≠ key := fun e => String.lt_irrefl key (h.symm.trans e ▸ hlt)
          rw [if_pos h, if_neg hne, if_pos h]
        · rw [if_neg h, if_neg h]
      · next hnot hnot' =>
        have hkey : entry.1 = key :=
          String.le_antisymm (String.not_lt.mp hnot) (String.not_lt.mp hnot')
        rw [lookup_cons_ite, lookup_cons_ite, hkey]
        by_cases h : other = key
        · rw [if_pos h, if_pos h]
        · rw [if_neg h, if_neg h, if_neg h]

theorem lookup_filter_ne (key : String) (entries : List (String × α)) (other : String) :
    (entries.filter fun entry => entry.1 != key).lookup other =
      if other = key then none else entries.lookup other := by
  induction entries with
  | nil => simp
  | cons entry rest ih =>
    rw [lookup_cons_ite, List.filter_cons]
    by_cases hkey : entry.1 = key
    · rw [if_neg (by simp [hkey]), ih, hkey]
      by_cases h : other = key
      · rw [if_pos h, if_pos h]
      · rw [if_neg h, if_neg h, if_neg h]
    · rw [if_pos (by simp [hkey]), lookup_cons_ite, ih]
      by_cases h : other = entry.1
      · rw [if_pos h, if_pos h, if_neg (h ▸ hkey)]
      · rw [if_neg h, if_neg h]

@[simp]
theorem get?_empty (key : String) : (empty : SortedMap α).get? key = none := rfl

@[simp]
theorem get?_insert (map : SortedMap α) (key : String) (value : α) (other : String) :
    (map.insert key value).get? other = if other = key then some value else map.get? other :=
  lookup_insertEntry key value map.entries other

@[simp]
theorem get?_erase (map : SortedMap α) (key other : String) :
    (map.erase key).get? other = if other = key then none else map.get? other :=
  lookup_filter_ne key map.entries other

theorem lookup_eq_none_of_lt {key : String} {entries : List (String × α)}
    (h : ∀ entry ∈ entries, key < entry.1) : entries.lookup key = none := by
  rw [List.lookup_eq_none_iff]
  intro entry hentry
  have hlt := h entry hentry
  exact bne_iff_ne.mpr fun e => String.lt_irrefl entry.1 (e ▸ hlt)

/-- Ascending entries are determined by what is found under each key. -/
theorem eq_of_lookup_eq {left right : List (String × α)} (hleft : Ascending left)
    (hright : Ascending right) (h : ∀ key, left.lookup key = right.lookup key) : left = right := by
  induction left generalizing right with
  | nil =>
    cases right with
    | nil => rfl
    | cons entry rest => simpa [lookup_cons_ite] using h entry.1
  | cons entry rest ih =>
    obtain ⟨hentry, hrest⟩ := List.pairwise_cons.mp hleft
    cases right with
    | nil => simpa [lookup_cons_ite] using h entry.1
    | cons other more =>
      obtain ⟨hother, hmore⟩ := List.pairwise_cons.mp hright
      -- Were one first key smaller, it would not be found on the other side.
      have hkey : entry.1 = other.1 := by
        refine String.le_antisymm (String.not_lt.mp fun hlt => ?_) (String.not_lt.mp fun hlt => ?_)
        · have hnone : (entry :: rest).lookup other.1 = none := lookup_eq_none_of_lt <|
            List.forall_mem_cons.mpr ⟨hlt, fun e he => String.lt_trans hlt (hentry e he)⟩
          simpa [hnone, lookup_cons_ite] using h other.1
        · have hnone : (other :: more).lookup entry.1 = none := lookup_eq_none_of_lt <|
            List.forall_mem_cons.mpr ⟨hlt, fun e he => String.lt_trans hlt (hother e he)⟩
          simpa [hnone, lookup_cons_ite] using h entry.1
      have hvalue : entry.2 = other.2 := by simpa [lookup_cons_ite, hkey] using h entry.1
      have htail : rest = more := by
        refine ih hrest hmore fun key => ?_
        by_cases hfirst : key = other.1
        · rw [lookup_eq_none_of_lt (hfirst ▸ hkey ▸ hentry),
            lookup_eq_none_of_lt (hfirst ▸ hother)]
        · simpa [lookup_cons_ite, hkey, hfirst] using h key
      rw [htail, show entry = other from Prod.ext hkey hvalue]

/-- Maps in which the same is found under every key are equal. -/
theorem ext_get? {left right : SortedMap α} (h : ∀ key, left.get? key = right.get? key) :
    left = right :=
  SortedMap.ext (eq_of_lookup_eq left.ascending right.ascending h)

end SortedMap

end FlowCompiler
