import FlowCompiler.Proofs.Inputs

/-!
# Lists of items

An item stands for an entry, a name with a value (`entryOf?`); a bare name has nothing as its value.
A list is accepted if every item stands for an entry that is accepted and no two of the names are
the same, blanks around them aside, and it declares what the entries declare one by one
(`readList_eq_ok_iff`). That holds of every format of items that reads an entry by itself
(`ItemFormat.Declares`), and so of both formats there are.

The bindings of a call are read from a list in the same way, or from the entries of a map, whose
names are not compared with one another (`readBindings_eq_ok_iff`).
-/

namespace FlowCompiler.Extractor

/-! ## Entries -/

/-- The entry that an item of a list stands for. -/
def entryOf? : Json → Option (String × Json)
  | .string name => some (name, .null)
  | .map [entry] => some entry
  | _ => none

/-- Whether an entry has a name that is not blank and a value that is accepted. -/
def IsEntry (accepts : Json → Prop) (entry : String × Json) : Prop :=
  Text.isBlankText entry.1 = false ∧ accepts entry.2

/-- The entries that the items stand for. -/
def entriesOf (items : List Json) : Document :=
  items.filterMap entryOf?

theorem entriesOf_cons {item : Json} {entry : String × Json} (h : entryOf? item = some entry)
    (rest : List Json) : entriesOf (item :: rest) = entry :: entriesOf rest :=
  List.filterMap_cons_some h

/-- The names of the entries without the blanks around them. -/
def properNames (entries : Document) : List String :=
  entries.map fun entry => Text.trim entry.1

/-- Whether a list may be read: nothing, or a list of items with different names. -/
def IsItemList (accepts : Json → Prop) : Json → Prop
  | .null => True
  | .list items =>
    (∀ item ∈ items, ∃ entry, entryOf? item = some entry ∧ IsEntry accepts entry)
      ∧ (properNames (entriesOf items)).Nodup
  | _ => False

/-- The entries of a list or a map. -/
def entries : Json → Document
  | .list items => entriesOf items
  | .map entries => entries
  | _ => []

/-- The format reads an entry that is accepted by itself, and a bare name like one with nothing. -/
structure ItemFormat.Declares {α : Type} (format : ItemFormat α) (accepts : Json → Prop)
    (declare : String → Json → α) : Prop where
  null : accepts .null
  bare (name : String) : format.bare name = declare name .null
  name (name : String) (value : Json) : format.nameOf (declare name value) = name
  entry {place name : String} {value : Json} {declared : α} :
    format.entry place name value = .ok declared
      ↔ IsEntry accepts (name, value) ∧ declared = declare (Text.trim name) value

/-- The name with the expression of a value. -/
def namedOf (name : String) (value : Json) : NamedExpression :=
  ⟨name, value.scalarText?⟩

theorem inputFormat_declares : inputFormat.Declares IsInputValue inputOf where
  null := trivial
  bare _ := rfl
  name := name_inputOf
  entry := readInput_eq_ok_iff

theorem namedFormat_declares : namedFormat.Declares Json.IsScalar namedOf where
  null := trivial
  bare _ := rfl
  name _ _ := rfl
  entry {place name value declared} := by
    have hstep : readNamed place name value
        = (properName place name >>= fun proper =>
          (scalarText name value).map fun text => ⟨proper, text⟩) := by
      rw [readNamed]
      cases properName place name <;> rfl
    show readNamed place name value = .ok declared ↔ _
    rw [hstep, bind_eq_ok_iff_of properName_eq_ok_iff, map_eq_ok_iff_of scalarText_eq_ok_iff,
      ← and_assoc]
    rfl

/-! ## Lists -/

section Lists

variable {α : Type} {format : ItemFormat α} {accepts : Json → Prop} {declare : String → Json → α}
  {place : String}

/-- What the entries declare, one by one. -/
def declarations (declare : String → Json → α) (entries : Document) : List α :=
  entries.map fun entry => declare (Text.trim entry.1) entry.2

theorem readItem_eq_ok_iff (hformat : format.Declares accepts declare) {item : Json}
    {declared : α} :
    readItem format place item = .ok declared
      ↔ ∃ entry, entryOf? item = some entry ∧ IsEntry accepts entry
          ∧ declared = declare (Text.trim entry.1) entry.2 := by
  unfold readItem entryOf?
  split
  · next name =>
    simp only [map_eq_ok_iff_of properName_eq_ok_iff, hformat.bare, Option.some.injEq,
      exists_eq_left', IsEntry, hformat.null, and_true]
  · next name value => simp only [hformat.entry, Option.some.injEq, exists_eq_left']
  · next hstring hmap =>
    split
    · next name => exact absurd rfl (hstring name)
    · next entry => exact absurd rfl (hmap entry.1 entry.2)
    · simp

theorem readItems_cons_eq_ok_iff (hformat : format.Declares accepts declare)
    {earlier : List String} {item : Json} {rest : List Json} {declared : List α} :
    readItems format place earlier (item :: rest) = .ok declared
      ↔ ∃ entry, entryOf? item = some entry ∧ IsEntry accepts entry ∧ Text.trim entry.1 ∉ earlier
          ∧ ∃ others, readItems format place (Text.trim entry.1 :: earlier) rest = .ok others
            ∧ declared = declare (Text.trim entry.1) entry.2 :: others := by
  have hstep : readItems format place earlier (item :: rest)
      = (readItem format place item >>= fun value =>
        if format.nameOf value ∈ earlier then
          .error (.invalid place
            ("duplicate " ++ format.noun ++ " '" ++ format.nameOf value ++ "'"))
        else
          (readItems format place (format.nameOf value :: earlier) rest).map (value :: ·)) := by
    rw [readItems]
    cases readItem format place item <;> rfl
  rw [hstep, bind_eq_ok_iff]
  simp only [readItem_eq_ok_iff hformat]
  apply Iff.intro
  · intro h
    obtain ⟨value, ⟨entry, hentry, haccepted, hvalue⟩, hread⟩ := h
    rw [hvalue, hformat.name] at hread
    split at hread
    · cases hread
    · next hfresh =>
      obtain ⟨others, hothers, hdeclared⟩ := map_eq_ok_iff.mp hread
      exact ⟨entry, hentry, haccepted, hfresh, others, hothers, hdeclared.symm⟩
  · intro h
    obtain ⟨entry, hentry, haccepted, hfresh, others, hothers, hdeclared⟩ := h
    refine ⟨_, ⟨entry, hentry, haccepted, rfl⟩, ?_⟩
    rw [hformat.name, if_neg hfresh, map_eq_ok_iff]
    exact ⟨others, hothers, hdeclared.symm⟩

/-- The scan of a list, whose state is the names it has met. -/
theorem readItems_eq_ok_iff (hformat : format.Declares accepts declare) {earlier : List String}
    {items : List Json} {declared : List α} :
    readItems format place earlier items = .ok declared
      ↔ (∀ item ∈ items, ∃ entry, entryOf? item = some entry ∧ IsEntry accepts entry)
        ∧ (properNames (entriesOf items)).Nodup
        ∧ (∀ name ∈ properNames (entriesOf items), name ∉ earlier)
        ∧ declared = declarations declare (entriesOf items) := by
  induction items generalizing earlier declared with
  | nil => simp [readItems, entriesOf, properNames, declarations, eq_comm]
  | cons item rest ih =>
    rw [readItems_cons_eq_ok_iff hformat]
    -- The rest is read with the name of the item among the earlier ones, so no later item has it.
    apply Iff.intro
    · intro h
      obtain ⟨entry, hentry, haccepted, hfresh, others, hothers, hdeclared⟩ := h
      obtain ⟨hitems, hnodup, hdisjoint, hall⟩ := ih.mp hothers
      rw [entriesOf_cons hentry, hdeclared, hall]
      refine ⟨List.forall_mem_cons.mpr ⟨⟨entry, hentry, haccepted⟩, hitems⟩,
        List.nodup_cons.mpr ⟨fun hmem => hdisjoint _ hmem List.mem_cons_self, hnodup⟩,
        List.forall_mem_cons.mpr ⟨hfresh, fun name hname hearlier => ?_⟩, rfl⟩
      exact hdisjoint name hname (List.mem_cons_of_mem _ hearlier)
    · intro h
      obtain ⟨hitems, hnodup, hdisjoint, hdeclared⟩ := h
      obtain ⟨⟨entry, hentry, haccepted⟩, hitems⟩ := List.forall_mem_cons.mp hitems
      rw [entriesOf_cons hentry] at hnodup hdisjoint hdeclared
      obtain ⟨hhead, hnodup⟩ := List.nodup_cons.mp hnodup
      obtain ⟨hfresh, hdisjoint⟩ := List.forall_mem_cons.mp hdisjoint
      refine ⟨entry, hentry, haccepted, hfresh, _,
        ih.mpr ⟨hitems, hnodup, fun name hname hmem => ?_, rfl⟩, hdeclared⟩
      rcases List.mem_cons.mp hmem with heq | hearlier
      · rw [heq] at hname
        exact hhead hname
      · exact hdisjoint name hname hearlier

theorem readList_eq_ok_iff (hformat : format.Declares accepts declare) {value : Json}
    {declared : List α} :
    readList format place value = .ok declared
      ↔ IsItemList accepts value ∧ declared = declarations declare (entries value) := by
  cases value with
  | list items =>
    rw [readList, readItems_eq_ok_iff hformat, IsItemList, and_assoc]
    simp [entries]
  | map entries => simp [readList, IsItemList]
  | null => simp [readList, IsItemList, entries, declarations, eq_comm]
  | bool held | number held | string held => simp [readList, IsItemList]

end Lists

/-! ## Bindings -/

/-- Whether the bindings of a call may be read: a list of inputs, or a map of names that are not
blank to values that inputs may have. -/
def IsBindings : Json → Prop
  | .map entries => ∀ entry ∈ entries, IsEntry IsInputValue entry
  | other => IsItemList IsInputValue other

theorem readBindingEntries_eq_ok_iff {reference : String} {entries : Document}
    {bindings : List Input} :
    readBindingEntries reference entries = .ok bindings
      ↔ (∀ entry ∈ entries, IsEntry IsInputValue entry)
        ∧ bindings = declarations inputOf entries := by
  induction entries generalizing bindings with
  | nil => simp [readBindingEntries, declarations, eq_comm]
  | cons entry rest ih =>
    have hstep : readBindingEntries reference (entry :: rest)
        = (readInput reference entry.1 entry.2 >>= fun input =>
          (readBindingEntries reference rest).map (input :: ·)) := by
      rw [readBindingEntries]
      cases readInput reference entry.1 entry.2 <;> rfl
    rw [hstep, bind_eq_ok_iff_of readInput_eq_ok_iff, map_eq_ok_iff_of ih, List.forall_mem_cons,
      ← and_assoc]
    rfl

theorem readBindings_eq_ok_iff {reference : String} {value : Json} {bindings : List Input} :
    readBindings reference value = .ok bindings
      ↔ IsBindings value ∧ bindings = declarations inputOf (entries value) := by
  cases value with
  | list items =>
    show readList inputFormat reference (.list items) = .ok bindings ↔ _
    exact readList_eq_ok_iff inputFormat_declares
  | map entries => exact readBindingEntries_eq_ok_iff
  | null =>
    show readList inputFormat reference .null = .ok bindings ↔ _
    exact readList_eq_ok_iff inputFormat_declares
  | bool held | number held | string held => simp [readBindings, IsBindings, IsItemList]

end FlowCompiler.Extractor
