import FlowCompiler.Json.Outline
import FlowCompiler.Proofs.PrintedTexts

/-!
# Reading printed values

What is printed for a value is read back as the outline of that value (`Shallow.ofText?_render`).
The value is assumed to be `Shallow`: no number occurs in it, and only so many lists and maps are
nested. Then its outline is sound too (`Shallow.isSound_outline`).

The reader has room for as many nested lists and maps as the text has characters. So it is shown by
induction on how the value is shallow that room for the characters of a value is enough to read it
(`Shallow.takes_chars`); the items of a list and the values of a map are printed within it and have
fewer characters.
-/

namespace FlowCompiler.Json

variable {rest : List Char}

/-! ## Outlines -/

mutual

/-- The outline of a value. -/
def outline : Json → Outline
  | .null => .null
  | .bool value => .bool value
  | .number value => .number (some value)
  | .string value => .text (some value)
  | .list items => .list (outlines items)
  | .map entries => .map (entryOutlines entries)

/-- The outlines of list items. -/
def outlines : List Json → List Outline
  | [] => []
  | item :: rest => outline item :: outlines rest

/-- The outlines of map entries. -/
def entryOutlines : List (String × Json) → List (Option String × Outline)
  | [] => []
  | (key, value) :: rest => (some key, outline value) :: entryOutlines rest

end

theorem outlines_eq_map (items : List Json) : outlines items = items.map outline := by
  induction items with
  | nil => rfl
  | cons item others ih => rw [outlines, ih, List.map_cons]

theorem entryOutlines_eq_map (entries : List (String × Json)) :
    entryOutlines entries = entries.map fun entry => (some entry.1, entry.2.outline) := by
  induction entries with
  | nil => rfl
  | cons entry others ih => rw [entryOutlines, ih, List.map_cons]

theorem outline_list (items : List Json) : outline (.list items) = .list (items.map outline) := by
  rw [outline, outlines_eq_map]

theorem outline_map (entries : Document) :
    outline (.map entries) = .map (entries.map fun entry => (some entry.1, entry.2.outline)) := by
  rw [outline, entryOutlines_eq_map]

/-- A value in which no number occurs and at most so many lists and maps are nested. -/
inductive Shallow : Nat → Json → Prop
  /-- No value. -/
  | null {room : Nat} : Shallow room .null
  /-- A truth value. -/
  | bool {room : Nat} (value : Bool) : Shallow room (.bool value)
  /-- A text. -/
  | string {room : Nat} (value : String) : Shallow room (.string value)
  /-- A list of values that are shallow by one less. -/
  | list {room : Nat} {items : List Json} (h : ∀ item ∈ items, Shallow room item) :
    Shallow (room + 1) (.list items)
  /-- A map to values that are shallow by one less. -/
  | map {room : Nat} {entries : List (String × Json)}
    (h : ∀ entry ∈ entries, Shallow room entry.2) : Shallow (room + 1) (.map entries)

@[simp]
theorem shallow_string {room : Nat} (value : String) : Shallow room (.string value) :=
  .string value

@[simp]
theorem shallow_bool {room : Nat} (value : Bool) : Shallow room (.bool value) :=
  .bool value

@[simp]
theorem shallow_list {room : Nat} {items : List Json} :
    Shallow (room + 1) (.list items) ↔ ∀ item ∈ items, Shallow room item :=
  ⟨fun h => by cases h; assumption, .list⟩

@[simp]
theorem shallow_map {room : Nat} {entries : Document} :
    Shallow (room + 1) (.map entries) ↔ ∀ entry ∈ entries, Shallow room entry.2 :=
  ⟨fun h => by cases h; assumption, .map⟩

/-! ## What is printed for lists and maps -/

theorem moreItemsChars_eq (items : List Json) :
    moreItemsChars items = items.flatMap fun item => ',' :: item.chars := by
  induction items with
  | nil => rfl
  | cons item others ih => rw [moreItemsChars, ih, List.flatMap_cons, List.cons_append]

/-- What is printed for an entry behind the opening quote of its key. -/
def entryChars (entry : String × Json) : List Char :=
  entry.1.toList.flatMap escaped ++ '"' :: ':' :: entry.2.chars

theorem moreEntriesChars_eq (entries : List (String × Json)) :
    moreEntriesChars entries = entries.flatMap fun entry => ',' :: '"' :: entryChars entry := by
  induction entries with
  | nil => rfl
  | cons entry others ih => simp [moreEntriesChars, ih, textChars, entryChars]

theorem chars_list_cons (first : Json) (others : List Json) :
    chars (.list (first :: others)) = '[' :: (first.chars
      ++ (others.flatMap (fun item => ',' :: item.chars) ++ [']'])) := by
  rw [chars, itemsChars, moreItemsChars_eq, List.append_assoc]

theorem chars_map_cons (first : String × Json) (others : List (String × Json)) :
    chars (.map (first :: others)) = '\x7b' :: '"' :: (entryChars first
      ++ (others.flatMap (fun entry => ',' :: '"' :: entryChars entry) ++ ['\x7d'])) := by
  simp [chars, entriesChars, moreEntriesChars_eq, textChars, entryChars]

theorem Shallow.startsItem {room : Nat} {value : Json} (h : Shallow room value) :
    StartsItem value.chars := by
  cases h with
  | bool value => cases value <;> exact ⟨_, _, rfl, rfl, by decide⟩
  | _ => exact ⟨_, _, rfl, rfl, by decide⟩

theorem length_le_length_flatMap {α β : Type} (printed : α → List β) {item : α} {items : List α}
    (h : item ∈ items) : (printed item).length ≤ (items.flatMap printed).length := by
  rw [List.flatMap_def]
  exact (List.sublist_flatten_of_mem (List.mem_map_of_mem h)).length_le

/-- An item of a list is printed within what is printed for the list. -/
theorem length_chars_lt_of_mem_list {items : List Json} {item : Json} (h : item ∈ items) :
    item.chars.length < (chars (.list items)).length := by
  cases items with
  | nil => cases h
  | cons first others =>
    simp only [chars_list_cons, List.length_cons, List.length_append]
    rcases List.mem_cons.mp h with rfl | hother
    · omega
    · have hle := length_le_length_flatMap (fun item => ',' :: chars item) hother
      rw [List.length_cons] at hle
      omega

theorem length_chars_lt_of_mem_map {entries : List (String × Json)} {entry : String × Json}
    (h : entry ∈ entries) : entry.2.chars.length < (chars (.map entries)).length := by
  have hentry : entry.2.chars.length ≤ (entryChars entry).length := by
    simp only [entryChars, List.length_append, List.length_cons]
    omega
  cases entries with
  | nil => cases h
  | cons first others =>
    simp only [chars_map_cons, List.length_cons, List.length_append]
    rcases List.mem_cons.mp h with rfl | hother
    · omega
    · have hle := length_le_length_flatMap (fun entry => ',' :: '"' :: entryChars entry) hother
      rw [List.length_cons, List.length_cons] at hle
      omega

/-! ## Reading values -/

section Values

variable {κ : Type} {α : Type} {grammar : Grammar κ α} {text : List Char} {room : Nat}

theorem Takes.value_of_scalar {c : Char} {value : α} (hspace : isSpace c = false)
    (hlist : c ≠ '[') (hmap : c ≠ '\x7b') (h : Takes grammar.scalar (c :: text) value rest) :
    Takes (grammar.value room) (c :: text) value rest := by
  obtain ⟨hlt, hread⟩ := h
  refine ⟨hlt, ?_⟩
  unfold Grammar.value
  split
  · next hempty => rw [skipSpace_cons hspace] at hempty; cases hempty
  · next d behind hskip =>
    rw [skipSpace_cons hspace] at hskip
    obtain ⟨rfl, rfl⟩ := List.cons.inj hskip
    rw [if_neg (by simp [hlist, hmap]), hread]
    rfl

theorem Takes.value_of_list {items : List α}
    (h : Takes (readItems grammar.comma (grammar.value room)) text items rest) :
    Takes (grammar.value (room + 1)) ('[' :: text) (grammar.ofList items) rest := by
  obtain ⟨hlt, hread⟩ := h
  refine ⟨Nat.lt_succ_of_lt hlt, ?_⟩
  have hlist : grammar.value (room + 1) ('[' :: text)
      = (Reader.map grammar.ofList (readItems grammar.comma (grammar.value room)) text).map
        Step.afterChar := rfl
  rw [hlist, Reader.map, hread]
  rfl

theorem Takes.value_of_map {entries : List (κ × α)}
    (h : Takes (readMap grammar.comma (readEntry grammar.text (grammar.value room))) text entries
      rest) :
    Takes (grammar.value (room + 1)) ('\x7b' :: text) (grammar.ofMap entries) rest := by
  obtain ⟨hlt, hread⟩ := h
  refine ⟨Nat.lt_succ_of_lt hlt, ?_⟩
  have hmap : grammar.value (room + 1) ('\x7b' :: text)
      = (Reader.map grammar.ofMap
          (readMap grammar.comma (readEntry grammar.text (grammar.value room))) text).map
        Step.afterChar := rfl
  rw [hmap, Reader.map, hread]
  rfl

end Values

theorem takes_null :
    Takes outlineGrammar.scalar ('n' :: 'u' :: 'l' :: 'l' :: rest) .null rest :=
  ⟨by simp only [List.length_cons]; omega, rfl⟩

theorem takes_true :
    Takes outlineGrammar.scalar ('t' :: 'r' :: 'u' :: 'e' :: rest) (.bool true) rest :=
  ⟨by simp only [List.length_cons]; omega, rfl⟩

theorem takes_false :
    Takes outlineGrammar.scalar ('f' :: 'a' :: 'l' :: 's' :: 'e' :: rest) (.bool false) rest :=
  ⟨by simp only [List.length_cons]; omega, rfl⟩

theorem takes_value_string (text : String) {room : Nat} :
    Takes (outlineGrammar.value room) (chars (.string text) ++ rest) (.text (some text)) rest := by
  have hprinted : chars (.string text) ++ rest
      = '"' :: (text.toList.flatMap escaped ++ '"' :: rest) := by
    simp [chars, textChars]
  obtain ⟨hlt, hread⟩ : Takes skipText _ (some text) rest := takes_skipText text
  have hscalar : Takes outlineGrammar.scalar ('"' :: (text.toList.flatMap escaped ++ '"' :: rest))
      (.text (some text)) rest :=
    ⟨Nat.lt_succ_of_lt hlt, by simp only [Grammar.scalar, outlineGrammar, hread]; rfl⟩
  rw [hprinted]
  exact hscalar.value_of_scalar rfl (by decide) (by decide)

/-- A shallow value is read from what is printed for it as its outline. -/
theorem Shallow.takes_chars {depth : Nat} {value : Json} (h : Shallow depth value) {room : Nat}
    (hroom : value.chars.length ≤ room) (rest : List Char) :
    Takes (outlineGrammar.value room) (value.chars ++ rest) value.outline rest := by
  induction h generalizing room rest with
  | null => exact takes_null.value_of_scalar rfl (by decide) (by decide)
  | bool value =>
    cases value with
    | true => exact takes_true.value_of_scalar rfl (by decide) (by decide)
    | false => exact takes_false.value_of_scalar rfl (by decide) (by decide)
  | string value => exact takes_value_string value
  | @list depth items h ih =>
    cases room with
    | zero => simp [chars] at hroom
    | succ room =>
      -- The bracket is one character more, so there is room for the characters of every item.
      have hitem : ∀ item ∈ items, ∀ more,
          Takes (outlineGrammar.value room) (item.chars ++ more) item.outline more := by
        intro item hmem more
        have hlt := length_chars_lt_of_mem_list hmem
        exact ih item hmem (by omega) more
      rw [outline_list]
      cases items with
      | nil => exact Takes.value_of_list takes_readItems_nil
      | cons first others =>
        have hlist : Takes (outlineGrammar.value (room + 1)) _
            (.list ((first :: others).map outline)) rest :=
          (takes_readItems hitem fun item hmem => (h item hmem).startsItem).value_of_list
        simpa [chars_list_cons] using hlist
  | @map depth entries h ih =>
    cases room with
    | zero => simp [chars] at hroom
    | succ room =>
      have hentry : ∀ entry ∈ entries, ∀ more,
          Takes (readEntry outlineGrammar.text (outlineGrammar.value room))
            (entryChars entry ++ more) (some entry.1, entry.2.outline) more := by
        intro entry hmem more
        have hlt := length_chars_lt_of_mem_map hmem
        have hkey : Takes outlineGrammar.text (entryChars entry ++ more) (some entry.1)
            (':' :: (entry.2.chars ++ more)) := by
          simpa [entryChars, outlineGrammar] using takes_skipText entry.1
        exact hkey.readEntry (ih entry hmem (by omega) more)
      rw [outline_map]
      cases entries with
      | nil => exact Takes.value_of_map takes_readMap_nil
      | cons first others =>
        have hmap : Takes (outlineGrammar.value (room + 1)) _
            (.map ((first :: others).map fun entry => (some entry.1, entry.2.outline))) rest :=
          (takes_readMap hentry).value_of_map
        simpa [chars_map_cons] using hmap

/-- The text of a shallow value has the outline of the value. -/
theorem Shallow.ofText?_render {depth : Nat} {value : Json} (h : Shallow depth value) :
    Outline.ofText? value.render = some value.outline := by
  have htakes := h.takes_chars (Nat.le_refl _) []
  rw [List.append_nil] at htakes
  obtain ⟨_, hread⟩ := htakes
  rw [Outline.ofText?, readWhole?, render, String.toList_ofList, readOutline, hread]
  rfl

/-! ## Soundness -/

theorem Outline.areSound_iff {room : Nat} {items : List Outline} :
    areSound room items = true ↔ ∀ item ∈ items, item.isSound room = true := by
  induction items with
  | nil => simp [areSound]
  | cons item others ih => simp [areSound, ih]

theorem Outline.areSoundEntries_iff {room : Nat} {entries : List (Option String × Outline)} :
    areSoundEntries room entries = true
      ↔ ∀ entry ∈ entries, entry.1.isSome = true ∧ entry.2.isSound room = true := by
  induction entries with
  | nil => simp [areSoundEntries]
  | cons entry others ih => simp [areSoundEntries, ih]

/-- The outline of a shallow value is sound. -/
theorem Shallow.isSound_outline {room : Nat} {value : Json} (h : Shallow room value) :
    value.outline.isSound room = true := by
  induction h with
  | null => rfl
  | bool value => rfl
  | string value => rfl
  | list h ih =>
    rw [outline_list, Outline.isSound, Outline.areSound_iff]
    simpa using ih
  | map h ih =>
    rw [outline_map, Outline.isSound, Outline.areSoundEntries_iff]
    intro outlined houtlined
    obtain ⟨entry, hmem, rfl⟩ := List.mem_map.mp houtlined
    exact ⟨rfl, ih entry hmem⟩

end FlowCompiler.Json
