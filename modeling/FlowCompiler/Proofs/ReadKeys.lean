import FlowCompiler.Json.Reader
import Mathlib.Data.List.Basic

/-!
# Keys of what is read

No map that is read from a text has a key twice, at whatever depth it stands (`wellKeyed_of_read`).
A reader of a map of entries lets a later entry take the place of an earlier one, so its own keys
are different; what stands under them has been read by the same reader with less room, so the
induction is over the room. `Gives` says what is true of all values that a reader takes, and has a
rule for each way of putting readers together.
-/

namespace FlowCompiler.Json

/-- No map in the value has a key twice. -/
inductive WellKeyed : Json → Prop
  | null : WellKeyed .null
  | bool (value : Bool) : WellKeyed (.bool value)
  | number (value : Number) : WellKeyed (.number value)
  | string (value : String) : WellKeyed (.string value)
  | list {items : List Json} : (∀ item ∈ items, WellKeyed item) → WellKeyed (.list items)
  | map {entries : Document} : entries.Distinct → (∀ entry ∈ entries, WellKeyed entry.2) →
      WellKeyed (.map entries)

theorem WellKeyed.of_list {items : List Json} (h : WellKeyed (.list items)) :
    ∀ item ∈ items, WellKeyed item := by
  cases h with
  | list hitems => exact hitems

theorem WellKeyed.of_map {entries : Document} (h : WellKeyed (.map entries)) :
    entries.Distinct ∧ ∀ entry ∈ entries, WellKeyed entry.2 := by
  cases h with
  | map hdistinct hentries => exact ⟨hdistinct, hentries⟩

universe u v

/-- Every value that the reader takes satisfies the predicate. -/
def Gives {α : Type u} (P : α → Prop) (reader : Reader α) : Prop :=
  ∀ text step, reader text = .ok step → P step.value

/-! ## Repetitions -/

section Combinators

variable {α : Type u} {β : Type v} {P : α → Prop} {Q : β → Prop}

theorem value_of_map {text text' : List Char} {x : Except Fault (Step α text)}
    {f : Step α text → Step β text'} {step : Step β text'} (h : x.map f = .ok step) :
    ∃ inner, x = .ok inner ∧ f inner = step := by
  cases x with
  | error fault => cases h
  | ok inner => exact ⟨inner, rfl, Except.ok.inj h⟩

theorem Gives.map {reader : Reader α} {f : α → β} (h : Gives P reader) (hf : ∀ a, P a → Q (f a)) :
    Gives Q (Reader.map f reader) := by
  intro text step hstep
  obtain ⟨inner, hinner, rfl⟩ := value_of_map hstep
  exact hf inner.value (h text inner hinner)

theorem Gives.andThen {first : Reader α} {second : α → Reader β} (h : Gives P first)
    (hsecond : ∀ a, P a → Gives Q (second a)) : Gives Q (first.andThen second) := by
  intro text step hstep
  unfold Reader.andThen at hstep
  split at hstep
  · cases hstep
  · next taken htaken =>
    split at hstep
    · cases hstep
    · next next hnext =>
      obtain rfl := Except.ok.inj hstep
      exact hsecond taken.value (h text taken htaken) taken.rest next hnext

/-- A repetition keeps what every element keeps; each element leaves a shorter text. -/
theorem Gives.loop {element : α → Reader (Option α)}
    (h : ∀ state, P state → Gives (fun changed => ∀ state ∈ changed, P state) (element state))
    {state : α} (hstate : P state) : Gives P (Reader.loop element state) := by
  intro text
  induction hlength : text.length using Nat.strongRecOn generalizing text state with
  | ind length ih =>
    intro step hstep
    rw [Reader.loop] at hstep
    split at hstep
    · cases hstep
    · obtain rfl := Except.ok.inj hstep
      exact hstate
    · next changed rest shorter htaken =>
      have hchanged : P changed := h state hstate text _ htaken changed rfl
      split at hstep
      · cases hstep
      · next last hlast =>
        obtain rfl := Except.ok.inj hstep
        exact ih rest.length (hlength ▸ shorter) hchanged rest rfl last hlast

theorem Gives.many {element : Reader (Option α)}
    (h : Gives (fun taken => ∀ a ∈ taken, P a) element) {earlier : List α}
    (hearlier : ∀ a ∈ earlier, P a) : Gives (fun all => ∀ a ∈ all, P a)
      (Reader.many element earlier) := by
  have hloop : Gives (fun all => ∀ a ∈ all, P a)
      (Reader.loop (fun earlier => Reader.map (Option.map (· :: earlier)) element) earlier) := by
    refine Gives.loop (fun state hstate => h.map fun taken htaken => ?_) hearlier
    cases taken with
    | none => simp
    | some a => simpa using ⟨htaken a rfl, hstate⟩
  exact hloop.map fun all hall a ha => hall a (List.mem_reverse.mp ha)

end Combinators

/-! ## Lists and maps -/

section Structures

variable {κ : Type u} {α : Type v} {comma : CommaCauses} {P : α → Prop}

theorem Gives.nextItem {item : Reader α} (h : Gives P item) :
    Gives (fun taken => ∀ a ∈ taken, P a) (nextItem comma item) := by
  intro text step hstep
  unfold Json.nextItem at hstep
  split at hstep
  · cases hstep
  · next c rest hskip =>
    split_ifs at hstep with hend hcomma
    · obtain rfl := Except.ok.inj hstep
      simp [Step.oneSpaced]
    · split at hstep
      · cases hstep
      · obtain ⟨inner, hinner, rfl⟩ := value_of_map hstep
        have hvalue : P inner.value := h rest inner hinner
        simpa [Step.map, Step.afterSpaced, Step.after] using hvalue

theorem Gives.readItems {item : Reader α} (h : Gives P item) :
    Gives (fun all => ∀ a ∈ all, P a) (readItems comma item) := by
  intro text step hstep
  unfold Json.readItems at hstep
  split at hstep
  · cases hstep
  · split_ifs at hstep
    · obtain rfl := Except.ok.inj hstep
      simp [Step.oneSpaced]
    · have hall : Gives (fun all => ∀ a ∈ all, P a)
          (item.andThen fun first => Reader.many (Json.nextItem comma item) [first]) :=
        h.andThen fun first hfirst => Gives.many h.nextItem (by simpa using hfirst)
      exact hall text step hstep

theorem Gives.readEntry {key : Reader κ} {value : Reader α} (h : Gives P value) :
    Gives (fun entry => P entry.2) (readEntry key value) := by
  have hkey : Gives (fun _ => True) key := fun _ _ _ => trivial
  have hcolon : Gives (fun _ => True) readColon := fun _ _ _ => trivial
  exact hkey.andThen fun name _ => hcolon.andThen fun _ _ => h.map fun held hheld => hheld

theorem Gives.nextEntry {entry : Reader α} (h : Gives P entry) :
    Gives (fun taken => ∀ a ∈ taken, P a) (nextEntry comma entry) := by
  intro text step hstep
  unfold Json.nextEntry at hstep
  split at hstep
  · cases hstep
  · split_ifs at hstep
    · obtain rfl := Except.ok.inj hstep
      simp [Step.oneSpaced]
    · split at hstep
      · cases hstep
      · next d behind _ =>
        split_ifs at hstep
        obtain ⟨inner, hinner, rfl⟩ := value_of_map hstep
        have hvalue : P inner.value := h behind inner hinner
        simpa [Step.map, Step.afterSpaced, Step.after] using hvalue

theorem Gives.readEntries {entry : α → Reader α} (h : ∀ state, P state → Gives P (entry state))
    {state : α} (hstate : P state) : Gives P (readEntries comma entry state) := by
  intro text step hstep
  unfold Json.readEntries at hstep
  split at hstep
  · cases hstep
  · next c rest _ =>
    split_ifs at hstep
    · obtain rfl := Except.ok.inj hstep
      exact hstate
    · obtain ⟨inner, hinner, rfl⟩ := value_of_map hstep
      have hall : Gives P
          ((entry state).andThen (Reader.loop fun state => Json.nextEntry comma (entry state))) :=
        (h state hstate).andThen fun changed hchanged =>
          Gives.loop (fun state hstate => (h state hstate).nextEntry) hchanged
      exact hall rest inner hinner

theorem Gives.readMap {entry : Reader α} (h : Gives P entry) :
    Gives (fun all => ∀ a ∈ all, P a) (readMap comma entry) := by
  have hentries : Gives (fun all => ∀ a ∈ all, P a)
      (Json.readEntries comma (fun earlier => Reader.map (· :: earlier) entry) []) := by
    refine Gives.readEntries (fun earlier hearlier => h.map fun a ha => ?_) (by simp)
    exact List.forall_mem_cons.mpr ⟨ha, hearlier⟩
  exact hentries.map fun all hall a ha => hall a (List.mem_reverse.mp ha)

end Structures

/-! ## Documents -/

theorem mem_insert {document : Document} {key : String} {value : Json} {entry : String × Json}
    (h : entry ∈ document.insert key value) : entry = (key, value) ∨ entry ∈ document := by
  induction document with
  | nil => exact .inl (List.mem_singleton.mp h)
  | cons first rest ih =>
    unfold Document.insert at h
    split at h
    · exact (List.mem_cons.mp h).imp_right (List.mem_cons_of_mem _)
    · rcases List.mem_cons.mp h with rfl | hrest
      · exact .inr List.mem_cons_self
      · exact (ih hrest).imp_right (List.mem_cons_of_mem _)

/-- The entries of a document are among those it is made of. -/
theorem mem_of_mem_ofEntries {entries : List (String × Json)} {entry : String × Json}
    (h : entry ∈ Document.ofEntries entries) : entry ∈ entries := by
  have hfold : ∀ (rest : List (String × Json)) (document : Document),
      entry ∈ rest.foldl (fun document entry => document.insert entry.1 entry.2) document →
        entry ∈ document ∨ entry ∈ rest := by
    intro rest
    induction rest with
    | nil => exact fun document hmem => .inl hmem
    | cons first rest ih =>
      intro document hmem
      rcases ih _ hmem with hinserted | hrest
      · rcases mem_insert hinserted with rfl | hdocument
        · exact .inr List.mem_cons_self
        · exact .inl hdocument
      · exact .inr (List.mem_cons_of_mem _ hrest)
  exact (hfold entries [] h).resolve_left List.not_mem_nil

theorem WellKeyed.ofEntries {entries : List (String × Json)}
    (h : ∀ entry ∈ entries, WellKeyed entry.2) : WellKeyed (.map (Document.ofEntries entries)) :=
  .map (Document.distinct_ofEntries entries) fun entry hentry =>
    h entry (mem_of_mem_ofEntries hentry)

theorem value_of_readWord {α : Type v} {value : α} {letters text : List Char} {first : Char}
    {step : Step α (first :: text)} (h : readWord value letters text = .ok step) :
    step.value = value := by
  induction letters generalizing first text with
  | nil =>
    rw [readWord] at h
    obtain rfl := Except.ok.inj h
    rfl
  | cons letter letters ih =>
    cases text with
    | nil =>
      rw [readWord] at h
      cases h
    | cons c rest =>
      rw [readWord] at h
      split at h
      · obtain ⟨inner, hinner, rfl⟩ := value_of_map h
        show inner.value = value
        exact ih hinner
      · cases h

theorem gives_scalar : Gives WellKeyed documentGrammar.scalar := by
  intro text step hstep
  unfold Grammar.scalar at hstep
  split at hstep
  · cases hstep
  · rw [value_of_readWord hstep]
    exact .null
  · rw [value_of_readWord hstep]
    exact .bool true
  · rw [value_of_readWord hstep]
    exact .bool false
  · obtain ⟨inner, -, rfl⟩ := value_of_map hstep
    exact .string inner.value
  · split at hstep
    · obtain ⟨inner, -, rfl⟩ := value_of_map hstep
      exact .number inner.value
    · cases hstep

theorem gives_value (room : Nat) : Gives WellKeyed (documentGrammar.value room) := by
  induction room with
  | zero =>
    intro text step hstep
    unfold Grammar.value at hstep
    split at hstep
    · cases hstep
    · split at hstep
      · cases hstep
      · obtain ⟨inner, hinner, rfl⟩ := value_of_map hstep
        exact gives_scalar _ inner hinner
  | succ room ih =>
    have hlist : Gives WellKeyed (Reader.map Json.list
        (readItems documentGrammar.comma (documentGrammar.value room))) :=
      ih.readItems.map fun items hitems => .list hitems
    have hmap : Gives WellKeyed (Reader.map (fun entries => .map (Document.ofEntries entries))
        (readMap documentGrammar.comma
          (readEntry documentGrammar.text (documentGrammar.value room)))) :=
      (Gives.readEntry ih).readMap.map fun entries hentries => .ofEntries hentries
    intro text step hstep
    unfold Grammar.value at hstep
    split at hstep
    · cases hstep
    · next c rest _ =>
      split at hstep
      · obtain ⟨inner, hinner, rfl⟩ := value_of_map hstep
        split at hinner
        · exact hlist rest inner hinner
        · exact hmap rest inner hinner
      · obtain ⟨inner, hinner, rfl⟩ := value_of_map hstep
        exact gives_scalar _ inner hinner

/-- No map of the value of a text has a key twice. -/
theorem wellKeyed_of_read {text : String} {value : Json} (h : read text = .ok value) :
    value.WellKeyed := by
  unfold read locating readWhole? at h
  cases hvalue : documentGrammar.value nestingLimit text.toList with
  | error fault =>
    rw [hvalue] at h
    cases h
  | ok step =>
    rw [hvalue] at h
    simp only at h
    split at h
    · obtain rfl := Except.ok.inj h
      exact gives_value nestingLimit text.toList step hvalue
    · cases h

end FlowCompiler.Json
