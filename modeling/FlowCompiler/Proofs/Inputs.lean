import FlowCompiler.Proofs.Fields
import FlowCompiler.Proofs.Values

/-!
# Inputs

Which values an input may have (`IsInputValue`), and what input a name and a value make (`inputOf`).
A map of properties is read one property after the other, each reading changing the input made so
far; that input is the one described by the properties read so far, so that of a property given
twice the last value counts.
-/

namespace FlowCompiler

/-- The value of the key; if the key occurs several times, the last one. -/
def Document.last? (document : Document) (key : String) : Option Json :=
  document.reverse.lookup key

theorem Document.last?_concat (document : Document) (property : String) (value : Json)
    (key : String) :
    Document.last? (document ++ [(property, value)]) key
      = if key = property then some value else document.last? key := by
  rw [last?, List.reverse_append, List.reverse_singleton, List.singleton_append,
    SortedMap.lookup_cons_ite]
  rfl

namespace Json

/-- The truth value, if the value is one. -/
def flag? : Json → Option Bool
  | .bool flag => some flag
  | _ => none

/-- The text, if the value is one. -/
def text? : Json → Option String
  | .string text => some text
  | _ => none

end Json

namespace Extractor

/-- Whether an input may have the property with the value. -/
def IsProperty (property : String) (value : Json) : Prop :=
  (property = Keyword.defaultValue ∧ value.IsScalar)
    ∨ (property ∈ [Keyword.required, Keyword.encrypted, Keyword.override]
      ∧ ∃ flag, value = .bool flag)
    ∨ (property = Keyword.systemProperty ∧ value.IsFilledText)

/-- Whether an input may have the value: a scalar, or a map of properties. -/
def IsInputValue : Json → Prop
  | .map properties => ∀ entry ∈ properties, IsProperty entry.1 entry.2
  | other => other.IsScalar

/-- The system property that the value names, if it does. -/
def systemProperty? : Json → Option String
  | .map properties => (Document.last? properties Keyword.systemProperty).bind Json.text?
  | _ => none

/-- The input of the name with the properties. -/
def describedInput (name : String) (properties : Document) : Input where
  name := name
  expression := (properties.last? Keyword.defaultValue).bind Json.scalarText?
  required := ((properties.last? Keyword.required).bind Json.flag?).getD true
  encrypted := ((properties.last? Keyword.encrypted).bind Json.flag?).getD false
  overridable := ((properties.last? Keyword.override).bind Json.flag?).getD false
  systemProperty := (properties.last? Keyword.systemProperty).bind Json.text?

/-- The input that the name and the value make. -/
def inputOf (name : String) : Json → Input
  | .map properties => describedInput name properties
  | other => { name := name, expression := other.scalarText? }

@[simp]
theorem name_inputOf (name : String) (value : Json) : (inputOf name value).name = name := by
  cases value <;> rfl

theorem systemProperty_inputOf (name : String) (value : Json) :
    (inputOf name value).systemProperty = systemProperty? value := by
  cases value <;> rfl

variable {place name property : String} {value : Json} {input : Input}

theorem map_readFlag_eq_ok_iff {f : Bool → Input} (default : Bool) :
    (readFlag name property value).map f = .ok input
      ↔ (∃ flag, value = .bool flag) ∧ input = f (value.flag?.getD default) := by
  simp only [map_eq_ok_iff, readFlag_eq_ok_iff]
  apply Iff.intro
  · intro h
    obtain ⟨flag, rfl, rfl⟩ := h
    exact ⟨⟨flag, rfl⟩, rfl⟩
  · intro h
    obtain ⟨⟨flag, rfl⟩, rfl⟩ := h
    exact ⟨flag, rfl, rfl⟩

theorem map_readFilledText_eq_ok_iff {expected : String} {f : Option String → Input} :
    ((readFilledText place expected value).map fun text => f (some text)) = .ok input
      ↔ value.IsFilledText ∧ input = f value.text? := by
  simp only [map_eq_ok_iff, readFilledText_eq_ok_iff]
  apply Iff.intro
  · intro h
    obtain ⟨text, ⟨rfl, hfilled⟩, rfl⟩ := h
    exact ⟨⟨text, rfl, hfilled⟩, rfl⟩
  · intro h
    obtain ⟨⟨text, rfl, hfilled⟩, rfl⟩ := h
    exact ⟨text, ⟨rfl, hfilled⟩, rfl⟩

/-- One more property is read. -/
theorem setProperty_describedInput_eq_ok_iff {properties : Document} :
    setProperty place (describedInput name properties) property value = .ok input
      ↔ IsProperty property value
        ∧ input = describedInput name (properties ++ [(property, value)]) := by
  unfold setProperty
  split_ifs with hdefault hrequired hencrypted hoverride hsystem
  · rw [map_eq_ok_iff_of scalarText_eq_ok_iff]
    simp [hdefault, IsProperty, describedInput, Document.last?_concat, Keyword.defaultValue,
      Keyword.required, Keyword.encrypted, Keyword.override, Keyword.systemProperty]
  · rw [map_readFlag_eq_ok_iff true]
    simp [hrequired, IsProperty, describedInput, Document.last?_concat, Keyword.defaultValue,
      Keyword.required, Keyword.encrypted, Keyword.override, Keyword.systemProperty]
  · rw [map_readFlag_eq_ok_iff false]
    simp [hencrypted, IsProperty, describedInput, Document.last?_concat, Keyword.defaultValue,
      Keyword.required, Keyword.encrypted, Keyword.override, Keyword.systemProperty]
  · rw [map_readFlag_eq_ok_iff false]
    simp [hoverride, IsProperty, describedInput, Document.last?_concat, Keyword.defaultValue,
      Keyword.required, Keyword.encrypted, Keyword.override, Keyword.systemProperty]
  · rw [map_readFilledText_eq_ok_iff]
    simp [hsystem, IsProperty, describedInput, Document.last?_concat, Keyword.defaultValue,
      Keyword.required, Keyword.encrypted, Keyword.override, Keyword.systemProperty]
  · simp [IsProperty, hdefault, hrequired, hencrypted, hoverride, hsystem]

/-- The properties are read in order, after those that have made the input what it is. -/
theorem setProperties_describedInput_eq_ok_iff {before properties : Document} :
    setProperties place (describedInput name before) properties = .ok input
      ↔ (∀ entry ∈ properties, IsProperty entry.1 entry.2)
        ∧ input = describedInput name (before ++ properties) := by
  induction properties generalizing before with
  | nil => simp [setProperties, eq_comm]
  | cons entry rest ih =>
    have hstep : setProperties place (describedInput name before) (entry :: rest)
        = (setProperty place (describedInput name before) entry.1 entry.2 >>= fun changed =>
          setProperties place changed rest) := by
      rw [setProperties]
      cases setProperty place (describedInput name before) entry.1 entry.2 <;> rfl
    rw [hstep, bind_eq_ok_iff, List.forall_mem_cons]
    simp only [setProperty_describedInput_eq_ok_iff]
    apply Iff.intro
    · intro h
      obtain ⟨changed, ⟨hentry, hchanged⟩, hrest⟩ := h
      rw [hchanged, ih, List.append_assoc] at hrest
      exact ⟨⟨hentry, hrest.1⟩, hrest.2⟩
    · intro h
      obtain ⟨⟨hentry, hrest⟩, hinput⟩ := h
      refine ⟨_, ⟨hentry, rfl⟩, ih.mpr ⟨hrest, ?_⟩⟩
      rw [hinput, List.append_assoc]
      rfl

theorem readInput_eq_ok_iff :
    readInput place name value = .ok input
      ↔ (Text.isBlankText name = false ∧ IsInputValue value)
        ∧ input = inputOf (Text.trim name) value := by
  have hstep : readInput place name value
      = (properName place name >>= fun proper =>
        match value with
        | .map properties => setProperties name { name := proper } properties
        | other => (scalarText name other).map fun text =>
          { name := proper, expression := text }) := by
    rw [readInput]
    cases properName place name <;> rfl
  rw [hstep, bind_eq_ok_iff_of properName_eq_ok_iff, and_assoc]
  refine and_congr_right fun _ => ?_
  cases value with
  | map properties =>
    show setProperties name (describedInput (Text.trim name) []) properties = .ok input ↔ _
    exact setProperties_describedInput_eq_ok_iff
  | null | bool held | number held | string held | list items =>
    exact map_eq_ok_iff_of scalarText_eq_ok_iff

end Extractor

end FlowCompiler
