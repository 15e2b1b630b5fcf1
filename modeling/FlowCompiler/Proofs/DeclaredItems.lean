import FlowCompiler.Proofs.StandardStages

/-!
# What lists declare

What input an item of a list declares (`DeclaresInput`), and what name with what expression
(`DeclaresNamed`), one rule for each way in which an item is authored. A list declares one value for
every item, in order, and their names are different (`DeclaresAll`).

The extractors of inputs, outputs, results and published values, and that of bindings where they are
not given as a map, accept a value exactly if it is nothing or a list of items with different names,
and make of it just what it declares (`lists_read_faithfully`).
-/

namespace FlowCompiler.Extractor

/-! ## Items -/

/-- The item declares the input. -/
inductive DeclaresInput : Json → Input → Prop
  /-- A bare name declares an input without a value. -/
  | bare {name : String} : Text.isBlankText name = false →
      DeclaresInput (.string name) ⟨Text.trim name, none, true, false, false, none⟩
  /-- The text of a scalar is the value. -/
  | scalar {name : String} {value : Json} : Text.isBlankText name = false → value.IsScalar →
      DeclaresInput (.map [(name, value)])
        ⟨Text.trim name, value.scalarText?, true, false, false, none⟩
  /-- A map of properties describes the input. -/
  | properties {name : String} {properties : Document} : Text.isBlankText name = false →
      (∀ entry ∈ properties, IsProperty entry.1 entry.2) →
      DeclaresInput (.map [(name, .map properties)]) (describedInput (Text.trim name) properties)

/-- The item declares the name with the expression. -/
inductive DeclaresNamed : Json → String → Option String → Prop
  /-- A bare name has no expression. -/
  | bare {name : String} : Text.isBlankText name = false →
      DeclaresNamed (.string name) (Text.trim name) none
  /-- The text of a scalar is the expression. -/
  | scalar {name : String} {value : Json} : Text.isBlankText name = false → value.IsScalar →
      DeclaresNamed (.map [(name, value)]) (Text.trim name) value.scalarText?

/-- The value declares the values of the list: nothing declares none, and a list one for each of its
items, in order, with different names. -/
inductive DeclaresAll {α : Type} (declares : Json → α → Prop) (nameOf : α → String) :
    Json → List α → Prop
  | nothing : DeclaresAll declares nameOf .null []
  | items {items : List Json} {values : List α} : List.Forall₂ declares items values →
      (values.map nameOf).Nodup → DeclaresAll declares nameOf (.list items) values

/-- An item declares what is described by the entry it stands for, if that is accepted. -/
def DeclaresEntries {α : Type} (accepts : Json → Prop) (describe : String → Json → α)
    (declares : Json → α → Prop) : Prop :=
  ∀ item value, declares item value
    ↔ ∃ entry, entryOf? item = some entry ∧ IsEntry accepts entry
        ∧ value = describe (Text.trim entry.1) entry.2

theorem declaresEntries_input : DeclaresEntries IsInputValue inputOf DeclaresInput := by
  intro item input
  apply Iff.intro
  · intro h
    cases h with
    | @bare name hname => exact ⟨(name, .null), rfl, ⟨hname, trivial⟩, rfl⟩
    | @scalar name value hname hvalue =>
      cases value with
      | list | map => exact hvalue.elim
      | null | bool | number | string => exact ⟨(name, _), rfl, ⟨hname, hvalue⟩, rfl⟩
    | @properties name properties hname hproperties =>
      exact ⟨(name, .map properties), rfl, ⟨hname, hproperties⟩, rfl⟩
  · intro h
    obtain ⟨⟨name, value⟩, hentry, ⟨hname, hvalue⟩, rfl⟩ := h
    unfold entryOf? at hentry
    split at hentry
    · cases hentry
      exact .bare hname
    · cases hentry
      cases value with
      | map properties => exact .properties hname hvalue
      | list => exact hvalue.elim
      | null | bool | number | string => exact .scalar hname hvalue
    · cases hentry

theorem declaresNamed_iff {item : Json} {name : String} {expression : Option String} :
    DeclaresNamed item name expression
      ↔ ∃ entry, entryOf? item = some entry ∧ IsEntry Json.IsScalar entry
          ∧ name = Text.trim entry.1 ∧ expression = entry.2.scalarText? := by
  apply Iff.intro
  · intro h
    cases h with
    | @bare name hname => exact ⟨(name, .null), rfl, ⟨hname, trivial⟩, rfl, rfl⟩
    | @scalar name value hname hvalue => exact ⟨(name, value), rfl, ⟨hname, hvalue⟩, rfl, rfl⟩
  · intro h
    obtain ⟨⟨name, value⟩, hentry, ⟨hname, hvalue⟩, rfl, rfl⟩ := h
    unfold entryOf? at hentry
    split at hentry
    · cases hentry
      exact .bare hname
    · cases hentry
      exact .scalar hname hvalue
    · cases hentry

/-! ## Lists -/

section Lists

variable {α : Type} {accepts : Json → Prop} {describe : String → Json → α}
  {declares : Json → α → Prop} {nameOf : α → String}

theorem forall₂_declares_iff (hdeclares : DeclaresEntries accepts describe declares)
    {items : List Json} {values : List α} :
    List.Forall₂ declares items values
      ↔ (∀ item ∈ items, ∃ entry, entryOf? item = some entry ∧ IsEntry accepts entry)
        ∧ values = declarations describe (entriesOf items) := by
  induction items generalizing values with
  | nil => simp [entriesOf, declarations]
  | cons item rest ih =>
    have hitem (value : α) := hdeclares item value
    simp only [List.forall₂_cons_left_iff, hitem, ih]
    apply Iff.intro
    · intro h
      obtain ⟨_, _, ⟨entry, hentry, haccepted, rfl⟩, ⟨hrest, rfl⟩, rfl⟩ := h
      rw [entriesOf_cons hentry]
      exact ⟨List.forall_mem_cons.mpr ⟨⟨entry, hentry, haccepted⟩, hrest⟩, rfl⟩
    · intro h
      obtain ⟨hitems, rfl⟩ := h
      obtain ⟨⟨entry, hentry, haccepted⟩, hrest⟩ := List.forall_mem_cons.mp hitems
      rw [entriesOf_cons hentry]
      exact ⟨_, _, ⟨entry, hentry, haccepted, rfl⟩, ⟨hrest, rfl⟩, rfl⟩

/-- A value declares something exactly if it is accepted, and then what its entries describe. -/
theorem declaresAll_iff (hdeclares : DeclaresEntries accepts describe declares)
    (hname : ∀ name value, nameOf (describe name value) = name) {value : Json} {values : List α} :
    DeclaresAll declares nameOf value values
      ↔ IsItemList accepts value ∧ values = declarations describe (entries value) := by
  have hnames (document : Document) :
      (declarations describe document).map nameOf = properNames document := by
    simp only [declarations, properNames, List.map_map, Function.comp_def, hname]
  apply Iff.intro
  · intro h
    cases h with
    | nothing => exact ⟨trivial, rfl⟩
    | items hitems hnodup =>
      obtain ⟨haccepted, rfl⟩ := (forall₂_declares_iff hdeclares).mp hitems
      rw [hnames] at hnodup
      exact ⟨⟨haccepted, hnodup⟩, rfl⟩
  · intro h
    obtain ⟨haccepted, rfl⟩ := h
    cases value with
    | null => exact .nothing
    | list items =>
      refine .items ((forall₂_declares_iff hdeclares).mpr ⟨haccepted.1, rfl⟩) ?_
      rw [hnames]
      exact haccepted.2
    | bool | number | string | map => exact haccepted.elim

/-- An extraction accepts just the lists of items with different names, and makes one field of what
the value declares. -/
structure ReadsList (extraction : Extraction) (key : String) (field : List α → FieldValue)
    (accepts : Json → Prop) (declares : Json → α → Prop) (nameOf : α → String) (value : Json) :
    Prop where
  /-- What is accepted. -/
  accepted : (∃ produced, extraction = .ok produced) ↔ IsItemList accepts value
  /-- What is made of it. -/
  faithful (produced : List (String × FieldValue)) :
    extraction = .ok produced
      ↔ ∃ values, DeclaresAll declares nameOf value values ∧ produced = [(key, field values)]

/-- A value of which the entries are read one by one, each as one value of the field. -/
theorem readsList_of_read {β : Type} {declare : String → Json → β} {toValue : β → α}
    {read : Except ExtractError (List β)} {key : String} {field : List α → FieldValue}
    {value : Json}
    (hread : ∀ declared, read = .ok declared
      ↔ IsItemList accepts value ∧ declared = declarations declare (entries value))
    (hdeclares : DeclaresEntries accepts (fun name value => toValue (declare name value)) declares)
    (hname : ∀ name value, nameOf (toValue (declare name value)) = name) :
    ReadsList (read.map fun declared => [(key, field (declared.map toValue))])
      key field accepts declares nameOf value where
  accepted := by
    rw [exists_map_eq_ok_iff]
    simp only [hread, exists_and_left, exists_eq, and_true]
  faithful produced := by
    have hdescribed (values : List α) : DeclaresAll declares nameOf value values
        ↔ IsItemList accepts value
          ∧ values = declarations (fun name value => toValue (declare name value))
              (entries value) :=
      declaresAll_iff hdeclares hname
    rw [map_eq_ok_iff_of (hread _)]
    simp only [hdescribed, declarations, List.map_map, Function.comp_def]
    apply Iff.intro
    · intro h
      obtain ⟨haccepted, rfl⟩ := h
      exact ⟨_, ⟨haccepted, rfl⟩, rfl⟩
    · intro h
      obtain ⟨_, ⟨haccepted, rfl⟩, rfl⟩ := h
      exact ⟨haccepted, rfl⟩

theorem readsList_inputs {read : Except ExtractError (List Input)} (key : String) {value : Json}
    (hread : ∀ declared, read = .ok declared
      ↔ IsItemList IsInputValue value ∧ declared = declarations inputOf (entries value)) :
    ReadsList (read.map fun declared => [(key, .inputs declared)])
      key .inputs IsInputValue DeclaresInput Input.name value := by
  have h : ReadsList (read.map fun declared => [(key, .inputs (declared.map id))])
      key .inputs IsInputValue DeclaresInput Input.name value :=
    readsList_of_read hread declaresEntries_input name_inputOf
  simpa only [List.map_id] using h

theorem readsList_outputs (place key : String) (value : Json) :
    ReadsList
      ((readList namedFormat place value).map fun declared =>
        [(key, .outputs (declared.map NamedExpression.toOutput))])
      key .outputs Json.IsScalar
      (fun item output => DeclaresNamed item output.name output.expression) Output.name value := by
  refine readsList_of_read (fun _ => readList_eq_ok_iff namedFormat_declares) ?_ fun _ _ => rfl
  rintro item ⟨name, expression⟩
  simp only [declaresNamed_iff, NamedExpression.toOutput, namedOf, Output.mk.injEq]

theorem readsList_results (place key : String) (value : Json) :
    ReadsList
      ((readList namedFormat place value).map fun declared =>
        [(key, .results (declared.map NamedExpression.toResult))])
      key .results Json.IsScalar
      (fun item result => DeclaresNamed item result.name result.expression) ResultDef.name
      value := by
  refine readsList_of_read (fun _ => readList_eq_ok_iff namedFormat_declares) ?_ fun _ _ => rfl
  rintro item ⟨name, expression⟩
  simp only [declaresNamed_iff, NamedExpression.toResult, namedOf, ResultDef.mk.injEq]

theorem isBindings_iff_isItemList {bindings : Json} (h : ∀ entries, bindings ≠ .map entries) :
    IsBindings bindings ↔ IsItemList IsInputValue bindings := by
  cases bindings with
  | map entries => exact absurd rfl (h entries)
  | null | bool | number | string | list => rfl

end Lists

/-- Lists of inputs, outputs, results and published values, and bindings that are not a map, are
accepted exactly if they are nothing or lists of items with different names, and every item is kept
as what it declares. -/
theorem lists_read_faithfully (document : Document) :
    ReadsList (inputs.extract document) Keyword.inputs .inputs
        IsInputValue DeclaresInput Input.name (document.value Keyword.inputs)
    ∧ ReadsList (outputs.extract document) Keyword.outputs .outputs Json.IsScalar
        (fun item output => DeclaresNamed item output.name output.expression) Output.name
        (document.value Keyword.outputs)
    ∧ ReadsList (results.extract document) Keyword.results .results Json.IsScalar
        (fun item result => DeclaresNamed item result.name result.expression) ResultDef.name
        (document.value Keyword.results)
    ∧ ReadsList (publish.extract document) Keyword.publish .outputs Json.IsScalar
        (fun item output => DeclaresNamed item output.name output.expression) Output.name
        (document.value Keyword.publish)
    ∧ ∀ reference bindings rest,
        document.get? Keyword.callee = some (.map ((reference, bindings) :: rest)) →
        (∀ entries, bindings ≠ .map entries) →
        ReadsList (callee.extract document) Keyword.callee .inputs
          IsInputValue DeclaresInput Input.name bindings := by
  refine ⟨readsList_inputs _ fun _ => readList_eq_ok_iff inputFormat_declares,
    readsList_outputs .., readsList_results .., readsList_outputs .., ?_⟩
  intro reference bindings rest hcallee hmap
  have hread (declared : List Input) : readBindings reference bindings = .ok declared
      ↔ IsItemList IsInputValue bindings ∧ declared = declarations inputOf (entries bindings) := by
    rw [readBindings_eq_ok_iff, isBindings_iff_isItemList hmap]
  show ReadsList (extractCallee document) ..
  rw [extractCallee, hcallee]
  exact readsList_inputs Keyword.callee hread

/-- Bindings in each of the ways in which one is authored. -/
def deployBindings (last : Json) : Json :=
  .list
    [.string " region ",
     .map [("stage", .string " ${stage} ")],
     .map [("token", .map
      [(Keyword.encrypted, .bool true), (Keyword.systemProperty, .string " env.token")])],
     last]

/-- A task that publishes values and calls with the bindings. -/
def deployTask (last : Json) : Document :=
  [(Keyword.publish, .list [.string " url", .map [("tries ", .bool true)]]),
   (Keyword.callee, .map [("ops.deploy", deployBindings last)])]

/-- Each of the bindings and values is kept. A binding whose name has been given with other blanks
around it makes the list one that is refused. -/
theorem deployTask_read_faithfully :
    (deployTask (.string "note")).get? Keyword.callee
        = some (.map [("ops.deploy", deployBindings (.string "note"))])
      ∧ (∀ entries, deployBindings (.string "note") ≠ .map entries)
      ∧ callee.extract (deployTask (.string "note")) = .ok
        [(Keyword.callee, .inputs
          [{ name := "region" },
           { name := "stage", expression := some " ${stage} " },
           { name := "token", encrypted := true, systemProperty := some " env.token" },
           { name := "note" }])]
      ∧ publish.extract (deployTask (.string "note")) = .ok
        [(Keyword.publish, .outputs [⟨"url", none⟩, ⟨"tries", some "true"⟩])]
      ∧ ∀ produced, callee.extract (deployTask (.string "region")) ≠ .ok produced := by
  have hlists (last : Json) := lists_read_faithfully (deployTask last)
  have hcallee (last : Json) := (hlists last).2.2.2.2 "ops.deploy" (deployBindings last) [] rfl
    fun _ => Json.noConfusion
  refine ⟨rfl, fun _ => Json.noConfusion, ?_, ?_, fun produced hproduced => ?_⟩
  · refine ((hcallee _).faithful _).mpr ⟨_, .items (.cons ?_ (.cons ?_ (.cons ?_ (.cons ?_ .nil))))
      (by decide), rfl⟩
    · exact .bare (by decide +kernel)
    · exact .scalar (by decide +kernel) trivial
    · refine .properties (by decide +kernel)
        (List.forall_mem_cons.mpr ⟨?_, List.forall_mem_singleton.mpr ?_⟩)
      · exact .inr (.inl ⟨by decide, true, rfl⟩)
      · exact .inr (.inr ⟨rfl, _, rfl, by decide +kernel⟩)
    · exact .bare (by decide +kernel)
  · refine ((hlists _).2.2.2.1.faithful _).mpr
      ⟨_, .items (.cons ?_ (.cons ?_ .nil)) (by decide), rfl⟩
    · exact .bare (by decide +kernel)
    · exact .scalar (by decide +kernel) trivial
  · have hnodup := ((hcallee _).accepted.mp ⟨produced, hproduced⟩).2
    revert hnodup
    decide +kernel

end FlowCompiler.Extractor
