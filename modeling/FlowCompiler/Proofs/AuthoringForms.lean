import FlowCompiler.Proofs.Items

/-!
# Ways of authoring bindings

An input without a value may be authored as a bare name, as a name with nothing or as a name with no
properties, and an expression may be given as such or as the default among the properties
(`Respelled`). Each item of a list may be authored in any of these ways: the list declares the same
inputs, or is refused for the same cause (`readItems_eq_of_respelled`).

The bindings of a call may be given as a map or as a list of its entries. As long as no two names
are the same, the blanks around them aside, both come to the same (`readItems_singletons`).
-/

namespace FlowCompiler.Extractor

/-- The second item is another way of authoring the first. -/
inductive Respelled : Json → Json → Prop
  /-- An item may stay as it is. -/
  | same (item : Json) : Respelled item item
  /-- A bare name is a name with nothing. -/
  | nothing (name : String) : Respelled (.string name) (.map [(name, .null)])
  /-- A bare name is a name without properties. -/
  | noProperties (name : String) : Respelled (.string name) (.map [(name, .map [])])
  /-- A value that is no map of properties is the default. -/
  | default (name : String) {value : Json} : (∀ properties, value ≠ .map properties) →
      Respelled (.map [(name, value)]) (.map [(name, .map [(Keyword.defaultValue, value)])])

variable {place : String}

theorem readInput_default (name : String) {value : Json}
    (hvalue : ∀ properties, value ≠ .map properties) :
    readInput place name (.map [(Keyword.defaultValue, value)]) = readInput place name value := by
  unfold readInput
  cases properName place name with
  | error cause => rfl
  | ok proper =>
    have hproperty : setProperties name { name := proper } [(Keyword.defaultValue, value)]
        = (scalarText name value).map fun text => { name := proper, expression := text } := by
      simp only [setProperties, setProperty, if_true]
      cases scalarText name value <;> rfl
    cases value with
    | map properties => exact absurd rfl (hvalue properties)
    | null | bool | number | string | list => exact hproperty

theorem readItem_eq_of_respelled {item other : Json} (h : Respelled item other) :
    readItem inputFormat place other = readItem inputFormat place item := by
  cases h with
  | same => rfl
  | nothing name | noProperties name =>
    simp only [readItem, inputFormat, readInput]
    cases properName place name <;> rfl
  | default name hvalue => exact readInput_default name hvalue

theorem readItems_eq_of_respelled {items others : List Json}
    (h : List.Forall₂ Respelled items others) (earlier : List String) :
    readItems inputFormat place earlier others = readItems inputFormat place earlier items := by
  induction h generalizing earlier with
  | nil => rfl
  | cons hitem _ ih => simp only [readItems, readItem_eq_of_respelled hitem, ih]

/-- The entries of a map, each as an item. -/
def singletons (entries : Document) : List Json :=
  entries.map fun entry => .map [entry]

/-- Where no name is among the earlier ones, the items are read like the entries of a map. -/
theorem readItems_singletons {entries : Document} {earlier : List String}
    (hdistinct : (properNames entries).Nodup)
    (hfresh : ∀ name ∈ properNames entries, name ∉ earlier) :
    readItems inputFormat place earlier (singletons entries)
      = readBindingEntries place entries := by
  induction entries generalizing earlier with
  | nil => rfl
  | cons entry rest ih =>
    obtain ⟨hhead, hrest⟩ := List.nodup_cons.mp hdistinct
    obtain ⟨hnew, hlater⟩ := List.forall_mem_cons.mp hfresh
    have hitem : readItem inputFormat place (.map [entry]) = readInput place entry.1 entry.2 := rfl
    have hread : singletons (entry :: rest) = .map [entry] :: singletons rest := rfl
    rw [hread, readItems, readBindingEntries, hitem]
    cases hinput : readInput place entry.1 entry.2 with
    | error cause => rfl
    | ok input =>
      -- The input has the name of the entry, so the names of the rest are still different from it.
      obtain ⟨-, rfl⟩ := readInput_eq_ok_iff.mp hinput
      have hname : inputFormat.nameOf (inputOf (Text.trim entry.1) entry.2) = Text.trim entry.1 :=
        name_inputOf ..
      have hothers : readItems inputFormat place (Text.trim entry.1 :: earlier) (singletons rest)
          = readBindingEntries place rest := by
        refine ih hrest fun name hmem hearlier => ?_
        rcases List.mem_cons.mp hearlier with rfl | hearlier
        · exact hhead hmem
        · exact hlater name hmem hearlier
      simp only [hname, if_neg hnew, hothers]

/-- In whichever ways the items of a list of inputs are authored, what is read is the same, be it
the inputs or the cause of a failure. So it is for bindings with different names that are given as a
map and as a list. -/
theorem authoring_forms_agree :
    (∀ (place : String) (items others : List Json), List.Forall₂ Respelled items others →
      readList inputFormat place (.list others) = readList inputFormat place (.list items))
    ∧ ∀ (reference : String) (entries : Document), (properNames entries).Nodup →
      callee.extract [(Keyword.callee, .map [(reference, .map entries)])]
        = callee.extract [(Keyword.callee, .map [(reference, .list (singletons entries))])] := by
  refine ⟨fun place items others h => readItems_eq_of_respelled h [], ?_⟩
  intro reference entries hdistinct
  have hread : readBindings reference (.list (singletons entries))
      = readBindings reference (.map entries) :=
    readItems_singletons hdistinct fun _ _ => List.not_mem_nil
  show (readBindings reference (.map entries)).map _ = (readBindings reference _).map _
  rw [hread]

/-- Inputs of which the second has a value that no input may have, and the last the name of the
first. -/
def regionInputs (value : Json) : List Json :=
  [.string "region", .map [("stage", value)], .string "tier", .string " region"]

/-- The inputs of `regionInputs`, authored in other ways. -/
def respelledInputs (value : Json) : List Json :=
  [.map [("region", .map [])], .map [("stage", .map [(Keyword.defaultValue, value)])],
   .string "tier", .map [(" region", .null)]]

/-- Bindings of which the last two have values that may not be read. -/
def stageBindings : Document :=
  [("region", .string "eu"), ("stage", .map []), ("tier", .list []),
   ("note", .map [("shy", .null)])]

/-- Of the two failures the first is met in either list, and the second once the value is one that
an input may have. So it is for the bindings that are given as a list. -/
theorem regionInputs_agree :
    List.Forall₂ Respelled (regionInputs (.list [])) (respelledInputs (.list []))
      ∧ readList inputFormat "inputs" (.list (respelledInputs (.list [])))
        = .error (.wrongShape "stage" "a scalar expression" (Json.list []).kind)
      ∧ readList inputFormat "inputs" (.list (respelledInputs (.bool true)))
        = .error (.invalid "inputs" "duplicate input 'region'")
      ∧ (properNames stageBindings).Nodup
      ∧ callee.extract
          [(Keyword.callee, .map [("ops.deploy", .list (singletons stageBindings))])]
        = .error (.wrongShape "tier" "a scalar expression" (Json.list []).kind) := by
  have hrespelled (value : Json) (hvalue : ∀ properties, value ≠ .map properties) :
      List.Forall₂ Respelled (regionInputs value) (respelledInputs value) :=
    .cons (.noProperties _) (.cons (.default _ hvalue) (.cons (.same _) (.cons (.nothing _) .nil)))
  have hdistinct : (properNames stageBindings).Nodup := by
    decide +kernel
  obtain ⟨hlists, hbindings⟩ := authoring_forms_agree
  refine ⟨hrespelled _ fun _ => Json.noConfusion, ?_, ?_, hdistinct, ?_⟩
  · rw [hlists "inputs" _ _ (hrespelled _ fun _ => Json.noConfusion)]
    rfl
  · rw [hlists "inputs" _ _ (hrespelled _ fun _ => Json.noConfusion)]
    decide +kernel
  · rw [← hbindings "ops.deploy" stageBindings hdistinct]
    rfl

end FlowCompiler.Extractor
