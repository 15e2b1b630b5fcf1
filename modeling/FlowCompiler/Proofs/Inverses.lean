import FlowCompiler.Encoding.Printer
import FlowCompiler.Encoding.Reader
import FlowCompiler.Proofs.Fields
import FlowCompiler.Proofs.PrintedValues

/-!
# Decoding what was encoded

`Inverts decode encode` says that the decoder gives every value back from the outline of its
encoding. It holds for the parts of the model from the leaves up: for lists and sorted maps if it
holds for what they contain (`Inverts.list`, `Inverts.sortedMap`), and for records because every
field is found in its place (`parts_record`). A body, and so an executable, is decoded only if its
outline is sound (`executable_outline`).
-/

namespace FlowCompiler

open Json

namespace Decoding

variable {α β : Type}

/-- The decoder gives every value back from the outline of its encoding. -/
def Inverts (decode : Outline → Option α) (encode : α → Json) : Prop :=
  ∀ value, decode (encode value).outline = some value

/-- A decoder that succeeds on every item succeeds on the list. -/
theorem mapM_of_forall {decode : α → Option β} {result : α → β} {items : List α}
    (h : ∀ item ∈ items, decode item = some (result item)) :
    items.mapM decode = some (items.map result) := by
  induction items with
  | nil => rfl
  | cons item others ih =>
    obtain ⟨hitem, hothers⟩ := List.forall_mem_cons.mp h
    simp [hitem, ih hothers]

/-! ## Texts, lists and sorted maps -/

theorem inverts_text : Inverts text .string := fun _ => rfl

theorem inverts_flag : Inverts flag .bool := fun _ => rfl

variable {decode : Outline → Option α} {encode : α → Json}

protected theorem Inverts.list (h : Inverts decode encode) :
    Inverts (list decode) (Encoding.list encode) := by
  intro items
  have hitems : items.mapM (decode ∘ outline ∘ encode) = some (items.map id) :=
    mapM_of_forall fun item _ => h item
  rw [Encoding.list, outline_list, list, List.map_map, List.mapM_map, hitems, List.map_id]

theorem entries_outline (all : Document) :
    entries (outline (.map all)) = some (all.map fun entry => (entry.1, entry.2.outline)) := by
  rw [outline_map, entries, List.mapM_map]
  exact mapM_of_forall fun entry _ => rfl

protected theorem Inverts.sortedMap (h : Inverts decode encode) :
    Inverts (sortedMap decode) (Encoding.sortedMap encode) := by
  intro map
  have hentries : map.entries.mapM (fun entry =>
      (decode (encode entry.2).outline).map fun value => (entry.1, value))
      = some (map.entries.map id) :=
    mapM_of_forall fun entry _ => by rw [h entry.2]; rfl
  rw [Encoding.sortedMap, sortedMap, entries_outline]
  simp only [Option.bind_eq_bind, Option.bind_some, List.map_map, List.mapM_map, Function.comp_def,
    hentries, List.map_id, SortedMap.ofList_entries, Option.pure_def]

/-! ## Records -/

theorem under_cons (key : String) (first : String × Outline) (others : List (String × Outline)) :
    under key (first :: others)
      = if first.1 = key then first.2 :: under key others else under key others := by
  by_cases h : first.1 = key <;> simp [under, h]

/-- Under a key that occurs once, the one value is found. -/
theorem under_of_mem {all : List (String × Outline)} {entry : String × Outline}
    (hnodup : (all.map Prod.fst).Nodup) (h : entry ∈ all) : under entry.1 all = [entry.2] := by
  induction all with
  | nil => cases h
  | cons first others ih =>
    rw [List.map_cons, List.nodup_cons] at hnodup
    rcases List.mem_cons.mp h with rfl | hother
    · have hnone : under entry.1 others = [] := by
        rw [under, List.map_eq_nil_iff, List.filter_eq_nil_iff]
        intro other hmem heq
        exact hnodup.1 (List.mem_map.mpr ⟨other, hmem, by simpa using heq⟩)
      rw [under_cons, if_pos rfl, hnone]
    · have hne : first.1 ≠ entry.1 := by
        intro heq
        exact hnodup.1 (heq ▸ List.mem_map.mpr ⟨entry, hother, rfl⟩)
      rw [under_cons, if_neg hne, ih hnodup.2 hother]

/-- The parts of an encoded record are those of its fields, if these are all and in order. -/
theorem parts_record {fields : List String} {all : Document} (hfields : all.map Prod.fst = fields)
    (hnodup : fields.Nodup) :
    parts fields (outline (.map all)) = some (all.map fun entry => some entry.2.outline) := by
  have hall : ((all.map fun entry => (entry.1, entry.2.outline)).map Prod.fst).Nodup := by
    rw [List.map_map]
    exact hfields ▸ hnodup
  show (entries (outline (.map all))).bind _ = _
  rw [entries_outline, Option.bind_some, ← hfields, List.mapM_map]
  refine mapM_of_forall fun entry hmem => ?_
  have hunder : under entry.1 (all.map fun entry => (entry.1, entry.2.outline))
      = [entry.2.outline] := under_of_mem hall (List.mem_map.mpr ⟨entry, hmem, rfl⟩)
  simp only [Function.comp_apply, hunder]

@[simp]
theorem required_some (part : Outline) : required decode (some part) = decode part := rfl

theorem optional_optionalText (text? : Option String) :
    optional text (some (Encoding.optionalText text?).outline) = some text? := by
  cases text? <;> rfl

theorem inverts_input : Inverts input Input.encode := by
  intro value
  rw [input, Input.encode, parts_record]
  · simp [inverts_text _, inverts_flag _, optional_optionalText]
  · rfl
  · decide

theorem inverts_output : Inverts output Output.encode := by
  intro value
  rw [output, Output.encode, parts_record]
  · simp [inverts_text _, optional_optionalText]
  · rfl
  · decide

theorem inverts_result : Inverts result ResultDef.encode := by
  intro value
  rw [result, ResultDef.encode, parts_record]
  · simp [inverts_text _, optional_optionalText]
  · rfl
  · decide

theorem inverts_loopStatement : Inverts loopStatement LoopStatement.encode := by
  intro value
  rw [loopStatement, LoopStatement.encode, parts_record]
  · simp [inverts_text _, inverts_text.list _]
  · rfl
  · decide

theorem inverts_javaAction : Inverts javaAction JavaAction.encode := by
  intro value
  rw [javaAction, JavaAction.encode, parts_record]
  · simp [inverts_text _]
  · rfl
  · decide

/-! ## Fields -/

variable {standing : Standing}

/-- The variant of a field value. -/
def Variant.ofField : FieldValue → Variant
  | .inputs _ => .inputs
  | .outputs _ => .outputs
  | .results _ => .results
  | .navigation _ => .navigation
  | .loop _ => .loop
  | .javaAction _ => .javaAction
  | .pythonScript _ => .pythonScript

theorem Variant.ofName?_variant (value : FieldValue) :
    Variant.ofName? (Encoding.variant value) = some (.ofField value) := by
  cases value <;> rfl

theorem content_outline (value : FieldValue) :
    content value.content.outline (.ofField value) = some value := by
  cases value with
  | inputs held => exact congrArg (Option.map _) (inverts_input.list held)
  | outputs held => exact congrArg (Option.map _) (inverts_output.list held)
  | results held => exact congrArg (Option.map _) (inverts_result.list held)
  | navigation held => exact congrArg (Option.map _) (inverts_text.sortedMap held)
  | loop held => exact congrArg (Option.map _) (inverts_loopStatement held)
  | javaAction held => exact congrArg (Option.map _) (inverts_javaAction held)
  | pythonScript held => exact congrArg (Option.map _) (inverts_text held)

/-- The name of the variant comes first, so the value need not be judged before it. -/
theorem inverts_field : Inverts (field standing) FieldValue.encode := by
  intro value
  have hentries : entries value.encode.outline
      = some [("type", .text (some (Encoding.variant value))), ("value", value.content.outline)] :=
    entries_outline _
  have hfield : field standing value.encode.outline
      = (Variant.ofName? (Encoding.variant value)).bind (content value.content.outline) := by
    rw [FieldValue.encode, outline_map] at hentries ⊢
    rw [field, hentries]
    · simp [under, leads, name]
    · exact nofun
    · exact nofun
  rw [hfield, Variant.ofName?_variant, Option.bind_some, content_outline]

theorem inverts_fieldMap : Inverts (fieldMap standing) Encoding.fieldMap :=
  inverts_field.sortedMap

/-! ## Executables -/

theorem inverts_task : Inverts (task standing) Task.encode := by
  intro value
  rw [task, Task.encode, parts_record]
  · simp [inverts_text _, inverts_text.sortedMap _, inverts_fieldMap _]
  · rfl
  · decide

theorem inverts_workflow : Inverts (workflow standing) Workflow.encode := by
  intro value
  rw [workflow, Workflow.encode, parts_record]
  · simp [inverts_task.list _]
  · rfl
  · decide

theorem inverts_action : Inverts (action standing) Action.encode := by
  intro value
  rw [action, Action.encode, parts_record]
  · simp [inverts_fieldMap _]
  · rfl
  · decide

theorem bodyOfKind_flow (held : Workflow) :
    bodyOfKind (outline (.map [("workflow", held.encode)])) "flow" = some (.flow held) := by
  rw [bodyOfKind, parts_record]
  · simp [inverts_workflow _]
  · rfl
  · decide

theorem bodyOfKind_operation (held : Action) :
    bodyOfKind (outline (.map [("action", held.encode)])) "operation" = some (.operation held) := by
  rw [bodyOfKind, parts_record]
  · simp [inverts_action _]
  · rfl
  · decide

/-- A sound body is read by its kind from what stands beside the kind. -/
theorem body_of_accepts {kind key : String} {held : Json} (hkey : key ≠ "kind")
    (h : standing.accepts (outline (.map [("kind", .string kind), (key, held)])) = true) :
    body standing (outline (.map [("kind", .string kind), (key, held)]))
      = bodyOfKind (outline (.map [(key, held)])) kind := by
  rw [outline_map] at h ⊢
  rw [body, if_pos h]
  simp [entries, under, hkey, outline, text, entryOutlines]

theorem body_outline {value : Body} (h : standing.accepts value.encode.outline = true) :
    body standing value.encode.outline = some value := by
  cases value with
  | flow held => exact (body_of_accepts (by decide) h).trans (bodyOfKind_flow held)
  | operation held => exact (body_of_accepts (by decide) h).trans (bodyOfKind_operation held)

theorem inverts_dependencyKind :
    Inverts (dependencyKind standing) fun kind => .string (Encoding.dependencyKind kind) :=
  fun kind => by cases kind; rfl

theorem executable_outline {value : Executable}
    (h : standing.inner.accepts value.body.encode.outline = true) :
    executable standing value.encode.outline = some value := by
  have hbody := body_outline h
  rw [executable, Executable.encode, parts_record]
  · simp [inverts_text _, inverts_input.list _, inverts_output.list _, inverts_result.list _,
      inverts_fieldMap _, hbody, Encoding.dependencyMap, inverts_dependencyKind.sortedMap _]
  · rfl
  · decide

theorem inverts_unitKind :
    Inverts (unitKind standing) fun kind => .string (Encoding.unitKind kind) :=
  fun kind => by cases kind <;> rfl

theorem optional_optionalImports (imports? : Option Imports) :
    optional (sortedMap text) (some (Encoding.optionalImports imports?).outline)
      = some imports? := by
  cases imports? with
  | none => rfl
  | some imports =>
    exact congrArg (Option.map some) (inverts_text.sortedMap imports)

theorem inverts_unit : Inverts (unit standing) SourceUnit.encode := by
  intro value
  rw [unit, SourceUnit.encode, parts_record]
  · simp [inverts_text _, inverts_unitKind _, optional_optionalImports]
  · rfl
  · decide

end Decoding

end FlowCompiler
