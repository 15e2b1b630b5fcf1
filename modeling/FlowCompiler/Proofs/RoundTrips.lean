import FlowCompiler.Proofs.Inverses
import Mathlib.Logic.Function.Defs

/-!
# Round trips through texts

Every type of the model that is encoded as a text can be decoded from it (`encodings_round_trip`).
The decoders give the values back from the outlines of their encodings, so it remains that the texts
have these outlines, and that the bodies of executables are sound. Both hold because no encoding
nests lists and maps more than nine levels deep (`Executable.shallow_encode`).
-/

namespace FlowCompiler

open Json

/-! ## How deeply encodings nest -/

section Depth

variable {α : Type} {encode : α → Json} {room : Nat}

@[simp]
theorem shallow_optionalText (text? : Option String) :
    Shallow room (Encoding.optionalText text?) := by
  cases text? with
  | none => exact .null
  | some text => exact .string text

theorem shallow_encodedList (h : ∀ value, Shallow room (encode value)) (items : List α) :
    Shallow (room + 1) (Encoding.list encode items) := by
  simp [Encoding.list, h]

theorem shallow_encodedMap (h : ∀ value, Shallow room (encode value)) (map : SortedMap α) :
    Shallow (room + 1) (Encoding.sortedMap encode map) := by
  refine shallow_map.mpr fun entry hentry => ?_
  obtain ⟨binding, -, rfl⟩ := List.mem_map.mp hentry
  exact h binding.2

@[simp]
theorem Input.shallow_encode (input : Input) : Shallow (room + 1) input.encode := by
  simp [Input.encode]

@[simp]
theorem Output.shallow_encode (output : Output) : Shallow (room + 1) output.encode := by
  simp [Output.encode]

@[simp]
theorem ResultDef.shallow_encode (result : ResultDef) : Shallow (room + 1) result.encode := by
  simp [ResultDef.encode]

theorem FieldValue.shallow_content (field : FieldValue) : Shallow (room + 2) field.content := by
  cases field with
  | inputs held => exact shallow_encodedList Input.shallow_encode held
  | outputs held => exact shallow_encodedList Output.shallow_encode held
  | results held => exact shallow_encodedList ResultDef.shallow_encode held
  | navigation held => exact shallow_encodedMap .string held
  | loop held => simp [FieldValue.content, LoopStatement.encode, shallow_encodedList]
  | javaAction held => simp [FieldValue.content, JavaAction.encode]
  | pythonScript held => exact .string held

theorem FieldValue.shallow_encode (field : FieldValue) : Shallow (room + 3) field.encode := by
  simp [FieldValue.encode, shallow_content]

theorem shallow_fieldMap (fields : FieldMap) : Shallow (room + 4) (Encoding.fieldMap fields) :=
  shallow_encodedMap FieldValue.shallow_encode fields

theorem Task.shallow_encode (task : Task) : Shallow (room + 5) task.encode := by
  simp [Task.encode, shallow_encodedMap, shallow_fieldMap]

theorem Workflow.shallow_encode (workflow : Workflow) : Shallow (room + 7) workflow.encode := by
  simp [Workflow.encode, shallow_encodedList, Task.shallow_encode]

theorem Action.shallow_encode (action : Action) : Shallow (room + 5) action.encode := by
  simp [Action.encode, shallow_fieldMap]

theorem Body.shallow_encode (body : Body) : Shallow (room + 8) body.encode := by
  cases body with
  | flow held => simp [Body.encode, Workflow.shallow_encode]
  | operation held => simp [Body.encode, Action.shallow_encode]

theorem Executable.shallow_encode (executable : Executable) :
    Shallow (room + 9) executable.encode := by
  simp [Executable.encode, shallow_encodedList, shallow_fieldMap, Body.shallow_encode,
    Encoding.dependencyMap, shallow_encodedMap]

theorem SourceUnit.shallow_encode (unit : SourceUnit) : Shallow (room + 2) unit.encode := by
  have himports : Shallow (room + 1) (Encoding.optionalImports unit.imports) := by
    cases unit.imports with
    | none => exact .null
    | some imports => exact shallow_encodedMap .string imports
  simp [SourceUnit.encode, himports]

end Depth

/-! ## Texts -/

section Texts

variable {α : Type} {encode : α → Json} {decode : Decoding.Standing → Outline → Option α}

theorem ofText_render {room : Nat} {value : Json} (h : Shallow room value) :
    Decoding.ofText decode value.render = decode (.written nestingLimit) value.outline := by
  rw [Decoding.ofText, h.ofText?_render]
  rfl

/-- Values are encoded as texts from which they can be decoded. -/
structure RoundTrips (encode : α → Json)
    (decode : Decoding.Standing → Outline → Option α) : Prop where
  /-- The text of a value is decoded to that value. -/
  decode_encode : ∀ value, Decoding.ofText decode (encode value).render = some value
  /-- Different values have different texts. -/
  injective : Function.Injective fun value => (encode value).render
  /-- What a text is decoded to is kept by encoding and decoding it again. -/
  stable : ∀ text value, Decoding.ofText decode text = some value →
    Decoding.ofText decode (encode value).render = Decoding.ofText decode text

theorem RoundTrips.of_decode_encode
    (h : ∀ value, Decoding.ofText decode (encode value).render = some value) :
    RoundTrips encode decode where
  decode_encode := h
  injective left right heq := by
    have hleft := h left
    rw [show (encode left).render = (encode right).render from heq, h right] at hleft
    exact (Option.some.inj hleft).symm
  stable text value hvalue := by rw [h value, hvalue]

/-- An encoding that does not nest too deeply round-trips if its outline is decoded to the value. -/
theorem RoundTrips.of_inverts (hshallow : ∀ value, Shallow nestingLimit (encode value))
    (h : Decoding.Inverts (decode (.written nestingLimit)) encode) : RoundTrips encode decode :=
  .of_decode_encode fun value => (ofText_render (hshallow value)).trans (h value)

end Texts

/-- The body of an executable is one level down, and not nested too deeply there either. -/
theorem inverts_executable :
    Decoding.Inverts (Decoding.executable (.written nestingLimit)) Executable.encode := by
  intro value
  have hbody : Shallow (nestingLimit - 1) value.body.encode := value.body.shallow_encode
  exact Decoding.executable_outline hbody.isSound_outline

/-- Decoding undoes encoding, for every type of the model that is encoded as a text. -/
theorem encodings_round_trip :
    RoundTrips Executable.encode Decoding.executable
      ∧ RoundTrips Workflow.encode Decoding.workflow
      ∧ RoundTrips Task.encode Decoding.task
      ∧ RoundTrips FieldValue.encode Decoding.field
      ∧ RoundTrips Input.encode (fun _ => Decoding.input)
      ∧ RoundTrips SourceUnit.encode Decoding.unit :=
  ⟨.of_inverts Executable.shallow_encode inverts_executable,
    .of_inverts Workflow.shallow_encode Decoding.inverts_workflow,
    .of_inverts Task.shallow_encode Decoding.inverts_task,
    .of_inverts FieldValue.shallow_encode Decoding.inverts_field,
    .of_inverts Input.shallow_encode Decoding.inverts_input,
    .of_inverts SourceUnit.shallow_encode Decoding.inverts_unit⟩

end FlowCompiler
