import FlowCompiler.Json.Outline
import FlowCompiler.Model.Executable
import FlowCompiler.SourceUnit

/-!
# Decoding the model

Reads the encodings of the model back, from the outline of a text. Reading is more generous than
writing: a record may also be the list of its fields in order, fields of other names are passed
over, and a missing text is taken for `null`. A name from a fixed set may also be the map that
has it as its only key, but not where it leads a list.

Most of a text is judged when it is needed, so that what is passed over need not be sound
(`Outline.isSound`). Two places have to be sound before it is known what they hold, and are then
`Standing.checked`: the body of an executable, and the value of a field that precedes the name of
its variant.
-/

namespace FlowCompiler.Decoding

open Json

/-- What is known of the outline at hand. -/
inductive Standing
  /-- Nothing; so many lists and maps may be nested in it. -/
  | written (room : Nat)
  /-- It is sound. -/
  | checked
deriving DecidableEq, Repr

namespace Standing

/-- The standing of what is in a list or map. -/
def inner : Standing → Standing
  | written room => written (room - 1)
  | checked => checked

/-- Whether the outline is sound. -/
def accepts (outline : Outline) : Standing → Bool
  | written room => outline.isSound room
  | checked => true

end Standing

/-! ## Values -/

section Values

variable {α : Type}

/-- A text. -/
def text : Outline → Option String
  | .text value => value
  | _ => none

/-- A truth value. -/
def flag : Outline → Option Bool
  | .bool value => some value
  | _ => none

/-- A list. -/
def list (decode : Outline → Option α) : Outline → Option (List α)
  | .list items => items.mapM decode
  | _ => none

/-- The entries of a map, all keys of which must have characters. -/
def entries : Outline → Option (List (String × Outline))
  | .map entries => entries.mapM fun entry => entry.1.map fun key => (key, entry.2)
  | _ => none

/-- A sorted map; of several entries with one key the last counts. -/
def sortedMap (decode : Outline → Option α) (outline : Outline) : Option (SortedMap α) := do
  let entries ← entries outline
  let decoded ← entries.mapM fun entry => (decode entry.2).map fun value => (entry.1, value)
  return .ofList decoded

/-- A name from a fixed set. -/
def name (standing : Standing) (meaning : String → Option α) : Outline → Option α
  | .text value => value.bind meaning
  | .map [(key, .null)] => key.bind meaning
  | .map [(key, .map [])] => if standing = .checked then key.bind meaning else none
  | _ => none

end Values

/-! ## Records -/

section Records

variable {α : Type}

/-- The values under a key. -/
def under (key : String) (entries : List (String × Outline)) : List Outline :=
  (entries.filter fun entry => entry.1 == key).map Prod.snd

/-- The parts of a record with these fields, in order. In a map a field may be absent but not
repeated; a list must have them all. -/
def parts (fields : List String) : Outline → Option (List (Option Outline))
  | .list items => if items.length = fields.length then some (items.map some) else none
  | outline => do
    let entries ← entries outline
    fields.mapM fun field =>
      match under field entries with
      | [] => some none
      | [value] => some (some value)
      | _ => none

/-- A part that must be there. -/
def required (decode : Outline → Option α) (part : Option Outline) : Option α :=
  part.bind decode

/-- A part that may be absent or `null`. -/
def optional (decode : Outline → Option α) : Option Outline → Option (Option α)
  | none => some none
  | some .null => some none
  | some outline => (decode outline).map some

/-- An input. -/
def input (outline : Outline) : Option Input := do
  let [name, expression, needed, encrypted, overridable, property] ←
    parts ["name", "expression", "required", "encrypted", "overridable", "system_property"] outline
    | none
  return {
    name := ← required text name
    expression := ← optional text expression
    required := ← required flag needed
    encrypted := ← required flag encrypted
    overridable := ← required flag overridable
    systemProperty := ← optional text property }

/-- An output. -/
def output (outline : Outline) : Option Output := do
  let [name, expression] ← parts ["name", "expression"] outline | none
  return ⟨← required text name, ← optional text expression⟩

/-- A result. -/
def result (outline : Outline) : Option ResultDef := do
  let [name, expression] ← parts ["name", "expression"] outline | none
  return ⟨← required text name, ← optional text expression⟩

/-- A loop header. -/
def loopStatement (outline : Outline) : Option LoopStatement := do
  let [names, collection] ← parts ["variables", "collection"] outline | none
  return ⟨← required (list text) names, ← required text collection⟩

/-- A method call. -/
def javaAction (outline : Outline) : Option JavaAction := do
  let [className, methodName] ← parts ["class_name", "method_name"] outline | none
  return ⟨← required text className, ← required text methodName⟩

end Records

/-! ## Fields -/

/-- The variants of field values. -/
inductive Variant
  /-- Inputs or bindings. -/
  | inputs
  /-- Outputs or published values. -/
  | outputs
  /-- Results. -/
  | results
  /-- Targets by outcome. -/
  | navigation
  /-- A loop header. -/
  | loop
  /-- A method call. -/
  | javaAction
  /-- A script. -/
  | pythonScript
deriving DecidableEq, Repr

/-- The variant of a name. -/
def Variant.ofName? : String → Option Variant
  | "inputs" => some .inputs
  | "outputs" => some .outputs
  | "results" => some .results
  | "navigation" => some .navigation
  | "loop" => some .loop
  | "java_action" => some .javaAction
  | "python_script" => some .pythonScript
  | _ => none

/-- The variants, each at its position. -/
def Variant.all : List Variant :=
  [.inputs, .outputs, .results, .navigation, .loop, .javaAction, .pythonScript]

/-- The variant that leads a list. It is a bare name; in what is sound it may also be given by its
position. -/
def leadingVariant (standing : Standing) : Outline → Option Variant
  | .text value => value.bind Variant.ofName?
  | .number (some (.whole (.ofNat position))) =>
    if standing = .checked then Variant.all[position]? else none
  | _ => none

/-- The value of a field of the variant. -/
def content (outline : Outline) : Variant → Option FieldValue
  | .inputs => (list input outline).map .inputs
  | .outputs => (list output outline).map .outputs
  | .results => (list result outline).map .results
  | .navigation => (sortedMap text outline).map .navigation
  | .loop => (loopStatement outline).map .loop
  | .javaAction => (javaAction outline).map .javaAction
  | .pythonScript => (text outline).map .pythonScript

/-- Whether an entry of the key stands before all entries of the other key. -/
def leads (key other : String) : List (String × Outline) → Bool
  | [] => false
  | (name, _) :: rest => name == key || (name != other && leads key other rest)

/-- A field value. -/
def field (standing : Standing) : Outline → Option FieldValue
  | .list [variant, value] => do
    content value (← leadingVariant standing variant)
  | .list _ => none
  | outline => do
    let entries ← entries outline
    match under "type" entries, under "value" entries with
    | [variant], [value] =>
      if leads "value" "type" entries && !standing.inner.accepts value then
        none
      else
        content value (← name standing Variant.ofName? variant)
    | _, _ => none

/-- Fields by name. -/
def fieldMap (standing : Standing) : Outline → Option FieldMap :=
  sortedMap (field standing.inner)

/-! ## Executables -/

/-- A task. -/
def task (standing : Standing) (outline : Outline) : Option Task := do
  let [name, refId, navigation, before, after] ←
    parts ["name", "ref_id", "navigation", "pre_task_data", "post_task_data"] outline | none
  return {
    name := ← required text name
    refId := ← required text refId
    navigation := ← required (sortedMap text) navigation
    preTaskData := ← required (fieldMap standing.inner) before
    postTaskData := ← required (fieldMap standing.inner) after }

/-- A workflow. -/
def workflow (standing : Standing) (outline : Outline) : Option Workflow := do
  let [tasks] ← parts ["tasks"] outline | none
  return ⟨← required (list (task standing.inner.inner)) tasks⟩

/-- An action. -/
def action (standing : Standing) (outline : Outline) : Option Action := do
  let [data] ← parts ["data"] outline | none
  return ⟨← required (fieldMap standing.inner) data⟩

/-- The body of the kind, from what stands beside the name of the kind. -/
def bodyOfKind (rest : Outline) : String → Option Body
  | "flow" => do
    let [held] ← parts ["workflow"] rest | none
    return .flow (← required (workflow .checked) held)
  | "operation" => do
    let [held] ← parts ["action"] rest | none
    return .operation (← required (action .checked) held)
  | _ => none

/-- The body of an executable. -/
def body (standing : Standing) (outline : Outline) : Option Body :=
  if standing.accepts outline then
    match outline with
    | .list (kind :: rest) => do bodyOfKind (.list rest) (← text kind)
    | .map all => do
      let entries ← entries (.map all)
      match under "kind" entries with
      | [kind] => bodyOfKind (.map (all.filter fun entry => entry.1 != some "kind")) (← text kind)
      | _ => none
    | _ => none
  else
    none

/-- The kind of a dependency. -/
def dependencyKind (standing : Standing) : Outline → Option DependencyKind :=
  name standing fun
    | "EXECUTABLE" => some .executable
    | _ => none

/-- An executable. -/
def executable (standing : Standing) (outline : Outline) : Option Executable := do
  let [space, name, inputs, outputs, results, before, after, body, dependencies] ←
    parts ["namespace", "name", "inputs", "outputs", "results", "pre_executable_data",
      "post_executable_data", "body", "dependencies"] outline | none
  return {
    space := ← required text space
    name := ← required text name
    inputs := ← required (list input) inputs
    outputs := ← required (list output) outputs
    results := ← required (list result) results
    preExecutableData := ← required (fieldMap standing.inner) before
    postExecutableData := ← required (fieldMap standing.inner) after
    body := ← required (Decoding.body standing.inner) body
    dependencies := ← required (sortedMap (dependencyKind standing)) dependencies }

/-- The kind of a unit. -/
def unitKind (standing : Standing) : Outline → Option UnitKind :=
  name standing fun
    | "flow" => some .flow
    | "operation" => some .operation
    | "system_properties" => some .systemProperties
    | _ => none

/-- A unit. -/
def unit (standing : Standing) (outline : Outline) : Option SourceUnit := do
  let [name, kind, space, imports] ← parts ["name", "kind", "namespace", "imports"] outline | none
  return {
    name := ← required text name
    kind := ← required (unitKind standing) kind
    space := ← required text space
    imports := ← optional (sortedMap text) imports }

/-! ## Texts -/

/-- What a text encodes. -/
def ofText {α : Type} (decode : Standing → Outline → Option α) (text : String) : Option α := do
  decode (.written nestingLimit) (← Outline.ofText? text)

end FlowCompiler.Decoding
