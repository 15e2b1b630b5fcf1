import FlowCompiler.Extractor.Basic
import FlowCompiler.Json.Printer
import FlowCompiler.Keyword
import FlowCompiler.Text.Blank

/-!
# Declarations and bindings

Inputs, outputs, results and published values are authored as lists. An item is a bare name or a map
with a single entry, `name: value`; the value is a scalar, which is kept as text. The value of an
input may also be a map of properties. The bindings of a call are authored like inputs, or as one
map of names to values.
-/

namespace FlowCompiler.Extractor

/-! ## Parts of an item -/

/-- The name without the blanks around it; it must not be blank. -/
def properName (place name : String) : Except ExtractError String :=
  if Text.isBlankText name then
    .error (.invalid place "names must not be empty")
  else
    .ok (Text.trim name)

/-- The text of a scalar; `null` has none. -/
def scalarText (place : String) : Json → Except ExtractError (Option String)
  | .null => .ok none
  | .string text => .ok (some text)
  | .bool value => .ok (some (if value then "true" else "false"))
  | .number value => .ok (some value.text)
  | other => .error (.wrongShape place "a scalar expression" other.kind)

/-- The place of a property. -/
def propertyPlace (name property : String) : String :=
  name ++ "." ++ property

/-- The truth value of a property. -/
def readFlag (name property : String) : Json → Except ExtractError Bool
  | .bool value => .ok value
  | other => .error (.wrongShape (propertyPlace name property) "a boolean" other.kind)

/-- The text of a property, which must not be blank; it is kept as it is. -/
def readFilledText (place expected : String) : Json → Except ExtractError String
  | .string text =>
    if Text.isBlankText text then .error (.wrongShape place expected (Json.string text).kind)
    else .ok text
  | other => .error (.wrongShape place expected other.kind)

/-! ## Inputs -/

/-- Sets a property of an input. `name` is the name as authored. -/
def setProperty (name : String) (input : Input) (property : String) (value : Json) :
    Except ExtractError Input :=
  if property = Keyword.defaultValue then
    (scalarText name value).map fun text => { input with expression := text }
  else if property = Keyword.required then
    (readFlag name property value).map fun flag => { input with required := flag }
  else if property = Keyword.encrypted then
    (readFlag name property value).map fun flag => { input with encrypted := flag }
  else if property = Keyword.override then
    (readFlag name property value).map fun flag => { input with overridable := flag }
  else if property = Keyword.systemProperty then
    (readFilledText (propertyPlace name property) "a non-empty string" value).map fun text =>
      { input with systemProperty := some text }
  else
    .error (.invalid name ("unknown input property '" ++ property ++ "'"))

/-- Sets the properties of an input in order. -/
def setProperties (name : String) (input : Input) : Document → Except ExtractError Input
  | [] => .ok input
  | (property, value) :: rest =>
    match setProperty name input property value with
    | .error cause => .error cause
    | .ok changed => setProperties name changed rest

/-- The input that an entry declares. -/
def readInput (place name : String) (value : Json) : Except ExtractError Input :=
  match properName place name with
  | .error cause => .error cause
  | .ok proper =>
    match value with
    | .map properties => setProperties name { name := proper } properties
    | other => (scalarText name other).map fun text => { name := proper, expression := text }

/-! ## Names with expressions -/

/-- A name with the text of its value. -/
structure NamedExpression where
  /-- The name. -/
  name : String
  /-- The text of the value, if there is one. -/
  expression : Option String := none
deriving DecidableEq, Repr

/-- The name and the expression that an entry declares. -/
def readNamed (place name : String) (value : Json) : Except ExtractError NamedExpression :=
  match properName place name with
  | .error cause => .error cause
  | .ok proper => (scalarText name value).map fun text => ⟨proper, text⟩

/-! ## Lists of items -/

/-- How the items of a list are read: a bare name, an entry, and what a repeated name is called. -/
structure ItemFormat (α : Type) where
  /-- What a bare name declares. -/
  bare : String → α
  /-- What an entry declares. -/
  entry : (place name : String) → Json → Except ExtractError α
  /-- The name that is declared. -/
  nameOf : α → String
  /-- What a repeated item is called. -/
  noun : String

/-- The items of lists of inputs. -/
def inputFormat : ItemFormat Input where
  bare := fun name => { name }
  entry := readInput
  nameOf := Input.name
  noun := "input"

/-- The items of lists of outputs, results and published values. -/
def namedFormat : ItemFormat NamedExpression where
  bare := fun name => { name }
  entry := readNamed
  nameOf := NamedExpression.name
  noun := "entry"

section Items

variable {α : Type} (format : ItemFormat α) (place : String)

/-- What an item declares. -/
def readItem : Json → Except ExtractError α
  | .string name => (properName place name).map format.bare
  | .map [(name, value)] => format.entry place name value
  | other => .error (.wrongShape place "a list of names or single-entry maps" other.kind)

/-- What the items declare, in order. A name must be none of the earlier ones. -/
def readItems (earlier : List String) : List Json → Except ExtractError (List α)
  | [] => .ok []
  | item :: rest =>
    match readItem format place item with
    | .error cause => .error cause
    | .ok value =>
      if format.nameOf value ∈ earlier then
        .error (.invalid place
          ("duplicate " ++ format.noun ++ " '" ++ format.nameOf value ++ "'"))
      else
        (readItems (format.nameOf value :: earlier) rest).map (value :: ·)

/-- What a list declares; `null` declares nothing. -/
def readList : Json → Except ExtractError (List α)
  | .null => .ok []
  | .list items => readItems format place [] items
  | other => .error (.wrongShape place "a list" other.kind)

end Items

/-! ## Bindings -/

/-- The bindings of a call that are given as a map, in order. -/
def readBindingEntries (reference : String) : Document → Except ExtractError (List Input)
  | [] => .ok []
  | (name, value) :: rest =>
    match readInput reference name value with
    | .error cause => .error cause
    | .ok input => (readBindingEntries reference rest).map (input :: ·)

/-- The bindings of a call. -/
def readBindings (reference : String) : Json → Except ExtractError (List Input)
  | .null => .ok []
  | .list items => readList inputFormat reference (.list items)
  | .map entries => readBindingEntries reference entries
  | other => .error (.wrongShape reference "a map or list of bindings" other.kind)

/-! ## Extractors -/

/-- The extractor of a list under a key. -/
def listUnder {α : Type} (format : ItemFormat α) (key : String) (stage : Stage)
    (field : List α → FieldValue) : Extractor where
  name := key
  keys := [key]
  stages := [stage]
  extract := fun document =>
    (readList format key ((document.get? key).getD .null)).map fun values => [(key, field values)]

/-- The output of a name with an expression. -/
def NamedExpression.toOutput (named : NamedExpression) : Output :=
  ⟨named.name, named.expression⟩

/-- The result of a name with an expression. -/
def NamedExpression.toResult (named : NamedExpression) : ResultDef :=
  ⟨named.name, named.expression⟩

/-- The extractor of the inputs of an executable. -/
def inputs : Extractor :=
  listUnder inputFormat Keyword.inputs .beforeExecutable .inputs

/-- The extractor of the outputs of an executable. -/
def outputs : Extractor :=
  listUnder namedFormat Keyword.outputs .afterExecutable fun values =>
    .outputs (values.map NamedExpression.toOutput)

/-- The extractor of the results of an executable. -/
def results : Extractor :=
  listUnder namedFormat Keyword.results .afterExecutable fun values =>
    .results (values.map NamedExpression.toResult)

/-- The extractor of the values that a task publishes. -/
def publish : Extractor :=
  listUnder namedFormat Keyword.publish .afterTask fun values =>
    .outputs (values.map NamedExpression.toOutput)

/-- The bindings of the first executable under the key of the callee. -/
def extractCallee (document : Document) : Extraction :=
  match document.get? Keyword.callee with
  | none | some .null => .ok []
  | some (.map []) => .ok []
  | some (.map ((reference, bindings) :: _)) =>
    (readBindings reference bindings).map fun inputs => [(Keyword.callee, .inputs inputs)]
  | some other => .error (.wrongShape Keyword.callee "a map" other.kind)

/-- The extractor of the bindings of a task's call. -/
def callee : Extractor where
  name := Keyword.callee
  keys := [Keyword.callee]
  stages := [.beforeTask]
  extract := extractCallee

end FlowCompiler.Extractor
