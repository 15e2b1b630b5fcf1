import FlowCompiler.SortedMap

/-!
# Fields

What the extractors produce: declarations of inputs, outputs and results, loop headers, navigation
maps and the kinds of action. A `FieldValue` is one of them; a `FieldMap` holds them by name.
-/

namespace FlowCompiler

/-- An input of an executable, or a binding at the place where one is called. -/
structure Input where
  /-- The name. -/
  name : String
  /-- The text of the value, if there is one. -/
  expression : Option String := none
  /-- Whether a value must be there. -/
  required : Bool := true
  /-- Whether the value is kept secret. -/
  encrypted : Bool := false
  /-- Whether the caller's value is overridden. -/
  overridable : Bool := false
  /-- The system property that supplies the value, if there is one. -/
  systemProperty : Option String := none
deriving DecidableEq, Repr

/-- An output of an executable, or a value that a task publishes. -/
structure Output where
  /-- The name. -/
  name : String
  /-- The text of the value, if there is one. -/
  expression : Option String
deriving DecidableEq, Repr

/-- A result that an executable may end with. -/
structure ResultDef where
  /-- The name. -/
  name : String
  /-- The text of the condition, if there is one. -/
  expression : Option String
deriving DecidableEq, Repr

/-- The header of a loop: the variables bound in every round, and the text of what they run over. -/
structure LoopStatement where
  /-- The names of the variables. -/
  names : List String
  /-- The text of the collection. -/
  collection : String
deriving DecidableEq, Repr

/-- A call of a Java method. -/
structure JavaAction where
  /-- The class. -/
  className : String
  /-- The method. -/
  methodName : String
deriving DecidableEq, Repr

/-- The target for every outcome of a task, by the label of the outcome. -/
abbrev Navigation := SortedMap String

/-- What an extractor produces for a field. -/
inductive FieldValue
  /-- Inputs or bindings. -/
  | inputs (inputs : List Input)
  /-- Outputs or published values. -/
  | outputs (outputs : List Output)
  /-- Results. -/
  | results (results : List ResultDef)
  /-- Targets by outcome. -/
  | navigation (navigation : Navigation)
  /-- The header of a loop. -/
  | loop (statement : LoopStatement)
  /-- A call of a Java method. -/
  | javaAction (action : JavaAction)
  /-- The text of a Python script. -/
  | pythonScript (script : String)
deriving DecidableEq

/-- Fields by name. -/
abbrev FieldMap := SortedMap FieldValue

namespace FieldValue

/-- The inputs, if the field holds such. -/
def inputs? : FieldValue → Option (List Input)
  | .inputs held => some held
  | _ => none

/-- The outputs, if the field holds such. -/
def outputs? : FieldValue → Option (List Output)
  | .outputs held => some held
  | _ => none

/-- The results, if the field holds such. -/
def results? : FieldValue → Option (List ResultDef)
  | .results held => some held
  | _ => none

/-- The navigation map, if the field holds one. -/
def navigation? : FieldValue → Option Navigation
  | .navigation held => some held
  | _ => none

/-- The loop header, if the field holds one. -/
def loop? : FieldValue → Option LoopStatement
  | .loop held => some held
  | _ => none

end FieldValue

end FlowCompiler
