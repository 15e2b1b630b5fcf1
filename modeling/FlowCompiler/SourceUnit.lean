import FlowCompiler.SortedMap

/-!
# Units

What a source says about itself besides its document: its full name, whether it is a flow, an
operation or a set of system properties, its namespace, and the table of aliases by which it refers
to other executables.
-/

namespace FlowCompiler

/-- The kinds of source. -/
inductive UnitKind
  /-- A flow. -/
  | flow
  /-- An operation. -/
  | operation
  /-- A set of system properties. -/
  | systemProperties
deriving DecidableEq, Repr

/-- What a kind is called. -/
def UnitKind.title : UnitKind → String
  | .flow => "Flow"
  | .operation => "Operation"
  | .systemProperties => "System properties"

/-- Namespaces by alias. -/
abbrev Imports := SortedMap String

/-- What a source says about itself. -/
structure SourceUnit where
  /-- The full name. -/
  name : String
  /-- The kind. -/
  kind : UnitKind
  /-- The namespace, empty if there is none. -/
  space : String
  /-- The table of aliases, if there is one. -/
  imports : Option Imports := none
deriving DecidableEq

namespace SourceUnit

/-- The unit with one more alias; the table is created when there is none. -/
def withImport (unit : SourceUnit) (target space : String) : SourceUnit :=
  { unit with imports := some ((unit.imports.getD .empty).insert target space) }

end SourceUnit

end FlowCompiler
