import FlowCompiler.Error.Source
import FlowCompiler.Json.Reader
import FlowCompiler.Model.Executable
import FlowCompiler.SourceUnit

/-!
# Sources

A source is a map that holds one flow, operation or set of system properties, and beside it
optionally the namespace and the table of aliases. `Source.ofJson` takes it apart;
`Source.parse` does so from the text.
-/

namespace FlowCompiler

/-- A source taken apart. -/
structure Source where
  /-- What the source says about itself. -/
  unit : SourceUnit
  /-- The name of the executable. -/
  executableName : String
  /-- The document of the executable. -/
  document : Document

namespace Source

/-- The namespace under the first of the reserved keys. -/
def readSpace : Option Json → Except SourceError String
  | none | some .null => .ok ""
  | some (.string space) => .ok space
  | some other => .error (.spaceNotText other.kind)

/-- The aliases of a table, the first entry that is not a text being rejected. -/
def readAliases : Document → Except SourceError (List (String × String))
  | [] => .ok []
  | (target, .string space) :: rest => (readAliases rest).map ((target, space) :: ·)
  | (target, other) :: _ => .error (.importNotText target other.kind)

/-- The table of aliases, if there is one. -/
def readImports : Option Json → Except SourceError (Option Imports)
  | none | some .null => .ok none
  | some (.map entries) => (readAliases entries).map fun aliases => some (.ofList aliases)
  | some other => .error (.importsNotMap other.kind)

/-- The kind of source that a key stands for. -/
def kindOfKey? (key : String) : Option UnitKind :=
  if key = Keyword.flow then some .flow
  else if key = Keyword.operation then some .operation
  else if key = Keyword.systemProperty then some .systemProperties
  else none

/-- The document of an executable, which may be left out. -/
def readBody (key : String) : Json → Except SourceError Document
  | .map entries => .ok entries
  | .null => .ok []
  | other => .error (.bodyNotMap key other.kind)

/-- The name of an executable. Only a set of system properties may be without one; it is called by
its key. -/
def readName (key : String) (kind : UnitKind) (document : Document) : Except SourceError String :=
  match document.get? Keyword.name with
  | some (.string name) => .ok name
  | none => if kind = .systemProperties then .ok key else .error (.unnamed key)
  | some _ => .error (.unnamed key)

/-- Takes the map of a source apart. -/
def ofDocument (source : Document) : Except SourceError Source := do
  let space ← readSpace (source.get? Keyword.space)
  let imports ← readImports (source.get? Keyword.importTable)
  let rest := (source.erase Keyword.space).erase Keyword.importTable
  match rest with
  | [(key, body)] =>
    match kindOfKey? key with
    | none => throw (.unknownType key)
    | some kind =>
      let document ← readBody key body
      let name ← readName key kind document
      return ⟨⟨qualified space name, kind, space, imports⟩, name, document⟩
  | _ => throw (.notOneExecutable rest.keys)

/-- Takes a source apart. -/
def ofJson : Json → Except SourceError Source
  | .map source => ofDocument source
  | other => .error (.notMap other.kind)

/-- Takes the text of a source apart. -/
def parse (text : String) : Except SourceError Source :=
  match Json.read text with
  | .ok value => ofJson value
  | .error fault => .error (.malformed fault)

end Source

end FlowCompiler
