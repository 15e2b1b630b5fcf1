import FlowCompiler.Assembly.Executable
import FlowCompiler.Options.Reader

/-!
# Reports

The ways into the compiler from texts: `compile` and `compileWith` give the executable of a source,
`validate` lists what is wrong with it. A `Report` is what a caller is told about an error or a
diagnostic.
-/

namespace FlowCompiler

/-- What a caller is told about a flaw. -/
structure Report where
  /-- The code of the rule that is broken. -/
  code : String
  /-- The class of the flaw. -/
  kind : ErrorKind
  /-- The wording. -/
  message : String
  /-- The executable or task that the flaw is in, if it is known. -/
  unit : Option String
deriving DecidableEq, Repr

namespace Report

/-- The report of an error. -/
def ofError (error : CompileError) : Report :=
  ⟨error.code, error.kind, error.message, error.unit?⟩

/-- The report of a diagnostic. -/
def ofDiagnostic (diagnostic : Diagnostic) : Report :=
  ⟨diagnostic.code, .structural, diagnostic.message, some diagnostic.task⟩

end Report

/-- The source that a text holds. -/
def readSource (text : String) : Except CompileError Source :=
  (Source.parse text).mapError .source

/-- The options that a text holds. -/
def readOptions (text : String) : Except CompileError Options :=
  (Options.read text).mapError .options

/-- The executable of a source, with these options. -/
def compileUnder (options : Options) (text : String) : Except CompileError Executable := do
  let source ← readSource text
  Compiler.compileSource { options } source

/-- The executable of a source, with the default options. -/
def compile (text : String) : Except CompileError Executable :=
  compileUnder {} text

/-- The executable of a source, with options given as a text, which is read first. -/
def compileWith (text options : String) : Except CompileError Executable := do
  let options ← readOptions options
  compileUnder options text

/-- What is wrong with a source: the error that it does not compile with, or else the diagnostics of
its workflow, if it has one. -/
def validate (text : String) : List Report :=
  match compileUnder { validateNavigation := false } text with
  | .error error => [.ofError error]
  | .ok executable =>
    match executable.workflow? with
    | none => []
    | some workflow => workflow.diagnostics.map .ofDiagnostic

end FlowCompiler
