import FlowCompiler.Extractor.Bindings

/-!
# Actions

An operation calls a Java method, given by its class and its name, or runs a Python script.
-/

namespace FlowCompiler.Extractor

/-- A property of a method call: a text that is not blank, without the blanks around it. -/
def requiredText (properties : Document) (key : String) : Except ExtractError String :=
  match properties.get? key with
  | none => .error (.invalid Keyword.javaAction ("missing '" ++ key ++ "'"))
  | some value =>
    (readFilledText (propertyPlace Keyword.javaAction key) "a non-empty string" value).map Text.trim

/-- The method call that the properties describe. -/
def readJavaAction (properties : Document) : Except ExtractError JavaAction :=
  match properties.keys.find? fun key => key != Keyword.className && key != Keyword.methodName with
  | some key =>
    .error (.invalid Keyword.javaAction ("unrecognized property '" ++ key ++ "'"))
  | none => do
    let className ← requiredText properties Keyword.className
    let methodName ← requiredText properties Keyword.methodName
    return ⟨className, methodName⟩

/-- The method call of an action. -/
def extractJavaAction (document : Document) : Extraction :=
  match document.get? Keyword.javaAction with
  | none => .ok []
  | some (.map properties) =>
    (readJavaAction properties).map fun action => [(Keyword.javaAction, .javaAction action)]
  | some other => .error (.wrongShape Keyword.javaAction "a map" other.kind)

/-- The extractor of method calls. -/
def javaAction : Extractor where
  name := Keyword.javaAction
  keys := [Keyword.javaAction]
  stages := [.action]
  extract := extractJavaAction

/-- The script of an action. -/
def extractPythonScript (document : Document) : Extraction :=
  match document.get? Keyword.pythonScript with
  | none => .ok []
  | some (.string script) => .ok [(Keyword.pythonScript, .pythonScript script)]
  | some other => .error (.wrongShape Keyword.pythonScript "a string" other.kind)

/-- The extractor of scripts. -/
def pythonScript : Extractor where
  name := Keyword.pythonScript
  keys := [Keyword.pythonScript]
  stages := [.action]
  extract := extractPythonScript

end FlowCompiler.Extractor
