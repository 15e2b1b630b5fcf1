import FlowCompiler.Extractor.Bindings

/-!
# Authored navigation

A task may say where the workflow goes next, as a map of outcomes to targets. Blanks around a target
do not count; the labels of the outcomes are kept as they are.
-/

namespace FlowCompiler.Extractor

/-- The targets of a navigation map in order. -/
def readTargets : Document → Except ExtractError (List (String × String))
  | [] => .ok []
  | (label, target) :: rest =>
    match readFilledText (propertyPlace Keyword.navigate label) "a task name or result" target with
    | .error cause => .error cause
    | .ok text => (readTargets rest).map ((label, Text.trim text) :: ·)

/-- The navigation map of a task's body. -/
def extractNavigation (document : Document) : Extraction :=
  match document.get? Keyword.navigate with
  | none | some .null => .ok []
  | some (.map entries) =>
    (readTargets entries).map fun targets => [(Keyword.navigate, .navigation (.ofList targets))]
  | some other => .error (.wrongShape Keyword.navigate "a map of results to tasks" other.kind)

/-- The extractor of authored navigation. -/
def navigate : Extractor where
  name := Keyword.navigate
  keys := [Keyword.navigate]
  stages := [.afterTask]
  extract := extractNavigation

end FlowCompiler.Extractor
