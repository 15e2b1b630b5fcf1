import FlowCompiler.Extractor.Basic
import FlowCompiler.Text.Quoted

/-!
# Registries

A registry holds extractors in the order of their registration, and for every stage the positions of
those that run at it. `Registry.stages` lists the extractors of several stages: still in the order
of registration, each of them once.
-/

namespace FlowCompiler

/-- Extractors with an index by stage. -/
structure Registry where
  /-- The extractors in order of registration. -/
  extractors : List Extractor
  /-- The positions of the extractors that run at a stage, ascending. -/
  groups : Stage → List (Fin extractors.length)

namespace Registry

/-- The registry of the extractors. -/
def ofList (extractors : List Extractor) : Registry where
  extractors := extractors
  groups := fun stage =>
    (List.finRange extractors.length).filter fun i => extractors[i].stages.contains stage

/-- The number of extractors. -/
def length (registry : Registry) : Nat :=
  registry.extractors.length

/-- Whether there is no extractor. -/
def isEmpty (registry : Registry) : Bool :=
  registry.extractors.isEmpty

/-- The extractors at the positions. -/
def select (registry : Registry) (positions : List (Fin registry.extractors.length)) :
    List Extractor :=
  positions.map fun i => registry.extractors[i]

/-- The extractors that run at the stage. -/
def stage (registry : Registry) (stage : Stage) : List Extractor :=
  registry.select (registry.groups stage)

/-- The positions that occur in the group of one of the stages, ascending. -/
def positions (registry : Registry) (stages : List Stage) :
    List (Fin registry.extractors.length) :=
  (List.finRange registry.extractors.length).filter fun i =>
    stages.any fun stage => (registry.groups stage).contains i

/-- The extractors that run at one of the stages. -/
def stages (registry : Registry) (stages : List Stage) : List Extractor :=
  registry.select (registry.positions stages)

/-- The registry as a line for diagnosis: the names of its extractors. -/
def describe (registry : Registry) : String :=
  "ExtractorRegistry \x7b extractors: " ++ Text.quotedList (registry.extractors.map Extractor.name)
    ++ " \x7d"

end Registry

end FlowCompiler
