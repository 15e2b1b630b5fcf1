import FlowCompiler.Extractor.Action
import FlowCompiler.Extractor.Bindings
import FlowCompiler.Extractor.LoopHeader
import FlowCompiler.Extractor.Navigate
import FlowCompiler.Extractor.Registry

/-!
# The standard registry

The extractors of the flow language in their order.
-/

namespace FlowCompiler

/-- The extractors of the flow language. -/
def Extractor.standard : List Extractor :=
  [inputs, outputs, results, callee, loopHeader, publish, navigate, javaAction, pythonScript]

/-- The registry of the extractors of the flow language. -/
def Registry.standard : Registry :=
  .ofList Extractor.standard

end FlowCompiler
