import FlowCompiler.Error.Extract
import FlowCompiler.Extractor.Stage
import FlowCompiler.Json.Basic
import FlowCompiler.Model.Field

/-!
# Extractors

An extractor is responsible for some keys of a document, at some stages. It turns what stands under
its keys into fields, or rejects it.
-/

namespace FlowCompiler

/-- What an extractor produces: fields in order, a later one overriding an earlier one of the same
name. -/
abbrev Extraction := Except ExtractError (List (String × FieldValue))

/-- A producer of fields. -/
structure Extractor where
  /-- The name. -/
  name : String
  /-- The keys it is responsible for. -/
  keys : List String
  /-- The stages at which it runs. -/
  stages : List Stage
  /-- The fields it produces from a document. -/
  extract : Document → Extraction

namespace Extractor

/-- Whether the document has a key of the extractor. -/
def applies (extractor : Extractor) (document : Document) : Bool :=
  extractor.keys.any document.contains

end Extractor

end FlowCompiler
