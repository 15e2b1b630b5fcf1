import FlowCompiler.Error.Basic
import FlowCompiler.Extractor.Basic

/-!
# Running extractors

`validateKeys` makes sure that every key of a document is claimed; `runStage` lets the extractors
that have something to do produce their fields, and merges these. Both name the unit in an error.
-/

namespace FlowCompiler

/-- Whether the key belongs to one of the extractors or is among the additional ones. -/
def isClaimed (extractors : List Extractor) (additional : List String) (key : String) : Bool :=
  (extractors.any fun extractor => extractor.keys.contains key) || additional.contains key

/-- Rejects a document with a key that nothing claims, and names the first such key. -/
def validateKeys (unit : String) (document : Document) (extractors : List Extractor)
    (additional : List String) : Except CompileError Unit :=
  match document.keys.find? fun key => !isClaimed extractors additional key with
  | some key => .error (.unknownKeyword unit key)
  | none => .ok ()

/-- Adds to the fields what the extractors that apply produce, one after the other. -/
def runStageFrom (fields : FieldMap) (unit : String) (document : Document) :
    List Extractor → Except CompileError FieldMap
  | [] => .ok fields
  | extractor :: rest =>
    if extractor.applies document then
      match extractor.extract document with
      | .error cause => .error (.extraction unit cause)
      | .ok produced => runStageFrom (fields.insertMany produced) unit document rest
    else
      runStageFrom fields unit document rest

/-- The fields that the extractors produce from the document. Those without a key in it are passed
over; of several values for a field the last one counts; the first rejection ends the run. -/
def runStage (unit : String) (document : Document) (extractors : List Extractor) :
    Except CompileError FieldMap :=
  runStageFrom .empty unit document extractors

end FlowCompiler
