import FlowCompiler.Encoding.Printer
import FlowCompiler.Encoding.Reader
import FlowCompiler.Proofs.Agreement
import FlowCompiler.Proofs.Alike
import FlowCompiler.Proofs.Attribution
import FlowCompiler.Proofs.AuthoringForms
import FlowCompiler.Proofs.ClaimedKeys
import FlowCompiler.Proofs.DeclaredItems
import FlowCompiler.Proofs.Defaults
import FlowCompiler.Proofs.Destinations
import FlowCompiler.Proofs.Diagnosis
import FlowCompiler.Proofs.DifferingKeys
import FlowCompiler.Proofs.DistinctNames
import FlowCompiler.Proofs.Failures
import FlowCompiler.Proofs.FirstFailure
import FlowCompiler.Proofs.FlowGrammar
import FlowCompiler.Proofs.ImportTables
import FlowCompiler.Proofs.InertEdits
import FlowCompiler.Proofs.Layout
import FlowCompiler.Proofs.LoopWrappers
import FlowCompiler.Proofs.MergedFields
import FlowCompiler.Proofs.OperationGrammar
import FlowCompiler.Proofs.PartialResolution
import FlowCompiler.Proofs.ReadKeys
import FlowCompiler.Proofs.ReferenceForms
import FlowCompiler.Proofs.RegistrationOrder
import FlowCompiler.Proofs.Registries
import FlowCompiler.Proofs.ReorderedSources
import FlowCompiler.Proofs.Reordering
import FlowCompiler.Proofs.Reports
import FlowCompiler.Proofs.Representation
import FlowCompiler.Proofs.Resolution
import FlowCompiler.Proofs.RoundTrips
import FlowCompiler.Proofs.SameTasks
import FlowCompiler.Proofs.Splicing
import FlowCompiler.Proofs.StageIndex
import FlowCompiler.Proofs.StandardFields
import FlowCompiler.Proofs.TargetKeys
import FlowCompiler.Proofs.UnusedExtractors
import FlowCompiler.Proofs.Walks
import FlowCompiler.Proofs.WellFormed
import FlowCompiler.Proofs.WrittenHeaders
