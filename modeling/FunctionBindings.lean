import FunctionBindings.Command.Execution
import FunctionBindings.Main
import FunctionBindings.Provider.Registry
import FunctionBindings.Proofs.Json.Escaping
import FunctionBindings.Proofs.Json.Numerals
import FunctionBindings.Proofs.Json.Tokens
import FunctionBindings.Proofs.Json.RoundTrip
import FunctionBindings.Proofs.Binding.Occurrences
import FunctionBindings.Proofs.Binding.RuleReport
import FunctionBindings.Proofs.Binding.Responses
import FunctionBindings.Proofs.Generation.Contributions
import FunctionBindings.Proofs.Json.QuotedText
import FunctionBindings.Proofs.Generation.DescriptorText
import FunctionBindings.Proofs.Json.PrettyText
import FunctionBindings.Proofs.Json.TypedReading
import FunctionBindings.Proofs.Provider.Artifact
import FunctionBindings.Proofs.Scan.Naming
import FunctionBindings.Proofs.Binding.Sites
import FunctionBindings.Proofs.Generation.Identifiers
import FunctionBindings.Proofs.Generation.Comparison
import FunctionBindings.Proofs.Generation.LookAlikes
import FunctionBindings.Proofs.Generation.IdleAttributes
import FunctionBindings.Proofs.Generation.Removal
import FunctionBindings.Proofs.Generation.Insertion
import FunctionBindings.Proofs.Scan.Respelling
import FunctionBindings.Proofs.Binding.Respelling
import FunctionBindings.Proofs.Generation.Respelling
import FunctionBindings.Proofs.Source.Tokens
import FunctionBindings.Proofs.Generation.EmbeddedRecords
import FunctionBindings.Proofs.Json.Continuation
import FunctionBindings.Proofs.Json.CutText
import FunctionBindings.Proofs.Provider.CutArtifact
import FunctionBindings.Proofs.Model.Constants
import FunctionBindings.Proofs.Model.TypeRefs
import FunctionBindings.Proofs.Model.ProgramText
import FunctionBindings.Proofs.Binding.Spots
import FunctionBindings.Proofs.Generation.Locations
import FunctionBindings.Proofs.Binding.CatalogSteps
import FunctionBindings.Proofs.Generation.LegacyBindings
import FunctionBindings.Proofs.Binding.CatalogRuns
import FunctionBindings.Proofs.Binding.SharedNames
import FunctionBindings.Proofs.Generation.HttpOutputs
import FunctionBindings.Proofs.Generation.ConsultedTypes
import FunctionBindings.Proofs.Text.Joined
import FunctionBindings.Proofs.Binding.ConstructorChoice
import FunctionBindings.Proofs.Scan.EntryPoints
import FunctionBindings.Proofs.Provider.RegistryCalls
import FunctionBindings.Proofs.Files.Writing
import FunctionBindings.Proofs.Command.Outcomes
import FunctionBindings.Proofs.Command.Runs
import FunctionBindings.Proofs.Scan.TypeLookup
import FunctionBindings.Proofs.Tables
import FunctionBindings.Proofs.Decimal.PlainText
import FunctionBindings.Proofs.Generation.RenderedConstants
import FunctionBindings.Proofs.Generation.LoadedProperties
import FunctionBindings.Proofs.Json.DeepValues
import FunctionBindings.Proofs.Json.ReadValues
import FunctionBindings.Proofs.Generation.DescriptorReading
import FunctionBindings.Proofs.Generation.QuotedArguments
import FunctionBindings.Proofs.Model.TypeNames
import FunctionBindings.Proofs.Scan.TypeSpelling
import FunctionBindings.Proofs.Generation.TypeSpelling
import FunctionBindings.Proofs.Generation.GenericResponses
